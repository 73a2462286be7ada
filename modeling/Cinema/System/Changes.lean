import Cinema.Interleaving.Commitment
import Cinema.System.Accounts
import Cinema.System.Contract

/-!
# A request changes one row at most

What a request causes in the services changes one row of one table, and this
once.  No other request causes this change.  If a request is answered with an
error, then nothing has changed, unless the error is that of a client which
has given up.  A statement that fails is taken to leave its table as it was.
-/

namespace Cinema.System

open Interleaving Relational Shared Text Auth Catalog Orders Gateway
open Program (Commits Idle HasEffect)

variable {deployment : Deployment}

/-- A statement that has changed the rows of its table. -/
def Changes {validator : Validator} :
    (call : SystemCall validator) → SystemReply call → Prop
  | .users statement, reply => statement.changed reply = true
  | .movies statement, reply => statement.changed reply = true
  | .orders statement, reply => statement.changed reply = true
  | _, _ => False

/-- No row has changed. -/
structure SameRows {validator : Validator}
    (before after : SystemStore validator) : Prop where
  users : after.users.rows = before.users.rows
  movies : after.databases.movies.rows = before.databases.movies.rows
  orders : after.databases.orders.rows = before.databases.orders.rows

theorem SameRows.refl {validator : Validator} (store : SystemStore validator) :
    SameRows store store := ⟨rfl, rfl, rfl⟩

/-- Nothing but one row of one table has changed. -/
inductive OneRow {validator : Validator}
    (before after : SystemStore validator) : Prop where
  | user (id : ℤ) (users : Table.DiffersAt id before.users after.users)
      (databases : after.databases = before.databases) : OneRow before after
  | movie (id : ℤ) (users : after.users = before.users)
      (movies : Table.DiffersAt id before.databases.movies
        after.databases.movies)
      (orders : after.databases.orders = before.databases.orders) :
      OneRow before after
  | order (id : ℤ) (users : after.users = before.users)
      (movies : after.databases.movies = before.databases.movies)
      (orders : Table.DiffersAt id before.databases.orders
        after.databases.orders) : OneRow before after

theorem OneRow.of_same {validator : Validator}
    {before after : SystemStore validator} (users : after.users = before.users)
    (databases : after.databases = before.databases) : OneRow before after :=
  .user 0 (Table.differsAt_of_rows (congrArg _ users) 0) databases

theorem exec_one_row (circumstances : Circumstances)
    (call : SystemCall deployment.validator)
    (store : SystemStore deployment.validator) :
    OneRow store (exec deployment circumstances call store).2 := by
  cases call with
  | users statement =>
      obtain ⟨id, differs⟩ := execStatement_differsAt
      exact .user id differs rfl
  | movies statement =>
      obtain ⟨id, differs⟩ := execStatement_differsAt
      exact .movie id rfl differs rfl
  | orders statement =>
      obtain ⟨id, differs⟩ := execStatement_differsAt
      exact .order id rfl rfl differs
  | process =>
      simp only [exec]
      split <;> exact .of_same rfl rfl
  | sign secret expiresIn payload =>
      simp only [exec]
      split <;> exact .of_same rfl rfl
  | _ => exact .of_same rfl rfl

/-- Only a statement that reports a change changes a row. -/
theorem exec_same_rows {circumstances : Circumstances}
    {call : SystemCall deployment.validator}
    {store : SystemStore deployment.validator}
    (unchanged : ∀ reply, (exec deployment circumstances call store).1 =
      .ok reply → ¬ Changes call reply) :
    SameRows store (exec deployment circumstances call store).2 := by
  cases call with
  | users statement =>
      refine ⟨?_, rfl, rfl⟩
      apply execStatement_unchanged_rows
      intro reply executed
      exact Bool.eq_false_of_not_eq_true (unchanged reply executed)
  | movies statement =>
      refine ⟨rfl, ?_, rfl⟩
      apply execStatement_unchanged_rows
      intro reply executed
      exact Bool.eq_false_of_not_eq_true (unchanged reply executed)
  | orders statement =>
      refine ⟨rfl, rfl, ?_⟩
      apply execStatement_unchanged_rows
      intro reply executed
      exact Bool.eq_false_of_not_eq_true (unchanged reply executed)
  | process =>
      simp only [exec]
      split <;> exact .refl store
  | sign secret expiresIn payload =>
      simp only [exec]
      split <;> exact .refl store
  | listen config => exact ⟨rfl, rfl, rfl⟩
  | _ => exact .refl store

/-! ## The handlers change one row at most -/

section Repositories

variable {Row Entity Patch : Type} {schema : Schema Row Entity Patch}
  {validator : Validator}

/-- A statement that reports no change is idle, and after one that does the
answer is all that is left to give. -/
structure Committing
    (repository : Repository schema (SystemCall validator) SystemReply Thrown) :
    Prop where
  reads : ∀ statement, (∀ reply, statement.changed reply = false) →
    (repository.statement statement).Uses (Idle Changes)
  writes : ∀ {β : Type} (statement : SqlCall Row Entity Patch)
    {next : SqlReply statement →
      Program (SystemCall validator) SystemReply Thrown β},
    (∀ reply, statement.changed reply = true → Program.Answers (next reply)) →
      (∀ reply, (next reply).Commits Changes Program.Answers) →
        (repository.statement statement >>= next).Commits Changes
          Program.Answers

variable
  {repository : Repository schema (SystemCall validator) SystemReply Thrown}
  (committing : Committing repository)
include committing

private theorem idle_select (parameters : List Parameter)
    (condition : Row → Bool) :
    (repository.statement (.select parameters condition)).Uses
      (Idle Changes) :=
  committing.reads _ fun _ => rfl

private theorem commits_save (entity : Entity) :
    (repository.save entity).Commits Changes Program.Answers := by
  unfold Repository.save
  cases schema.idOf entity with
  | none => exact committing.writes _ (fun _ _ => ⟨_, rfl⟩) fun _ => trivial
  | some id =>
      cases repository.granularity with
      | atomicSave => exact committing.writes _ (fun _ _ => ⟨_, rfl⟩) fun _ => trivial
      | statements =>
          apply Program.commits_bind (committing.reads (.reread id) fun _ => rfl)
          intro reread
          cases reread with
          | none => exact committing.writes _ (fun _ _ => ⟨_, rfl⟩) fun _ => trivial
          | some row =>
              cases differs : schema.diff entity row with
              | none =>
                  simp only [differs]
                  trivial
              | some patch =>
                  simp only [differs]
                  exact committing.writes _ (fun _ _ => ⟨_, rfl⟩) fun _ => trivial

end Repositories

section Services

variable {validator : Validator} {mapping : CaseMapping}

section Catalog

variable
  {movies : Repository movieSchema (SystemCall validator) SystemReply Thrown}
  (committing : Committing movies)
include committing

private theorem idle_assertTitleIsFree (title : Option String)
    (releaseYear excludeId : Option ℤ) :
    (MoviesService.assertTitleIsFree movies title releaseYear excludeId).Uses
      (Idle Changes) := by
  apply (Repository.uses_existsBy (idle_select committing _ _)).bind
  intro found
  cases found <;> trivial

private theorem idle_findOne (id : ℤ) :
    (MoviesService.findOne movies id).Uses (Idle Changes) := by
  apply (Repository.uses_findOneBy (idle_select committing _ _)).bind
  intro movie
  cases movie <;> trivial

private theorem commits_update (id : ℤ) (changes : UpdateMovieDto validator) :
    (MoviesService.update movies id changes).Commits Changes
      Program.Answers := by
  apply Program.commits_bind (idle_findOne committing id)
  intro movie
  dsimp only
  split
  · apply Program.commits_bind (idle_assertTitleIsFree committing _ _ _)
    intro _
    exact commits_save committing _
  · exact commits_save committing _

/-- A deletion that has removed a movie is answered. -/
private theorem commits_remove (id : ℤ) :
    (MoviesService.remove movies id).Commits Changes Program.Answers := by
  apply committing.writes
  · intro affected changed
    refine ⟨(), if_neg ?_⟩
    exact of_decide_eq_true changed
  · intro affected
    split <;> trivial

private theorem commits_create (dto : CreateMovieDto validator) :
    (MoviesService.create movies dto).Commits Changes Program.Answers := by
  apply Program.commits_bind (idle_assertTitleIsFree committing _ _ _)
  intro _
  exact commits_save committing _

end Catalog

section Orders

variable
  {orders : Repository orderSchema (SystemCall validator) SystemReply Thrown}
  (committing : Committing orders)
include committing

private theorem idle_findOneForUser (userId orderId : ℤ) :
    (OrdersService.findOneForUser orders userId orderId).Uses
      (Idle Changes) := by
  apply (Repository.uses_findOneBy (idle_select committing _ _)).bind
  intro order
  cases order <;> trivial

private theorem commits_cancel (userId orderId : ℤ) :
    (OrdersService.cancel orders userId orderId).Commits Changes
      Program.Answers := by
  apply Program.commits_bind (idle_findOneForUser committing _ _)
  intro order
  split
  · trivial
  · exact commits_save committing _

end Orders

section Auth

variable
  {users : Repository userSchema (SystemCall validator) SystemReply Thrown}
  (committing : Committing users)
include committing

private theorem commits_createUser (email password : String) (role : Role) :
    (AuthService.createUser users crypto email password role).Commits Changes
      Program.Answers := by
  have hashes : (crypto.hash password BCRYPT_SALT_ROUNDS).Uses
      (Idle (@Changes validator)) :=
    ⟨fun _ => id, fun _ => trivial⟩
  apply Program.commits_bind hashes
  intro passwordHash
  exact (commits_save committing _).finish fun user => ⟨_, rfl⟩

private theorem commits_register (dto : RegisterDto validator mapping) :
    (AuthService.register users crypto dto).Commits Changes
      Program.Answers := by
  unfold AuthService.register
  split
  · trivial
  · apply Program.commits_bind
      (Repository.uses_existsBy (idle_select committing _ _))
    intro found
    split
    · trivial
    · exact commits_createUser committing _ _ _

private theorem commits_start (config : AuthEnv validator) :
    (AuthService.ensureAdminAccount users crypto config mapping).Commits
      Changes Program.Answers := by
  unfold AuthService.ensureAdminAccount
  split
  · trivial
  · apply Program.commits_bind
      (Repository.uses_existsBy (idle_select committing _ _))
    intro found
    split
    · trivial
    · exact (commits_createUser committing _ _ _).finish fun _ => ⟨_, rfl⟩

end Auth

end Services

section Handlers

private theorem committing_users (granularity : Granularity) :
    Committing (users granularity :
      Repository userSchema (SystemCall deployment.validator) SystemReply
        Thrown) where
  reads statement unchanged := by
    refine ⟨?_, fun _ => trivial⟩
    intro reply changed
    rw [Changes, unchanged] at changed
    cases changed
  writes statement next answers later :=
    ⟨fun reply changed => answers reply changed, fun reply _ => later reply⟩

private theorem committing_movies (granularity : Granularity) :
    Committing (movies granularity :
      Repository movieSchema (SystemCall deployment.validator) SystemReply
        Thrown) where
  reads statement unchanged := by
    refine ⟨?_, fun _ => trivial⟩
    intro reply changed
    rw [Changes, unchanged] at changed
    cases changed
  writes statement next answers later :=
    ⟨fun reply changed => answers reply changed, fun reply _ => later reply⟩

private theorem committing_orders (granularity : Granularity) :
    Committing (orders granularity :
      Repository orderSchema (SystemCall deployment.validator) SystemReply
        Thrown) where
  reads statement unchanged := by
    refine ⟨?_, fun _ => trivial⟩
    intro reply changed
    rw [Changes, unchanged] at changed
    cases changed
  writes statement next answers later :=
    ⟨fun reply changed => answers reply changed, fun reply _ => later reply⟩

private theorem idle_perform {call : SystemCall deployment.validator}
    (idle : Idle Changes call) :
    (Program.perform call : Program (SystemCall deployment.validator)
      SystemReply Thrown (SystemReply call)).Uses (Idle Changes) :=
  ⟨idle, fun _ => trivial⟩

/-- The messages whose handlers only read. -/
def isReading : ServiceMessage → Bool
  | .auth .REGISTER _ => false
  | .catalog .CREATE_MOVIE _ | .catalog .UPDATE_MOVIE _
  | .catalog .DELETE_MOVIE _ => false
  | .orders .CREATE_ORDER _ | .orders .CANCEL_USER_ORDER _ => false
  | _ => true

theorem idle_reading {message : ServiceMessage}
    (reading : isReading message = true) :
    (handle deployment (.service message)).Uses (Idle Changes) := by
  have users := @committing_users deployment deployment.granularity
  have movies := @committing_movies deployment deployment.granularity
  have orders := @committing_orders deployment deployment.granularity
  cases message with
  | auth pattern payload =>
      apply Program.Uses.map
      apply (idle_perform fun _ => id).bind
      intro config
      cases pattern with
      | REGISTER => cases reading
      | LOGIN =>
          apply ((Program.uses_ofExcept _).bind ?_).map
          intro dto
          apply AuthService.uses_login (idle_select users)
          · exact fun _ _ => idle_perform fun _ => id
          · exact fun _ _ _ => idle_perform fun _ => id
      | GET_PROFILE =>
          apply ((Program.uses_ofExcept _).bind ?_).map
          intro dto
          apply (Repository.uses_findOneBy (idle_select users _ _)).bind
          intro user
          cases user <;> trivial
  | catalog pattern payload =>
      apply Program.Uses.map
      cases pattern with
      | FIND_ALL_MOVIES =>
          exact (Repository.uses_find (idle_select movies _ _) _).map _
      | FIND_ONE_MOVIE =>
          apply ((Program.uses_ofExcept _).bind ?_).map
          intro dto
          exact idle_findOne movies dto.id
      | _ => cases reading
  | orders pattern payload =>
      apply Program.Uses.map
      cases pattern with
      | FIND_USER_ORDERS =>
          apply ((Program.uses_ofExcept _).bind ?_).map
          intro dto
          exact Repository.uses_find (idle_select orders _ _) _
      | FIND_USER_ORDER =>
          apply ((Program.uses_ofExcept _).bind ?_).map
          intro dto
          exact idle_findOneForUser orders _ _
      | _ => cases reading

private theorem idle_lookup (payload : Json) :
    (catalog payload : Program (SystemCall deployment.validator) SystemReply
      Thrown Movie).Uses (Idle Changes) := by
  refine ⟨fun _ => id, ?_⟩
  intro answer
  cases answer <;> trivial

/-- A service that has changed a row has only its answer left to give. -/
theorem commits_service (message : ServiceMessage) :
    (handle deployment (.service message)).Commits Changes
      Program.Answers := by
  have users := @committing_users deployment deployment.granularity
  have movies := @committing_movies deployment deployment.granularity
  have orders := @committing_orders deployment deployment.granularity
  cases reading : isReading message with
  | true => exact Program.commits_of_uses (idle_reading reading)
  | false =>
      cases message with
      | auth pattern payload =>
          cases pattern with
          | REGISTER =>
              apply Program.Commits.map
              apply Program.commits_bind (idle_perform fun _ => id)
              intro config
              apply Program.Commits.map
              apply Program.commits_bind (Program.uses_ofExcept _)
              intro dto
              exact commits_register users dto
          | _ => cases reading
      | catalog pattern payload =>
          apply Program.Commits.map
          cases pattern with
          | CREATE_MOVIE =>
              apply Program.Commits.map
              apply Program.commits_bind (Program.uses_ofExcept _)
              intro dto
              exact commits_create movies dto
          | UPDATE_MOVIE =>
              apply Program.Commits.map
              apply Program.commits_bind (Program.uses_ofExcept _)
              intro dto
              exact commits_update movies dto.id dto.changes
          | DELETE_MOVIE =>
              apply Program.Commits.map
              apply Program.commits_bind (Program.uses_ofExcept _)
              intro dto
              exact (commits_remove movies dto.id).map fun _ => dto.id
          | _ => cases reading
      | orders pattern payload =>
          apply Program.Commits.map
          cases pattern with
          | CREATE_ORDER =>
              apply Program.Commits.map
              apply Program.commits_bind (Program.uses_ofExcept _)
              intro dto
              apply Program.commits_bind (idle_lookup _)
              intro movie
              exact commits_save orders _
          | CANCEL_USER_ORDER =>
              apply Program.Commits.map
              apply Program.commits_bind (Program.uses_ofExcept _)
              intro dto
              exact commits_cancel orders _ _
          | _ => cases reading

theorem idle_http (request : HttpRequest) :
    (handle deployment (.http request)).Uses (Idle Changes) :=
  uses_http (fun _ _ => id) (fun _ _ => id) request

/-- No handler goes on changing rows. -/
theorem commits_handle (message : SystemMessage deployment.validator) :
    (handle deployment message).Commits Changes (·.Uses (Idle Changes)) := by
  cases message with
  | http request => exact Program.commits_of_uses (idle_http request)
  | start config =>
      have users := @committing_users deployment deployment.granularity
      have prepares := @commits_start _ deployment.mapping _ users config
      have listens : (handleStart deployment config).Commits Changes
          (·.Uses (Idle Changes)) :=
        prepares.idle_after.continue fun _ => idle_perform fun _ => id
      exact listens.continue fun _ => trivial
  | service message => exact (commits_service message).idle_after

end Handlers

/-! ## What a request changes -/

/-- Among what the message `root` causes, the call number `position` of the
message `index` has changed a row. -/
def ChangedFor (traffic : SystemTraffic deployment)
    (root index position : Nat) : Prop :=
  traffic.Causes root index ∧ ∃ (job : SystemJob deployment) (exchange : _),
    traffic.jobs[index]? = some job ∧ job.calls[position]? = some exchange ∧
      HasEffect Changes exchange

/-- The routes that change rows. -/
def mutates : Route → Bool
  | .register _ | .createMovie _ | .updateMovie _ _ | .removeMovie _
  | .createOrder _ | .cancelOrder _ => true
  | _ => false

private theorem mutates_of_forwards {route : Route} {user : Option AuthUser}
    {message : ServiceMessage}
    (forwards : Forwards deployment.validator deployment.mapping route user
      message) (changing : isReading message = false) :
    mutates route = true := by
  cases forwards <;> first | rfl | cases changing

/-- A service that succeeds gives its own answer. -/
private theorem answerOf_succeeded {message : ServiceMessage}
    {history : List (SystemExchange deployment)}
    {rest : SystemProgram deployment} {answer : SystemAnswer}
    (reached : Program.Reaches (handle deployment (.service message)) history
      rest)
    (ends : rest.outcome = some (.ok answer)) :
    ∃ reply, answerOf message answer = some reply := by
  have mapped : ∀ {β : Type} {wrap : β → SystemAnswer}
      {program : Program (SystemCall deployment.validator) SystemReply Thrown
        β},
      Program.Reaches (wrap <$> program) history rest →
        ∃ value, answer = wrap value := by
    intro β wrap program reached
    obtain ⟨inner, rfl, _⟩ := reached.of_map
    cases inner with
    | done value =>
        cases ends
        exact ⟨value, rfl⟩
    | fail thrown => cases ends
    | call call next => cases ends
  cases message with
  | auth pattern payload =>
      obtain ⟨value, rfl⟩ := mapped reached
      exact ⟨value, rfl⟩
  | catalog pattern payload =>
      obtain ⟨value, rfl⟩ := mapped reached
      exact ⟨value, rfl⟩
  | orders pattern payload =>
      obtain ⟨value, rfl⟩ := mapped reached
      exact ⟨value, rfl⟩

section Runs

variable {store : SystemStore deployment.validator}
  {traffic later final : SystemTraffic deployment}
  {root index position : Nat} {job origin : SystemJob deployment}

theorem ChangedFor.onward (onward : traffic.Extends later)
    (changed : ChangedFor traffic root index position) :
    ChangedFor later root index position := by
  obtain ⟨causes, job, exchange, found, made, effect⟩ := changed
  obtain ⟨after, afterFound, continues⟩ := onward index job found
  obtain ⟨since, calls⟩ := continues.calls
  have inside := (List.getElem?_eq_some_iff.mp made).1
  refine ⟨onward.causes causes, after, exchange, afterFound, ?_, effect⟩
  rw [← calls, List.getElem?_append_left inside]
  exact made

section Traced

variable (runs : (system deployment).Runs anyClients (.start store) traffic)
include runs

private theorem traced_at (found : traffic.jobs[index]? = some job) :
    (system deployment).Traced traffic job :=
  Network.Runs.traced Network.traced_start runs job (List.mem_of_getElem? found)

/-- A job whose handler only reads has changed nothing. -/
private theorem unchanged (found : traffic.jobs[index]? = some job)
    (idle : (handle deployment job.message).Uses (Idle Changes)) :
    ∀ exchange ∈ job.calls, ¬ HasEffect Changes exchange := by
  have traced := traced_at runs found
  cases pending : job.program with
  | none =>
      rw [(traced.travels pending).1]
      simp
  | some rest => exact (traced.reached rest pending).idle idle

theorem sent_by_job (found : traffic.jobs[root]? = some job) {child : Nat}
    (sent : child ∈ job.sent) :
    ∃ message, Sends job.message message ∧
      traffic.Carries child (.service message) := by
  obtain ⟨call, carried, permitted, isRemote, carries⟩ :=
    (traced_at runs found).sends (permitted_handle job.message) sent
  cases call with
  | send message =>
      cases isRemote
      exact ⟨message, permitted, carries⟩
  | _ => cases isRemote

/-- Nobody has sent what came from outside. -/
private theorem unsent (found : traffic.jobs[root]? = some job)
    (outside : fromOutside job.message) :
    ∀ sender ∈ traffic.jobs, root ∉ sender.sent := by
  intro sender member sent
  obtain ⟨position, senderFound⟩ := List.getElem?_of_mem member
  obtain ⟨message, _, asked, askedFound, isMessage⟩ :=
    sent_by_job runs senderFound sent
  rw [found] at askedFound
  cases askedFound
  rw [isMessage] at outside
  cases outside

/-- What a service sends changes nothing, and causes nothing more. -/
private theorem sent_by_service (found : traffic.jobs[root]? = some job)
    {message : ServiceMessage} (isMessage : job.message = .service message)
    (changed : ChangedFor traffic root index position) : index = root := by
  obtain ⟨causes, changing, exchange, changingFound, made, effect⟩ := changed
  rcases causes.cases_head with same | ⟨child, ⟨sender, senderFound, sent⟩, onward⟩
  · exact same.symm
  · rw [found] at senderFound
    cases senderFound
    obtain ⟨lookup, sends, looking, lookingFound, isLookup⟩ :=
      sent_by_job runs found sent
    rw [isMessage] at sends
    have isCatalog : ∃ payload, lookup = .catalog .FIND_ONE_MOVIE payload := by
      cases message with
      | orders pattern payload =>
          cases lookup with
          | catalog pattern payload =>
              cases pattern with
              | FIND_ONE_MOVIE => exact ⟨payload, rfl⟩
              | _ => cases sends
          | _ => cases sends
      | _ => cases sends
    obtain ⟨payload, rfl⟩ := isCatalog
    rcases onward.cases_head with same | ⟨next, ⟨asking, askingFound, asked⟩, _⟩
    · subst same
      rw [lookingFound] at changingFound
      cases changingFound
      have idle : (handle deployment changing.message).Uses (Idle Changes) := by
        rw [isLookup]
        exact idle_reading rfl
      exact absurd effect (unchanged runs lookingFound idle exchange
        (List.mem_of_getElem? made))
    · rw [lookingFound] at askingFound
      cases askingFound
      obtain ⟨other, sends, _⟩ := sent_by_job runs lookingFound asked
      rw [isLookup] at sends
      cases sends

/-- A request that has changed a row has sent one message, which has changed
it. -/
private theorem changed_by_request (found : traffic.jobs[root]? = some job)
    {request : HttpRequest} (isRequest : job.message = .http request)
    (changed : ChangedFor traffic root index position) :
    job.sent = [index] ∧ mutates request.route = true := by
  have idle : (handle deployment job.message).Uses (Idle Changes) := by
    rw [isRequest]
    exact idle_http request
  obtain ⟨causes, changing, exchange, changingFound, made, effect⟩ := changed
  rcases causes.cases_head with same | ⟨child, ⟨sender, senderFound, sent⟩, onward⟩
  · subst same
    rw [found] at changingFound
    cases changingFound
    exact absurd effect
      (unchanged runs found idle exchange (List.mem_of_getElem? made))
  · rw [found] at senderFound
    cases senderFound
    obtain ⟨message, _, asked, askedFound, isMessage⟩ :=
      sent_by_job runs found sent
    have same : index = child :=
      sent_by_service runs askedFound isMessage
        ⟨onward, changing, exchange, changingFound, made, effect⟩
    subst same
    rw [askedFound] at changingFound
    cases changingFound
    obtain ⟨user, _, forwards⟩ := forwards_of_sent (traced_at runs found)
      isRequest sent ⟨changing, askedFound, isMessage⟩
    refine ⟨?_, mutates_of_forwards forwards ?_⟩
    · cases http_stage (traced_at runs found) isRequest with
      | unsent nothing notOk =>
          rw [nothing] at sent
          cases sent
      | waiting identified forwards only carries pending =>
          rw [only] at sent ⊢
          rw [List.mem_singleton.mp sent]
      | answered identified forwards only otherFound carries ends passedOn =>
          rw [only] at sent ⊢
          rw [List.mem_singleton.mp sent]
      | abandoned identified forwards only carries failed =>
          rw [only] at sent ⊢
          rw [Option.mem_toList.mp sent]
          rfl
    · cases reading : isReading message with
      | false => rfl
      | true =>
          have idle : (handle deployment changing.message).Uses
              (Idle Changes) := by
            rw [isMessage]
            exact idle_reading reading
          exact absurd effect
            (unchanged runs askedFound idle exchange
              (List.mem_of_getElem? made))

/-- A start changes rows itself. -/
private theorem changed_by_start (found : traffic.jobs[root]? = some job)
    {config : AuthEnv deployment.validator}
    (isStart : job.message = .start config)
    (changed : ChangedFor traffic root index position) : index = root := by
  rcases changed.1.cases_head with
    same | ⟨child, ⟨sender, senderFound, sent⟩, _⟩
  · exact same.symm
  · rw [found] at senderFound
    cases senderFound
    obtain ⟨other, sends, _⟩ := sent_by_job runs found sent
    rw [isStart] at sends
    cases sends

/-- What came from outside has changed one row at most. -/
theorem changed_once (found : traffic.jobs[root]? = some job)
    (outside : fromOutside job.message) {other place : Nat}
    (changed : ChangedFor traffic root index position)
    (again : ChangedFor traffic root other place) :
    other = index ∧ place = position := by
  have same : other = index := by
    cases isMessage : job.message with
    | http request =>
        have sent := (changed_by_request runs found isMessage changed).1
        rw [(changed_by_request runs found isMessage again).1] at sent
        cases sent
        rfl
    | start config =>
        rw [changed_by_start runs found isMessage changed]
        exact changed_by_start runs found isMessage again
    | service message =>
        rw [isMessage] at outside
        cases outside
  subst same
  obtain ⟨_, changing, exchange, changingFound, made, effect⟩ := changed
  obtain ⟨_, also, second, alsoFound, madeAgain, effectAgain⟩ := again
  rw [changingFound] at alsoFound
  cases alsoFound
  have traced := traced_at runs changingFound
  cases pending : changing.program with
  | none =>
      rw [(traced.travels pending).1] at made
      cases made
  | some rest =>
      exact ⟨rfl, (traced.reached rest pending).effect_unique
        (commits_handle changing.message) madeAgain made effectAgain effect⟩

end Traced

/-- A request that has changed a row fails only because the gateway has given
up. -/
private theorem failed_after_change
    (runs : (system deployment).Runs anyClients (.start store) traffic)
    (found : traffic.jobs[root]? = some job) {request : HttpRequest}
    (isRequest : job.message = .http request)
    (changed : ChangedFor traffic root index position) {thrown : Thrown}
    (failed : job.outcome = some (.error thrown)) :
    ∃ service failure, thrown = gaveUp service failure := by
  have traced := traced_at runs found
  have sent := (changed_by_request runs found isRequest changed).1
  obtain ⟨_, changing, exchange, changingFound, made, effect⟩ := changed
  cases http_stage traced isRequest with
  | unsent nothing notOk =>
      rw [nothing] at sent
      cases sent
  | waiting identified forwards only carries pending =>
      rw [pending] at failed
      cases failed
  | @abandoned user message child failure identified forwards only carries
      gaveUp =>
      rw [gaveUp] at failed
      cases failed
      exact ⟨_, _, rfl⟩
  | @answered user message child other outcome identified forwards only
      otherFound isMessage ends passedOn =>
      rw [only] at sent
      cases sent
      rw [changingFound] at otherFound
      cases otherFound
      obtain ⟨rest, reached, ended⟩ :=
        ended_handler (traced_at runs changingFound) isMessage ends
      rw [passedOn] at failed
      cases outcome with
      | ok answer =>
          obtain ⟨reply, read⟩ := answerOf_succeeded reached ended
          simp [passOn, read] at failed
      | error refused =>
          -- A service that fails has changed nothing.
          cases rest with
          | fail thrown =>
              exact absurd effect (reached.no_effect (commits_service message)
                exchange (List.mem_of_getElem? made))
          | done value => cases ended
          | call call next => cases ended

private theorem one_row_of_step
    (step : (system deployment).Steps anyClients traffic later) :
    OneRow traffic.store later.store := by
  rcases step.store with
    same | ⟨index, job, after, call, next, circumstances, _, _, _, _, same⟩
  · rw [same]
    exact .of_same rfl rfl
  · rw [same]
    exact exec_one_row circumstances call traffic.store

/-- A step that changes a row makes an exchange that has changed it. -/
private theorem changing_exchange
    (step : (system deployment).Steps anyClients traffic later)
    (changed : ¬ SameRows traffic.store later.store) :
    ∃ (index : Nat) (job after : SystemJob deployment) (exchange : _),
      traffic.jobs[index]? = some job ∧ later.jobs[index]? = some after ∧
        after.calls = job.calls ++ [exchange] ∧
        HasEffect Changes exchange := by
  rcases step.store with same | ⟨index, job, after, call, next, circumstances,
    found, afterFound, pending, calls, same⟩
  · rw [same] at changed
    exact absurd (.refl traffic.store) changed
  · refine ⟨index, job, after, _, found, afterFound, calls, ?_⟩
    by_contra idle
    apply changed
    rw [same]
    apply exec_same_rows
    intro reply executed effect
    exact idle ⟨reply, executed, effect⟩

/-- The change of a row between `traffic` and `later` is owed to the message
`root`, a request or a start, as far as the run goes on to `final`. -/
structure Owed (traffic later final : SystemTraffic deployment)
    (root index position : Nat) (origin : SystemJob deployment) : Prop where
  found : final.jobs[root]? = some origin
  outside : fromOutside origin.message
  /-- Nothing else that came from outside has caused it. -/
  only : ∀ other asking, final.jobs[other]? = some asking →
    fromOutside asking.message → final.Causes other index → other = root
  /-- Nothing that the message causes has changed a row before. -/
  first : ∀ other place, ¬ ChangedFor traffic root other place
  changed : ChangedFor later root index position
  /-- Nothing that it causes changes another one. -/
  last : ∀ other place, ChangedFor final root other place →
    other = index ∧ place = position
  mutates : ∀ request, origin.message = .http request →
    mutates request.route = true
  /-- A request that fails all the same fails since the gateway has given up. -/
  failed : ∀ request thrown, origin.message = .http request →
    origin.outcome = some (.error thrown) →
      ∃ service failure, thrown = gaveUp service failure

private theorem owed_of_changed
    (runs : (system deployment).Runs anyClients (.start store) traffic)
    (step : (system deployment).Steps anyClients traffic later)
    (changed : ¬ SameRows traffic.store later.store)
    (onward : (system deployment).Runs anyClients later final) :
    ∃ root index position origin,
      Owed traffic later final root index position origin := by
  obtain ⟨index, job, after, exchange, found, afterFound, calls, effect⟩ :=
    changing_exchange step changed
  have runsLater := runs.step step
  have runsFinal := runsLater.trans onward
  obtain ⟨root, asking, earlier, askingFound, outside, causes⟩ :=
    Network.Runs.cause runsLater afterFound
  obtain ⟨origin, originFound, continues⟩ :=
    onward.extends root asking askingFound
  have now : ChangedFor later root index job.calls.length :=
    ⟨causes, after, exchange, afterFound, by simp [calls], effect⟩
  have since := now.onward onward.extends
  have isOutside : fromOutside origin.message := by
    rw [continues.message]
    exact outside
  refine ⟨root, index, job.calls.length, origin, ?_⟩
  constructor
  · exact originFound
  · exact isOutside
  · intro other asking otherFound otherOutside alsoCauses
    exact (Network.Runs.sentOnce runsFinal).cause_unique
      (unsent runsFinal otherFound otherOutside)
      (unsent runsFinal originFound isOutside) alsoCauses since.1
  · intro other place before
    -- What had changed before would be the call that is made now.
    obtain ⟨rfl, rfl⟩ := changed_once runsLater askingFound outside now
      (before.onward step.extends)
    obtain ⟨_, acting, early, actingFound, made, _⟩ := before
    rw [found] at actingFound
    cases actingFound
    simp at made
  · exact now
  · intro other place again
    exact changed_once runsFinal originFound isOutside since again
  · intro request isRequest
    exact (changed_by_request runsFinal originFound isRequest since).2
  · intro request thrown isRequest failed
    exact failed_after_change runsFinal originFound isRequest since failed

/-- A step changes one row at most, and what it changes is owed to exactly one
request, or to one start of the auth service, for which nothing has changed
before and nothing else will.  A request that is answered with an error has
changed nothing, unless the gateway has given up on the service. -/
theorem requests_change_once
    (runs : (system deployment).Runs anyClients (.start store) traffic) :
    (∀ later final, (system deployment).Steps anyClients traffic later →
      ¬ SameRows traffic.store later.store →
      (system deployment).Runs anyClients later final →
        OneRow traffic.store later.store ∧
          ∃ root index position origin,
            Owed traffic later final root index position origin) ∧
      ∀ root origin request thrown, traffic.jobs[root]? = some origin →
        origin.message = .http request →
        origin.outcome = some (.error thrown) →
        (∀ service failure, thrown ≠ gaveUp service failure) →
          ∀ index position, ¬ ChangedFor traffic root index position := by
  constructor
  · intro later final step changed onward
    exact ⟨one_row_of_step step, owed_of_changed runs step changed onward⟩
  · intro root origin request thrown found isRequest failed otherwise index
      position changed
    obtain ⟨service, failure, gone⟩ :=
      failed_after_change runs found isRequest changed failed
    exact otherwise service failure gone

end Runs

private def uncancelled (traffic : SystemTraffic deployment) : Bool :=
  traffic.store.databases.orders.rows.all fun row => row.status = .CONFIRMED

/-- The request `index` is answered that it conflicts with the stored state. -/
private def conflicted (traffic : SystemTraffic deployment) (index : Nat) :
    Bool :=
  traffic.jobs[index]?.any fun job =>
    match job.message, job.outcome with
    | .http _, some (.error thrown) => ownStatus thrown = 409
    | _, _ => false

private theorem found_of_conflicted {traffic : SystemTraffic deployment}
    {index : Nat} (conflicts : conflicted traffic index = true) :
    ∃ job request thrown, traffic.jobs[index]? = some job ∧
      job.message = .http request ∧ job.outcome = some (.error thrown) ∧
      ownStatus thrown = 409 := by
  obtain ⟨job, found, conflicts⟩ := (Option.any_eq_true _ _).mp conflicts
  split at conflicts
  · rename_i request thrown isRequest failed
    exact ⟨job, request, thrown, found, isRequest, failed,
      of_decide_eq_true conflicts⟩
  · cases conflicts

/-- An order is cancelled, and cannot be cancelled again. -/
theorem requests_change_once_example :
    ∃ (traffic later final : SystemTraffic
        (sampleDeployment (.sample 7 "ripley@example.com" .USER)))
      (root index position again : Nat) (origin failing : SystemJob _),
      ¬ SameRows traffic.store later.store ∧
        OneRow traffic.store later.store ∧
        Owed traffic later final root index position origin ∧
        final.jobs[again]? = some failing ∧
        failing.outcome.map (fun outcome => outcome.isOk) = some false ∧
        ∀ index position, ¬ ChangedFor final again index position := by
  let deployment := sampleDeployment (.sample 7 "ripley@example.com" .USER)
  let moment : Circumstances := ⟨calm 1, 0, 0⟩
  let start : SystemTraffic deployment := .start ⟨∅, sampleDatabases, []⟩
  let request : HttpRequest := ⟨some "Bearer token", .cancelOrder (some 1)⟩
  have checked : (System.play start
      [.arrive (.http request), .act 0 .deliver, .act 0 (.perform moment),
        .act 0 .send, .act 1 .deliver, .act 1 (.perform moment),
        .act 1 (.perform moment), .act 1 (.perform moment), .act 0 .answer,
        .arrive (.http request), .act 2 .deliver, .act 2 (.perform moment),
        .act 2 .send, .act 3 .deliver, .act 3 (.perform moment),
        .act 2 .answer]).any
      (fun traffic => !uncancelled traffic && conflicted traffic 2) = true := by
    decide +kernel
  obtain ⟨final, played, checked⟩ := (Option.any_eq_true _ _).mp checked
  obtain ⟨cancelled, conflicts⟩ := Bool.and_eq_true_iff.mp checked
  have reached := System.runs_of_play played
  obtain ⟨traffic, later, runs, step, onward, confirmed, changed⟩ :=
    @Network.Runs.loses _ _ _ _ _ _ _ _ _ _ _ _
      (fun traffic => uncancelled traffic = true) reached
      rfl (by simpa using cancelled)
  have differs : ¬ SameRows traffic.store later.store := by
    intro same
    apply changed
    rw [uncancelled, same.orders]
    exact confirmed
  obtain ⟨oneRow, root, index, position, origin, owed⟩ :=
    (requests_change_once runs).1 later final step differs onward
  obtain ⟨failing, asked, thrown, found, isRequest, failed, isStatus⟩ :=
    found_of_conflicted conflicts
  have unchanged := (requests_change_once reached).2 2 failing asked thrown
    found isRequest failed
  refine ⟨traffic, later, final, root, index, position, 2, origin, failing,
    differs, oneRow, owed, found, by simp [failed, Except.isOk, Except.toBool],
    unchanged ?_⟩
  rintro service failure rfl
  exact ownStatus_gaveUp_ne (by norm_num [clientStatuses]) service failure
    isStatus

end Cinema.System
