import Cinema.Interleaving.Moments
import Cinema.System.Agreement
import Cinema.System.Missing

/-!
# Reads are snapshots

A read travels through two services and may overlap with any number of
writes.  What it answers, and that it finds nothing, was true at one moment
between its arrival and its answer.
-/

namespace Cinema.System

open Interleaving Relational Shared Auth Catalog Orders Gateway
open Backend (ownedCriteria movieCriteria)

variable {deployment : Deployment}

/-! ## What there is to see -/

/-- What the databases show to a reading request, or that they show
nothing. -/
inductive Sees (store : SystemStore deployment.validator) :
    Route → Option AuthUser → Except ℚ GatewayAnswer → Prop where
  | movies {rows : List MovieRow}
      (same : rows.Perm store.databases.movies.rows)
      (sorted : rows.Pairwise fun left right => left.id.val ≤ right.id.val) :
      Sees store .findAllMovies none
        (.ok (.catalog (.movies (rows.map MovieRow.hydrate))))
  | movie {value id row} (parsed : parseIntPipe value = .ok id)
      (present : row ∈ store.databases.movies.rows) (isId : row.id.val = id) :
      Sees store (.findOneMovie value) none
        (.ok (.catalog (.movie row.hydrate)))
  | noMovie {value id} (parsed : parseIntPipe value = .ok id)
      (absent : NoMovie store id) :
      Sees store (.findOneMovie value) none (.error 404)
  | profile {user : AuthUser} {row} (present : row ∈ store.users.rows)
      (isId : row.id.val = user.id) :
      Sees store .me (some user)
        (.ok (.auth (.user (AuthService.toPublicUser row.hydrate))))
  | noProfile {user : AuthUser}
      (absent : ∀ row ∈ store.users.rows, row.id.val ≠ user.id) :
      Sees store .me (some user) (.error 404)
  | orders {user : AuthUser} {rows : List OrderRow}
      (same : rows.Perm (store.databases.orders.rows.filter fun row =>
        row.userId.val = user.id))
      (sorted : rows.Pairwise OrdersService.Newer) :
      Sees store .findAllOrders (some user)
        (.ok (.orders (.orders (rows.map OrderRow.hydrate))))
  | order {user : AuthUser} {value id row}
      (parsed : parseIntPipe value = .ok id)
      (present : row ∈ store.databases.orders.rows) (isId : row.id.val = id)
      (owned : row.userId.val = user.id) :
      Sees store (.findOneOrder value) (some user)
        (.ok (.orders (.order row.hydrate)))
  | noOrder {user : AuthUser} {value id}
      (parsed : parseIntPipe value = .ok id)
      (absent : NoOrder store user.id id) :
      Sees store (.findOneOrder value) (some user) (.error 404)

/-- What a request may be answered with: what there is to see, or that
nothing has been found. -/
def Displays (store : SystemStore deployment.validator) (route : Route)
    (user : Option AuthUser) : Except Thrown SystemAnswer → Prop
  | .ok (.http answer) => Sees store route user (.ok answer)
  | .error _ => Sees store route user (.error 404)
  | _ => False

/-- The routes that read. -/
def isRead : Route → Bool
  | .me | .findAllMovies | .findOneMovie _ | .findAllOrders
  | .findOneOrder _ => true
  | _ => false

/-! ## The handlers -/

section Handlers

variable {payload : Json}

theorem handle_findAllMovies :
    handle deployment (.service (.catalog .FIND_ALL_MOVIES payload)) =
      .call (.movies (.matching [])) fun rows =>
        .done (.catalog (.movies ((rows.insertionSort fun left right =>
          left.id.val ≤ right.id.val).map MovieRow.hydrate))) := rfl

theorem handle_findAllOrders {dto : UserIdPayload}
    (valid : UserIdPayload.validate deployment.validator payload = .ok dto) :
    handle deployment (.service (.orders .FIND_USER_ORDERS payload)) =
      .call (.orders (.matching
        [Criterion.integer (fun row => row.userId.val) (some dto.userId)]))
        fun rows => .done (.orders (.orders
          ((rows.insertionSort OrdersService.Newer).map OrderRow.hydrate))) := by
  simp only [handle, handleOrders, Orders.OrdersController.handle,
    Orders.OrdersController.findAll, valid]
  rfl

theorem handle_findUserOrder {dto : UserOrderPayload}
    (valid : UserOrderPayload.validate deployment.validator payload =
      .ok dto) :
    handle deployment (.service (.orders .FIND_USER_ORDER payload)) =
      .call (.orders (.matching (ownedCriteria dto))) fun rows =>
        match rows.head? with
        | none => .fail (notFoundException s!"Order {dto.orderId} not found")
        | some row => .done (.orders (.order row.hydrate)) := by
  simp only [handle, handleOrders, Orders.OrdersController.handle,
    Orders.OrdersController.findOne, valid]
  refine congrArg (Program.call _) (funext fun rows => ?_)
  cases rows <;> rfl

end Handlers

/-! ## Selections -/

/-- A call that selects `rows`, or fails with an internal error. -/
structure Selects (call : SystemCall deployment.validator)
    (rows : SystemStore deployment.validator → SystemReply call) : Prop where
  isLocal : remote call = none
  found : ∀ {circumstances store reply},
    (exec deployment circumstances call store).1 = .ok reply →
      reply = rows store
  failed : ∀ {circumstances : Circumstances} {store thrown},
    Sane circumstances.toSurroundings →
    (exec deployment circumstances call store).1 = .error thrown →
      Reports [500] thrown

theorem execStatement_matching {Row Entity Patch : Type}
    {schema : Schema Row Entity Patch} {surroundings : Surroundings}
    {criteria : List (Option (Criterion Row))}
    {table : Table Row schema.key} {reply : List Row}
    (executed : (execStatement schema surroundings (.matching criteria)
      table).1 = .ok reply) :
    reply = table.rows.filter (matchesAll criteria) := by
  have selected := (execStatement_eq_ok executed).1
  rcases schema.exec_matching surroundings.now criteria table with
    selects | ⟨error, fails⟩
  · rw [selects] at selected
    exact (Except.ok.inj selected).symm
  · rw [fails] at selected
    cases selected

section Selects

theorem selects_movies (criteria : List (Option (Criterion MovieRow))) :
    Selects (.movies (.matching criteria) : SystemCall deployment.validator)
      fun store =>
        store.databases.movies.rows.filter (matchesAll criteria) where
  isLocal := rfl
  found executed := execStatement_matching executed
  failed sane failed := reports_execStatement sane failed

theorem selects_orders (criteria : List (Option (Criterion OrderRow))) :
    Selects (.orders (.matching criteria) : SystemCall deployment.validator)
      fun store =>
        store.databases.orders.rows.filter (matchesAll criteria) where
  isLocal := rfl
  found executed := execStatement_matching executed
  failed sane failed := reports_execStatement sane failed

theorem selects_users (criteria : List (Option (Criterion UserRow))) :
    Selects (.users (.matching criteria) : SystemCall deployment.validator)
      fun store => store.users.rows.filter (matchesAll criteria) where
  isLocal := rfl
  found executed := execStatement_matching executed
  failed sane failed := reports_execStatement sane failed

end Selects

/-! ## The moment of a read -/

section Moments

variable {store : SystemStore deployment.validator}
  {earlier traffic : SystemTraffic deployment} {index : Nat}
  {job : SystemJob deployment} {outcome : Except Thrown SystemAnswer}

/-- An outcome that says something about the databases: a success, or that
nothing was found where nothing fails but the statements themselves. -/
def Telling (traffic : SystemTraffic deployment)
    (outcome : Except Thrown SystemAnswer) : Prop :=
  (∃ answer, outcome = .ok answer) ∨
    Network.Undisturbed
      (fun circumstances : Circumstances => Sane circumstances.toSurroundings)
      traffic ∧ ∃ thrown, outcome = .error thrown ∧ ownStatus thrown = 404

theorem Telling.not_reported {statuses : List ℚ} {thrown : Thrown}
    (telling : Telling traffic (.error thrown))
    (reports : Network.Undisturbed
      (fun circumstances : Circumstances => Sane circumstances.toSurroundings)
      traffic → Reports statuses thrown) (other : 404 ∉ statuses) : False := by
  rcases telling with ⟨answer, impossible⟩ | ⟨undisturbed, failure, same, bad⟩
  · cases impossible
  · cases same
    have status := (reports undisturbed).status
    rw [bad] at status
    exact other status

/-- What has been seen in the databases at a moment of the run at which the
job was there and not finished. -/
def SeenAt (earlier traffic : SystemTraffic deployment) (index : Nat)
    (sees : SystemStore deployment.validator → Prop) : Prop :=
  ∃ moment : SystemTraffic deployment,
    (system deployment).Runs anyClients earlier moment ∧
      (system deployment).Runs anyClients moment traffic ∧
      Network.Underway moment index ∧ sees moment.store

/-- A job that ends with a selection ends with what follows from it at a
moment of the run. -/
theorem Selects.decided {call : SystemCall deployment.validator}
    {rows : SystemStore deployment.validator → SystemReply call}
    (selects : Selects call rows)
    (began : (system deployment).Runs anyClients (.start store) earlier)
    (runs : (system deployment).Runs anyClients earlier traffic)
    (new : earlier.jobs.length ≤ index)
    (found : traffic.jobs[index]? = some job)
    {next : SystemReply call → SystemProgram deployment}
    {rest : SystemProgram deployment}
    {front history : List (SystemExchange deployment)}
    (calls : job.calls = front ++ history)
    (reached : Program.Reaches (.call call next) history rest)
    (final : ∀ reply, (next reply).outcome.isSome = true)
    (ends : rest.outcome = some outcome) (telling : Telling traffic outcome) :
    SeenAt earlier traffic index fun store =>
      (next (rows store)).outcome = some outcome := by
  obtain ⟨circumstances, result, moment, after, made, performed, follows⟩ :=
    Network.Runs.decided_at began runs new found calls selects.isLocal reached
      final ends
  refine ⟨moment, performed.before, performed.onward, performed.underway, ?_⟩
  have executed : result =
    (exec deployment circumstances call moment.store).1 := performed.result
  cases result with
  | ok reply =>
      change (next (rows moment.store)).outcome = some outcome
      rw [← selects.found executed.symm]
      exact follows
  | error thrown =>
      cases follows
      have internal : Network.Undisturbed
          (fun circumstances : Circumstances =>
            Sane circumstances.toSurroundings) traffic →
          Reports [500] thrown := fun undisturbed =>
        selects.failed (undisturbed job (List.mem_of_getElem? found) _ made
          circumstances rfl) executed.symm
      exact (telling.not_reported internal (by norm_num)).elim

/-- A message whose payload is refused says nothing about the databases. -/
private theorem refused_not_telling {messages : List String}
    (telling : Telling traffic (.error (badRequestMessages messages))) :
    False := by
  obtain ⟨exception, isException, presents⟩ :=
    presents_messages messages (List.mem_singleton.mpr rfl)
  rw [isException] at telling
  exact telling.not_reported (fun _ => presents.reports) (by norm_num)

/-- The auth service reaches a process before it reads anything. -/
private theorem processed
    (began : (system deployment).Runs anyClients (.start store) earlier)
    (runs : (system deployment).Runs anyClients earlier traffic)
    (new : earlier.jobs.length ≤ index)
    (found : traffic.jobs[index]? = some job)
    {next : AuthEnv deployment.validator → SystemProgram deployment}
    {rest : SystemProgram deployment}
    (reached : Program.Reaches (.call .process next) job.calls rest)
    (ends : rest.outcome = some outcome) (telling : Telling traffic outcome) :
    ∃ config first later, job.calls = [first] ++ later ∧
      Program.Reaches (next config) later rest := by
  have traced := Network.Runs.traced Network.traced_start (began.trans runs)
    job (List.mem_of_getElem? found)
  rcases traced.settled (List.nil_append _).symm rfl reached ends with
    ⟨error, circumstances, made, rfl⟩ | ⟨config, circumstances, later, made,
      onward⟩
  · obtain ⟨moment, after, performed⟩ :=
      runs.performedAt_new new found made rfl
    have result : (.error error : Except Thrown (AuthEnv deployment.validator)) =
        (exec deployment circumstances .process moment.store).1 :=
      performed.result
    simp only [exec] at result
    split at result
    · cases result
    · cases result
      have internal : Reports [500] Thrown.other := reports_other (by simp)
      exact (telling.not_reported (fun _ => internal) (by norm_num)).elim
  · exact ⟨config, _, later, made, onward⟩

private theorem newest_first (rows : List OrderRow) :
    (rows.insertionSort OrdersService.Newer).Pairwise OrdersService.Newer :=
  have : Std.Total OrdersService.Newer :=
    ⟨fun left right => by unfold OrdersService.Newer; omega⟩
  have : IsTrans OrderRow OrdersService.Newer :=
    ⟨fun first second third => by unfold OrdersService.Newer; omega⟩
  List.pairwise_insertionSort _ _

variable
  (began : (system deployment).Runs anyClients (.start store) earlier)
  (runs : (system deployment).Runs anyClients earlier traffic)
  (new : earlier.jobs.length ≤ index)
  (found : traffic.jobs[index]? = some job)
  (ends : job.outcome = some outcome) (telling : Telling traffic outcome)
include began runs new found ends telling

/-- A handler that selects and ends. -/
private theorem seen_by {message : ServiceMessage}
    (isMessage : job.message = .service message)
    {call : SystemCall deployment.validator}
    {rows : SystemStore deployment.validator → SystemReply call}
    (selects : Selects call rows)
    {next : SystemReply call → SystemProgram deployment}
    (isHandler : handle deployment (.service message) = .call call next)
    (final : ∀ reply, (next reply).outcome.isSome = true) :
    SeenAt earlier traffic index fun store =>
      (next (rows store)).outcome = some outcome := by
  have traced := Network.Runs.traced Network.traced_start (began.trans runs)
    job (List.mem_of_getElem? found)
  obtain ⟨rest, reached, ended⟩ := ended_handler traced isMessage ends
  rw [isHandler] at reached
  exact selects.decided began runs new found (List.nil_append _).symm reached
    final ended telling

omit new in
/-- A message that is refused is not answered in a telling way. -/
theorem not_refused {message : ServiceMessage}
    (isMessage : job.message = .service message) {messages : List String}
    (isHandler : handle deployment (.service message) =
      .fail (badRequestMessages messages)) : False := by
  have traced := Network.Runs.traced Network.traced_start (began.trans runs)
    job (List.mem_of_getElem? found)
  obtain ⟨rest, reached, ended⟩ := ended_handler traced isMessage ends
  rw [isHandler] at reached
  obtain ⟨_, rfl⟩ := reached.of_fail
  cases ended
  exact refused_not_telling telling

theorem sees_movies {payload : Json}
    (isMessage : job.message = .service (.catalog .FIND_ALL_MOVIES payload)) :
    SeenAt earlier traffic index fun store => ∃ rows : List MovieRow,
      rows.Perm store.databases.movies.rows ∧
      rows.Pairwise (fun left right => left.id.val ≤ right.id.val) ∧
      outcome = .ok (.catalog (.movies (rows.map MovieRow.hydrate))) := by
  obtain ⟨moment, reached, onward, underway, decided⟩ :=
    seen_by began runs new found ends telling isMessage (selects_movies [])
      handle_findAllMovies (fun _ => rfl)
  refine ⟨moment, reached, onward, underway, _, ?_, ?_,
    (Option.some.inj decided).symm⟩
  · have all : moment.store.databases.movies.rows.filter (matchesAll []) =
        moment.store.databases.movies.rows :=
      List.filter_eq_self.mpr fun row _ => rfl
    rw [all]
    exact List.perm_insertionSort _ _
  · exact List.pairwise_insertionSort _ _

theorem sees_movie {id : ℤ}
    (isMessage : job.message =
      .service (.catalog .FIND_ONE_MOVIE (.obj [("id", .num id)]))) :
    SeenAt earlier traffic index fun store =>
      (∃ row ∈ store.databases.movies.rows, row.id.val = id ∧
        outcome = .ok (.catalog (.movie row.hydrate))) ∨
      NoMovie store id ∧ ∃ thrown, outcome = .error thrown := by
  have decides := @decides_id deployment.validator id
  by_cases silent : idMessages [("id", id)] = []
  · obtain ⟨dto, valid, rfl⟩ := decides.accepted silent
    obtain ⟨moment, reached, onward, underway, decided⟩ :=
      seen_by began runs new found ends telling isMessage
        (selects_movies (movieCriteria dto.id)) (handle_findOneMovie valid)
        (fun rows => by cases rows <;> rfl)
    refine ⟨moment, reached, onward, underway, ?_⟩
    cases first : (moment.store.databases.movies.rows.filter
        (matchesAll (movieCriteria dto.id))).head? with
    | none =>
        rw [first] at decided
        refine .inr ⟨fun row present isId => ?_, _,
          (Option.some.inj decided).symm⟩
        have nothing := List.filter_eq_nil_iff.mp
          (List.head?_eq_none_iff.mp first) row present
        simp [matchesAll, movieCriteria, List.reduceOption, Criterion.integer,
          isId] at nothing
    | some row =>
        rw [first] at decided
        obtain ⟨present, isId⟩ := List.mem_filter.mp (List.mem_of_head? first)
        refine .inl ⟨row, present, ?_, (Option.some.inj decided).symm⟩
        simpa [matchesAll, movieCriteria, List.reduceOption, Criterion.integer]
          using isId
  · exact (not_refused began runs found ends telling isMessage
      (handle_refused (.catalog .FIND_ONE_MOVIE _)
        (decides.refused silent))).elim

theorem sees_profile {userId : ℤ}
    (isMessage : job.message =
      .service (.auth .GET_PROFILE (.obj [("userId", .num userId)]))) :
    SeenAt earlier traffic index fun store =>
      (∃ row ∈ store.users.rows, row.id.val = userId ∧
        outcome = .ok (.auth (.user (AuthService.toPublicUser row.hydrate)))) ∨
      (∀ row ∈ store.users.rows, row.id.val ≠ userId) ∧
        ∃ thrown, outcome = .error thrown := by
  have traced := Network.Runs.traced Network.traced_start (began.trans runs)
    job (List.mem_of_getElem? found)
  obtain ⟨rest, reached, ended⟩ := ended_handler traced isMessage ends
  have decides := @decides_userId deployment.validator userId
  by_cases silent : idMessages [("userId", userId)] = []
  · obtain ⟨dto, valid, rfl⟩ := decides.accepted silent
    rw [handle_getProfile valid] at reached
    obtain ⟨config, first, later, calls, onward⟩ :=
      processed began runs new found reached ended telling
    obtain ⟨moment, before, after, underway, decided⟩ :=
      (selects_users (accountCriteria dto.userId)).decided began runs new found
        calls onward (fun rows => by cases rows <;> rfl) ended telling
    refine ⟨moment, before, after, underway, ?_⟩
    cases head : (moment.store.users.rows.filter
        (matchesAll (accountCriteria dto.userId))).head? with
    | none =>
        rw [head] at decided
        refine .inr ⟨fun row present isId => ?_, _,
          (Option.some.inj decided).symm⟩
        have nothing := List.filter_eq_nil_iff.mp
          (List.head?_eq_none_iff.mp head) row present
        simp [matchesAll, accountCriteria, List.reduceOption, Criterion.integer,
          isId] at nothing
    | some row =>
        rw [head] at decided
        obtain ⟨present, isId⟩ := List.mem_filter.mp (List.mem_of_head? head)
        refine .inl ⟨row, present, ?_, (Option.some.inj decided).symm⟩
        simpa [matchesAll, accountCriteria, List.reduceOption,
          Criterion.integer] using isId
  · rw [handle_refused (.auth .GET_PROFILE _)
        (decides.refused silent)] at reached
    obtain ⟨config, first, later, calls, onward⟩ :=
      processed began runs new found reached ended telling
    obtain ⟨_, rfl⟩ := onward.of_fail
    cases ended
    exact (refused_not_telling telling).elim

theorem sees_orders {userId : ℤ}
    (isMessage : job.message =
      .service (.orders .FIND_USER_ORDERS (.obj [("userId", .num userId)]))) :
    SeenAt earlier traffic index fun store => ∃ rows : List OrderRow,
      rows.Perm (store.databases.orders.rows.filter fun row =>
        row.userId.val = userId) ∧
      rows.Pairwise OrdersService.Newer ∧
      outcome = .ok (.orders (.orders (rows.map OrderRow.hydrate))) := by
  have decides := @decides_userId deployment.validator userId
  by_cases silent : idMessages [("userId", userId)] = []
  · obtain ⟨dto, valid, rfl⟩ := decides.accepted silent
    obtain ⟨moment, reached, onward, underway, decided⟩ :=
      seen_by began runs new found ends telling isMessage (selects_orders _)
        (handle_findAllOrders valid) (fun _ => rfl)
    refine ⟨moment, reached, onward, underway, _, ?_, ?_,
      (Option.some.inj decided).symm⟩
    · refine (List.perm_insertionSort _ _).trans (List.Perm.of_eq ?_)
      apply List.filter_congr
      intro row _
      simp [matchesAll, List.reduceOption, Criterion.integer]
    · exact newest_first _
  · exact (not_refused began runs found ends telling isMessage
      (handle_refused (.orders .FIND_USER_ORDERS _)
        (decides.refused silent))).elim

theorem sees_order {userId orderId : ℤ}
    (isMessage : job.message =
      .service (.orders .FIND_USER_ORDER
        (.obj [("userId", .num userId), ("orderId", .num orderId)]))) :
    SeenAt earlier traffic index fun store =>
      (∃ row ∈ store.databases.orders.rows, row.id.val = orderId ∧
        row.userId.val = userId ∧
        outcome = .ok (.orders (.order row.hydrate))) ∨
      NoOrder store userId orderId ∧ ∃ thrown, outcome = .error thrown := by
  have decides :=
    @decides_order deployment.validator userId orderId
  by_cases silent : idMessages [("orderId", orderId), ("userId", userId)] = []
  · obtain ⟨dto, valid, rfl, rfl⟩ := decides.accepted silent
    obtain ⟨moment, reached, onward, underway, decided⟩ :=
      seen_by began runs new found ends telling isMessage
        (selects_orders (ownedCriteria dto)) (handle_findUserOrder valid)
        (fun rows => by cases rows <;> rfl)
    refine ⟨moment, reached, onward, underway, ?_⟩
    have criteria : ∀ row, matchesAll (ownedCriteria dto) row = true ↔
        row.id.val = dto.orderId ∧ row.userId.val = dto.userId := by
      intro row
      simp [matchesAll, ownedCriteria, List.reduceOption, Criterion.integer]
    cases first : (moment.store.databases.orders.rows.filter
        (matchesAll (ownedCriteria dto))).head? with
    | none =>
        rw [first] at decided
        refine .inr ⟨fun row present isId owned => ?_, _,
          (Option.some.inj decided).symm⟩
        exact List.filter_eq_nil_iff.mp (List.head?_eq_none_iff.mp first) row
          present ((criteria row).mpr ⟨isId, owned⟩)
    | some row =>
        rw [first] at decided
        obtain ⟨present, matched⟩ :=
          List.mem_filter.mp (List.mem_of_head? first)
        obtain ⟨isId, owned⟩ := (criteria row).mp matched
        exact .inl ⟨row, present, isId, owned, (Option.some.inj decided).symm⟩
  · exact (not_refused began runs found ends telling isMessage
      (handle_refused (.orders .FIND_USER_ORDER _)
        (decides.refused silent))).elim

end Moments

/-! ## Requests -/

section Requests

variable {store : SystemStore deployment.validator}
  {earlier traffic : SystemTraffic deployment} {index : Nat}
  {job : SystemJob deployment} {request : HttpRequest}
  {outcome : Except Thrown SystemAnswer}

/-- How the calls of a job have failed. -/
private def HasFailed (job : SystemJob deployment)
    (call : SystemCall deployment.validator) (thrown : Thrown) : Prop :=
  ∃ exchange ∈ job.calls, exchange.call = call ∧ exchange.result = .error thrown

section Request

variable
  (began : (system deployment).Runs anyClients (.start store) earlier)
  (runs : (system deployment).Runs anyClients earlier traffic)
  (new : earlier.jobs.length ≤ index)
  (found : traffic.jobs[index]? = some job)
  (isRequest : job.message = .http request)
include began runs new found isRequest

/-- The gateway finds nothing missing on its own: what says so has come from
a client that has sent a message. -/
private theorem sent_of_missing {thrown : Thrown}
    (ends : job.outcome = some (.error thrown))
    (missing : ownStatus thrown = 404) :
    ∃ message, HasFailed job (.send message) thrown := by
  have traced := Network.Runs.traced Network.traced_start (began.trans runs)
    job (List.mem_of_getElem? found)
  obtain ⟨rest, reached, ended⟩ := ended_handler traced isRequest ends
  have verifies : ∀ token failure, ¬ HasFailed job (.verify token) failure := by
    rintro token failure ⟨⟨call, result, means⟩, made, rfl, failed⟩
    obtain ⟨circumstances, rfl⟩ := (traced.meant _ made).performed rfl
    obtain ⟨front, back, calls⟩ := List.append_of_mem made
    obtain ⟨moment, after, performed⟩ := runs.performedAt_new new found calls rfl
    have verified := performed.result
    rw [failed] at verified
    cases verified
  have throws := reached.throws (throws_http verifies request)
    fun exchange made error failed => ⟨exchange, made, rfl, failed⟩
  cases rest with
  | done value => cases ended
  | call call next => cases ended
  | fail failure =>
      cases ended
      cases (throws : Passes (HasFailed job) request.route thrown) with
      | own answers =>
          obtain ⟨exception, rfl, presents⟩ := answers
          have status := presents.status
          have missing : exception.status = 404 := missing
          rw [missing] at status
          exact absurd status (by
            cases request.route <;> norm_num [ownStatuses])
      | stumbled stumbles isOther =>
          rw [isOther] at missing
          norm_num [ownStatus] at missing
      | @forwarded user message forwards failed => exact ⟨message, failed⟩

/-- A request that is answered in a telling way passes on what a service has
told, and was there as long as the service was at it. -/
theorem asked (ends : job.outcome = some outcome)
    (telling : Telling traffic outcome) :
    ∃ user message child other given, Identified job request user ∧
      Forwards deployment.validator deployment.mapping request.route user
          message ∧
        traffic.jobs[child]? = some other ∧ other.message = .service message ∧
        other.outcome = some given ∧ outcome = passOn message given ∧
        job.sent = [child] ∧ earlier.jobs.length ≤ child ∧
        ∀ moment, (system deployment).Runs anyClients earlier moment →
          (system deployment).Runs anyClients moment traffic →
          Network.Underway moment child → Network.Underway moment index := by
  have traced := Network.Runs.traced Network.traced_start (began.trans runs)
    job (List.mem_of_getElem? found)
  have untold : ∀ service failure, outcome ≠ .error (gaveUp service failure) := by
    rintro service failure rfl
    rcases telling with ⟨answer, impossible⟩ | ⟨undisturbed, thrown, same, bad⟩
    · cases impossible
    · cases same
      exact ownStatus_gaveUp_ne (by norm_num [clientStatuses]) _ _ bad
  cases http_stage traced isRequest with
  | waiting identified forwards sent carries pending =>
      rw [pending] at ends
      cases ends
  | abandoned identified forwards sent carries failed =>
      rw [failed] at ends
      exact absurd (Option.some.inj ends).symm (untold _ _)
  | unsent nothing notOk =>
      rcases telling with ⟨answer, rfl⟩ | ⟨undisturbed, thrown, rfl, bad⟩
      · exact absurd ends (notOk answer)
      · obtain ⟨message, ⟨call, result, means⟩, made, rfl, failed⟩ :=
          sent_of_missing began runs new found isRequest ends bad
        have meant := traced.meant _ made
        cases means with
        | performed circumstances => cases meant
        | answered child =>
            have sent : child ∈ job.sent :=
              List.mem_append_left _ (List.mem_filterMap.mpr ⟨_, made, rfl⟩)
            rw [nothing] at sent
            cases sent
        | abandoned child failure =>
            obtain ⟨carried, isRemote, gone, _⟩ := meant
            rw [failed] at gone
            cases gone
            exact absurd rfl (untold _ _)
  | @answered user message child other given identified forwards sent childFound
      carries given_ends passedOn =>
      rw [passedOn] at ends
      refine ⟨user, message, child, other, given, identified, forwards,
        childFound, carries, given_ends, (Option.some.inj ends).symm, sent, ?_,
        ?_⟩
      · have ordered := Network.Runs.ordered (began.trans runs)
          (Network.ordered_start store)
        have later := ordered index job child found (by simp [sent])
        omega
      · obtain ⟨rest, pending, ended⟩ := Job.outcome_eq_some.mp passedOn
        have idle := traced.awaits_nothing fun call next waits => by
          rw [pending] at waits
          cases waits
          cases ended
        obtain ⟨exchange, made, isChild⟩ : ∃ exchange ∈ job.calls,
            exchange.means.child = some child := by
          have member : child ∈ job.sent := by simp [sent]
          simpa [Job.sent, idle] using member
        intro moment before onward underway
        obtain ⟨call, result, means⟩ := exchange
        cases means with
        | performed circumstances => cases isChild
        | answered index =>
            cases isChild
            exact underway.sender (began.trans before) onward found made rfl
        | abandoned gone failure =>
            -- A client that has given up passes nothing on.
            obtain ⟨carried, isRemote, failed, _⟩ := traced.meant _ made
            have reached := reached_handler traced isRequest pending
            rw [reached.failed made failed] at ended
            cases call with
            | send message =>
                cases isRemote
                have same := (Option.some.inj ended).trans (Option.some.inj ends)
                exact absurd same.symm (untold message.service failure)
            | _ => cases isRemote

end Request

/-- What is passed on in a telling way has been told so. -/
private theorem Telling.given {message : ServiceMessage}
    {given : Except Thrown SystemAnswer}
    (notRpc : Network.Undisturbed
      (fun circumstances : Circumstances => Sane circumstances.toSurroundings)
      traffic → ∀ thrown, given = .error thrown →
        ∀ error text, thrown ≠ .rpc error text)
    (telling : Telling traffic (passOn message given)) :
    Telling traffic given := by
  cases given with
  | ok answer => exact .inl ⟨answer, rfl⟩
  | error reported =>
      rcases telling with ⟨answer, impossible⟩ | ⟨undisturbed, thrown, same, bad⟩
      · cases impossible
      · cases same
        rw [ownStatus_relayed (notRpc undisturbed reported rfl)] at bad
        exact .inr ⟨undisturbed, reported, rfl, bad⟩

/-- What a reading request is answered with in a telling way, its service has
seen. -/
private theorem shown
    (began : (system deployment).Runs anyClients (.start store) earlier)
    (runs : (system deployment).Runs anyClients earlier traffic)
    (new : earlier.jobs.length ≤ index)
    (found : traffic.jobs[index]? = some job)
    (isRequest : job.message = .http request)
    (reads : isRead request.route = true)
    (ends : job.outcome = some outcome) (telling : Telling traffic outcome) :
    ∃ user, Identified job request user ∧
      SeenAt earlier traffic index fun store =>
        Displays store request.route user outcome := by
  obtain ⟨user, message, child, other, given, identified, forwards, childFound,
    isMessage, given_ends, rfl, _, newChild, present⟩ :=
    asked began runs new found isRequest ends telling
  have told : Telling traffic given := telling.given fun undisturbed thrown
      failed => by
    have confined := Network.Runs.confined (confines deployment)
      (fun _ => trivial) (began.trans runs) undisturbed
    rw [failed] at given_ends
    have tells := confined.outcome (List.mem_of_getElem? childFound) given_ends
    rw [isMessage] at tells
    exact (Tells.reports tells).notRpc
  refine ⟨user, identified, ?_⟩
  obtain ⟨authorization, route⟩ := request
  cases forwards with
  | me =>
      obtain ⟨moment, before, onward, underway, sees⟩ :=
        sees_profile began runs newChild childFound given_ends told isMessage
      refine ⟨moment, before, onward, present moment before onward underway, ?_⟩
      rcases sees with ⟨row, member, isId, rfl⟩ | ⟨absent, thrown, rfl⟩
      · exact .profile member isId
      · exact .noProfile absent
  | findAllMovies =>
      obtain ⟨moment, before, onward, underway, rows, same, sorted, rfl⟩ :=
        sees_movies began runs newChild childFound given_ends told isMessage
      exact ⟨moment, before, onward, present moment before onward underway,
        .movies same sorted⟩
  | findOneMovie parsed =>
      obtain ⟨moment, before, onward, underway, sees⟩ :=
        sees_movie began runs newChild childFound given_ends told isMessage
      refine ⟨moment, before, onward, present moment before onward underway, ?_⟩
      rcases sees with ⟨row, member, isId, rfl⟩ | ⟨absent, thrown, rfl⟩
      · exact .movie parsed member isId
      · exact .noMovie parsed absent
  | findAllOrders =>
      obtain ⟨moment, before, onward, underway, rows, same, sorted, rfl⟩ :=
        sees_orders began runs newChild childFound given_ends told isMessage
      exact ⟨moment, before, onward, present moment before onward underway,
        .orders same sorted⟩
  | findOneOrder parsed =>
      obtain ⟨moment, before, onward, underway, sees⟩ :=
        sees_order began runs newChild childFound given_ends told isMessage
      refine ⟨moment, before, onward, present moment before onward underway, ?_⟩
      rcases sees with ⟨row, member, isId, owned, rfl⟩ | ⟨absent, thrown, rfl⟩
      · exact .order parsed member isId owned
      · exact .noOrder parsed absent
  | _ => cases reads

theorem answer_seen
    (began : (system deployment).Runs anyClients (.start store) earlier)
    (runs : (system deployment).Runs anyClients earlier traffic)
    (new : earlier.jobs.length ≤ index)
    (found : traffic.jobs[index]? = some job)
    (isRequest : job.message = .http request)
    (reads : isRead request.route = true) {answer : GatewayAnswer}
    (succeeds : job.outcome = some (.ok (.http answer))) :
    ∃ user, Identified job request user ∧
      SeenAt earlier traffic index fun store =>
        Sees store request.route user (.ok answer) :=
  shown began runs new found isRequest reads succeeds (.inl ⟨_, rfl⟩)

theorem missing_seen
    (began : (system deployment).Runs anyClients (.start store) earlier)
    (runs : (system deployment).Runs anyClients earlier traffic)
    (new : earlier.jobs.length ≤ index)
    (found : traffic.jobs[index]? = some job)
    (isRequest : job.message = .http request)
    (reads : isRead request.route = true)
    (undisturbed : Network.Undisturbed
      (fun circumstances : Circumstances =>
        Sane circumstances.toSurroundings) traffic) {body : Json}
    (missing : job.outcome.map httpAnswer = some (.error (404, body))) :
    ∃ user, Identified job request user ∧
      SeenAt earlier traffic index fun store =>
        Sees store request.route user (.error 404) := by
  obtain ⟨thrown, failed, isMissing⟩ := ownStatus_of_answered missing
    (by norm_num)
  exact shown began runs new found isRequest reads failed
    (.inr ⟨undisturbed, thrown, rfl, isMissing⟩)

/-- Every read is a snapshot.  What a reading request is answered with was in
the database at one moment while the request was there; a list is the whole
table, or all orders of the user, as they were then.  And where nothing fails
but the statements themselves, what the gateway has not found was not there at
such a moment.  The moment is after everything that has happened before the
request came. -/
theorem reads_are_snapshots
    (began : (system deployment).Runs anyClients (.start store) earlier)
    (runs : (system deployment).Runs anyClients earlier traffic)
    (new : earlier.jobs.length ≤ index)
    (found : traffic.jobs[index]? = some job)
    (isRequest : job.message = .http request)
    (reads : isRead request.route = true) :
    (∀ answer, job.outcome = some (.ok (.http answer)) →
      ∃ user, Identified job request user ∧
        SeenAt earlier traffic index fun store =>
          Sees store request.route user (.ok answer)) ∧
      (Network.Undisturbed
        (fun circumstances : Circumstances =>
          Sane circumstances.toSurroundings) traffic →
        ∀ body, job.outcome.map httpAnswer = some (.error (404, body)) →
          ∃ user, Identified job request user ∧
            SeenAt earlier traffic index fun store =>
              Sees store request.route user (.error 404)) := by
  constructor
  · intro answer succeeds
    exact answer_seen began runs new found isRequest reads succeeds
  · intro undisturbed body missing
    exact missing_seen began runs new found isRequest reads undisturbed missing

end Requests

/-- A reader of the first movie that has got an answer. -/
private def reader (job : SystemJob deployment) : Bool :=
  match job.message, job.outcome with
  | .http ⟨none, .findOneMovie (some value)⟩, some (.ok (.http _)) => value = 1
  | _, _ => false

private theorem of_reader {job : SystemJob deployment} (isReader : reader job) :
    ∃ answer, job.message = .http ⟨none, .findOneMovie (some 1)⟩ ∧
      job.outcome = some (.ok (.http answer)) := by
  unfold reader at isReader
  split at isReader
  · rename_i value answer isRequest ends
    obtain rfl := of_decide_eq_true isReader
    exact ⟨answer, isRequest, ends⟩
  · cases isReader

/-- A movie is gone when its reader gets to know it. -/
theorem reads_are_snapshots_example :
    ∃ (traffic moment : SystemTraffic
        (sampleDeployment (.sample 1 "ripley@example.com" .ADMIN)))
      (job : SystemJob _) (answer : GatewayAnswer),
      traffic.jobs[0]? = some job ∧
        job.outcome = some (.ok (.http answer)) ∧
        traffic.store.databases.movies.rows = [] ∧
        Network.Underway moment 0 ∧
        Sees moment.store (.findOneMovie (some 1)) none (.ok answer) := by
  let deployment := sampleDeployment (.sample 1 "ripley@example.com" .ADMIN)
  let moment : Circumstances := ⟨calm 1, 0, 0⟩
  let store : SystemStore deployment.validator := ⟨∅, sampleDatabases, []⟩
  have checked : (System.play (.start store : SystemTraffic deployment)
      [.arrive (.http ⟨none, .findOneMovie (some 1)⟩), .act 0 .deliver,
        .act 0 .send, .act 1 .deliver, .act 1 (.perform moment),
        .arrive (.http ⟨some "Bearer token", .removeMovie (some 1)⟩),
        .act 2 .deliver, .act 2 (.perform moment), .act 2 .send,
        .act 3 .deliver, .act 3 (.perform moment),
        .act 0 .answer]).any
      (fun traffic => traffic.store.databases.movies.rows.isEmpty &&
        (traffic.jobs[0]?).any reader) = true := by
    decide +kernel
  obtain ⟨traffic, played, checked⟩ := (Option.any_eq_true _ _).mp checked
  obtain ⟨gone, checked⟩ := Bool.and_eq_true_iff.mp checked
  obtain ⟨job, found, checked⟩ := (Option.any_eq_true _ _).mp checked
  obtain ⟨answer, isRequest, succeeds⟩ := of_reader checked
  obtain ⟨seen, _⟩ := reads_are_snapshots (.refl _) (System.runs_of_play played)
    (Nat.zero_le 0) found isRequest rfl
  obtain ⟨user, _, instant, before, onward, underway, sees⟩ :=
    seen answer succeeds
  refine ⟨traffic, instant, job, answer, found, succeeds,
    List.isEmpty_iff.mp gone, underway, ?_⟩
  cases sees with
  | movie parsed present isId => exact .movie parsed present isId

end Cinema.System
