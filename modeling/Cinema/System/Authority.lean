import Cinema.System.Registrations

/-!
# Where authority comes from

An adversary sends any requests, but has only the tokens that logins have
answered.  What a message may do then goes back to an account: the token of its
request was issued for it, and an administrator was inserted by a start of the
auth service.
-/

namespace Cinema.System

open Interleaving Relational Shared Text Auth Catalog Orders Gateway

variable {deployment : Deployment}

/-- A token that is accepted carries what it was signed with. -/
def Jwt.Faithful (jwt : Jwt) : Prop :=
  ∀ {secret expiresIn issuedAt payload token accepting now claims},
    jwt.sign secret expiresIn issuedAt payload = some token →
      jwt.verify accepting now token = some claims →
        ∀ name ∈ ["sub", "email", "role"], claims.get name = payload.get name

/-- A login has answered with the token. -/
def Answered (traffic : SystemTraffic deployment) (token : String) : Prop :=
  ∃ job ∈ traffic.jobs, ∃ payload answer,
    job.message = .service (.auth .LOGIN payload) ∧
      job.outcome = some (.ok (.auth (.token answer))) ∧
      answer.accessToken = token

/-- Any starts, and any requests; but a token that is ever accepted is one that
a login has answered with. -/
def adversary (traffic : SystemTraffic deployment) :
    SystemMessage deployment.validator → Prop
  | .http request => ∀ token,
      extractBearerToken request.authorization = some token →
        (∃ now claims, deployment.jwt.verify deployment.JWT_SECRET now token =
          some claims) → Answered traffic token
  | .start _ => True
  | .service _ => False

/-- The message `login` is a login that has issued the token for an account of
the table. -/
def Issues (traffic : SystemTraffic deployment) (login : Nat) (token : String)
    (row : UserRow) : Prop :=
  ∃ (job : SystemJob deployment) (payload : Json)
    (dto : LoginDto deployment.validator deployment.mapping)
    (config : AuthEnv deployment.validator) (issuedAt : Nat),
    traffic.jobs[login]? = some job ∧
    job.message = .service (.auth .LOGIN payload) ∧
    LoginDto.validate deployment.validator deployment.mapping payload =
      .ok dto ∧
    row ∈ traffic.store.users.rows ∧ row.email.val = dto.email ∧
    deployment.bcrypt.compare dto.password row.passwordHash.val = true ∧
    deployment.jwt.sign config.JWT_SECRET config.JWT_EXPIRES_IN issuedAt
      (JwtPayload.ofUser row.hydrateSelected) = some token ∧
    job.outcome =
      some (.ok (.auth (.token ⟨token, "Bearer", config.JWT_EXPIRES_IN⟩)))

/-- The message goes back to a request with a token that had been issued for
the account when the request arrived.  At any moment from the answer of the
login on, the account is in the table. -/
def CausedBy (store : SystemStore deployment.validator)
    (traffic : SystemTraffic deployment) (index : Nat) (row : UserRow) : Prop :=
  ∃ position sender request token login,
    traffic.jobs[position]? = some sender ∧ index ∈ sender.sent ∧
      sender.message = .http request ∧
      extractBearerToken request.authorization = some token ∧
      (∃ earlier : SystemTraffic deployment,
        earlier.jobs.length = position ∧
          (system deployment).Runs adversary (.start store) earlier ∧
          (system deployment).Runs adversary earlier traffic ∧
          Issues earlier login token row) ∧
      ∀ moment, (system deployment).Runs adversary (.start store) moment →
        (system deployment).Runs adversary moment traffic →
          (∃ job, moment.jobs[login]? = some job ∧ job.outcome.isSome = true) →
            Issues moment login token row

/-- The account was inserted by starts of the auth service only. -/
def Bootstrapped (traffic : SystemTraffic deployment) (row : UserRow) : Prop :=
  (∃ job ∈ traffic.jobs, row ∈ insertedUsers job) ∧
    ∀ job ∈ traffic.jobs, row ∈ insertedUsers job →
      ∃ config email password, job.message = .start config ∧
        config.admin = some (email, password) ∧
        AccountOf deployment (normalized deployment.mapping email) password
          .ADMIN row

/-! ## Tokens -/

theorem user_of_token (faithful : Jwt.Faithful deployment.jwt)
    {secret expiresIn : String} {issuedAt : Nat} {row : UserRow} {token : String}
    (signed : deployment.jwt.sign secret expiresIn issuedAt
      (JwtPayload.ofUser row.hydrateSelected) = some token)
    {accepting : String} {now : Nat} {claims : Json}
    (verified : deployment.jwt.verify accepting now token = some claims)
    {user : AuthUser} (isUser : AuthUser.ofPayload claims = some user) :
    user.id = row.id.val ∧ user.role = row.role := by
  have carried := faithful signed verified
  have sub : claims.get "sub" = some (.num row.id.val) :=
    carried "sub" (by simp)
  have role : claims.get "role" = some (.str row.role.value) :=
    carried "role" (by simp)
  have known : Role.ofValue row.role.value = some row.role := by
    cases row.role <;> decide
  simp only [AuthUser.ofPayload, sub, role, known] at isUser
  simp at isUser
  subst isUser
  exact ⟨rfl, rfl⟩

/-! ## Logins -/

section Logins

variable {store : SystemStore deployment.validator}
  {traffic : SystemTraffic deployment} {login : Nat} {token : String}
  {row : UserRow}

/-- A login that has answered has issued its token for an account. -/
private theorem issues_of_settled
    (initial : Accounts deployment.mapping store.users)
    (runs : (system deployment).Runs adversary (.start store) traffic)
    {job : SystemJob deployment} (found : traffic.jobs[login]? = some job)
    {payload : Json} {answer : AccessToken}
    (isLogin : job.message = .service (.auth .LOGIN payload))
    (succeeds : job.outcome = some (.ok (.auth (.token answer)))) :
    ∃ row, Issues traffic login answer.accessToken row := by
  obtain ⟨dto, row, config, issuedAt, accessToken, valid, present, isEmail,
    compared, _, signed, same⟩ := authenticated_account initial runs
      (List.mem_of_getElem? found) isLogin succeeds
  cases same
  exact ⟨row, job, payload, dto, config, issuedAt, found, isLogin, valid,
    present, isEmail, compared, signed, succeeds⟩

private theorem Issues.at_moment
    (initial : Accounts deployment.mapping store.users)
    {earlier moment : SystemTraffic deployment}
    (early : (system deployment).Runs adversary (.start store) earlier)
    (onward : (system deployment).Runs adversary earlier traffic)
    (issues : Issues earlier login token row)
    (runs : (system deployment).Runs adversary (.start store) moment)
    (later : (system deployment).Runs adversary moment traffic)
    (settled : ∃ job, moment.jobs[login]? = some job ∧
      job.outcome.isSome = true) :
    Issues moment login token row := by
  obtain ⟨job, payload, dto, config, _, found, isLogin, valid, present,
    isEmail, _, _, succeeds⟩ := issues
  obtain ⟨other, otherFound, otherSettled⟩ := settled
  -- Both moments lead to the same answered login.
  have stays := onward.extends.settled found (by simp [succeeds])
  have otherStays := later.extends.settled otherFound otherSettled
  rw [stays] at otherStays
  cases otherStays
  obtain ⟨account, issued⟩ :=
    issues_of_settled initial runs otherFound isLogin succeeds
  obtain ⟨_, body, same, _, _, sameFound, sameLogin, sameValid, samePresent,
    sameEmail, _⟩ := id issued
  rw [otherFound] at sameFound
  cases sameFound
  rw [isLogin] at sameLogin
  cases sameLogin
  rw [valid] at sameValid
  cases sameValid
  have isRow : account = row :=
    (initial.of_runs (early.trans onward)).eq_of_email
      (account_stays initial runs later samePresent)
      (account_stays initial early onward present)
      (sameEmail.trans isEmail.symm)
  rw [← isRow]
  exact issued

end Logins

/-! ## Requests -/

section Run

variable {store : SystemStore deployment.validator}
  {traffic : SystemTraffic deployment} {index : Nat}
  {message : ServiceMessage}

/-- Services send messages to services only. -/
private theorem sent_by {sender : SystemJob deployment}
    (traced : (system deployment).Traced traffic sender)
    (sent : index ∈ sender.sent) {job : SystemJob deployment}
    (found : traffic.jobs[index]? = some job) :
    ∃ message, job.message = .service message ∧ Sends sender.message message := by
  obtain ⟨call, carried, isRemote, ⟨carrier, carrierFound, isCarried⟩, source⟩ :=
    traced.mem_sent sent
  rw [found] at carrierFound
  cases carrierFound
  have permitted : Permitted sender.message call := by
    rcases source with ⟨exchange, made, rfl, _⟩ | ⟨next, pending⟩
    · exact traced.allowed_call accounts_sound made
    · exact traced.allowed accounts_sound pending
  cases call with
  | send message =>
      cases isRemote
      exact ⟨message, isCarried, permitted⟩
  | _ => cases isRemote

/-- A message that is not a lookup of the order service comes from a
request. -/
private theorem requested
    (runs : (system deployment).Runs adversary (.start store) traffic)
    {job : SystemJob deployment} (found : traffic.jobs[index]? = some job)
    (isMessage : job.message = .service message)
    (notLookup : ∀ payload, message ≠ .catalog .FIND_ONE_MOVIE payload) :
    ∃ sender ∈ traffic.jobs, ∃ request, index ∈ sender.sent ∧
      sender.message = .http request := by
  rcases runs.source found with ⟨earlier, _, admitted, _⟩ | ⟨sender, member, sent⟩
  · rw [isMessage] at admitted
    cases admitted
  · have traced := Network.Runs.traced Network.traced_start runs sender member
    obtain ⟨other, isOther, sends⟩ := sent_by traced sent found
    rw [isMessage] at isOther
    cases isOther
    refine ⟨sender, member, ?_⟩
    cases source : sender.message with
    | http request => exact ⟨request, sent, rfl⟩
    | start config =>
        rw [source] at sends
        cases sends
    | service asking =>
        rw [source] at sends
        cases asking with
        | auth pattern payload => cases sends
        | catalog pattern payload => cases sends
        | orders pattern payload =>
            cases message with
            | auth pattern payload => cases sends
            | orders pattern payload => cases sends
            | catalog pattern payload =>
                cases pattern with
                | FIND_ONE_MOVIE => exact absurd rfl (notLookup payload)
                | _ => cases sends

/-- The user of a request that sends a message is an account. -/
private theorem caused (faithful : Jwt.Faithful deployment.jwt)
    (initial : Accounts deployment.mapping store.users)
    (runs : (system deployment).Runs adversary (.start store) traffic)
    {job : SystemJob deployment} (found : traffic.jobs[index]? = some job)
    (isMessage : job.message = .service message)
    (notLookup : ∀ payload, message ≠ .catalog .FIND_ONE_MOVIE payload) :
    ∃ (request : HttpRequest) (user : Option AuthUser),
      Forwards deployment.validator deployment.mapping request.route user
        message ∧
      ∀ known, user = some known → ∃ row, CausedBy store traffic index row ∧
        known.id = row.id.val ∧ known.role = row.role := by
  have allTraced := Network.Runs.traced Network.traced_start runs
  obtain ⟨sender, member, request, sent, isRequest⟩ :=
    requested runs found isMessage notLookup
  obtain ⟨position, senderFound⟩ := List.getElem?_of_mem member
  obtain ⟨user, identified, forwards⟩ := forwards_of_sent
    (allTraced sender member) isRequest sent ⟨job, found, isMessage⟩
  refine ⟨request, user, forwards, ?_⟩
  intro known same
  subst same
  obtain ⟨token, claims, circumstances, isToken, made, isUser⟩ := identified
  have verified : deployment.jwt.verify deployment.JWT_SECRET circumstances.now
      token = some claims := recorded_of_mem initial runs member made
  rcases runs.source senderFound with
    ⟨earlier, isPosition, admitted, early, onward⟩ | ⟨other, otherMember, spawned⟩
  · rw [isRequest] at admitted
    obtain ⟨login, loginMember, payload, answer, isLogin, succeeds, rfl⟩ :=
      admitted token isToken ⟨_, claims, verified⟩
    obtain ⟨loginIndex, loginFound⟩ := List.getElem?_of_mem loginMember
    obtain ⟨row, issues⟩ :=
      issues_of_settled initial early loginFound isLogin succeeds
    obtain ⟨_, _, _, config, issuedAt, _, _, _, _, _, _, signed, _⟩ := id issues
    refine ⟨row, ?_, user_of_token faithful signed verified isUser⟩
    refine ⟨position, sender, request, answer.accessToken, loginIndex,
      senderFound, sent, isRequest, isToken,
      ⟨earlier, isPosition, early, onward, issues⟩, ?_⟩
    intro moment reached later settled
    exact issues.at_moment initial early onward reached later settled
  · obtain ⟨message, isService, _⟩ :=
      sent_by (allTraced other otherMember) spawned senderFound
    rw [isRequest] at isService
    cases isService

private theorem CausedBy.present
    (initial : Accounts deployment.mapping store.users) {row : UserRow}
    (causes : CausedBy store traffic index row) :
    row ∈ traffic.store.users.rows := by
  obtain ⟨_, _, _, _, _, _, _, _, _, ⟨earlier, _, early, onward, issues⟩, _⟩ :=
    causes
  obtain ⟨_, _, _, _, _, _, _, _, present, _⟩ := issues
  exact account_stays initial early onward present

/-! What the routes forward. -/

private theorem forwards_change {route : Route} {user : Option AuthUser}
    {pattern : CatalogPatterns} {payload : Json}
    (forwards : Forwards deployment.validator deployment.mapping route user
      (.catalog pattern payload))
    (changes : pattern ∈
      [CatalogPatterns.CREATE_MOVIE, .UPDATE_MOVIE, .DELETE_MOVIE]) :
    ∃ known, user = some known ∧ known.role = .ADMIN := by
  cases forwards with
  | findAllMovies => simp at changes
  | findOneMovie parsed => simp at changes
  | createMovie isAdmin valid => exact ⟨_, rfl, isAdmin⟩
  | updateMovie isAdmin parsed valid => exact ⟨_, rfl, isAdmin⟩
  | removeMovie isAdmin parsed => exact ⟨_, rfl, isAdmin⟩

/-- The id of the user stands in the place of any the body may have. -/
private theorem forwards_orders {route : Route} {user : Option AuthUser}
    {pattern : OrderPatterns} {payload : Json}
    (forwards : Forwards deployment.validator deployment.mapping route user
      (.orders pattern payload)) :
    ∃ known, user = some known ∧
      payload.get "userId" = some (.num known.id) := by
  cases forwards with
  | createOrder valid => exact ⟨_, rfl, Fields.get_override _ _ _⟩
  | findAllOrders => exact ⟨_, rfl, rfl⟩
  | findOneOrder parsed => exact ⟨_, rfl, rfl⟩
  | cancelOrder parsed => exact ⟨_, rfl, rfl⟩

private theorem forwards_profile {route : Route} {user : Option AuthUser}
    {payload : Json}
    (forwards : Forwards deployment.validator deployment.mapping route user
      (.auth .GET_PROFILE payload)) :
    ∃ known, user = some known ∧
      payload.get "userId" = some (.num known.id) := by
  cases forwards with
  | me => exact ⟨_, rfl, rfl⟩

private theorem bootstrapped (noUsers : store.users = ∅)
    (runs : (system deployment).Runs adversary (.start store) traffic)
    {row : UserRow} (present : row ∈ traffic.store.users.rows)
    (isAdmin : row.role = .ADMIN) : Bootstrapped traffic row := by
  have initial : Accounts deployment.mapping store.users := by
    rw [noUsers]
    exact accounts_empty
  constructor
  · have source := (users_of_runs runs).subset present
    rw [noUsers] at source
    rcases List.mem_append.mp source with old | new
    · cases old
    · exact List.mem_flatMap.mp new
  · intro job member inserted
    obtain ⟨user, made⟩ := made_of_insertedUser inserted
    obtain ⟨_, email, password, role, creates, account⟩ :=
      created_account initial runs member made
    obtain rfl : role = .ADMIN := account.role.symm.trans isAdmin
    generalize job.message = message at creates ⊢
    cases creates with
    | start admin => exact ⟨_, _, _, rfl, admin, account⟩

/-- Whoever changes the catalog is an administrator, whom a start has inserted;
and an order or a profile is asked for on behalf of the account whose login has
issued the token, whatever else the request says. -/
theorem provenance_of_authority (faithful : Jwt.Faithful deployment.jwt)
    (noUsers : store.users = ∅)
    (runs : (system deployment).Runs adversary (.start store) traffic) :
    (∀ (index : Nat) (job : SystemJob deployment) pattern payload,
      traffic.jobs[index]? = some job →
      job.message = .service (.catalog pattern payload) →
      pattern ∈ [CatalogPatterns.CREATE_MOVIE, .UPDATE_MOVIE, .DELETE_MOVIE] →
      ∃ row, CausedBy store traffic index row ∧ row.role = .ADMIN ∧
        Bootstrapped traffic row) ∧
    (∀ (index : Nat) (job : SystemJob deployment) pattern payload,
      traffic.jobs[index]? = some job →
      job.message = .service (.orders pattern payload) →
      ∃ row, CausedBy store traffic index row ∧
        payload.get "userId" = some (.num row.id.val)) ∧
    ∀ (index : Nat) (job : SystemJob deployment) payload,
      traffic.jobs[index]? = some job →
      job.message = .service (.auth .GET_PROFILE payload) →
      ∃ row, CausedBy store traffic index row ∧
        payload.get "userId" = some (.num row.id.val) := by
  have initial : Accounts deployment.mapping store.users := by
    rw [noUsers]
    exact accounts_empty
  refine ⟨?_, ?_, ?_⟩
  · intro index job pattern payload found isMessage changes
    have notLookup : ∀ other, ServiceMessage.catalog pattern payload ≠
        .catalog .FIND_ONE_MOVIE other := by
      intro other same
      cases same
      simp at changes
    obtain ⟨request, user, forwards, account⟩ :=
      caused faithful initial runs found isMessage notLookup
    obtain ⟨known, rfl, isAdmin⟩ := forwards_change forwards changes
    obtain ⟨row, causes, _, sameRole⟩ := account known rfl
    rw [isAdmin] at sameRole
    refine ⟨row, causes, sameRole.symm, ?_⟩
    exact bootstrapped noUsers runs (causes.present initial) sameRole.symm
  · intro index job pattern payload found isMessage
    obtain ⟨request, user, forwards, account⟩ :=
      caused faithful initial runs found isMessage (by simp)
    obtain ⟨known, rfl, isUserId⟩ := forwards_orders forwards
    obtain ⟨row, causes, sameId, _⟩ := account known rfl
    rw [sameId] at isUserId
    exact ⟨row, causes, isUserId⟩
  · intro index job payload found isMessage
    obtain ⟨request, user, forwards, account⟩ :=
      caused faithful initial runs found isMessage (by simp)
    obtain ⟨known, rfl, isUserId⟩ := forwards_profile forwards
    obtain ⟨row, causes, sameId, _⟩ := account known rfl
    rw [sameId] at isUserId
    exact ⟨row, causes, isUserId⟩

end Run

/-! ## An administrator at work -/

private theorem sample_faithful (id : ℚ) (email : String) (role : Role) :
    Jwt.Faithful (Jwt.sample id email role) := by
  intro secret expiresIn issuedAt payload token accepting now claims signed
    verified
  simp only [Jwt.sample] at signed verified
  split at verified
  · rename_i isToken
    cases verified
    rw [isToken] at signed
    split at signed
    · split at signed
      · rename_i sub address value isSub isEmail isRole
        split at signed
        · rename_i same
          obtain ⟨rfl, rfl, rfl⟩ := same
          simp only [List.forall_mem_cons, isSub, isEmail, isRole]
          exact ⟨rfl, rfl, rfl, by simp⟩
        · simp at signed
      · simp at signed
    · cases signed
  · cases verified

theorem Jwt.faithful_sample (id : ℚ) (email : String) (role : Role) :
    Jwt.Faithful (Jwt.sample id email role) := sample_faithful id email role

/-- The tokens that logins have answered with. -/
private def answered (traffic : SystemTraffic deployment) (token : String) :
    Bool :=
  traffic.jobs.any fun job =>
    match job.message, job.outcome with
    | .service (.auth .LOGIN _), some (.ok (.auth (.token answer))) =>
        decide (answer.accessToken = token)
    | _, _ => false

private theorem answered_iff {traffic : SystemTraffic deployment}
    {token : String} (isAnswered : answered traffic token = true) :
    Answered traffic token := by
  obtain ⟨job, member, matched⟩ := List.any_eq_true.mp isAnswered
  split at matched
  · rename_i payload answer isLogin succeeds
    exact ⟨job, member, payload, answer, isLogin, succeeds,
      of_decide_eq_true matched⟩
  · cases matched

/-- Requests with no token, or with one that has been answered. -/
private def careful (traffic : SystemTraffic deployment) :
    SystemMessage deployment.validator → Bool
  | .http request => (extractBearerToken request.authorization).all
      (answered traffic)
  | .start _ => true
  | .service _ => false

private theorem adversary_of_careful {traffic : SystemTraffic deployment}
    {message : SystemMessage deployment.validator}
    (permitted : careful traffic message = true) : adversary traffic message := by
  cases message with
  | start config => trivial
  | service message => cases permitted
  | http request =>
      intro token isToken _
      rw [careful, isToken] at permitted
      exact answered_iff permitted

private def adminEnvironment : AuthEnv Validator.plain :=
  sampleEnv (some ("Ripley@example.com", "nostromo")) (by
    intro email password same
    cases same
    decide +kernel)

private def instant : Circumstances := ⟨calm 1, 0, 0⟩

private def noUsersYet : SystemStore Validator.plain := ⟨∅, sampleDatabases, []⟩

private def deletes (traffic : SystemTraffic deployment) : Bool :=
  (traffic.jobs[4]?).any fun job =>
    match job.message with
    | .service (.catalog .DELETE_MOVIE _) => true
    | _ => false

/-- The administrator logs in and deletes a movie. -/
private theorem deleted_by_admin :
    (((system (sampleDeployment (.sample 1 "ripley@example.com" .ADMIN))).play
      careful (.start noUsersYet)
      [.arrive (.start adminEnvironment), .act 0 .deliver,
        .act 0 (.perform instant), .act 0 (.perform instant),
        .act 0 (.perform instant), .act 0 (.perform instant),
        .arrive (.http ⟨none, .login
          (LoginDto.body "ripley@example.com" "nostromo")⟩),
        .act 1 .deliver, .act 1 .send, .act 2 .deliver,
        .act 2 (.perform instant), .act 2 (.perform instant),
        .act 2 (.perform instant), .act 2 (.perform instant), .act 1 .answer,
        .arrive (.http ⟨some "Bearer token", .removeMovie (some 1)⟩),
        .act 3 .deliver, .act 3 (.perform instant), .act 3 .send]).any
      deletes) = true := by
  decide +kernel

theorem provenance_of_authority_example :
    ∃ (traffic : SystemTraffic
        (sampleDeployment (.sample 1 "ripley@example.com" .ADMIN)))
      (store : SystemStore _) (row : UserRow),
      CausedBy store traffic 4 row ∧ row.role = .ADMIN ∧
        Bootstrapped traffic row := by
  obtain ⟨traffic, played, checked⟩ :=
    (Option.any_eq_true _ _).mp deleted_by_admin
  have runs := Network.runs_of_play
    (fun _ _ permitted => adversary_of_careful permitted) played
  obtain ⟨job, found, isDeletion⟩ := (Option.any_eq_true _ _).mp checked
  split at isDeletion
  · rename_i payload isMessage
    obtain ⟨row, causes, isAdmin, origin⟩ :=
      (provenance_of_authority (sample_faithful _ _ _) rfl runs).1 4 job
        .DELETE_MOVIE payload found isMessage (by simp)
    exact ⟨traffic, noUsersYet, row, causes, isAdmin, origin⟩
  · cases isDeletion

end Cinema.System
