import Cinema.System.Login

/-!
# The credentials of an account

An account is created by a registration or by the start of the auth service.
Whether its owner can log in afterwards is decided by the validation of the
login, which a start does not apply to the password it takes from its
environment.
-/

namespace Cinema.System

open Interleaving Relational Shared Text Auth Catalog Orders Gateway

variable {deployment : Deployment}

/-- The account of a registration that the gateway has answered, or one that a
start has inserted, with the credentials that were given for it. -/
inductive Created (traffic : SystemTraffic deployment) (row : UserRow) :
    String → String → Role → Prop where
  | registered {job authorization body user email password}
      (member : job ∈ traffic.jobs)
      (isRequest : job.message = .http ⟨authorization, .register body⟩)
      (answered : job.outcome = some (.ok (.http (.auth (.user user)))))
      (present : row ∈ traffic.store.users.rows)
      (isRow : user.id = some row.id.val)
      (isEmail : body.get "email" = some (.str email))
      (isPassword : body.get "password" = some (.str password)) :
      Created traffic row email password .USER
  | started {job config user email password} (member : job ∈ traffic.jobs)
      (isStart : job.message = .start config)
      (admin : config.admin = some (email, password))
      (inserted : Made job (.users (.insert user)) row) :
      Created traffic row email password .ADMIN

/-- The gateway and the auth service accept the credentials, the service under
the address as the gateway has normalised it. -/
def AcceptedTwice (deployment : Deployment) (email password : String) : Prop :=
  ∃ sent received,
    validationPipe deployment.validator (LoginDto.properties deployment.mapping)
        (LoginDto.body email password) = .ok sent ∧
      LoginDto.validate deployment.validator deployment.mapping
        (.obj sent.fields) = .ok received ∧
      received.email = normalized deployment.mapping email ∧
      received.password = password

/-- The answer is a token that carries the id, the address and the role. -/
def Grants (config : AuthEnv deployment.validator)
    (store : SystemStore deployment.validator) (id : ℤ) (email : String)
    (role : Role) (outcome : Except Thrown SystemAnswer)
    (final : SystemStore deployment.validator) : Prop :=
  final = store ∧ ∃ accessToken issuedAt,
    outcome = .ok (.http (.auth (.token
        ⟨accessToken, "Bearer", config.JWT_EXPIRES_IN⟩))) ∧
      deployment.jwt.sign config.JWT_SECRET config.JWT_EXPIRES_IN issuedAt
        (.obj [("sub", .num id), ("email", .str email),
          ("role", .str role.value)]) = some accessToken

/-- Under every spelling of the address the process lets the owner in. -/
def LogsIn (store : SystemStore deployment.validator) (process : Nat)
    (config : AuthEnv deployment.validator) (row : UserRow)
    (email password : String) (role : Role) : Prop :=
  ∀ authorization spelling,
    normalized deployment.mapping spelling =
        normalized deployment.mapping email →
      AcceptedTwice deployment spelling password ∧
        (system deployment).Surely (TakenBy process)
          (handle deployment
            (.http (loginRequest authorization spelling password))) store
          (Grants config store row.id.val
            (normalized deployment.mapping email) role)

/-! ## The account -/

theorem admin_password_given {validator : Validator}
    {config : AuthEnv validator} {email password : String}
    (admin : config.admin = some (email, password)) : password ≠ "" := by
  obtain ⟨_, _, given⟩ := Option.bind_eq_some_iff.mp admin
  obtain ⟨_, isGiven, same⟩ := Option.map_eq_some_iff.mp given
  cases same
  exact of_decide_eq_true (Option.filter_eq_some_iff.mp isGiven).2

section Account

variable {store : SystemStore deployment.validator}
  {traffic : SystemTraffic deployment} {row : UserRow}
  {email password : String} {role : Role}
  {admits : SystemTraffic deployment → SystemMessage deployment.validator → Prop}

theorem forwards_register {body : Json} {user : Option AuthUser}
    {message : ServiceMessage}
    (forwards : Forwards deployment.validator deployment.mapping
      (.register body) user message) :
    ∃ dto, validationPipe deployment.validator
        (RegisterDto.properties deployment.mapping) body = .ok dto ∧
      message = .auth .REGISTER (.obj dto.fields) := by
  cases forwards with
  | register valid => exact ⟨_, valid, rfl⟩

/-- The credentials of a registration have passed the stricter pipe. -/
def Registrable (validator : Validator) (email password : String) : Prop :=
  validator.isEmail email = true ∧ 8 ≤ validator.length password ∧
    validator.length password ≤ 72

theorem Created.account (initial : Accounts deployment.mapping store.users)
    (runs : (system deployment).Runs admits (.start store) traffic)
    (created : Created traffic row email password role) :
    row ∈ traffic.store.users.rows ∧
      AccountOf deployment (normalized deployment.mapping email) password role
        row ∧
      password ≠ "" ∧
      (role = .USER → Registrable deployment.validator
        (normalized deployment.mapping email) password) := by
  cases created with
  | @registered job authorization body user _ _ member isRequest answered present
      isRow isEmail isPassword =>
      have traced := Network.Runs.traced Network.traced_start runs
      obtain ⟨_, message, other, reply, _, forwards, otherMember, isMessage,
        succeeds, passedOn⟩ := answered_of_ok (traced job member) isRequest
          answered
      obtain ⟨sent, accepted, rfl⟩ := forwards_register forwards
      obtain ⟨dto, config, passwordHash, own, valid, _, hashed, inserted, rfl⟩ :=
        register_answered (traced other otherMember) isMessage succeeds
      obtain ⟨ownPresent, account⟩ :=
        hashed.account initial runs otherMember inserted
      obtain ⟨sameEmail, samePassword⟩ :=
        RegisterDto.validate_again accepted valid isEmail isPassword
      cases passedOn
      have sameKey : own.id.val = row.id.val := Option.some.inj isRow
      obtain rfl := traffic.store.users.eq_of_key ownPresent present sameKey
      rw [← sameEmail, ← samePassword]
      have notEmpty : dto.password ≠ "" := by
        intro isEmpty
        have counted := deployment.validator.length_le dto.password
        have atLeast := dto.passwordLength.1
        rw [isEmpty] at counted atLeast
        exact Nat.not_succ_le_zero 7 (atLeast.trans counted)
      exact ⟨present, account, notEmpty, fun _ =>
        ⟨dto.emailValid, dto.passwordLength⟩⟩
  | @started job config user _ _ member isStart admin inserted =>
      obtain ⟨present, _, _, _, creates, account⟩ :=
        created_account initial runs member inserted
      rw [isStart] at creates
      cases creates with
      | start same =>
          rw [admin] at same
          cases same
          refine ⟨present, account, ?_, by simp⟩
          exact admin_password_given admin

/-! ## Logging in -/

theorem acceptable_of_twice (accepted : AcceptedTwice deployment email password) :
    Acceptable deployment.validator (normalized deployment.mapping email)
      password := by
  obtain ⟨sent, _, passes, _⟩ := accepted
  by_contra refused
  obtain ⟨thrown, rejected⟩ := LoginDto.validationPipe_body_rejected refused
  rw [rejected] at passes
  cases passes

theorem acceptedTwice_of_acceptable
    (acceptable : Acceptable deployment.validator
      (normalized deployment.mapping email) password) :
    AcceptedTwice deployment email password := by
  obtain ⟨sent, passes, isBody⟩ := LoginDto.validationPipe_body acceptable
  have again : Acceptable deployment.validator (normalized deployment.mapping
      (normalized deployment.mapping email)) password := by
    rw [normalized_normalized]
    exact acceptable
  obtain ⟨received, valid, sameEmail, samePassword⟩ :=
    LoginDto.validate_body again
  rw [← isBody] at valid
  rw [normalized_normalized] at sameEmail
  exact ⟨sent, received, passes, valid, sameEmail, samePassword⟩

/-- In every later state the owner of an account is let in if and only if the
login accepts the credentials and the process can issue tokens; a registration
has seen to the credentials already. -/
theorem owner_logs_in
    (compares : ∀ password rounds salt, deployment.bcrypt.compare password
      (deployment.bcrypt.hash password rounds salt) = true)
    (initial : Accounts deployment.mapping store.users)
    (runs : (system deployment).Runs admits (.start store) traffic)
    (created : Created traffic row email password role)
    {later : SystemTraffic deployment}
    (onward : (system deployment).Runs admits traffic later) {process : Nat}
    {config : AuthEnv deployment.validator}
    (takes : later.store.processes[process]? = some config) :
    (row ∈ later.store.users.rows ∧
      row.email.val = normalized deployment.mapping email ∧ row.role = role) ∧
    (LogsIn later.store process config row email password role ↔
      deployment.validator.isEmail (normalized deployment.mapping email) = true ∧
        deployment.validator.length password ≤ 72 ∧
        deployment.jwt.accepts config.JWT_EXPIRES_IN = true) ∧
    (role = .USER →
      deployment.validator.isEmail (normalized deployment.mapping email) = true ∧
        deployment.validator.length password ≤ 72) := by
  obtain ⟨present, account, notEmpty, registrable⟩ :=
    created.account initial runs
  have stays : row ∈ later.store.users.rows :=
    account_stays initial runs onward present
  refine ⟨⟨stays, account.email, account.role⟩, ⟨?_, ?_⟩, fun isUser =>
    ⟨(registrable isUser).1, (registrable isUser).2.2⟩⟩
  · intro logsIn
    obtain ⟨accepted, ⟨outcome, final, alone⟩, always⟩ := logsIn none email rfl
    obtain ⟨isEmail, _, short⟩ := acceptable_of_twice accepted
    obtain ⟨_, accessToken, issuedAt, _, signed⟩ := always outcome final alone
    refine ⟨isEmail, short, ?_⟩
    rw [← @Jwt.sign_isSome deployment.jwt, signed]
    rfl
  · rintro ⟨isEmail, short, accepts⟩ authorization spelling sameAddress
    have acceptable : Acceptable deployment.validator
        (normalized deployment.mapping spelling) password := by
      rw [sameAddress]
      exact ⟨isEmail, notEmpty, short⟩
    have whole := runs.trans onward
    obtain ⟨salt, isHash⟩ := account.passwordHash
    have isPassword :
        deployment.bcrypt.compare password row.passwordHash.val = true := by
      rw [isHash]
      exact compares password BCRYPT_SALT_ROUNDS salt
    have sameEmail : normalized deployment.mapping spelling = row.email.val := by
      rw [sameAddress, account.email]
    refine ⟨acceptedTwice_of_acceptable acceptable, ?_⟩
    rw [sameEmail] at acceptable
    obtain ⟨ends, always⟩ := surely_login (initial.of_runs whole) takes stays
      sameEmail acceptable isPassword authorization
    refine ⟨ends, ?_⟩
    intro outcome final alone
    obtain ⟨rfl, issuedAt, rfl⟩ := always outcome final alone
    obtain ⟨accessToken, signed, granted⟩ :=
      @loginAnswer_accepted deployment config accepts row issuedAt
    rw [granted]
    refine ⟨rfl, accessToken, issuedAt, rfl, ?_⟩
    rw [← account.email, ← account.role]
    exact signed

end Account

/-! ## A registration and a start -/

private theorem sample_compares (password : String) (rounds salt : Nat) :
    Bcrypt.sample.compare password (Bcrypt.sample.hash password rounds salt) =
      true := by
  simp [Bcrypt.sample]

/-- The first message is a registration, and its answer shows the first
account. -/
private def showsRegistered (email password : String)
    (traffic : SystemTraffic deployment) : Bool :=
  (traffic.jobs[0]?).any fun job => (traffic.store.users.rows.head?).any
    fun row =>
      match job.message, job.outcome with
      | .http ⟨_, .register body⟩, some (.ok (.http (.auth (.user user)))) =>
          match body.get "email", body.get "password" with
          | some (.str address), some (.str text) =>
              decide (user.id = some row.id.val ∧ address = email ∧
                text = password)
          | _, _ => false
      | _, _ => false

private theorem created_of_showsRegistered {email password : String}
    {traffic : SystemTraffic deployment}
    (registered : showsRegistered email password traffic = true) :
    ∃ row, Created traffic row email password .USER := by
  obtain ⟨job, found, registered⟩ := (Option.any_eq_true _ _).mp registered
  obtain ⟨row, first, registered⟩ := (Option.any_eq_true _ _).mp registered
  split at registered
  · rename_i authorization body user isRequest answered
    split at registered
    · rename_i address text isEmail isPassword
      obtain ⟨isRow, rfl, rfl⟩ := of_decide_eq_true registered
      exact ⟨row, .registered (List.mem_of_getElem? found) isRequest answered
        (List.mem_of_head? first) isRow isEmail isPassword⟩
    · cases registered
  · cases registered

/-- The first message is a start whose third call has inserted an account. -/
private def showsInserted (email password : String)
    (traffic : SystemTraffic deployment) : Bool :=
  (traffic.jobs[0]?).any fun job =>
    match job.message, job.calls[2]? with
    | .start config, some ⟨.users (.insert _), .ok _, .performed _⟩ =>
        decide (config.admin = some (email, password))
    | _, _ => false

private theorem created_of_showsInserted {email password : String}
    {traffic : SystemTraffic deployment}
    (inserted : showsInserted email password traffic = true) :
    ∃ row, Created traffic row email password .ADMIN := by
  obtain ⟨job, found, inserted⟩ := (Option.any_eq_true _ _).mp inserted
  split at inserted
  · rename_i config user row circumstances isStart made
    exact ⟨row, .started (List.mem_of_getElem? found) isStart
      (of_decide_eq_true inserted) ⟨circumstances, List.mem_of_getElem? made⟩⟩
  · cases inserted

/-- The first process issues tokens for an hour. -/
private def anHour (traffic : SystemTraffic deployment) : Bool :=
  (traffic.store.processes[0]?).any fun config =>
    decide (config.JWT_EXPIRES_IN = "1h")

private def quiet : Circumstances := ⟨calm 1, 0, 0⟩

private def registrationMoves (email password : String) :
    List (Network.Move (SystemMessage Validator.plain) Circumstances
      ClientFailure) :=
  [.arrive (.http ⟨none, .register (.obj
      [("email", .str email), ("password", .str password),
        ("confirmPassword", .str password)])⟩),
    .act 0 .deliver, .act 0 .send, .act 1 .deliver, .act 1 (.perform quiet),
    .act 1 (.perform quiet), .act 1 (.perform quiet), .act 1 (.perform quiet),
    .act 0 .answer]

private def exampleOf (role : Role) : Deployment :=
  sampleDeployment (.sample 1 "ripley@example.com" role)

private theorem registered_ripley :
    ((System.play
      (.start ⟨∅, sampleDatabases, [sampleEnv none (by simp)]⟩)
      (registrationMoves " Ripley@example.com" "nostromo") :
        Option (SystemTraffic (exampleOf .USER))).any fun traffic =>
          showsRegistered " Ripley@example.com" "nostromo" traffic && anHour traffic) =
      true := by
  decide +kernel

/-- An account is registered, and its owner can log in. -/
theorem owner_logs_in_example :
    ∃ (traffic : SystemTraffic
        (sampleDeployment (.sample 1 "ripley@example.com" .USER)))
      (config : AuthEnv _) (row : UserRow),
      LogsIn traffic.store 0 config row " Ripley@example.com" "nostromo"
        .USER := by
  obtain ⟨traffic, played, checked⟩ :=
    (Option.any_eq_true _ _).mp registered_ripley
  obtain ⟨registered, issues⟩ := Bool.and_eq_true_iff.mp checked
  obtain ⟨row, created⟩ := created_of_showsRegistered registered
  obtain ⟨config, takes, lifetime⟩ := (Option.any_eq_true _ _).mp issues
  obtain ⟨_, logsIn, registrable⟩ := owner_logs_in sample_compares
    accounts_empty (System.runs_of_play played) created (.refl traffic) takes
  obtain ⟨isEmail, short⟩ := registrable rfl
  have accepts : (exampleOf .USER).jwt.accepts config.JWT_EXPIRES_IN = true :=
    lifetime
  exact ⟨traffic, config, row, logsIn.mpr ⟨isEmail, short, accepts⟩⟩

/-- One character more than a login accepts. -/
private def tooLong : String := String.ofList (List.replicate 73 'a')

private def adminEnv : AuthEnv Validator.plain :=
  sampleEnv (some ("ripley@example.com", tooLong)) (by
    intro email password same
    cases same
    decide +kernel)

private theorem inserted_ripley :
    ((System.play (.start ⟨∅, sampleDatabases, []⟩)
      [.arrive (.start adminEnv), .act 0 .deliver, .act 0 (.perform quiet),
        .act 0 (.perform quiet), .act 0 (.perform quiet),
        .act 0 (.perform quiet)] :
        Option (SystemTraffic (exampleOf .ADMIN))).any fun traffic =>
          showsInserted "ripley@example.com" tooLong traffic && anHour traffic) =
      true := by
  decide +kernel

/-- The password of the administrator has 73 characters. -/
theorem admin_is_locked_out :
    ∃ (traffic : SystemTraffic
        (sampleDeployment (.sample 1 "ripley@example.com" .ADMIN)))
      (store : SystemStore _) (config : AuthEnv _) (row : UserRow),
      (∀ password rounds salt, Bcrypt.sample.compare password
          (Bcrypt.sample.hash password rounds salt) = true) ∧
        store.users = ∅ ∧
        (system (sampleDeployment
          (.sample 1 "ripley@example.com" .ADMIN))).Runs anyClients
            (.start store) traffic ∧
        Created traffic row "ripley@example.com"
          (String.ofList (List.replicate 73 'a')) .ADMIN ∧
        traffic.store.processes[0]? = some config ∧
        (sampleDeployment (.sample 1 "ripley@example.com" .ADMIN)).jwt.accepts
          config.JWT_EXPIRES_IN = true ∧
        ¬ LogsIn traffic.store 0 config row "ripley@example.com"
          (String.ofList (List.replicate 73 'a')) .ADMIN := by
  obtain ⟨traffic, played, checked⟩ :=
    (Option.any_eq_true _ _).mp inserted_ripley
  obtain ⟨inserted, issues⟩ := Bool.and_eq_true_iff.mp checked
  obtain ⟨row, created⟩ := created_of_showsInserted inserted
  obtain ⟨config, takes, lifetime⟩ := (Option.any_eq_true _ _).mp issues
  refine ⟨traffic, ⟨∅, sampleDatabases, []⟩, config, row, sample_compares, rfl,
    System.runs_of_play played, created, takes, lifetime, ?_⟩
  intro logsIn
  obtain ⟨accepted, _⟩ := logsIn none "ripley@example.com" rfl
  obtain ⟨_, _, short⟩ := acceptable_of_twice accepted
  have counted : Validator.plain.length tooLong = 73 := by decide +kernel
  have bounded : Validator.plain.length tooLong ≤ 72 := short
  rw [counted] at bounded
  norm_num at bounded

end Cinema.System
