import Cinema.System.Accounts
import Cinema.System.AuthHandlers

/-!
# What the auth service has done for a message

A registration or a login that has been answered has made all of its calls,
and the results of these calls say what the table holds.
-/

namespace Cinema.System

open Interleaving Relational Shared Text Auth Catalog Orders Gateway

variable {deployment : Deployment}

/-- The handler has made the call and has got the reply. -/
def Made (job : SystemJob deployment) (call : SystemCall deployment.validator)
    (reply : SystemReply call) : Prop :=
  ∃ circumstances, (⟨call, .ok reply, .performed circumstances⟩ :
    SystemExchange deployment) ∈ job.calls

/-- The credentials and the role of the account that a message creates. -/
inductive Creates (deployment : Deployment) :
    SystemMessage deployment.validator → String → String → Role → Prop where
  | register {payload}
      {dto : RegisterDto deployment.validator deployment.mapping}
      (valid : RegisterDto.validate deployment.validator deployment.mapping
        payload = .ok dto)
      (confirmed : dto.password = dto.confirmPassword) :
      Creates deployment (.service (.auth .REGISTER payload)) dto.email
        dto.password .USER
  | start {config email password}
      (admin : config.admin = some (email, password)) :
      Creates deployment (.start config)
        (normalized deployment.mapping email) password .ADMIN

section Histories

variable {history : List (SystemExchange deployment)}
  {rest : AuthProgram deployment} {exchange : SystemExchange deployment}
  {user : User}

/-- A password has been hashed. -/
def Hashed (history : List (SystemExchange deployment))
    (password passwordHash : String) : Prop :=
  ∃ means, (⟨.hash password BCRYPT_SALT_ROUNDS, .ok passwordHash, means⟩ :
    SystemExchange deployment) ∈ history

/-- An insertion comes after the hash of the password. -/
private theorem creating_inserts {email password : String} {role : Role}
    {finish : PublicUser → AuthProgram deployment}
    (quiet : ∀ user, (finish user).Uses fun call =>
      ∀ other, call ≠ .users (.insert other))
    (reached : Program.Reaches (creating email password role finish) history
      rest)
    (made : exchange ∈ history)
    (inserts : exchange.call = .users (.insert user)) :
    ∃ passwordHash, user = User.create email passwordHash role ∧
      Hashed history password passwordHash := by
  rcases reached.mem_of_call made with
    isHash | ⟨passwordHash, means, later, rfl, onward, since⟩
  · rw [isHash] at inserts
    cases inserts
  rcases onward.mem_of_call since with
    isInsert | ⟨row, _, last, rfl, finished, last⟩
  · rw [isInsert] at inserts
    cases inserts
    exact ⟨passwordHash, rfl, means, List.mem_cons_self⟩
  · exact absurd inserts ((finished.uses (quiet _)).2 exchange last user)

private theorem register_inserts {payload : Json}
    (reached : Program.Reaches
      (handle deployment (.service (.auth .REGISTER payload))) history rest)
    (made : exchange ∈ history)
    (inserts : exchange.call = .users (.insert user)) :
    ∃ email password passwordHash,
      Creates deployment (.service (.auth .REGISTER payload)) email password
          .USER ∧
        user = User.create email passwordHash .USER ∧
        Hashed history password passwordHash := by
  cases validated : RegisterDto.validate deployment.validator
      deployment.mapping payload with
  | error thrown =>
      rw [handle_refused (.auth .REGISTER _) validated] at reached
      rcases reached.mem_of_call made with
        isProcess | ⟨_, _, later, _, onward, since⟩
      · rw [isProcess] at inserts
        cases inserts
      · obtain ⟨rfl, _⟩ := onward.of_fail
        cases since
  | ok dto =>
      rw [handle_register validated] at reached
      rcases reached.mem_of_call made with
        isProcess | ⟨_, _, later, rfl, onward, since⟩
      · rw [isProcess] at inserts
        cases inserts
      unfold registering at onward
      by_cases differ : dto.password ≠ dto.confirmPassword
      · rw [if_pos differ] at onward
        obtain ⟨rfl, _⟩ := onward.of_fail
        cases since
      rw [if_neg differ] at onward
      rcases onward.mem_of_call since with
        isSelect | ⟨rows, _, last, rfl, onward, last⟩
      · rw [isSelect] at inserts
        cases inserts
      cases rows with
      | cons row rows =>
          obtain ⟨rfl, _⟩ := onward.of_fail
          cases last
      | nil =>
          have quiet : ∀ user, (.done (.auth (.user user)) :
              AuthProgram deployment).Uses fun call =>
                ∀ other, call ≠ .users (.insert other) := fun user => trivial
          obtain ⟨passwordHash, isUser, means, hashed⟩ :=
            creating_inserts quiet onward last inserts
          exact ⟨dto.email, dto.password, passwordHash,
            .register validated (not_ne_iff.mp differ), isUser, means,
            List.mem_cons_of_mem _ (List.mem_cons_of_mem _ hashed)⟩

private theorem start_inserts {config : AuthEnv deployment.validator}
    (reached : Program.Reaches (handle deployment (.start config)) history rest)
    (made : exchange ∈ history)
    (inserts : exchange.call = .users (.insert user)) :
    ∃ email password passwordHash,
      Creates deployment (.start config) email password .ADMIN ∧
        user = User.create email passwordHash .ADMIN ∧
        Hashed history password passwordHash := by
  have quiet : (listening config : AuthProgram deployment).Uses fun call =>
      ∀ other, call ≠ .users (.insert other) :=
    ⟨fun other same => (by cases same), fun _ => trivial⟩
  cases admin : config.admin with
  | none =>
      rw [handle_start_without_admin admin] at reached
      exact absurd inserts ((reached.uses quiet).2 exchange made user)
  | some account =>
      obtain ⟨email, password⟩ := account
      rw [handle_start admin] at reached
      rcases reached.mem_of_call made with
        isSelect | ⟨rows, _, later, rfl, onward, since⟩
      · rw [isSelect] at inserts
        cases inserts
      cases rows with
      | cons row rows =>
          exact absurd inserts ((onward.uses quiet).2 exchange since user)
      | nil =>
          obtain ⟨passwordHash, isUser, means, hashed⟩ :=
            creating_inserts (fun _ => quiet) onward since inserts
          exact ⟨_, password, passwordHash, .start admin, isUser, means,
            List.mem_cons_of_mem _ hashed⟩

end Histories

section Jobs

variable {traffic : SystemTraffic deployment} {job : SystemJob deployment}

private theorem made_of_mem (traced : (system deployment).Traced traffic job)
    {call : SystemCall deployment.validator} {reply : SystemReply call}
    {means : Means Circumstances ClientFailure}
    (isLocal : remote call = none)
    (member : (⟨call, .ok reply, means⟩ : SystemExchange deployment) ∈
      job.calls) : Made job call reply := by
  obtain ⟨circumstances, isMeans⟩ := (traced.meant _ member).performed isLocal
  cases isMeans
  exact ⟨circumstances, member⟩

theorem register_answered (traced : (system deployment).Traced traffic job)
    {payload : Json} {answer : SystemAnswer}
    (isRegister : job.message = .service (.auth .REGISTER payload))
    (succeeds : job.outcome = some (.ok answer)) :
    ∃ dto config passwordHash row,
      RegisterDto.validate deployment.validator deployment.mapping payload =
          .ok dto ∧
        Made job .process config ∧
        Made job (.hash dto.password BCRYPT_SALT_ROUNDS) passwordHash ∧
        Made job (.users (.insert (User.create dto.email passwordHash .USER)))
          row ∧
        answer = .auth (.user (AuthService.toPublicUser (UserRow.refresh
          (User.create dto.email passwordHash .USER) row))) := by
  obtain ⟨rest, reached, ends⟩ := ended_handler traced isRegister succeeds
  cases validated : RegisterDto.validate deployment.validator
      deployment.mapping payload with
  | error thrown =>
      rw [handle_refused (.auth .REGISTER _) validated] at reached
      obtain ⟨_, _, _, _, onward⟩ := reached.answered ends
      obtain ⟨_, rfl⟩ := onward.of_fail
      cases ends
  | ok dto =>
      rw [handle_register validated] at reached
      obtain ⟨config, atProcess, _, calls, onward⟩ :=
        traced.answered (List.nil_append _).symm rfl reached ends
      unfold registering at onward
      by_cases differ : dto.password ≠ dto.confirmPassword
      · rw [if_pos differ] at onward
        obtain ⟨_, rfl⟩ := onward.of_fail
        cases ends
      rw [if_neg differ] at onward
      obtain ⟨rows, _, _, calls, selected⟩ :=
        traced.answered calls rfl onward ends
      cases rows with
      | cons row rows =>
          obtain ⟨_, rfl⟩ := selected.of_fail
          cases ends
      | nil =>
          obtain ⟨passwordHash, atHash, _, calls, hashed⟩ :=
            traced.answered calls rfl selected ends
          obtain ⟨row, atInsert, _, calls, inserted⟩ :=
            traced.answered calls rfl hashed ends
          obtain ⟨_, rfl⟩ := inserted.of_done
          cases ends
          refine ⟨dto, config, passwordHash, row, rfl, ⟨atProcess, ?_⟩,
            ⟨atHash, ?_⟩, ⟨atInsert, ?_⟩, rfl⟩
          · simp [calls]
          · simp [calls]
          · simp [calls]

theorem login_answered (traced : (system deployment).Traced traffic job)
    {payload : Json} {answer : SystemAnswer}
    (isLogin : job.message = .service (.auth .LOGIN payload))
    (succeeds : job.outcome = some (.ok answer)) :
    ∃ dto config rows row accessToken,
      LoginDto.validate deployment.validator deployment.mapping payload =
          .ok dto ∧
        Made job .process config ∧
        Made job (.users (.matching (emailCriteria dto.email))) rows ∧
        rows.head? = some row ∧
        Made job (.compare dto.password row.passwordHash.val) true ∧
        Made job (.sign config.JWT_SECRET config.JWT_EXPIRES_IN
          (JwtPayload.ofUser row.hydrateSelected)) accessToken ∧
        answer = .auth (.token
          ⟨accessToken, "Bearer", config.JWT_EXPIRES_IN⟩) := by
  obtain ⟨rest, reached, ends⟩ := ended_handler traced isLogin succeeds
  cases validated : LoginDto.validate deployment.validator
      deployment.mapping payload with
  | error thrown =>
      rw [handle_refused (.auth .LOGIN _) validated] at reached
      obtain ⟨_, _, _, _, onward⟩ := reached.answered ends
      obtain ⟨_, rfl⟩ := onward.of_fail
      cases ends
  | ok dto =>
      rw [handle_login validated] at reached
      obtain ⟨config, atProcess, _, calls, onward⟩ :=
        traced.answered (List.nil_append _).symm rfl reached ends
      obtain ⟨rows, atSelect, _, calls, selected⟩ :=
        traced.answered calls rfl onward ends
      cases first : rows.head? with
      | none =>
          rw [first] at selected
          obtain ⟨_, rfl⟩ := selected.of_fail
          cases ends
      | some row =>
          rw [first] at selected
          obtain ⟨passwordMatches, atCompare, _, calls, compared⟩ :=
            traced.answered calls rfl selected ends
          cases passwordMatches with
          | false =>
              obtain ⟨_, rfl⟩ := compared.of_fail
              cases ends
          | true =>
              obtain ⟨accessToken, atSign, _, calls, signed⟩ :=
                traced.answered calls rfl compared ends
              obtain ⟨_, rfl⟩ := signed.of_done
              cases ends
              refine ⟨dto, config, rows, row, accessToken, rfl,
                ⟨atProcess, ?_⟩, ⟨atSelect, ?_⟩, first, ⟨atCompare, ?_⟩,
                ⟨atSign, ?_⟩, rfl⟩
              · simp [calls]
              · simp [calls]
              · simp [calls]
              · simp [calls]

/-- Whoever inserts an account has hashed the password of its credentials. -/
theorem inserts_history (traced : (system deployment).Traced traffic job)
    {exchange : SystemExchange deployment} (made : exchange ∈ job.calls)
    {user : User} (inserts : exchange.call = .users (.insert user)) :
    ∃ email password role passwordHash,
      Creates deployment job.message email password role ∧
        user = User.create email passwordHash role ∧
        Made job (.hash password BCRYPT_SALT_ROUNDS) passwordHash := by
  have permitted : Permitted job.message exchange.call :=
    traced.allowed_call accounts_sound made
  rw [inserts] at permitted
  obtain ⟨_, _, role, _, _, source⟩ := permitted
  cases pending : job.program with
  | none =>
      rw [(traced.travels pending).1] at made
      cases made
  | some rest =>
      have reached : Program.Reaches (handle deployment job.message) job.calls
          rest := traced.reached rest pending
      cases role with
      | USER =>
          obtain ⟨payload, isMessage⟩ := source
          rw [isMessage] at reached ⊢
          obtain ⟨email, password, passwordHash, creates, isUser, _, hashed⟩ :=
            register_inserts reached made inserts
          exact ⟨email, password, .USER, passwordHash, creates, isUser,
            made_of_mem traced rfl hashed⟩
      | ADMIN =>
          obtain ⟨config, isMessage⟩ := source
          rw [isMessage] at reached ⊢
          obtain ⟨email, password, passwordHash, creates, isUser, _, hashed⟩ :=
            start_inserts reached made inserts
          exact ⟨email, password, .ADMIN, passwordHash, creates, isUser,
            made_of_mem traced rfl hashed⟩

end Jobs

/-! ## What the table holds -/

/-- A row under the address, with the role and a hash of the password. -/
structure AccountOf (deployment : Deployment) (email password : String)
    (role : Role) (row : UserRow) : Prop where
  email : row.email.val = email
  role : row.role = role
  passwordHash : ∃ salt, row.passwordHash.val =
    deployment.bcrypt.hash password BCRYPT_SALT_ROUNDS salt

section Runs

variable {store : SystemStore deployment.validator}
  {traffic : SystemTraffic deployment} {job : SystemJob deployment}
  {admits : SystemTraffic deployment → SystemMessage deployment.validator → Prop}

theorem Accounts.of_runs (initial : Accounts deployment.mapping store.users)
    (runs : (system deployment).Runs admits (.start store) traffic) :
    Accounts deployment.mapping traffic.store.users :=
  (runs.holds accounts_sound Network.traced_start initial).1.inv

theorem account_stays (initial : Accounts deployment.mapping store.users)
    (runs : (system deployment).Runs admits (.start store) traffic)
    {later : SystemTraffic deployment}
    (onward : (system deployment).Runs admits traffic later) {row : UserRow}
    (present : row ∈ traffic.store.users.rows) :
    row ∈ later.store.users.rows := by
  have traced := Network.Runs.traced Network.traced_start runs
  obtain ⟨_, grows, _⟩ :=
    onward.holds accounts_sound traced (initial.of_runs runs)
  exact grows.subset present

theorem recorded_of_mem (initial : Accounts deployment.mapping store.users)
    (runs : (system deployment).Runs admits (.start store) traffic)
    (member : job ∈ traffic.jobs) {call : SystemCall deployment.validator}
    {result : Except Thrown (SystemReply call)} {circumstances : Circumstances}
    (made : (⟨call, result, .performed circumstances⟩ :
      SystemExchange deployment) ∈ job.calls) :
    Recorded circumstances call result traffic.store := by
  obtain ⟨index, found⟩ := List.getElem?_of_mem member
  have holds := (runs.holds accounts_sound Network.traced_start initial).1
  exact holds.recorded index job (Nat.zero_le index) found call result
    circumstances made

theorem Made.recorded (initial : Accounts deployment.mapping store.users)
    (runs : (system deployment).Runs admits (.start store) traffic)
    (member : job ∈ traffic.jobs) {call : SystemCall deployment.validator}
    {reply : SystemReply call} (made : Made job call reply) :
    ∃ circumstances, Recorded circumstances call (.ok reply) traffic.store := by
  obtain ⟨circumstances, isMade⟩ := made
  exact ⟨circumstances, recorded_of_mem initial runs member isMade⟩

/-- An inserted row is the account of the credentials. -/
theorem Made.account (initial : Accounts deployment.mapping store.users)
    (runs : (system deployment).Runs admits (.start store) traffic)
    (member : job ∈ traffic.jobs) {email password passwordHash : String}
    {role : Role} {row : UserRow}
    (hashed : Made job (.hash password BCRYPT_SALT_ROUNDS) passwordHash)
    (inserted : Made job
      (.users (.insert (User.create email passwordHash role))) row) :
    row ∈ traffic.store.users.rows ∧ AccountOf deployment email password role
      row := by
  obtain ⟨circumstances, isHash⟩ := hashed.recorded initial runs member
  obtain ⟨_, present, id, now, built⟩ := inserted.recorded initial runs member
  obtain ⟨_, isEmail, isPasswordHash, isRole, _⟩ := UserRow.build_eq_ok built
  have same : passwordHash =
      deployment.bcrypt.hash password BCRYPT_SALT_ROUNDS circumstances.salt :=
    isHash
  refine ⟨present, (Option.some.inj isEmail).symm, isRole, circumstances.salt,
    ?_⟩
  rw [← same, Option.some.inj isPasswordHash]

theorem created_account (initial : Accounts deployment.mapping store.users)
    (runs : (system deployment).Runs admits (.start store) traffic)
    (member : job ∈ traffic.jobs) {user : User} {row : UserRow}
    (inserted : Made job (.users (.insert user)) row) :
    row ∈ traffic.store.users.rows ∧ ∃ email password role,
      Creates deployment job.message email password role ∧
        AccountOf deployment email password role row := by
  have traced := Network.Runs.traced Network.traced_start runs job member
  have made := inserted
  obtain ⟨circumstances, isMade⟩ := made
  obtain ⟨email, password, role, passwordHash, creates, rfl, hashed⟩ :=
    inserts_history traced isMade rfl
  obtain ⟨present, account⟩ := hashed.account initial runs member inserted
  exact ⟨present, email, password, role, creates, account⟩

theorem registered_account (initial : Accounts deployment.mapping store.users)
    (runs : (system deployment).Runs admits (.start store) traffic)
    (member : job ∈ traffic.jobs) {payload : Json} {answer : SystemAnswer}
    {dto : RegisterDto deployment.validator deployment.mapping}
    (isRegister : job.message = .service (.auth .REGISTER payload))
    (valid : RegisterDto.validate deployment.validator deployment.mapping
      payload = .ok dto)
    (succeeds : job.outcome = some (.ok answer)) :
    ∃ row ∈ traffic.store.users.rows,
      AccountOf deployment dto.email dto.password .USER row ∧
        ∃ config, Made job .process config := by
  have traced := Network.Runs.traced Network.traced_start runs job member
  obtain ⟨same, config, passwordHash, row, isValid, process, hashed, inserted,
    _⟩ := register_answered traced isRegister succeeds
  rw [valid] at isValid
  cases isValid
  obtain ⟨present, account⟩ := hashed.account initial runs member inserted
  exact ⟨row, present, account, config, process⟩

/-- A login that has succeeded: the account, the process and the token. -/
theorem authenticated_account
    (initial : Accounts deployment.mapping store.users)
    (runs : (system deployment).Runs admits (.start store) traffic)
    (member : job ∈ traffic.jobs) {payload : Json} {answer : SystemAnswer}
    (isLogin : job.message = .service (.auth .LOGIN payload))
    (succeeds : job.outcome = some (.ok answer)) :
    ∃ dto row config issuedAt accessToken,
      LoginDto.validate deployment.validator deployment.mapping payload =
          .ok dto ∧
        row ∈ traffic.store.users.rows ∧ row.email.val = dto.email ∧
        deployment.bcrypt.compare dto.password row.passwordHash.val = true ∧
        config ∈ traffic.store.processes ∧
        deployment.jwt.sign config.JWT_SECRET config.JWT_EXPIRES_IN issuedAt
          (JwtPayload.ofUser row.hydrateSelected) = some accessToken ∧
        answer = .auth (.token
          ⟨accessToken, "Bearer", config.JWT_EXPIRES_IN⟩) := by
  have traced := Network.Runs.traced Network.traced_start runs job member
  obtain ⟨dto, config, rows, row, accessToken, valid, process, selected, first,
    compared, signed, isAnswer⟩ := login_answered traced isLogin succeeds
  obtain ⟨_, listens⟩ := process.recorded initial runs member
  obtain ⟨_, shown⟩ := selected.recorded initial runs member
  obtain ⟨_, matched⟩ := compared.recorded initial runs member
  obtain ⟨circumstances, isToken⟩ := signed.recorded initial runs member
  obtain ⟨present, criteria⟩ := shown row (List.mem_of_head? first)
  exact ⟨dto, row, config, circumstances.now, accessToken, valid, present,
    matches_email.mp criteria, Eq.symm matched, listens, isToken, isAnswer⟩

end Runs

end Cinema.System
