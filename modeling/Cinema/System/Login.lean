import Cinema.Interleaving.Sequential
import Cinema.System.AuthHistory
import Cinema.System.Forwarding

/-!
# Logging in

A login that is served alone, from the body of the request to the token: what
the two pipes require of the credentials, and what the table and the process
contribute.
-/

namespace Cinema.System

open Interleaving Relational Shared Text Auth Catalog Orders Gateway

variable {deployment : Deployment}

/-- A process of the auth service takes the message, and nothing fails. -/
def TakenBy (process : Nat) (circumstances : Circumstances) : Prop :=
  circumstances.fault = none ∧ circumstances.process = process

theorem takenBy_calm (process : Nat) : TakenBy process ⟨calm 0, 0, process⟩ :=
  ⟨rfl, rfl⟩

/-- What the token of an account carries. -/
def accountClaims (row : UserRow) : Json :=
  .obj [("sub", .num row.id.val), ("email", .str row.email.val),
    ("role", .str row.role.value)]

/-- The answer to a login under the credentials of an account. -/
def loginAnswer (config : AuthEnv deployment.validator) (row : UserRow)
    (issuedAt : Nat) : Except Thrown SystemAnswer :=
  match deployment.jwt.sign config.JWT_SECRET config.JWT_EXPIRES_IN issuedAt
      (accountClaims row) with
  | some accessToken =>
      .ok (.auth (.token ⟨accessToken, "Bearer", config.JWT_EXPIRES_IN⟩))
  | none => .error .other

/-- Credentials that pass the pipes. -/
def Acceptable (validator : Validator) (email password : String) : Prop :=
  validator.isEmail email = true ∧ password ≠ "" ∧
    validator.length password ≤ 72

def loginRequest (authorization : Option String) (email password : String) :
    HttpRequest :=
  ⟨authorization, .login (LoginDto.body email password)⟩

/-! ## The calls -/

section Calls

variable {store : SystemStore deployment.validator} {process : Nat}
  {circumstances : Circumstances}

/-- The only account under an address is found by it. -/
theorem exec_matching_email
    (accounts : Accounts deployment.mapping store.users) {row : UserRow}
    (present : row ∈ store.users.rows) (healthy : circumstances.fault = none) :
    ∃ rows, exec deployment circumstances
        (.users (.matching (emailCriteria row.email.val))) store =
          (.ok rows, store) ∧ rows.head? = some row := by
  have accepted : ((emailCriteria row.email.val).reduceOption.map
      Criterion.parameter).findSome? Parameter.rejected = none := by
    simp [emailCriteria, Criterion.text, List.reduceOption, Parameter.rejected,
      row.email.clean]
  refine ⟨store.users.rows.filter (matchesAll (emailCriteria row.email.val)),
    ?_, ?_⟩
  · simp only [exec, execStatement, healthy, Schema.exec, accepted]
    rfl
  · cases first : (store.users.rows.filter
        (matchesAll (emailCriteria row.email.val))).head? with
    | none =>
        have nothing := List.filter_eq_nil_iff.mp
          (List.head?_eq_none_iff.mp first) row present
        exact absurd (matches_email.mpr rfl) nothing
    | some found =>
        obtain ⟨member, criteria⟩ := List.mem_filter.mp (List.mem_of_head? first)
        rw [accounts.eq_of_email member present (matches_email.mp criteria)]

theorem exec_process {config : AuthEnv deployment.validator}
    (takes : store.processes[process]? = some config)
    (taken : TakenBy process circumstances) :
    exec deployment circumstances .process store = (.ok config, store) := by
  simp only [exec, taken.2, takes]

end Calls

/-- A message that is served alone is answered alone. -/
theorem surely_forwarded {calm : Circumstances → Prop}
    {store : SystemStore deployment.validator} {message : ServiceMessage}
    {between : Except Thrown SystemAnswer → SystemStore deployment.validator →
      Prop}
    (served : (system deployment).Surely calm
      (handle deployment (.service message)) store between) :
    (system deployment).Surely calm (forwarded message) store
      fun outcome final => ∃ answer, between answer final ∧
        outcome = passOn message answer := by
  apply Network.surely_send rfl served
  intro answer middle holds
  change (system deployment).Surely calm
    (Program.resume _ (receive (.send message) answer)) middle _
  cases answer with
  | error thrown => exact Network.surely_fail ⟨_, holds, rfl⟩
  | ok answer =>
      simp only [receive]
      cases reply : answerOf message answer with
      | none =>
          refine Network.surely_fail ⟨_, holds, ?_⟩
          simp only [passOn, reply]
      | some value =>
          refine Network.surely_done ⟨_, holds, ?_⟩
          simp only [passOn, reply]

/-! ## The login -/

section Login

variable {store : SystemStore deployment.validator} {process : Nat}
  {config : AuthEnv deployment.validator} {row : UserRow}
  {email password : String}

private theorem surely_service
    (accounts : Accounts deployment.mapping store.users)
    (takes : store.processes[process]? = some config)
    (present : row ∈ store.users.rows)
    (isEmail : normalized deployment.mapping email = row.email.val)
    (acceptable : Acceptable deployment.validator row.email.val password)
    (isPassword : deployment.bcrypt.compare password row.passwordHash.val =
      true) :
    (system deployment).Surely (TakenBy process)
      (handle deployment
        (.service (.auth .LOGIN (LoginDto.body email password)))) store
      fun outcome final => final = store ∧ ∃ issuedAt,
        outcome = loginAnswer config row issuedAt := by
  rw [← isEmail] at acceptable
  obtain ⟨dto, valid, sameEmail, rfl⟩ := LoginDto.validate_body acceptable
  have possible : ∃ circumstances, TakenBy process circumstances :=
    ⟨_, takenBy_calm process⟩
  rw [handle_login valid]
  apply Network.surely_perform rfl possible
  intro moment taken
  have arrived : (system deployment).exec moment .process store = _ :=
    exec_process takes taken
  rw [arrived, Program.resume_ok, loggingIn, sameEmail, isEmail]
  apply Network.surely_perform rfl possible
  intro moment taken
  obtain ⟨rows, selected, first⟩ :=
    exec_matching_email accounts present taken.1
  have found : (system deployment).exec moment
    (.users (.matching (emailCriteria row.email.val))) store = _ := selected
  rw [found, Program.resume_ok, first]
  apply Network.surely_perform rfl possible
  intro moment _
  have compared : (system deployment).exec moment
      (.compare dto.password row.passwordHash.val) store =
        (.ok true, store) := by
    rw [← isPassword]
    rfl
  rw [compared, Program.resume_ok, signing, if_pos rfl]
  apply Network.surely_perform rfl possible
  intro moment _
  have executed : (system deployment).exec moment
      (.sign config.JWT_SECRET config.JWT_EXPIRES_IN
        (JwtPayload.ofUser row.hydrateSelected)) store =
      match deployment.jwt.sign config.JWT_SECRET config.JWT_EXPIRES_IN
          moment.now (accountClaims row) with
      | some token => (.ok token, store)
      | none => (.error .other, store) := rfl
  cases signed : deployment.jwt.sign config.JWT_SECRET config.JWT_EXPIRES_IN
      moment.now (accountClaims row) with
  | some accessToken =>
      rw [executed, signed]
      apply Network.surely_done
      refine ⟨rfl, moment.now, ?_⟩
      rw [loginAnswer, signed]
  | none =>
      rw [executed, signed]
      apply Network.surely_fail
      refine ⟨rfl, moment.now, ?_⟩
      rw [loginAnswer, signed]

theorem surely_login (accounts : Accounts deployment.mapping store.users)
    (takes : store.processes[process]? = some config)
    (present : row ∈ store.users.rows)
    (isEmail : normalized deployment.mapping email = row.email.val)
    (acceptable : Acceptable deployment.validator row.email.val password)
    (isPassword : deployment.bcrypt.compare password row.passwordHash.val =
      true) (authorization : Option String) :
    (system deployment).Surely (TakenBy process)
      (handle deployment (.http (loginRequest authorization email password)))
      store fun outcome final => final = store ∧ ∃ issuedAt,
        outcome = passOn (.auth .LOGIN (LoginDto.body row.email.val password))
          (loginAnswer config row issuedAt) := by
  have normalizes := acceptable
  rw [← isEmail] at normalizes
  obtain ⟨sent, valid, onward⟩ := LoginDto.validationPipe_body normalizes
  rw [handle_open (.login valid), onward, isEmail]
  have sameEmail :
      normalized deployment.mapping row.email.val = row.email.val :=
    accounts.normalized row present
  obtain ⟨ends, always⟩ := surely_forwarded
    (surely_service accounts takes present sameEmail acceptable isPassword)
  refine ⟨ends, ?_⟩
  intro outcome final alone
  obtain ⟨answer, ⟨rfl, issuedAt, rfl⟩, rfl⟩ := always outcome final alone
  exact ⟨rfl, issuedAt, rfl⟩

end Login

/-- A process whose time to live is a time span issues a token. -/
theorem loginAnswer_accepted {config : AuthEnv deployment.validator}
    (accepts : deployment.jwt.accepts config.JWT_EXPIRES_IN = true)
    {row : UserRow} {issuedAt : Nat} :
    ∃ accessToken,
      deployment.jwt.sign config.JWT_SECRET config.JWT_EXPIRES_IN issuedAt
          (accountClaims row) = some accessToken ∧
        loginAnswer config row issuedAt = .ok (.auth (.token
          ⟨accessToken, "Bearer", config.JWT_EXPIRES_IN⟩)) := by
  have issues : (deployment.jwt.sign config.JWT_SECRET config.JWT_EXPIRES_IN
      issuedAt (accountClaims row)).isSome = true := by
    rw [deployment.jwt.sign_isSome]
    exact accepts
  obtain ⟨accessToken, signed⟩ := Option.isSome_iff_exists.mp issues
  refine ⟨accessToken, signed, ?_⟩
  rw [loginAnswer, signed]

theorem forwards_login {body : Json} {user : Option AuthUser}
    {message : ServiceMessage}
    (forwards : Forwards deployment.validator deployment.mapping (.login body)
      user message) :
    ∃ dto, validationPipe deployment.validator
        (LoginDto.properties deployment.mapping) body = .ok dto ∧
      message = .auth .LOGIN (.obj dto.fields) := by
  cases forwards with
  | login valid => exact ⟨_, valid, rfl⟩

/-! ## A login in a run -/

/-- The environment of a process without an admin account, whose tokens are
valid for an hour. -/
def ordinary {validator : Validator} (config : AuthEnv validator) :
    AuthEnv validator where
  JWT_SECRET := config.JWT_SECRET
  JWT_EXPIRES_IN := "1h"
  ADMIN_EMAIL := none
  ADMIN_PASSWORD := none
  secretValid := config.secretValid
  expiresInValid := by
    simp [Property.violations_eq_nil, AuthEnv.expiresInProperty, Rule.check]
  adminEmailValid given := by cases given
  adminPasswordValid given := by cases given

section Run

variable {store : SystemStore deployment.validator}
  {traffic : SystemTraffic deployment}

private theorem starts (traffic : SystemTraffic deployment)
    (config : AuthEnv deployment.validator) :
    ∃ later, (system deployment).Runs anyClients traffic later ∧
      later.store = { traffic.store with
        processes := traffic.store.processes ++ [ordinary config] } := by
  have listens : (system deployment).Alone (fun _ => True)
      (handle deployment (.start (ordinary config))) traffic.store (.ok .started)
      { traffic.store with
        processes := traffic.store.processes ++ [ordinary config] } := by
    rw [handle_start_without_admin rfl]
    exact .performed ⟨calm 0, 0, 0⟩ trivial rfl (.done _ _)
  have admitted : anyClients traffic (.start (ordinary config)) := trivial
  obtain ⟨later, _, runs, final, _⟩ := Network.Alone.message admitted listens
  exact ⟨later, runs, final⟩

/-- From any state on somebody may log in to an account. -/
theorem login_happens (initial : Accounts deployment.mapping store.users)
    (runs : (system deployment).Runs anyClients (.start store) traffic)
    (anHour : deployment.jwt.accepts "1h" = true)
    (config : AuthEnv deployment.validator)
    {row : UserRow} (present : row ∈ traffic.store.users.rows)
    {password : String}
    (acceptable : Acceptable deployment.validator row.email.val password)
    (isPassword : deployment.bcrypt.compare password row.passwordHash.val =
      true) :
    ∃ later job answer, (system deployment).Runs anyClients traffic later ∧
      job ∈ later.jobs ∧
      job.message =
        .service (.auth .LOGIN (LoginDto.body row.email.val password)) ∧
      job.outcome = some (.ok answer) := by
  obtain ⟨running, onward, isStore⟩ := starts traffic config
  have accounts : Accounts deployment.mapping running.store.users :=
    initial.of_runs (runs.trans onward)
  have stays : row ∈ running.store.users.rows := by
    rw [isStore]
    exact present
  have takes : running.store.processes[traffic.store.processes.length]? =
      some (ordinary config) := by
    rw [isStore]
    simp
  have sameEmail :
      normalized deployment.mapping row.email.val = row.email.val :=
    accounts.normalized row stays
  obtain ⟨⟨outcome, final, alone⟩, always⟩ := surely_login accounts takes stays
    sameEmail acceptable isPassword none
  obtain ⟨_, issuedAt, isOutcome⟩ := always outcome final alone
  have admitted : anyClients running
      (.http (loginRequest none row.email.val password)) := trivial
  obtain ⟨later, job, served, _, found, isRequest, ends⟩ :=
    Network.Alone.message admitted alone
  have whole := (runs.trans onward).trans served
  obtain ⟨accessToken, _, granted⟩ :=
    @loginAnswer_accepted deployment (ordinary config) anHour row issuedAt
  rw [isOutcome, granted] at ends
  have traced := Network.Runs.traced Network.traced_start whole job
    (List.mem_of_getElem? found)
  obtain ⟨user, message, login, reply, _, forwards, member, isMessage, succeeds,
    _⟩ := answered_of_ok traced isRequest ends
  have normalizes : Acceptable deployment.validator
      (normalized deployment.mapping row.email.val) password := by
    rw [sameEmail]
    exact acceptable
  obtain ⟨sent, valid, isBody⟩ := LoginDto.validationPipe_body normalizes
  obtain ⟨accepted, again, rfl⟩ := forwards_login forwards
  rw [valid] at again
  cases again
  rw [isBody, sameEmail] at isMessage
  exact ⟨later, login, reply, onward.trans served, member, isMessage, succeeds⟩

end Run

end Cinema.System
