import Cinema.Interleaving.Coupling
import Cinema.System.AuthHandlers
import Cinema.System.Forwarding

/-!
# Password hashes stay in the database

Two runs of the services over the same schedule, in which passwords are hashed
differently but every comparison comes out the same.  What the handlers read
and write of an account is the same up to its hash, and no answer and no error
shows more than that.
-/

namespace Cinema.System

open Interleaving Relational Shared Text Auth Catalog Orders Gateway

variable {deployment : Deployment} {validator : Validator}

/-! ## The same up to hashes -/

/-- Two rows that differ in the hash at most. -/
structure SameAccount (row other : UserRow) : Prop where
  id : row.id = other.id
  email : row.email = other.email
  role : row.role = other.role
  createdAt : row.createdAt = other.createdAt
  updatedAt : row.updatedAt = other.updatedAt

/-- Errors that differ in the parameters of the failed statement at most. -/
inductive SameError : Thrown → Thrown → Prop where
  | same (thrown : Thrown) : SameError thrown thrown
  | queryFailed (code : String) (parameters others : List Json) :
      SameError (.queryFailed code parameters) (.queryFailed code others)

def SameFault : Option Thrown → Option Thrown → Prop
  | none, none => True
  | some thrown, some twin => SameError thrown twin
  | _, _ => False

/-- The same clock and the same failures; salts may differ. -/
structure SameCircumstances (circumstances twin : Circumstances) : Prop where
  now : circumstances.now = twin.now
  process : circumstances.process = twin.process
  fault : SameFault circumstances.fault twin.fault

structure SameUsers (users others : UserTable) : Prop where
  rows : List.Forall₂ SameAccount users.rows others.rows
  nextId : users.nextId = others.nextId

structure SameStore (store other : SystemStore validator) : Prop where
  users : SameUsers store.users other.users
  databases : store.databases = other.databases
  processes : store.processes = other.processes

/-- Calls that have nothing to do with hashes. -/
def Plain : SystemCall validator → Prop
  | .users _ | .hash _ _ | .compare _ _ => False
  | _ => True

/-- A text that a column accepts. -/
def Clean (text : String) : Prop := '\x00' ∉ text.toList

inductive SameCall : SystemCall validator → SystemCall validator → Prop where
  | plain {call : SystemCall validator} (isPlain : Plain call) :
      SameCall call call
  | select (parameters : List Parameter) {condition other : UserRow → Bool}
      (same : ∀ row twin, SameAccount row twin →
        condition row = other twin) :
      SameCall (.users (.select parameters condition))
        (.users (.select parameters other))
  | insert (email : String) (role : Role) {passwordHash other : String}
      (clean : Clean passwordHash) (otherClean : Clean other) :
      SameCall (.users (.insert (User.create email passwordHash role)))
        (.users (.insert (User.create email other role)))
  | hash (password : String) (rounds : Nat) :
      SameCall (.hash password rounds) (.hash password rounds)
  | compare (password passwordHash other : String) :
      SameCall (.compare password passwordHash) (.compare password other)

inductive SameReply : (call other : SystemCall validator) →
    SystemReply call → SystemReply other → Prop where
  | plain {call : SystemCall validator} (isPlain : Plain call)
      (reply : SystemReply call) : SameReply call call reply reply
  | select {parameters others : List Parameter}
      {condition other : UserRow → Bool} {rows twins : List UserRow}
      (same : List.Forall₂ SameAccount rows twins) :
      SameReply (.users (.select parameters condition))
        (.users (.select others other)) rows twins
  | insert {user other : User} {row twin : UserRow}
      (same : SameAccount row twin) :
      SameReply (.users (.insert user)) (.users (.insert other)) row twin
  | hash {password other : String} {rounds times : Nat}
      {passwordHash twin : String} (clean : Clean passwordHash)
      (twinClean : Clean twin) :
      SameReply (.hash password rounds) (.hash other times) passwordHash twin
  | compare {password passwordHash other twin : String}
      (passwordMatches : Bool) :
      SameReply (.compare password passwordHash) (.compare other twin)
        passwordMatches passwordMatches

/-- The correspondence of the two runs. -/
def upToHashes (validator : Validator) :
    Coupling (SystemStore validator) Circumstances (SystemCall validator)
      SystemReply Thrown where
  stores := SameStore
  envs := SameCircumstances
  calls := SameCall
  replies := SameReply
  errors := SameError

/-- The comparison of a password comes out the same. -/
def SameComparison : SystemExchange deployment → SystemExchange deployment →
    Prop
  | ⟨.compare _ _, result, _⟩, ⟨.compare _ _, other, _⟩ => result = other
  | _, _ => True

/-! ## What the handlers do -/

section Handlers

/-- Programs that do the same up to hashes. -/
abbrev SamePrograms (program other : SystemProgram deployment) : Prop :=
  (upToHashes deployment.validator).Programs program other

private theorem same_fail (thrown : Thrown) :
    SamePrograms (.fail thrown : SystemProgram deployment) (.fail thrown) :=
  .fail (.same thrown)

private theorem same_plain {call : SystemCall deployment.validator}
    (isPlain : Plain call)
    {next onward : SystemReply call → SystemProgram deployment}
    (rest : ∀ reply, SamePrograms (next reply) (onward reply)) :
    SamePrograms (.call call next) (.call call onward) := by
  refine .call (.plain isPlain) ?_
  intro reply other same
  cases same with
  | plain _ reply => exact rest reply
  | select same => cases isPlain
  | insert same => cases isPlain
  | hash clean twinClean => cases isPlain
  | compare passwordMatches => cases isPlain

/-- A program that has nothing to do with hashes. -/
private theorem same_of_uses {program : SystemProgram deployment}
    (uses : program.Uses Plain) : SamePrograms program program := by
  induction program with
  | done value => exact .done value
  | fail thrown => exact same_fail thrown
  | call call next induction =>
      exact same_plain uses.1 fun reply => induction reply (uses.2 reply)

private theorem same_select {criteria : List (Option (Criterion UserRow))}
    (same : ∀ row twin, SameAccount row twin →
      matchesAll criteria row = matchesAll criteria twin)
    {next onward : List UserRow → SystemProgram deployment}
    (rest : ∀ rows twins, List.Forall₂ SameAccount rows twins →
      SamePrograms (next rows) (onward twins)) :
    SamePrograms (.call (.users (.matching criteria)) next)
      (.call (.users (.matching criteria)) onward) := by
  refine .call (.select _ same) ?_
  intro rows twins replies
  cases replies with
  | plain isPlain _ => cases isPlain
  | select same => exact rest rows twins same

private theorem same_email (email : String) (row twin : UserRow)
    (same : SameAccount row twin) :
    matchesAll (emailCriteria email) row =
      matchesAll (emailCriteria email) twin := by
  simp [matchesAll, emailCriteria, Criterion.text, List.reduceOption,
    same.email]

private theorem same_id (userId : ℤ) (row twin : UserRow)
    (same : SameAccount row twin) :
    matchesAll (accountCriteria userId) row =
      matchesAll (accountCriteria userId) twin := by
  simp [matchesAll, accountCriteria, Criterion.integer, List.reduceOption,
    same.id]

/-- The public view of a new account does not depend on its hash. -/
private theorem same_creating {email password : String} {role : Role}
    {finish : PublicUser → SystemProgram deployment}
    (rest : ∀ user, SamePrograms (finish user) (finish user)) :
    SamePrograms (creating email password role finish)
      (creating email password role finish) := by
  refine .call (.hash password BCRYPT_SALT_ROUNDS) ?_
  intro passwordHash twin replies
  cases replies with
  | plain isPlain _ => cases isPlain
  | hash clean twinClean =>
      refine .call (.insert email role clean twinClean) ?_
      intro row other replies
      cases replies with
      | plain isPlain _ => cases isPlain
      | insert same =>
          have sameUser : AuthService.toPublicUser
              (UserRow.refresh (User.create email passwordHash role) row) =
              AuthService.toPublicUser
                (UserRow.refresh (User.create email twin role) other) := by
            simp [AuthService.toPublicUser, UserRow.refresh, User.create,
              same.id, same.createdAt]
          rw [sameUser]
          exact rest _

private theorem same_registering
    (dto : RegisterDto deployment.validator deployment.mapping) :
    SamePrograms (registering dto) (registering dto) := by
  unfold registering
  split
  · exact same_fail _
  · refine same_select (same_email dto.email) fun rows twins same => ?_
    cases same with
    | nil =>
        simp only [List.isEmpty_nil, if_true]
        exact same_creating fun user => .done _
    | cons head tail => exact same_fail _

private theorem same_compare {password passwordHash other : String}
    {next onward : Bool → SystemProgram deployment}
    (rest : ∀ passwordMatches,
      SamePrograms (next passwordMatches) (onward passwordMatches)) :
    SamePrograms (.call (.compare password passwordHash) next)
      (.call (.compare password other) onward) := by
  refine .call (.compare password passwordHash other) ?_
  intro passwordMatches same replies
  cases replies with
  | plain isPlain _ => cases isPlain
  | compare passwordMatches => exact rest passwordMatches

/-- The claims of a token do not contain the hash. -/
private theorem same_signing (config : AuthEnv deployment.validator)
    {row twin : UserRow} (same : SameAccount row twin)
    (passwordMatches : Bool) :
    SamePrograms (signing config row passwordMatches)
      (signing config twin passwordMatches) := by
  have sameClaims : JwtPayload.ofUser row.hydrateSelected =
      JwtPayload.ofUser twin.hydrateSelected := by
    simp [JwtPayload.ofUser, UserRow.hydrateSelected, UserRow.hydrate, same.id,
      same.email, same.role]
  unfold signing
  rw [sameClaims]
  cases passwordMatches with
  | false => exact same_fail _
  | true => exact same_plain (by trivial) fun token => .done _

private theorem same_loggingIn (config : AuthEnv deployment.validator)
    (dto : LoginDto deployment.validator deployment.mapping) :
    SamePrograms (loggingIn config dto) (loggingIn config dto) := by
  refine same_select (same_email dto.email) fun rows twins same => ?_
  cases same with
  | nil => exact same_fail _
  | @cons row twin rows twins head tail =>
      exact same_compare (same_signing config head)

private theorem same_start (config : AuthEnv deployment.validator) :
    SamePrograms (handle deployment (.start config))
      (handle deployment (.start config)) := by
  have listens : SamePrograms (listening config : SystemProgram deployment)
      (listening config) := same_plain (by trivial) fun _ => .done _
  cases admin : config.admin with
  | none =>
      rw [handle_start_without_admin admin]
      exact listens
  | some account =>
      obtain ⟨email, password⟩ := account
      rw [handle_start admin]
      refine same_select (same_email _) fun rows twins same => ?_
      cases same with
      | nil =>
          simp only [List.isEmpty_nil, if_true]
          exact same_creating fun user => listens
      | cons head tail => exact listens

private theorem same_auth (pattern : AuthPatterns) (payload : Json) :
    SamePrograms (handle deployment (.service (.auth pattern payload)))
      (handle deployment (.service (.auth pattern payload))) := by
  cases pattern with
  | REGISTER =>
      cases valid : RegisterDto.validate deployment.validator deployment.mapping
          payload with
      | error thrown =>
          rw [handle_refused (.auth .REGISTER _) valid]
          exact same_plain (by trivial) fun _ => same_fail thrown
      | ok dto =>
          rw [handle_register valid]
          exact same_plain (by trivial) fun _ => same_registering dto
  | LOGIN =>
      cases valid : LoginDto.validate deployment.validator deployment.mapping
          payload with
      | error thrown =>
          rw [handle_refused (.auth .LOGIN _) valid]
          exact same_plain (by trivial) fun _ => same_fail thrown
      | ok dto =>
          rw [handle_login valid]
          exact same_plain (by trivial) fun config => same_loggingIn config dto
  | GET_PROFILE =>
      cases valid : UserIdPayload.validate deployment.validator payload with
      | error thrown =>
          rw [handle_refused (.auth .GET_PROFILE _) valid]
          exact same_plain (by trivial) fun _ => same_fail thrown
      | ok dto =>
          rw [handle_getProfile valid]
          refine same_plain (by trivial) fun _ => ?_
          refine same_select (same_id dto.userId) fun rows twins same => ?_
          cases same with
          | nil => exact same_fail _
          | @cons row twin rows twins head tail =>
              have sameUser : AuthService.toPublicUser row.hydrate =
                  AuthService.toPublicUser twin.hydrate := by
                simp [AuthService.toPublicUser, UserRow.hydrate, head.id,
                  head.email, head.role, head.createdAt]
              simp only [List.head?_cons, sameUser]
              exact .done _

/-- Every handler does the same up to hashes. -/
theorem same_handle (message : SystemMessage deployment.validator) :
    SamePrograms (handle deployment message) (handle deployment message) := by
  cases message with
  | http request =>
      exact same_of_uses (uses_http (fun _ => trivial) (fun _ => trivial)
        request)
  | start config => exact same_start config
  | service message =>
      cases message with
      | auth pattern payload => exact same_auth pattern payload
      | catalog pattern payload =>
          exact same_of_uses
            (uses_catalog (fun statement => trivial) pattern payload)
      | orders pattern payload =>
          exact same_of_uses (uses_orders (fun statement => trivial)
            (fun id => trivial) pattern payload)

end Handlers

/-! ## What the calls do -/

section Statements

variable {users others : UserTable}

theorem SameAccount.symm {row other : UserRow} (same : SameAccount row other) :
    SameAccount other row :=
  ⟨same.id.symm, same.email.symm, same.role.symm, same.createdAt.symm,
    same.updatedAt.symm⟩

theorem SameUsers.symm (same : SameUsers users others) :
    SameUsers others users where
  rows := (same.rows.imp fun _ _ alike => alike.symm).flip
  nextId := same.nextId.symm

/-- What is true of a row is true of its counterpart. -/
private theorem SameUsers.exists (same : SameUsers users others)
    {property twin : UserRow → Prop}
    (carries : ∀ row other, SameAccount row other → property row → twin other)
    (holds : ∃ row ∈ users.rows, property row) :
    ∃ row ∈ others.rows, twin row := by
  obtain ⟨row, member, isProperty⟩ := holds
  have all := same.rows
  generalize users.rows = rows at all member
  generalize others.rows = twins at all ⊢
  induction all with
  | nil => cases member
  | @cons head other tail twins alike rest induction =>
      rcases List.mem_cons.mp member with rfl | member
      · exact ⟨other, List.mem_cons_self, carries row other alike isProperty⟩
      · obtain ⟨found, foundMember, isTwin⟩ := induction member
        exact ⟨found, List.mem_cons_of_mem _ foundMember, isTwin⟩

private theorem SameUsers.has (same : SameUsers users others) {id : ℤ}
    (has : users.Has id) : others.Has id := by
  refine same.exists (fun row other alike isId => ?_) has
  have sameKey : userSchema.key row = userSchema.key other :=
    congrArg Ranged.val alike.id
  rw [← sameKey]
  exact isId

private theorem SameUsers.conflicted (same : SameUsers users others)
    {row twin : UserRow} (alike : SameAccount row twin)
    (conflicted : userSchema.Conflicted users row) :
    userSchema.Conflicted others twin := by
  refine same.exists (fun old other kept conflict => ?_) conflicted
  have oldKey : userSchema.key old = userSchema.key other :=
    congrArg Ranged.val kept.id
  have rowKey : userSchema.key row = userSchema.key twin :=
    congrArg Ranged.val alike.id
  refine ⟨by rw [← oldKey, ← rowKey]; exact conflict.1, ?_⟩
  have sameEmail := conflict.2
  simp only [userSchema, UserRow.conflicts, kept.email, alike.email]
    at sameEmail ⊢
  exact sameEmail

/-- The row of a new account is accepted or refused whatever its hash is. -/
private theorem same_build {passwordHash other : String}
    (clean : Clean passwordHash) (otherClean : Clean other) (email : String)
    (role : Role) (id : ℤ) (now : Nat) :
    (∃ row twin,
        UserRow.build (User.create email passwordHash role) id now = .ok row ∧
        UserRow.build (User.create email other role) id now = .ok twin ∧
        SameAccount row twin) ∨
      ∃ error,
        UserRow.build (User.create email passwordHash role) id now =
          .error error ∧
        UserRow.build (User.create email other role) id now = .error error := by
  rw [UserRow.build_create clean, UserRow.build_create otherClean]
  cases Ranged.write (-2147483648) 2147483647 id with
  | error error => exact .inr ⟨error, rfl, rfl⟩
  | ok key =>
      cases Varchar.write 255 email with
      | error error => exact .inr ⟨error, rfl, rfl⟩
      | ok address => exact .inl ⟨_, _, rfl, rfl, ⟨rfl, rfl, rfl, rfl, rfl⟩⟩

/-- An insertion adds corresponding rows, or fails in the same way. -/
private theorem same_insertRow (same : SameUsers users others)
    {passwordHash other : String} (clean : Clean passwordHash)
    (otherClean : Clean other) (email : String) (role : Role) (now : Nat) :
    SameUsers
        (userSchema.insertRow now (User.create email passwordHash role) users).2
        (userSchema.insertRow now (User.create email other role) others).2 ∧
      ((∃ row twin, SameAccount row twin ∧
          (userSchema.insertRow now (User.create email passwordHash role)
            users).1 = .ok row ∧
          (userSchema.insertRow now (User.create email other role) others).1 =
            .ok twin) ∨
        ∃ error,
          (userSchema.insertRow now (User.create email passwordHash role)
            users).1 = .error error ∧
          (userSchema.insertRow now (User.create email other role) others).1 =
            .error error) := by
  have advanced : SameUsers users.advance others.advance :=
    ⟨same.rows, congrArg (· + 1) same.nextId⟩
  unfold Schema.insertRow
  rw [← same.nextId]
  rcases same_build clean otherClean email role users.nextId now with
    ⟨row, twin, built, twinBuilt, alike⟩ | ⟨error, failed, twinFailed⟩
  · have sameKey : userSchema.key row = userSchema.key twin :=
      congrArg Ranged.val alike.id
    have isBuilt : userSchema.build (User.create email passwordHash role)
        users.nextId now = .ok row := built
    have isTwin : userSchema.build (User.create email other role)
        users.nextId now = .ok twin := twinBuilt
    rw [isBuilt, isTwin]
    by_cases has : users.Has (userSchema.key row)
    · have twinHas : others.Has (userSchema.key twin) := by
        rw [← sameKey]
        exact same.has has
      simp only [has, twinHas, not_true, dif_neg, not_false_iff]
      exact ⟨advanced, .inr ⟨_, rfl, rfl⟩⟩
    · have absent : ¬ others.Has (userSchema.key twin) := by
        rw [← sameKey]
        exact fun other => has (same.symm.has other)
      by_cases conflicted : userSchema.Conflicted users row
      · have twinConflicted := same.conflicted alike conflicted
        simp only [has, absent, conflicted, twinConflicted, not_false_iff,
          dif_pos, if_true]
        exact ⟨advanced, .inr ⟨_, rfl, rfl⟩⟩
      · have unique : ¬ userSchema.Conflicted others twin :=
          fun other => conflicted (same.symm.conflicted alike.symm other)
        simp only [has, absent, conflicted, unique, not_false_iff, dif_pos,
          if_false]
        exact ⟨⟨List.rel_append same.rows (.cons alike .nil),
          congrArg (· + 1) same.nextId⟩, .inl ⟨row, twin, alike, rfl, rfl⟩⟩
  · have isFailed : userSchema.build (User.create email passwordHash role)
        users.nextId now = .error error := failed
    have isTwin : userSchema.build (User.create email other role)
        users.nextId now = .error error := twinFailed
    rw [isFailed, isTwin]
    exact ⟨same, .inr ⟨error, rfl, rfl⟩⟩

/-- A statement on a table that is the same in both runs. -/
private theorem same_execStatement {Row Entity Patch : Type}
    (schema : Schema Row Entity Patch) {circumstances twin : Circumstances}
    (same : SameCircumstances circumstances twin)
    (statement : SqlCall Row Entity Patch) (table : Table Row schema.key) :
    (execStatement schema circumstances.toSurroundings statement table).2 =
        (execStatement schema twin.toSurroundings statement table).2 ∧
      ((∃ reply,
          (execStatement schema circumstances.toSurroundings statement
            table).1 = .ok reply ∧
          (execStatement schema twin.toSurroundings statement table).1 =
            .ok reply) ∨
        ∃ thrown failure, SameError thrown failure ∧
          (execStatement schema circumstances.toSurroundings statement
            table).1 = .error thrown ∧
          (execStatement schema twin.toSurroundings statement table).1 =
            .error failure) := by
  have faults := same.fault
  unfold execStatement
  rw [same.now]
  generalize circumstances.fault = fault at faults ⊢
  generalize twin.fault = other at faults ⊢
  match fault, other, faults with
  | some thrown, some failure, faults =>
      exact ⟨rfl, .inr ⟨thrown, failure, faults, rfl, rfl⟩⟩
  | none, none, _ =>
      refine ⟨rfl, ?_⟩
      cases schema.exec twin.now statement table with
      | mk result after =>
          cases result with
          | ok reply => exact .inl ⟨reply, rfl, rfl⟩
          | error error => exact .inr ⟨_, _, .same _, rfl, rfl⟩

end Statements

section Exec

variable {bcrypt : Bcrypt} {circumstances twin : Circumstances}
  {store other : SystemStore deployment.validator}

/-- The same services with another way to hash passwords. -/
abbrev rehashed (deployment : Deployment) (bcrypt : Bcrypt) : Deployment :=
  { deployment with bcrypt }

private theorem plain_results {call : SystemCall validator}
    (isPlain : Plain call) (reply : SystemReply call) :
    (upToHashes validator).Results (.ok reply : Except Thrown _) (.ok reply) :=
  SameReply.plain isPlain reply

private theorem statement_results {call : SystemCall validator}
    (isPlain : Plain call) {result other : Except Thrown (SystemReply call)}
    (results : (∃ reply, result = .ok reply ∧ other = .ok reply) ∨
      ∃ thrown failure, SameError thrown failure ∧
        result = .error thrown ∧ other = .error failure) :
    (upToHashes validator).Results result other := by
  rcases results with
    ⟨reply, executed, twinExecuted⟩ | ⟨_, _, errors, failed, twinFailed⟩
  · rw [executed, twinExecuted]
    exact plain_results isPlain reply
  · rw [failed, twinFailed]
    exact errors

/-- Related results, and related stores after them. -/
private abbrev SameExec (bcrypt : Bcrypt) (circumstances twin : Circumstances)
    (store other : SystemStore deployment.validator)
    (call same : SystemCall deployment.validator) : Prop :=
  SameStore (exec deployment circumstances call store).2
      (exec (rehashed deployment bcrypt) twin same other).2 ∧
    (upToHashes deployment.validator).Results
      (exec deployment circumstances call store).1
      (exec (rehashed deployment bcrypt) twin same other).1

private theorem same_exec_plain (same : SameCircumstances circumstances twin)
    (stores : SameStore store other)
    {call : SystemCall deployment.validator} (isPlain : Plain call) :
    SameExec bcrypt circumstances twin store other call call := by
  obtain ⟨users, databases, processes⟩ := store
  obtain ⟨others, _, _⟩ := other
  obtain ⟨alike, rfl, rfl⟩ := stores
  have now := same.now
  have process := same.process
  cases call with
  | users statement => cases isPlain
  | hash password rounds => cases isPlain
  | compare password passwordHash => cases isPlain
  | verify token =>
      simp only [SameExec, exec, now]
      exact ⟨⟨alike, rfl, rfl⟩, plain_results (by trivial) _⟩
  | process =>
      simp only [SameExec, exec, process]
      cases processes[twin.process]? with
      | none => exact ⟨⟨alike, rfl, rfl⟩, .same _⟩
      | some config => exact ⟨⟨alike, rfl, rfl⟩, plain_results (by trivial) config⟩
  | listen config => exact ⟨⟨alike, rfl, rfl⟩, plain_results (by trivial) ()⟩
  | sign secret expiresIn payload =>
      simp only [SameExec, exec, now]
      cases deployment.jwt.sign secret expiresIn twin.now payload with
      | none => exact ⟨⟨alike, rfl, rfl⟩, .same _⟩
      | some token => exact ⟨⟨alike, rfl, rfl⟩, plain_results (by trivial) token⟩
  | movies statement =>
      obtain ⟨after, results⟩ := same_execStatement movieSchema same statement
        databases.movies
      simp only [SameExec, exec, after]
      exact ⟨⟨alike, rfl, rfl⟩, statement_results (by trivial) results⟩
  | orders statement =>
      obtain ⟨after, results⟩ := same_execStatement orderSchema same statement
        databases.orders
      simp only [SameExec, exec, after]
      exact ⟨⟨alike, rfl, rfl⟩, statement_results (by trivial) results⟩
  | send message => exact ⟨⟨alike, rfl, rfl⟩, .same _⟩

private theorem same_exec_select (same : SameCircumstances circumstances twin)
    (stores : SameStore store other) (parameters : List Parameter)
    {condition twinCondition : UserRow → Bool}
    (conditions : ∀ row twin, SameAccount row twin →
      condition row = twinCondition twin) :
    SameExec bcrypt circumstances twin store other
      (.users (.select parameters condition))
      (.users (.select parameters twinCondition)) := by
  have faults := same.fault
  simp only [SameExec, exec, execStatement]
  generalize circumstances.fault = fault at faults ⊢
  generalize twin.fault = failure at faults ⊢
  cases fault with
  | some thrown =>
      cases failure with
      | none => cases faults
      | some failure => exact ⟨stores, faults⟩
  | none =>
      cases failure with
      | some failure => cases faults
      | none =>
          simp only [Schema.exec]
          cases parameters.findSome? Parameter.rejected with
          | some error => exact ⟨stores, .same _⟩
          | none =>
              refine ⟨stores, .select (List.rel_filter ?_ stores.users.rows)⟩
              intro row other alike
              simp only [conditions row other alike]

private theorem same_exec_insert (same : SameCircumstances circumstances twin)
    (stores : SameStore store other) (email : String) (role : Role)
    {passwordHash twinHash : String} (clean : Clean passwordHash)
    (twinClean : Clean twinHash) :
    SameExec bcrypt circumstances twin store other
      (.users (.insert (User.create email passwordHash role)))
      (.users (.insert (User.create email twinHash role))) := by
  have faults := same.fault
  simp only [SameExec, exec, execStatement, same.now]
  generalize circumstances.fault = fault at faults ⊢
  generalize twin.fault = failure at faults ⊢
  cases fault with
  | some thrown =>
      cases failure with
      | none => cases faults
      | some failure => exact ⟨stores, faults⟩
  | none =>
      cases failure with
      | some failure => cases faults
      | none =>
          simp only [Schema.exec]
          obtain ⟨users, results⟩ := same_insertRow stores.users clean twinClean
            email role twin.now
          refine ⟨⟨users, stores.databases, stores.processes⟩, ?_⟩
          rcases results with
            ⟨row, other, alike, executed, twinExecuted⟩ |
            ⟨error, failed, twinFailed⟩
          · rw [executed, twinExecuted]
            exact .insert alike
          · rw [failed, twinFailed]
            exact .queryFailed _ _ _

/-- A hash is a text that the database accepts. -/
def Bcrypt.CleanHashes (bcrypt : Bcrypt) : Prop :=
  ∀ password rounds salt, Clean (bcrypt.hash password rounds salt)

theorem same_exec (clean : Bcrypt.CleanHashes deployment.bcrypt)
    (twinClean : Bcrypt.CleanHashes bcrypt)
    (same : SameCircumstances circumstances twin)
    (stores : SameStore store other)
    {call twinCall : SystemCall deployment.validator}
    (related : SameCall call twinCall)
    (agree : SameComparison
      (⟨call, (exec deployment circumstances call store).1,
        .performed circumstances⟩ : SystemExchange deployment)
      ⟨twinCall, (exec (rehashed deployment bcrypt) twin twinCall other).1,
        .performed twin⟩) :
    SameExec bcrypt circumstances twin store other call twinCall := by
  cases related with
  | plain isPlain => exact same_exec_plain same stores isPlain
  | select parameters conditions =>
      exact same_exec_select same stores parameters conditions
  | insert email role clean twinClean =>
      exact same_exec_insert same stores email role clean twinClean
  | hash password rounds =>
      exact ⟨stores, .hash (clean _ _ _) (twinClean _ _ _)⟩
  | compare password passwordHash twinHash =>
      have passwordMatches : deployment.bcrypt.compare password passwordHash =
          bcrypt.compare password twinHash := Except.ok.inj agree
      refine ⟨stores, ?_⟩
      simp only [exec, passwordMatches]
      exact .compare _

end Exec

/-! ## What is answered -/

theorem SameError.payload {thrown failure : Thrown}
    (same : SameError thrown failure) :
    toRpcErrorPayload thrown = toRpcErrorPayload failure := by
  cases same with
  | same thrown => rfl
  | queryFailed code parameters others => rfl

private theorem same_receive {call twin : SystemCall deployment.validator}
    {outcome answer : Except Thrown SystemAnswer} (related : SameCall call twin)
    (outcomes : (upToHashes deployment.validator).Outcomes outcome answer) :
    (upToHashes deployment.validator).Results (receive call outcome)
      (receive twin answer) := by
  cases related with
  | select parameters conditions => exact .same _
  | insert email role clean otherClean => exact .same _
  | hash password rounds => exact .same _
  | compare password passwordHash other => exact .same _
  | plain isPlain =>
      cases call with
      | send message =>
          cases outcome with
          | ok value =>
              cases answer with
              | error failure => cases outcomes
              | ok other =>
                  have same : value = other := outcomes
                  subst same
                  simp only [receive]
                  cases answerOf message value with
                  | none => exact .same _
                  | some reply => exact plain_results (by trivial) reply
          | error thrown =>
              cases answer with
              | ok other => cases outcomes
              | error failure =>
                  have payload := SameError.payload outcomes
                  simp only [receive, relayed, payload]
                  exact .same _
      | users statement => cases isPlain
      | hash password rounds => cases isPlain
      | compare password passwordHash => cases isPlain
      | verify token => exact .same _
      | process => exact .same _
      | listen config => exact .same _
      | sign secret expiresIn payload => exact .same _
      | movies statement => exact .same _
      | orders statement => exact .same _

/-- What a service sends back over RPC. -/
def rpcAnswer (outcome : Except Thrown SystemAnswer) :
    Except Json SystemAnswer :=
  outcome.mapError toRpcErrorPayload

/-- What the gateway answers: an exception with its status and its response,
anything else as an internal error. -/
def httpAnswer (outcome : Except Thrown SystemAnswer) :
    Except (ℚ × Json) SystemAnswer :=
  outcome.mapError fun thrown =>
    match thrown with
    | .http exception => (exception.status, exception.response)
    | _ => (500, .obj
        [("statusCode", .num 500), ("message", .str "Internal server error")])

private theorem same_answers {outcome answer : Except Thrown SystemAnswer}
    (outcomes : (upToHashes validator).Outcomes outcome answer) :
    rpcAnswer outcome = rpcAnswer answer ∧
      httpAnswer outcome = httpAnswer answer := by
  cases outcome with
  | ok value =>
      cases answer with
      | error failure => cases outcomes
      | ok other =>
          have same : value = other := outcomes
          subst same
          exact ⟨rfl, rfl⟩
  | error thrown =>
      cases answer with
      | ok other => cases outcomes
      | error failure =>
          have same : SameError thrown failure := outcomes
          refine ⟨congrArg Except.error same.payload, ?_⟩
          cases same with
          | same thrown => rfl
          | queryFailed code parameters others => rfl

theorem upToHashes_sound {bcrypt : Bcrypt}
    (clean : Bcrypt.CleanHashes deployment.bcrypt)
    (twinClean : Bcrypt.CleanHashes bcrypt) :
    (upToHashes deployment.validator).Sound (system deployment)
      (system (rehashed deployment bcrypt))
      (SameComparison : SystemExchange deployment → _ → Prop) where
  handlers message := by
    have same : handle (rehashed deployment bcrypt) message =
        handle deployment message := by
      cases message with
      | http request => rfl
      | start config => rfl
      | service message => cases message <;> rfl
    change SamePrograms (handle deployment message)
      (handle (rehashed deployment bcrypt) message)
    rw [same]
    exact same_handle message
  remote related := by cases related <;> rfl
  receive related outcomes := same_receive related outcomes
  abandon related failure := by
    cases related with
    | plain isPlain => exact .same _
    | _ => exact .same _
  performs related _ same stores agree :=
    same_exec clean twinClean same stores related agree

/-- Related schedules: the same messages and steps in the same circumstances,
up to salts and to the parameters of failed statements. -/
abbrev SameMoves (validator : Validator) :
    List (Network.Move (SystemMessage validator) Circumstances ClientFailure) →
      List (Network.Move (SystemMessage validator) Circumstances
        ClientFailure) → Prop :=
  List.Forall₂ (upToHashes validator).Moves

/-- Whatever the hashes are, as long as every comparison comes out the same,
all messages are sent and answered alike. -/
theorem hashes_hidden {bcrypt : Bcrypt}
    (clean : Bcrypt.CleanHashes deployment.bcrypt)
    (twinClean : Bcrypt.CleanHashes bcrypt)
    {store other : SystemStore deployment.validator}
    (stores : SameStore store other)
    {moves twins : List (Network.Move (SystemMessage deployment.validator)
      Circumstances ClientFailure)}
    (same : SameMoves deployment.validator moves twins)
    {traffic twin : SystemTraffic deployment}
    (played : (system deployment).play (fun _ _ => true) (.start store) moves =
      some traffic)
    (follows : (system (rehashed deployment bcrypt)).play (fun _ _ => true)
      (.start other) twins = some twin)
    (compared : Coupling.Agreed SameComparison traffic twin) :
    traffic.jobs.length = twin.jobs.length ∧
      ∀ (index : Nat) (job same : SystemJob deployment),
        traffic.jobs[index]? = some job → twin.jobs[index]? = some same →
          job.message = same.message ∧
            job.outcome.map rpcAnswer = same.outcome.map rpcAnswer ∧
            job.outcome.map httpAnswer = same.outcome.map httpAnswer := by
  have started : (upToHashes deployment.validator).Coupled
      (.start store : SystemTraffic deployment) (.start other) :=
    ⟨stores, .nil⟩
  have coupled := (upToHashes_sound clean twinClean).play same started played
    follows compared
  refine ⟨coupled.jobs.length_eq, ?_⟩
  intro index job same found twinFound
  have jobs := coupled.job found twinFound
  refine ⟨jobs.message, ?_⟩
  rcases jobs.outcome with
    ⟨pending, twinPending⟩ | ⟨outcome, answer, ends, twinEnds, outcomes⟩
  · rw [pending, twinPending]
    exact ⟨rfl, rfl⟩
  · obtain ⟨rpc, http⟩ := same_answers outcomes
    rw [ends, twinEnds]
    exact ⟨congrArg some rpc, congrArg some http⟩

/-! ## An account in two hashes -/

theorem sameMoves_refl (moves : List (Network.Move (SystemMessage validator)
    Circumstances ClientFailure)) : SameMoves validator moves moves := by
  apply List.forall₂_same.mpr
  intro move _
  cases move with
  | arrive message => exact .arrive message
  | act index action =>
      apply Coupling.Moves.act
      cases action with
      | deliver => exact .deliver
      | perform circumstances =>
          refine .perform ⟨rfl, rfl, ?_⟩
          cases circumstances.fault with
          | none => trivial
          | some thrown => exact .same thrown
      | send => exact .send
      | answer => exact .answer
      | abandon failure => exact .abandon failure

private theorem sample_clean : Bcrypt.CleanHashes Bcrypt.sample := by
  intro password rounds salt isNul
  simp only [Bcrypt.sample, String.toList_ofList, List.mem_map] at isNul
  obtain ⟨byte, _, isNul⟩ := isNul
  have never : ∀ value < 256, Char.ofNat (value + 1) ≠ '\x00' := by
    decide +kernel
  exact never byte.toNat byte.toNat_lt isNul

/-- Hashes that end in a mark of their own. -/
private def marked : Bcrypt where
  hash password rounds salt := Bcrypt.sample.hash password rounds salt ++ "!"
  compare password passwordHash :=
    Bcrypt.sample.hash password 0 0 ++ "!" = passwordHash

private theorem marked_clean : Bcrypt.CleanHashes marked := by
  intro password rounds salt isNul
  simp only [marked, String.toList_append, List.mem_append] at isNul
  rcases isNul with inHash | isMark
  · exact sample_clean password rounds salt inHash
  · simp at isMark

/-- The password has been confirmed wherever it was compared. -/
private def confirmed (exchange : SystemExchange deployment) : Bool :=
  match exchange with
  | ⟨.compare _ _, .ok passwordMatches, _⟩ => passwordMatches
  | ⟨.compare _ _, .error _, _⟩ => false
  | _ => true

private theorem agreed_of_confirmed {traffic twin : SystemTraffic deployment}
    (first : traffic.jobs.all fun job => job.calls.all confirmed)
    (second : twin.jobs.all fun job => job.calls.all confirmed) :
    Coupling.Agreed SameComparison traffic twin := by
  intro index job same found twinFound place made done isMade isDone
  have madeConfirmed := List.all_eq_true.mp (List.all_eq_true.mp first job
    (List.mem_of_getElem? found)) made (List.mem_of_getElem? isMade)
  have doneConfirmed := List.all_eq_true.mp (List.all_eq_true.mp second same
    (List.mem_of_getElem? twinFound)) done (List.mem_of_getElem? isDone)
  unfold SameComparison
  split
  · rename_i result means _ _ other others
    cases result with
    | error thrown => cases madeConfirmed
    | ok passwordMatches =>
        cases other with
        | error thrown => cases doneConfirmed
        | ok twinMatches =>
            have first : passwordMatches = true := madeConfirmed
            have second : twinMatches = true := doneConfirmed
            rw [first, second]
  · trivial

/-- The answer of the gateway to the third message. -/
private def thirdAnswer (traffic : SystemTraffic deployment) :
    Option GatewayAnswer :=
  (traffic.jobs[2]?).bind fun job =>
    match job.outcome with
    | some (.ok (.http answer)) => some answer
    | _ => none

private theorem thirdAnswer_eq_some {traffic : SystemTraffic deployment}
    {answer : GatewayAnswer} (isAnswer : thirdAnswer traffic = some answer) :
    ∃ job, traffic.jobs[2]? = some job ∧
      job.outcome = some (.ok (.http answer)) := by
  obtain ⟨job, found, isAnswer⟩ := Option.bind_eq_some_iff.mp isAnswer
  refine ⟨job, found, ?_⟩
  split at isAnswer
  · rename_i other ends
    cases isAnswer
    exact ends
  · cases isAnswer

/-- An account is registered and logged in to; the gateway answers the same
although the hashes differ. -/
theorem hashes_hidden_example :
    ∃ (traffic twin : SystemTraffic
        (sampleDeployment (.sample 1 "ripley@example.com" .USER)))
      (job same : SystemJob _) (answer : GatewayAnswer),
      traffic.jobs[2]? = some job ∧ twin.jobs[2]? = some same ∧
        traffic.store.users.rows ≠ twin.store.users.rows ∧
        job.outcome.map httpAnswer = some (.ok (.http answer)) ∧
        same.outcome.map httpAnswer = some (.ok (.http answer)) := by
  let deployment := sampleDeployment (.sample 1 "ripley@example.com" .USER)
  let moment : Circumstances := ⟨calm 1, 0, 0⟩
  let store : SystemStore deployment.validator :=
    ⟨∅, sampleDatabases, [sampleEnv none (by simp)]⟩
  let registration : HttpRequest := ⟨none, .register (.obj
    [("email", .str " Ripley@example.com"), ("password", .str "nostromo"),
      ("confirmPassword", .str "nostromo")])⟩
  let login : HttpRequest := ⟨none, .login (.obj
    [("email", .str "ripley@example.com"), ("password", .str "nostromo")])⟩
  let moves : List (Network.Move (SystemMessage deployment.validator)
      Circumstances ClientFailure) :=
    [.arrive (.http registration), .act 0 .deliver, .act 0 .send,
      .act 1 .deliver, .act 1 (.perform moment), .act 1 (.perform moment),
      .act 1 (.perform moment), .act 1 (.perform moment), .act 0 .answer,
      .arrive (.http login), .act 2 .deliver, .act 2 .send, .act 3 .deliver,
      .act 3 (.perform moment), .act 3 (.perform moment),
      .act 3 (.perform moment), .act 3 (.perform moment), .act 2 .answer]
  have checked : (((system deployment).play (fun _ _ => true) (.start store)
      moves).any fun traffic =>
        ((system (rehashed deployment marked)).play (fun _ _ => true)
          (.start store) moves).any fun (twin : SystemTraffic deployment) =>
            (traffic.jobs.all fun job => job.calls.all confirmed) &&
            ((twin.jobs.all fun job => job.calls.all confirmed) &&
            (decide (traffic.store.users.rows ≠ twin.store.users.rows) &&
            ((thirdAnswer traffic).isSome && (thirdAnswer twin).isSome)))) =
        true := by
    decide +kernel
  have clean : Bcrypt.CleanHashes deployment.bcrypt := sample_clean
  have stores : SameStore store store := ⟨⟨.nil, rfl⟩, rfl, rfl⟩
  clear_value moves store
  obtain ⟨traffic, played, checked⟩ := (Option.any_eq_true _ _).mp checked
  obtain ⟨twin, follows, checked⟩ := (Option.any_eq_true _ _).mp checked
  simp only [Bool.and_eq_true, decide_eq_true_eq] at checked
  obtain ⟨first, second, differ, answered, twinAnswered⟩ := checked
  obtain ⟨answer, isAnswer⟩ := Option.isSome_iff_exists.mp answered
  obtain ⟨other, isOther⟩ := Option.isSome_iff_exists.mp twinAnswered
  obtain ⟨job, found, ends⟩ := thirdAnswer_eq_some isAnswer
  obtain ⟨same, twinFound, twinEnds⟩ := thirdAnswer_eq_some isOther
  obtain ⟨_, alike⟩ := hashes_hidden clean marked_clean stores
    (sameMoves_refl moves) played follows (agreed_of_confirmed first second)
  obtain ⟨_, _, http⟩ := alike 2 job same found twinFound
  have shown : job.outcome.map httpAnswer = some (.ok (.http answer)) := by
    rw [ends]
    rfl
  exact ⟨traffic, twin, job, same, answer, found, twinFound, differ, shown,
    http.symm.trans shown⟩

end Cinema.System
