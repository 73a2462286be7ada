import Cinema.Interleaving.Provenance
import Cinema.System.Forwarding

/-!
# The accounts of a run

The `users` table only grows: a registration adds a regular user, a start of
the auth service an administrator, both under a normalised e-mail address that
nobody has yet.  `accounts` records this along a run, together with what the
result of every call of the auth service says about the store.
-/

namespace Cinema.System

open Interleaving Relational Shared Text Auth Catalog Orders Gateway

variable {deployment : Deployment}

/-- What holds of the table in every state. -/
structure Accounts (mapping : CaseMapping) (users : UserTable) : Prop where
  fresh : users.Fresh
  normalized : ∀ row ∈ users.rows,
    Auth.normalized mapping row.email.val = row.email.val
  distinct : (users.rows.map fun row => row.email.val).Nodup

theorem accounts_empty {mapping : CaseMapping} : Accounts mapping ∅ where
  fresh := by
    intro row member
    cases member
  normalized := by
    intro row member
    cases member
  distinct := List.nodup_nil

theorem Accounts.eq_of_email {mapping : CaseMapping} {users : UserTable}
    (accounts : Accounts mapping users) {left right : UserRow}
    (leftMember : left ∈ users.rows) (rightMember : right ∈ users.rows)
    (same : left.email.val = right.email.val) : left = right :=
  List.inj_on_of_nodup_map accounts.distinct leftMember rightMember same

/-! ## What the handlers call -/

/-- Who inserts an account, and what. -/
def Inserts (message : SystemMessage deployment.validator) (user : User) :
    Prop :=
  ∃ email passwordHash role, user = User.create email passwordHash role ∧
    Auth.normalized deployment.mapping email = email ∧
    match role with
    | .USER => ∃ payload, message = .service (.auth .REGISTER payload)
    | .ADMIN => ∃ config, message = .start config

/-- Who sends a message to a service. -/
def Sends {validator : Validator} :
    SystemMessage validator → ServiceMessage → Prop
  | .http _, _ => True
  | .service (.orders _ _), .catalog .FIND_ONE_MOVIE _ => True
  | _, _ => False

def Permitted (message : SystemMessage deployment.validator) :
    SystemCall deployment.validator → Prop
  | .users (.select _ _) => True
  | .users (.insert user) => Inserts message user
  | .users _ => False
  | .listen config => message = .start config
  | .send other => Sends message other
  | _ => True

theorem permitted_handle (message : SystemMessage deployment.validator) :
    (handle deployment message).Uses (Permitted message) := by
  have single : ∀ call : SystemCall deployment.validator,
      Permitted message call →
        (Program.perform call : Program (SystemCall deployment.validator)
          SystemReply Thrown (SystemReply call)).Uses (Permitted message) :=
    fun call permitted => ⟨permitted, fun _ => trivial⟩
  cases message with
  | http request =>
      exact uses_http (fun token => trivial) (fun other => trivial) request
  | start config =>
      refine Program.Uses.bind (Program.Uses.bind ?_ fun _ =>
        single (.listen config) rfl) fun _ => trivial
      apply AuthService.uses_ensureAdminAccount
      · exact fun parameters condition =>
          single (.users (.select parameters condition)) trivial
      · exact fun password rounds => single (.hash password rounds) trivial
      · intro email passwordHash isNormalized
        exact single (.users (.insert _))
          ⟨email, passwordHash, .ADMIN, rfl, isNormalized, config, rfl⟩
  | service message =>
      cases message with
      | auth pattern payload =>
          refine ((single .process trivial).bind fun config => ?_).map _
          apply AuthController.uses_handle
          · exact fun parameters condition =>
              single (.users (.select parameters condition)) trivial
          · exact fun password rounds => single (.hash password rounds) trivial
          · exact fun password passwordHash =>
              single (.compare password passwordHash) trivial
          · exact fun secret expiresIn payload =>
              single (.sign secret expiresIn payload) trivial
          · intro isRegister email passwordHash isNormalized
            subst isRegister
            exact single (.users (.insert _))
              ⟨email, passwordHash, .USER, rfl, isNormalized, payload, rfl⟩
      | catalog pattern payload =>
          exact uses_catalog (fun statement => trivial) pattern payload
      | orders pattern payload =>
          exact uses_orders (fun statement => trivial) (fun id => trivial)
            pattern payload

/-! ## What the statements do -/

section Statements

variable {mapping : CaseMapping} {users : UserTable}

theorem Accounts.advance (accounts : Accounts mapping users) :
    Accounts mapping users.advance where
  fresh row member := by
    have known := accounts.fresh row member
    rw [Table.advance_nextId]
    omega
  normalized := accounts.normalized
  distinct := accounts.distinct

/-- A new row under an address that nobody has yet. -/
theorem Accounts.append (accounts : Accounts mapping users) {row : UserRow}
    (absent : ¬ users.Has (userSchema.key row))
    (isNext : row.id.val = users.nextId)
    (isNormalized : Auth.normalized mapping row.email.val = row.email.val)
    (unique : ¬ userSchema.Conflicted users row) :
    Accounts mapping (users.append row absent).advance where
  fresh other member := by
    change userSchema.key other < users.nextId + 1
    rcases List.mem_append.mp member with old | new
    · have known := accounts.fresh other old
      omega
    · rw [List.mem_singleton.mp new]
      change row.id.val < _
      omega
  normalized other member := by
    rcases List.mem_append.mp member with old | new
    · exact accounts.normalized other old
    · rw [List.mem_singleton.mp new]
      exact isNormalized
  distinct := by
    simp only [Table.advance_rows, Table.append_rows, List.map_append,
      List.nodup_append]
    refine ⟨accounts.distinct, by simp, ?_⟩
    intro email member other single same
    obtain ⟨old, oldMember, rfl⟩ := List.mem_map.mp member
    obtain rfl := List.mem_singleton.mp single
    refine unique ⟨old, oldMember, fun sameKey => ?_, by
      simpa [userSchema, UserRow.conflicts] using same⟩
    exact absent ⟨old, oldMember, sameKey⟩

/-- An insertion adds a row, or it leaves the rows alone; a duplicate is
refused because of a row that is there. -/
theorem insert_cases (accounts : Accounts mapping users)
    (surroundings : Surroundings) {user : User} {email : String}
    (hasEmail : user.email = some email)
    (isNormalized : Auth.normalized mapping email = email) :
    (∃ row id now, UserRow.build user id now = .ok row ∧
      (execStatement userSchema surroundings (.insert user) users).1 =
        .ok row ∧
      (execStatement userSchema surroundings (.insert user) users).2.rows =
        users.rows ++ [row] ∧
      Accounts mapping
        (execStatement userSchema surroundings (.insert user) users).2) ∨
    ∃ thrown,
      (execStatement userSchema surroundings (.insert user) users).1 =
        .error thrown ∧
      (execStatement userSchema surroundings (.insert user) users).2.rows =
        users.rows ∧
      Accounts mapping
        (execStatement userSchema surroundings (.insert user) users).2 ∧
      (surroundings.fault = none →
        IsUniqueViolation thrown →
          ∃ row ∈ users.rows, row.email.val = email) := by
  unfold execStatement
  cases fault : surroundings.fault with
  | some thrown => exact .inr ⟨thrown, rfl, rfl, accounts, by simp⟩
  | none =>
      simp only [Schema.exec]
      have duplicate : (userSchema.insertRow surroundings.now user users).1 =
          .error .uniqueViolation →
            ∃ row ∈ users.rows, row.email.val = email := by
        intro failed
        obtain ⟨row, built, taken⟩ := Schema.insertRow_uniqueViolation
          (UserRow.build_ne_uniqueViolation _ _ _) failed
        obtain ⟨isNext, isEmail, _⟩ := UserRow.build_eq_ok built
        rcases taken with has | ⟨other, member, _, same⟩
        · have small := accounts.fresh.lt_of_has has
          change row.id.val < _ at small
          omega
        · refine ⟨other, member, ?_⟩
          rw [hasEmail] at isEmail
          have known : other.email.val = row.email.val := by
            simpa [userSchema, UserRow.conflicts] using same
          rw [known, Option.some.inj isEmail]
      rcases userSchema.insertRow_cases surroundings.now user users with
        ⟨row, absent, built, unique, equality⟩ |
        ⟨error, after, equality, same⟩
      · obtain ⟨isNext, isEmail, _⟩ := UserRow.build_eq_ok built
        rw [hasEmail] at isEmail
        have rowNormalized :
            Auth.normalized mapping row.email.val = row.email.val := by
          rw [← Option.some.inj isEmail]
          exact isNormalized
        rw [equality]
        exact .inl ⟨row, _, _, built, rfl, rfl,
          accounts.append absent isNext rowNormalized unique⟩
      · rw [equality] at duplicate ⊢
        refine .inr ⟨_, rfl, ?_, ?_, ?_⟩
        · rcases same with rfl | rfl <;> rfl
        · rcases same with rfl | rfl
          · exact accounts
          · exact accounts.advance
        · intro _ isCode
          rw [isUniqueViolation_queryFailed.mp isCode] at duplicate
          exact duplicate rfl

end Statements

/-! ## The record -/

/-- What the result of a call says about the store from then on. -/
def Recorded (circumstances : Circumstances) :
    (call : SystemCall deployment.validator) →
      Except Thrown (SystemReply call) →
      SystemStore deployment.validator → Prop
  | .verify token, .ok claims, _ =>
      deployment.jwt.verify deployment.JWT_SECRET circumstances.now token =
        claims
  | .process, .ok config, store => config ∈ store.processes
  | .listen config, .ok _, store => config ∈ store.processes
  | .users (.select _ condition), .ok rows, store =>
      ∀ row ∈ rows, row ∈ store.users.rows ∧ condition row = true
  | .users (.insert user), .ok row, store =>
      row ∈ store.users.rows ∧ ∃ id now, UserRow.build user id now = .ok row
  | .users (.insert user), .error thrown, store =>
      circumstances.fault = none → IsUniqueViolation thrown →
        ∃ row ∈ store.users.rows, user.email = some row.email.val
  | .hash password rounds, .ok passwordHash, _ =>
      passwordHash =
        deployment.bcrypt.hash password rounds circumstances.salt
  | .compare password passwordHash, .ok passwordMatches, _ =>
      passwordMatches = deployment.bcrypt.compare password passwordHash
  | .sign secret expiresIn payload, .ok token, _ =>
      deployment.jwt.sign secret expiresIn circumstances.now payload =
        some token
  | .process, .error thrown, _ | .hash _ _, .error thrown, _
  | .users (.select _ _), .error thrown, _ =>
      circumstances.fault = none → ¬ IsUniqueViolation thrown
  | _, _, _ => True

def accounts (deployment : Deployment) :
    Network.Record (SystemMessage deployment.validator)
      (SystemStore deployment.validator) Circumstances
      (SystemCall deployment.validator) SystemReply Thrown where
  allowed := Permitted
  inv store := Accounts deployment.mapping store.users
  rely before after := before.users.rows <+: after.users.rows ∧
    before.processes <+: after.processes
  recorded _ := Recorded

/-- Accounts and processes do not disappear. -/
private theorem Recorded.stable {circumstances : Circumstances}
    {call : SystemCall deployment.validator}
    {result : Except Thrown (SystemReply call)}
    {before after : SystemStore deployment.validator}
    (recorded : Recorded circumstances call result before)
    (users : before.users.rows <+: after.users.rows)
    (processes : before.processes <+: after.processes) :
    Recorded circumstances call result after := by
  cases call with
  | users statement =>
      cases statement with
      | select parameters condition =>
          cases result with
          | ok rows =>
              exact fun row member => ⟨users.subset (recorded row member).1,
                (recorded row member).2⟩
          | error thrown => exact recorded
      | insert user =>
          cases result with
          | ok row => exact ⟨users.subset recorded.1, recorded.2⟩
          | error thrown =>
              intro noFault isCode
              obtain ⟨row, member, isEmail⟩ := recorded noFault isCode
              exact ⟨row, users.subset member, isEmail⟩
      | _ => trivial
  | process =>
      cases result with
      | ok config => exact processes.subset recorded
      | error thrown => exact recorded
  | listen config =>
      cases result with
      | ok started => exact processes.subset recorded
      | error thrown => exact recorded
  | _ => cases result <;> exact recorded

/-- A selection changes nothing and shows rows of the table. -/
private theorem accounts_select (circumstances : Circumstances)
    (parameters : List Parameter) (condition : UserRow → Bool)
    (store : SystemStore deployment.validator) :
    (exec deployment circumstances (.users (.select parameters condition))
        store).2 = store ∧
      Recorded circumstances (.users (.select parameters condition))
        (exec deployment circumstances (.users (.select parameters condition))
          store).1 store := by
  simp only [exec, execStatement]
  cases fault : circumstances.fault with
  | some thrown => exact ⟨rfl, by simp [Recorded, fault]⟩
  | none =>
      simp only [Schema.exec]
      cases rejected : parameters.findSome? Parameter.rejected with
      | some error =>
          refine ⟨rfl, ?_⟩
          intro _ isCode
          have isUnique := isUniqueViolation_queryFailed.mp isCode
          subst isUnique
          obtain ⟨parameter, _, refused⟩ :=
            List.exists_of_findSome?_eq_some rejected
          cases parameter <;> simp [Parameter.rejected] at refused
      | none =>
          refine ⟨rfl, ?_⟩
          intro row member
          exact List.mem_filter.mp member

/-- A call keeps the accounts, and what its result says holds after it. -/
private abbrev Keeps (circumstances : Circumstances)
    (call : SystemCall deployment.validator)
    (store : SystemStore deployment.validator) : Prop :=
  (accounts deployment).inv (exec deployment circumstances call store).2 ∧
    (accounts deployment).rely store
      (exec deployment circumstances call store).2 ∧
    Recorded circumstances call (exec deployment circumstances call store).1
      (exec deployment circumstances call store).2

/-- A call that touches neither the accounts nor the processes. -/
private theorem keeps_idle {circumstances : Circumstances}
    {call : SystemCall deployment.validator}
    {store : SystemStore deployment.validator}
    (inv : Accounts deployment.mapping store.users)
    (result : Except Thrown (SystemReply call))
    (recorded : Recorded circumstances call result store)
    (isResult : (exec deployment circumstances call store).1 = result)
    (users : (exec deployment circumstances call store).2.users = store.users)
    (processes : (exec deployment circumstances call store).2.processes =
      store.processes) :
    Keeps circumstances call store := by
  have prefixes : store.users.rows <+:
        (exec deployment circumstances call store).2.users.rows ∧
      store.processes <+:
        (exec deployment circumstances call store).2.processes := by
    rw [users, processes]
    exact ⟨List.prefix_rfl, List.prefix_rfl⟩
  refine ⟨?_, prefixes, ?_⟩
  · change Accounts deployment.mapping _
    rw [users]
    exact inv
  · rw [isResult]
    exact recorded.stable prefixes.1 prefixes.2

/-- An insertion adds its row at the end, or none. -/
private theorem keeps_insert {store : SystemStore deployment.validator}
    (inv : Accounts deployment.mapping store.users)
    (circumstances : Circumstances) {email : String}
    (isNormalized : Auth.normalized deployment.mapping email = email)
    (passwordHash : String) (role : Role) :
    Keeps circumstances
      (.users (.insert (User.create email passwordHash role))) store := by
  have hasEmail : (User.create email passwordHash role).email = some email :=
    rfl
  rcases insert_cases inv circumstances.toSurroundings hasEmail isNormalized
    with
    ⟨row, id, now, built, executed, rows, kept⟩ |
    ⟨thrown, failed, rows, kept, duplicate⟩
  · have result : (exec deployment circumstances
        (.users (.insert _)) store).1 = .ok row := executed
    have after : (exec deployment circumstances
        (.users (.insert (User.create email passwordHash role)))
        store).2.users.rows = store.users.rows ++ [row] := rows
    rw [Keeps, result]
    refine ⟨kept, ⟨?_, List.prefix_rfl⟩, ?_, id, now, built⟩
    · rw [after]
      exact List.prefix_append _ _
    · rw [after]
      exact List.mem_append_right _ (List.mem_singleton_self row)
  · have result : (exec deployment circumstances
        (.users (.insert _)) store).1 = .error thrown := failed
    have after : (exec deployment circumstances
        (.users (.insert (User.create email passwordHash role)))
        store).2.users.rows = store.users.rows := rows
    rw [Keeps, result]
    refine ⟨kept, ⟨?_, List.prefix_rfl⟩, ?_⟩
    · exact ⟨[], by rw [List.append_nil, after]⟩
    · intro noFault isCode
      obtain ⟨row, member, isEmail⟩ := duplicate noFault isCode
      refine ⟨row, ?_, congrArg some isEmail.symm⟩
      rw [after]
      exact member

theorem accounts_sound : (accounts deployment).Sound (system deployment) where
  refl _ := ⟨List.prefix_rfl, List.prefix_rfl⟩
  trans early late := ⟨early.1.trans late.1, early.2.trans late.2⟩
  stable recorded rely := recorded.stable rely.1 rely.2
  handlers := permitted_handle
  performs {message call} circumstances store permitted isLocal inv := by
    change Keeps circumstances call store
    cases call with
    | verify token => exact keeps_idle inv (.ok _) rfl rfl rfl rfl
    | hash password rounds => exact keeps_idle inv (.ok _) rfl rfl rfl rfl
    | compare password passwordHash =>
        exact keeps_idle inv (.ok _) rfl rfl rfl rfl
    | movies statement => exact keeps_idle inv _ trivial rfl rfl rfl
    | orders statement => exact keeps_idle inv _ trivial rfl rfl rfl
    | send message => cases isLocal
    | sign secret expiresIn payload =>
        cases signed : deployment.jwt.sign secret expiresIn circumstances.now
            payload with
        | none =>
            exact keeps_idle inv (.error .other) trivial (by simp [exec, signed])
              (by simp [exec, signed]) (by simp [exec, signed])
        | some token =>
            exact keeps_idle inv (.ok token) signed (by simp [exec, signed])
              (by simp [exec, signed]) (by simp [exec, signed])
    | process =>
        cases picked : store.processes[circumstances.process]? with
        | none =>
            exact keeps_idle inv (.error .other)
              (by simp [Recorded, IsUniqueViolation])
              (by simp [exec, picked]) (by simp [exec, picked])
              (by simp [exec, picked])
        | some config =>
            exact keeps_idle inv (.ok config) (List.mem_of_getElem? picked)
              (by simp [exec, picked]) (by simp [exec, picked])
              (by simp [exec, picked])
    | listen config =>
        refine ⟨inv, ⟨List.prefix_rfl, List.prefix_append _ _⟩, ?_⟩
        exact List.mem_append_right _ (List.mem_singleton_self config)
    | users statement =>
        cases statement with
        | select parameters condition =>
            obtain ⟨same, recorded⟩ := accounts_select circumstances parameters
              condition store
            exact keeps_idle inv _ recorded rfl (by rw [same]) (by rw [same])
        | insert user =>
            obtain ⟨email, passwordHash, role, rfl, isNormalized, _⟩ :=
              permitted
            exact keeps_insert inv circumstances isNormalized passwordHash role
        | _ => cases permitted

end Cinema.System
