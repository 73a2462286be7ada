import Cinema.System.Login
import Cinema.Text.Utf8

/-!
# The password of an account

A login compares as many bytes of the password as are hashed.  The length of a
password is validated in characters, so whether another password is accepted
as well depends on its encoding.
-/

namespace Cinema.System

open Interleaving Relational Shared Text Auth Catalog Orders Gateway

/-- The first 72 bytes are compared. -/
def TruncatesAt72 (bcrypt : Bcrypt) : Prop :=
  ∀ password other rounds salt,
    bcrypt.compare other (bcrypt.hash password rounds salt) = true ↔
      (utf8 other).take 72 = (utf8 password).take 72

variable {deployment : Deployment}

/-- From now on every login under the address that succeeds has the
password. -/
def OnlyPassword (traffic : SystemTraffic deployment)
    (email password : String) : Prop :=
  ∀ later, (system deployment).Runs anyClients traffic later →
    ∀ job ∈ later.jobs, ∀ payload dto answer,
      job.message = .service (.auth .LOGIN payload) →
        LoginDto.validate deployment.validator deployment.mapping payload =
            .ok dto →
          dto.email = email → job.outcome = some (.ok answer) →
            dto.password = password

/-- No other password that is accepted has the same first bytes. -/
def Unambiguous (validator : Validator) (password : String) : Prop :=
  ∀ other, other ≠ "" → validator.length other ≤ 72 →
    (utf8 other).take 72 = (utf8 password).take 72 → other = password

/-! ## Which passwords are ambiguous -/

private theorem ofList_append_toList (text rest : String) :
    String.ofList (text.toList ++ rest.toList) = text ++ rest := by
  rw [String.ofList_append, String.ofList_toList, String.ofList_toList]

theorem unambiguous_iff {validator : Validator} {password : String} :
    Unambiguous validator password ↔
      (utf8 password).length < 72 ∨ (utf8 password).length = 72 ∧
        ∀ rest ≠ "", 72 < validator.length (password ++ rest) := by
  let accepts : List Char → Prop := fun text =>
    String.ofList text ≠ "" ∧ validator.length (String.ofList text) ≤ 72
  have short : ∀ other : List Char, other ≠ [] → other.length ≤ 72 →
      accepts other := by
    intro other notEmpty bounded
    refine ⟨by simpa using notEmpty, ?_⟩
    have counted := validator.length_le (String.ofList other)
    rw [String.length_ofList] at counted
    omega
  have unique := @Utf8.unique_iff password.toList 72 accepts (by decide) short
  have sameUnique : Unambiguous validator password ↔ ∀ other, accepts other →
      Utf8.cut 72 other = Utf8.cut 72 password.toList →
        other = password.toList := by
    constructor
    · intro unambiguous other accepted same
      have isPassword := unambiguous (String.ofList other) accepted.1 accepted.2
        (by rw [utf8, String.toList_ofList]; exact same)
      rw [← isPassword, String.toList_ofList]
    · intro unique other notEmpty bounded same
      have accepted : accepts other.toList := by
        simp only [accepts, String.ofList_toList]
        exact ⟨notEmpty, bounded⟩
      exact String.toList_injective (unique other.toList accepted same)
  have sameRest : (∀ rest : List Char, rest ≠ [] →
      ¬ accepts (password.toList ++ rest)) ↔
        ∀ rest ≠ "", 72 < validator.length (password ++ rest) := by
    constructor
    · intro closed rest notEmpty
      have more : rest.toList ≠ [] := by simpa using notEmpty
      have refused := closed rest.toList more
      simp only [accepts, ofList_append_toList] at refused
      by_contra small
      exact refused ⟨by simp [notEmpty], Nat.le_of_not_lt small⟩
    · intro closed rest notEmpty accepted
      have more : String.ofList rest ≠ "" := by simpa using notEmpty
      have beyond := closed (String.ofList rest) more
      rw [← @String.toList_ofList rest] at accepted
      simp only [accepts, ofList_append_toList] at accepted
      exact Nat.not_le_of_lt beyond accepted.2
  rw [sameUnique, unique, sameRest]
  rfl

/-! ## Logging in with another password -/

section Registered

variable {store : SystemStore deployment.validator}
  {traffic : SystemTraffic deployment} {job : SystemJob deployment}
  {payload : Json} {answer : SystemAnswer}
  {dto : RegisterDto deployment.validator deployment.mapping}

private theorem onlyPassword_of_unambiguous
    (truncates : TruncatesAt72 deployment.bcrypt)
    (initial : Accounts deployment.mapping store.users)
    (runs : (system deployment).Runs anyClients (.start store) traffic)
    (member : job ∈ traffic.jobs)
    (isRegister : job.message = .service (.auth .REGISTER payload))
    (valid : RegisterDto.validate deployment.validator deployment.mapping
      payload = .ok dto)
    (succeeds : job.outcome = some (.ok answer))
    (unambiguous : Unambiguous deployment.validator dto.password) :
    OnlyPassword traffic dto.email dto.password := by
  intro later onward login loginMember body credentials token isLogin accepted
    sameEmail loggedIn
  obtain ⟨row, present, account, _⟩ :=
    registered_account initial runs member isRegister valid succeeds
  have whole := runs.trans onward
  obtain ⟨same, found, config, issuedAt, accessToken, isValid, isFound, isEmail,
    compared, _⟩ := authenticated_account initial whole loginMember isLogin
      loggedIn
  rw [accepted] at isValid
  cases isValid
  have stays : row ∈ later.store.users.rows :=
    account_stays initial runs onward present
  -- The address leads to the row of the registration.
  have isRow : found = row :=
    (initial.of_runs whole).eq_of_email isFound stays
      (by rw [isEmail, sameEmail, account.email])
  obtain ⟨salt, isHash⟩ := account.passwordHash
  rw [isRow, isHash, truncates] at compared
  exact unambiguous credentials.password credentials.passwordGiven
    credentials.passwordLength compared

private theorem not_onlyPassword (truncates : TruncatesAt72 deployment.bcrypt)
    (anHour : deployment.jwt.accepts "1h" = true)
    (initial : Accounts deployment.mapping store.users)
    (runs : (system deployment).Runs anyClients (.start store) traffic)
    (member : job ∈ traffic.jobs)
    (isRegister : job.message = .service (.auth .REGISTER payload))
    (valid : RegisterDto.validate deployment.validator deployment.mapping
      payload = .ok dto)
    (succeeds : job.outcome = some (.ok answer)) {other : String}
    (notEmpty : other ≠ "") (bounded : deployment.validator.length other ≤ 72)
    (same : (utf8 other).take 72 = (utf8 dto.password).take 72)
    (different : other ≠ dto.password) :
    ¬ OnlyPassword traffic dto.email dto.password := by
  intro only
  obtain ⟨row, present, account, config, _⟩ :=
    registered_account initial runs member isRegister valid succeeds
  obtain ⟨salt, isHash⟩ := account.passwordHash
  have compared :
      deployment.bcrypt.compare other row.passwordHash.val = true := by
    rw [isHash, truncates]
    exact same
  have acceptable : Acceptable deployment.validator row.email.val other := by
    rw [account.email]
    exact ⟨dto.emailValid, notEmpty, bounded⟩
  obtain ⟨later, login, token, onward, loginMember, isLogin, loggedIn⟩ :=
    login_happens initial runs anHour config present acceptable compared
  have normalizes := acceptable
  rw [← (initial.of_runs runs).normalized row present] at normalizes
  obtain ⟨credentials, accepted, isEmail, rfl⟩ :=
    LoginDto.validate_body normalizes
  rw [(initial.of_runs runs).normalized row present, account.email] at isEmail
  exact different
    (only later onward login loginMember _ credentials token isLogin accepted
      isEmail loggedIn)

/-- After a registration only its password logs in if and only if its encoding
stays below the bytes that are compared, or fills them and cannot go on.
Passwords are Unicode texts, without lone surrogates, which have no encoding. -/
theorem only_the_registered_password
    (truncates : TruncatesAt72 deployment.bcrypt)
    (anHour : deployment.jwt.accepts "1h" = true)
    (initial : Accounts deployment.mapping store.users)
    (runs : (system deployment).Runs anyClients (.start store) traffic)
    (member : job ∈ traffic.jobs)
    (isRegister : job.message = .service (.auth .REGISTER payload))
    (valid : RegisterDto.validate deployment.validator deployment.mapping
      payload = .ok dto)
    (succeeds : job.outcome = some (.ok answer)) :
    OnlyPassword traffic dto.email dto.password ↔
      (utf8 dto.password).length < 72 ∨ (utf8 dto.password).length = 72 ∧
        ∀ rest ≠ "", 72 < deployment.validator.length (dto.password ++ rest) := by
  rw [← unambiguous_iff]
  constructor
  · intro only other notEmpty bounded same
    by_contra different
    exact not_onlyPassword truncates anHour initial runs member isRegister valid
      succeeds notEmpty bounded same different only
  · exact onlyPassword_of_unambiguous truncates initial runs member isRegister
      valid succeeds

end Registered

/-! ## Two registrations -/

private theorem sample_truncates : TruncatesAt72 Bcrypt.sample := by
  have code : ∀ value < 256, (Char.ofNat (value + 1)).toNat = value + 1 := by
    decide +kernel
  have byteInjective :
      Function.Injective fun byte : UInt8 => Char.ofNat (byte.toNat + 1) := by
    intro left right same
    have values := congrArg Char.toNat same
    rw [code _ left.toNat_lt, code _ right.toNat_lt] at values
    exact UInt8.toNat_inj.mp (Nat.succ_injective values)
  intro password other rounds salt
  simp only [Bcrypt.sample, decide_eq_true_eq]
  constructor
  · intro same
    have characters := congrArg String.toList same
    simp only [String.toList_ofList] at characters
    exact List.map_injective_iff.mpr byteInjective characters
  · intro same
    rw [same]

/-- The second message is a registration with the password, and has been
answered. -/
private def registers (password : String) (traffic : SystemTraffic deployment) :
    Bool :=
  (traffic.jobs[1]?).any fun job =>
    match job.message, job.outcome with
    | .service (.auth .REGISTER payload), some (.ok _) =>
        (RegisterDto.validate deployment.validator deployment.mapping
          payload).toOption.any fun dto => decide (dto.password = password)
    | _, _ => false

private theorem registers_iff {password : String}
    {traffic : SystemTraffic deployment}
    (registered : registers password traffic = true) :
    ∃ job ∈ traffic.jobs, ∃ payload dto answer,
      job.message = .service (.auth .REGISTER payload) ∧
        RegisterDto.validate deployment.validator deployment.mapping payload =
          .ok dto ∧
        job.outcome = some (.ok answer) ∧ dto.password = password := by
  obtain ⟨job, found, registered⟩ := (Option.any_eq_true _ _).mp registered
  split at registered
  · rename_i payload answer isRegister succeeds
    obtain ⟨dto, valid, isPassword⟩ := (Option.any_eq_true _ _).mp registered
    exact ⟨job, List.mem_of_getElem? found, payload, dto, answer, isRegister,
      toOption_eq_some.mp valid, succeeds, of_decide_eq_true isPassword⟩
  · cases registered

/-- A registration, from the request to the insertion. -/
private def registration (password : String) :
    List (Network.Move (SystemMessage Validator.plain) Circumstances
      ClientFailure) :=
  [.arrive (.http ⟨none, .register (.obj
      [("email", .str "Ripley@example.com"), ("password", .str password),
        ("confirmPassword", .str password)])⟩),
    .act 0 .deliver, .act 0 .send, .act 1 .deliver,
    .act 1 (.perform ⟨calm 1, 0, 0⟩), .act 1 (.perform ⟨calm 1, 0, 0⟩),
    .act 1 (.perform ⟨calm 1, 0, 0⟩), .act 1 (.perform ⟨calm 1, 0, 0⟩)]

private def noAccounts : SystemStore Validator.plain :=
  ⟨∅, sampleDatabases, [sampleEnv none (by simp)]⟩

/-- The deployment of the examples. -/
private def exampleDeployment : Deployment :=
  sampleDeployment (.sample 1 "ripley@example.com" .USER)

private theorem registers_nostromo :
    ((System.play (.start noAccounts) (registration "nostromo") :
      Option (SystemTraffic exampleDeployment)).any (registers "nostromo")) =
        true := by
  decide +kernel

/-- The password is shorter than what is compared. -/
theorem only_the_registered_password_example :
    ∃ (traffic : SystemTraffic
        (sampleDeployment (.sample 1 "ripley@example.com" .USER)))
      (email : String), OnlyPassword traffic email "nostromo" := by
  obtain ⟨traffic, played, registered⟩ :=
    (Option.any_eq_true _ _).mp registers_nostromo
  obtain ⟨job, member, payload, dto, answer, isRegister, valid, succeeds,
    isPassword⟩ := registers_iff registered
  have runs := System.runs_of_play played
  have short : (utf8 dto.password).length < 72 := by
    rw [isPassword]
    decide
  have only := (only_the_registered_password sample_truncates (by decide)
    accounts_empty runs member isRegister valid succeeds).mpr (.inl short)
  rw [isPassword] at only
  exact ⟨traffic, dto.email, only⟩

/-- 36 characters of two bytes fill the bytes that are compared. -/
private def filled (last : Char) : String :=
  String.ofList (List.replicate 36 'é' ++ [last])

private theorem registers_filled :
    ((System.play (.start noAccounts) (registration (filled 'a')) :
      Option (SystemTraffic exampleDeployment)).any (registers (filled 'a'))) =
        true := by
  decide +kernel

/-- The last character of the password is not compared. -/
theorem another_password_logs_in :
    ∃ (traffic : SystemTraffic
        (sampleDeployment (.sample 1 "ripley@example.com" .USER)))
      (store : SystemStore _) (job : SystemJob _) (payload : Json)
      (dto : RegisterDto .plain .ascii) (answer : SystemAnswer),
      TruncatesAt72
          (sampleDeployment (.sample 1 "ripley@example.com" .USER)).bcrypt ∧
        store.users = ∅ ∧
        (system (sampleDeployment (.sample 1 "ripley@example.com" .USER))).Runs
          anyClients (.start store) traffic ∧
        job ∈ traffic.jobs ∧
        job.message = .service (.auth .REGISTER payload) ∧
        RegisterDto.validate .plain .ascii payload = .ok dto ∧
        job.outcome = some (.ok answer) ∧
        dto.password = String.ofList (List.replicate 36 'é' ++ ['a']) ∧
        ¬ OnlyPassword traffic dto.email dto.password := by
  obtain ⟨traffic, played, registered⟩ :=
    (Option.any_eq_true _ _).mp registers_filled
  obtain ⟨job, member, payload, dto, answer, isRegister, valid, succeeds,
    isPassword⟩ := registers_iff registered
  have runs := System.runs_of_play played
  have sameBytes : (utf8 (filled 'b')).take 72 = (utf8 dto.password).take 72 := by
    rw [isPassword]
    decide +kernel
  have different : filled 'b' ≠ dto.password := by
    rw [isPassword]
    decide +kernel
  have fails := not_onlyPassword sample_truncates (by decide) accounts_empty
    runs member isRegister valid succeeds (by decide +kernel)
    (by decide +kernel) sameBytes different
  exact ⟨traffic, noAccounts, job, payload, dto, answer, sample_truncates, rfl,
    runs, member, isRegister, valid, succeeds, isPassword, fails⟩

end Cinema.System
