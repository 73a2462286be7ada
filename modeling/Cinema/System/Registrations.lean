import Cinema.System.AuthHistory

/-!
# Racing registrations

The lookup of an address, the hash and the insertion are separate calls, and
any number of registrations may be anywhere between them.  The table decides:
whoever inserts first has the account, and the others are told that the address
is taken.
-/

namespace Cinema.System

open Interleaving Relational Shared Text Auth Catalog Orders Gateway

variable {deployment : Deployment}

/-! ## The rows of the table -/

/-- The row that a call has inserted. -/
def insertedUser : SystemExchange deployment → Option UserRow
  | ⟨.users (.insert _), .ok row, .performed _⟩ => some row
  | _ => none

def insertedUsers (job : SystemJob deployment) : List UserRow :=
  job.calls.filterMap insertedUser

theorem made_of_insertedUser {job : SystemJob deployment} {row : UserRow}
    (inserted : row ∈ insertedUsers job) :
    ∃ user, Made job (.users (.insert user)) row := by
  obtain ⟨exchange, member, isRow⟩ := List.mem_filterMap.mp inserted
  unfold insertedUser at isRow
  split at isRow
  · rename_i user result circumstances
    cases isRow
    exact ⟨user, circumstances, member⟩
  · cases isRow

/-- A permitted call adds the row it reports to the rows of the table, and no
other. -/
private theorem exec_adds {message : SystemMessage deployment.validator}
    {call : SystemCall deployment.validator} (circumstances : Circumstances)
    (store : SystemStore deployment.validator)
    (permitted : Permitted message call) :
    (exec deployment circumstances call store).2.users.rows =
      store.users.rows ++ (insertedUser (⟨call,
        (exec deployment circumstances call store).1,
        .performed circumstances⟩ : SystemExchange deployment)).toList := by
  cases call with
  | users statement =>
      cases statement with
      | insert user =>
          simp only [exec, execStatement, insertedUser]
          cases fault : circumstances.fault with
          | some thrown => simp
          | none =>
              rcases userSchema.insertRow_cases circumstances.now user
                store.users with
                ⟨row, absent, _, _, inserted⟩ | ⟨error, after, failed, same⟩
              · simp only [Schema.exec, inserted]
                rfl
              · simp only [Schema.exec, failed]
                rcases same with rfl | rfl <;> simp [Except.mapError]
      | select parameters condition =>
          simp only [exec, execStatement, insertedUser]
          cases fault : circumstances.fault with
          | some thrown => simp
          | none =>
              simp only [Schema.exec]
              cases parameters.findSome? Parameter.rejected <;> simp
      | _ => cases permitted
  | process =>
      simp only [exec]
      cases store.processes[circumstances.process]? <;> simp [insertedUser]
  | sign secret expiresIn payload =>
      simp only [exec]
      cases deployment.jwt.sign secret expiresIn circumstances.now payload <;>
        simp [insertedUser]
  | _ => simp [exec, insertedUser]

/-- The table holds the rows of the beginning and those that have been
inserted. -/
theorem users_of_runs {store : SystemStore deployment.validator}
    {traffic : SystemTraffic deployment}
    {admits : SystemTraffic deployment → SystemMessage deployment.validator →
      Prop}
    (runs : (system deployment).Runs admits (.start store) traffic) :
    traffic.store.users.rows.Perm
      (store.users.rows ++ traffic.jobs.flatMap insertedUsers) := by
  apply Network.Runs.accumulates
    (fun store : SystemStore deployment.validator => store.users.rows)
    insertedUser accounts_sound
  · intro message call circumstances store permitted _
    exact exec_adds circumstances store permitted
  · intro exchange notPerformed
    unfold insertedUser
    split
    · exact absurd rfl (notPerformed _)
    · rfl
  · exact runs

/-! ## How a registration ends -/

/-- A registration for the address that passes validation and whose passwords
match. -/
def Races (job : SystemJob deployment) (email password : String) : Prop :=
  ∃ payload dto, job.message = .service (.auth .REGISTER payload) ∧
    RegisterDto.validate deployment.validator deployment.mapping payload =
      .ok dto ∧
    dto.password = dto.confirmPassword ∧ dto.email = email ∧
    dto.password = password

/-- The calls of a registration before the insertion. -/
inductive Preparing (email password : String) :
    SystemCall deployment.validator → Prop where
  | process : Preparing email password .process
  | lookup : Preparing email password (.users (.matching (emailCriteria email)))
  | hash : Preparing email password (.hash password BCRYPT_SALT_ROUNDS)

inductive Raced (job : SystemJob deployment) (email password : String) :
    Except Thrown SystemAnswer → Prop where
  | created {passwordHash row}
      (hashed : Made job (.hash password BCRYPT_SALT_ROUNDS) passwordHash)
      (inserted : Made job
        (.users (.insert (User.create email passwordHash .USER))) row)
      (rows : insertedUsers job = [row]) :
      Raced job email password (.ok (.auth (.user (AuthService.toPublicUser
        (UserRow.refresh (User.create email passwordHash .USER) row)))))
  | taken {row rows}
      (found : Made job (.users (.matching (emailCriteria email))) (row :: rows))
      (nothing : insertedUsers job = []) :
      Raced job email password
        (.error (conflictException "Email is already registered"))
  | refused {passwordHash thrown circumstances}
      (made : (⟨.users (.insert (User.create email passwordHash .USER)),
        .error thrown, .performed circumstances⟩ : SystemExchange deployment) ∈
          job.calls)
      (nothing : insertedUsers job = []) :
      Raced job email password (.error thrown)
  | failed {call thrown circumstances} (preparing : Preparing email password call)
      (made : (⟨call, .error thrown, .performed circumstances⟩ :
        SystemExchange deployment) ∈ job.calls)
      (nothing : insertedUsers job = []) :
      Raced job email password (.error thrown)

section Raced

variable {traffic : SystemTraffic deployment} {job : SystemJob deployment}
  {email password : String} {outcome : Except Thrown SystemAnswer}

private theorem last_made {front : List (SystemExchange deployment)}
    {exchange : SystemExchange deployment}
    (calls : job.calls = front ++ [exchange]) : exchange ∈ job.calls := by
  rw [calls]
  exact List.mem_append_right _ (List.mem_singleton_self _)

theorem raced (traced : (system deployment).Traced traffic job)
    (races : Races job email password)
    (settled : job.outcome = some outcome) :
    Raced job email password outcome := by
  obtain ⟨payload, dto, isMessage, valid, confirmed, rfl, rfl⟩ := races
  obtain ⟨rest, reached, ends⟩ := ended_handler traced isMessage settled
  rw [handle_register valid] at reached
  rcases traced.settled (List.nil_append _).symm rfl reached ends with
    ⟨thrown, _, calls, rfl⟩ | ⟨config, _, _, calls, onward⟩
  · exact .failed .process (last_made calls)
      (by simp [insertedUsers, calls, insertedUser])
  unfold registering at onward
  rw [if_neg (not_ne_iff.mpr confirmed)] at onward
  rcases traced.settled calls rfl onward ends with
    ⟨thrown, _, calls, rfl⟩ | ⟨rows, atSelect, _, calls, selected⟩
  · exact .failed .lookup (last_made calls)
      (by simp [insertedUsers, calls, insertedUser])
  cases rows with
  | cons row rows =>
      obtain ⟨rfl, rfl⟩ := selected.of_fail
      cases ends
      have found : Made job (.users (.matching (emailCriteria dto.email)))
          (row :: rows) := ⟨atSelect, by simp [calls]⟩
      exact .taken found (by simp [insertedUsers, calls, insertedUser])
  | nil =>
      rcases traced.settled calls rfl selected ends with
        ⟨thrown, _, calls, rfl⟩ | ⟨passwordHash, atHash, _, calls, hashed⟩
      · exact .failed .hash (last_made calls)
          (by simp [insertedUsers, calls, insertedUser])
      rcases traced.settled calls rfl hashed ends with
        ⟨thrown, _, calls, rfl⟩ | ⟨row, atInsert, _, calls, inserted⟩
      · exact .refused (last_made calls)
          (by simp [insertedUsers, calls, insertedUser])
      obtain ⟨rfl, rfl⟩ := inserted.of_done
      cases ends
      refine .created ⟨atHash, by simp [calls]⟩ ⟨atInsert, by simp [calls]⟩ ?_
      rw [insertedUsers, calls]
      rfl

end Raced

/-! ## The race -/

/-- Nothing has failed for the message, except that an insertion may have been
refused as a duplicate. -/
def Undisturbed (job : SystemJob deployment) : Prop :=
  ∀ exchange ∈ job.calls, ∀ circumstances,
    exchange.means = .performed circumstances →
      circumstances.fault = none ∧
        ∀ thrown, exchange.result = .error thrown → IsUniqueViolation thrown

theorem isUniqueViolation_statusCode {thrown : Thrown}
    (isCode : IsUniqueViolation thrown) :
    thrown.statusCode = some 409 ∧
      ∀ error message, thrown ≠ .rpc error message := by
  obtain ⟨parameters, rfl⟩ := isCode
  refine ⟨?_, by simp⟩
  simp [Thrown.statusCode, toRpcErrorPayload]

section Race

variable {store : SystemStore deployment.validator}
  {traffic : SystemTraffic deployment} {job : SystemJob deployment}
  {admits : SystemTraffic deployment → SystemMessage deployment.validator → Prop}
  {email password : String} {thrown : Thrown}

/-- Whoever is refused is told that the address is taken, and it is. -/
theorem Raced.refusal (initial : Accounts deployment.mapping store.users)
    (runs : (system deployment).Runs admits (.start store) traffic)
    (member : job ∈ traffic.jobs) (undisturbed : Undisturbed job)
    (raced : Raced job email password (.error thrown)) :
    insertedUsers job = [] ∧ thrown.statusCode = some 409 ∧
      (relayed .auth thrown).statusCode = some 409 ∧
      ∃ row ∈ traffic.store.users.rows, row.email.val = email := by
  cases raced with
  | @taken row rows found nothing =>
      obtain ⟨_, shown⟩ := found.recorded initial runs member
      obtain ⟨present, criteria⟩ := shown row List.mem_cons_self
      have status : (conflictException
          "Email is already registered").statusCode = some 409 :=
        statusCode_http _
      refine ⟨nothing, status, ?_, row, present, matches_email.mp criteria⟩
      rw [relayed_statusCode (by simp [conflictException])]
      exact status
  | refused made nothing =>
      obtain ⟨healthy, duplicate⟩ := undisturbed _ made _ rfl
      have isCode := duplicate thrown rfl
      obtain ⟨row, present, isEmail⟩ :=
        recorded_of_mem initial runs member made healthy isCode
      obtain ⟨status, notRpc⟩ := isUniqueViolation_statusCode isCode
      refine ⟨nothing, status, ?_, row, present, (Option.some.inj isEmail).symm⟩
      rw [relayed_statusCode notRpc]
      exact status
  | @failed call _ circumstances preparing made nothing =>
      obtain ⟨healthy, duplicate⟩ := undisturbed _ made _ rfl
      have recorded := recorded_of_mem initial runs member made
      cases preparing with
      | process => exact absurd (duplicate thrown rfl) (recorded healthy)
      | lookup => exact absurd (duplicate thrown rfl) (recorded healthy)
      | hash => exact absurd (duplicate thrown rfl) (recorded healthy)

private theorem inserted_once_of_lt
    (initial : Accounts deployment.mapping store.users)
    (runs : (system deployment).Runs admits (.start store) traffic)
    {first second : Nat} {left right : SystemJob deployment}
    (leftFound : traffic.jobs[first]? = some left)
    (rightFound : traffic.jobs[second]? = some right) (before : first < second)
    {leftRow rightRow : UserRow} (leftInserted : leftRow ∈ insertedUsers left)
    (rightInserted : rightRow ∈ insertedUsers right) :
    leftRow.email.val ≠ rightRow.email.val := by
  intro same
  have emails := ((users_of_runs runs).map fun row => row.email.val).nodup
    (initial.of_runs runs).distinct
  rw [List.map_append, List.map_flatMap] at emails
  have disjoint := (List.nodup_flatMap.mp emails.of_append_right).2
  obtain ⟨leftSmall, isLeft⟩ := List.getElem?_eq_some_iff.mp leftFound
  obtain ⟨rightSmall, isRight⟩ := List.getElem?_eq_some_iff.mp rightFound
  have apart := List.pairwise_iff_getElem.mp disjoint first second leftSmall
    rightSmall before
  rw [isLeft, isRight] at apart
  refine apart (List.mem_map.mpr ⟨leftRow, leftInserted, rfl⟩) ?_
  exact List.mem_map.mpr ⟨rightRow, rightInserted, same.symm⟩

theorem inserted_once (initial : Accounts deployment.mapping store.users)
    (runs : (system deployment).Runs admits (.start store) traffic)
    {first second : Nat} {left right : SystemJob deployment}
    (leftFound : traffic.jobs[first]? = some left)
    (rightFound : traffic.jobs[second]? = some right) (different : first ≠ second)
    {leftRow rightRow : UserRow} (leftInserted : leftRow ∈ insertedUsers left)
    (rightInserted : rightRow ∈ insertedUsers right) :
    leftRow.email.val ≠ rightRow.email.val := by
  rcases Nat.lt_or_gt_of_ne different with before | after
  · exact inserted_once_of_lt initial runs leftFound rightFound before
      leftInserted rightInserted
  · exact (inserted_once_of_lt initial runs rightFound leftFound after
      rightInserted leftInserted).symm

/-- A start whose administrator has the address. -/
def StartsWith (job : SystemJob deployment) (email : String) : Prop :=
  ∃ config given password, job.message = .start config ∧
    config.admin = some (given, password) ∧
    normalized deployment.mapping given = email

private theorem racer_of_row (initial : Accounts deployment.mapping store.users)
    (runs : (system deployment).Runs admits (.start store) traffic)
    (unknown : ∀ row ∈ store.users.rows, row.email.val ≠ email)
    (noStart : ∀ job ∈ traffic.jobs, ¬ StartsWith job email) {row : UserRow}
    (present : row ∈ traffic.store.users.rows) (isEmail : row.email.val = email) :
    ∃ job ∈ traffic.jobs, ∃ password, Races job email password ∧
      row ∈ insertedUsers job := by
  have source := (users_of_runs runs).subset present
  rcases List.mem_append.mp source with old | new
  · exact absurd isEmail (unknown row old)
  obtain ⟨job, member, inserted⟩ := List.mem_flatMap.mp new
  obtain ⟨user, made⟩ := made_of_insertedUser inserted
  obtain ⟨_, address, password, role, creates, account⟩ :=
    created_account initial runs member made
  obtain rfl : address = email := account.email.symm.trans isEmail
  refine ⟨job, member, password, ?_, inserted⟩
  generalize isMessage : job.message = message at creates
  cases creates with
  | register valid confirmed =>
      exact ⟨_, _, isMessage, valid, confirmed, rfl, rfl⟩
  | start admin =>
      exact absurd ⟨_, _, _, isMessage, admin, rfl⟩ (noStart job member)

private theorem race_result (initial : Accounts deployment.mapping store.users)
    (runs : (system deployment).Runs admits (.start store) traffic)
    (member : job ∈ traffic.jobs) (races : Races job email password)
    (finished : job.outcome.isSome = true ∧ Undisturbed job) :
    (∃ user row, job.outcome = some (.ok (.auth (.user user))) ∧
      user.id = some row.id.val ∧ user.email = some email ∧
      user.role = some .USER ∧ insertedUsers job = [row] ∧
      row ∈ traffic.store.users.rows ∧
      AccountOf deployment email password .USER row) ∨
    (∃ row ∈ traffic.store.users.rows, row.email.val = email) ∧
      insertedUsers job = [] ∧ ∃ thrown,
        job.outcome = some (.error thrown) ∧ thrown.statusCode = some 409 ∧
          (relayed .auth thrown).statusCode = some 409 := by
  obtain ⟨settled, undisturbed⟩ := finished
  obtain ⟨outcome, ends⟩ := Option.isSome_iff_exists.mp settled
  have traced := Network.Runs.traced Network.traced_start runs job member
  have result := raced traced races ends
  cases outcome with
  | error thrown =>
      obtain ⟨nothing, status, relayedStatus, taken⟩ :=
        result.refusal initial runs member undisturbed
      exact .inr ⟨taken, nothing, thrown, ends, status, relayedStatus⟩
  | ok answer =>
      cases result with
      | created hashed inserted rows =>
          obtain ⟨present, account⟩ :=
            hashed.account initial runs member inserted
          exact .inl ⟨_, _, ends, rfl, rfl, rfl, rows, present, account⟩

/-- Addresses are normalised and distinct at any time; and of the racers for an
address that nobody has, when all have ended and nothing else has failed, one
has got the account and the others have been refused with 409. -/
theorem one_account_per_email
    (initial : Accounts deployment.mapping store.users)
    (runs : (system deployment).Runs admits (.start store) traffic) :
    (∀ row ∈ traffic.store.users.rows,
      normalized deployment.mapping row.email.val = row.email.val) ∧
    (traffic.store.users.rows.map fun row => row.email.val).Nodup ∧
    traffic.store.users.rows.Perm
      (store.users.rows ++ traffic.jobs.flatMap insertedUsers) ∧
    ∀ email, (∀ row ∈ store.users.rows, row.email.val ≠ email) →
      (∀ job ∈ traffic.jobs, ¬ StartsWith job email) →
      (∃ job ∈ traffic.jobs, ∃ password, Races job email password) →
      (∀ job ∈ traffic.jobs, ∀ password, Races job email password →
        job.outcome.isSome = true ∧ Undisturbed job) →
      ∃ winner job password user row, traffic.jobs[winner]? = some job ∧
        Races job email password ∧
        job.outcome = some (.ok (.auth (.user user))) ∧
        user.id = some row.id.val ∧ user.email = some email ∧
        user.role = some .USER ∧ insertedUsers job = [row] ∧
        row ∈ traffic.store.users.rows ∧
        AccountOf deployment email password .USER row ∧
        (∀ other ∈ traffic.store.users.rows, other.email.val = email →
          other = row) ∧
        ∀ (index : Nat) (other : SystemJob deployment) (attempt : String),
          index ≠ winner → traffic.jobs[index]? = some other →
          Races other email attempt →
            insertedUsers other = [] ∧
              ∃ thrown, other.outcome = some (.error thrown) ∧
                thrown.statusCode = some 409 ∧
                (relayed .auth thrown).statusCode = some 409 := by
  have accounts := initial.of_runs runs
  refine ⟨accounts.normalized, accounts.distinct, users_of_runs runs, ?_⟩
  intro email unknown noStart someone finished
  -- Whether a racer was refused or not, the address is taken.
  obtain ⟨row, present, isEmail⟩ :
      ∃ row ∈ traffic.store.users.rows, row.email.val = email := by
    obtain ⟨job, member, password, races⟩ := someone
    rcases race_result initial runs member races
      (finished job member password races) with
      ⟨_, row, _, _, _, _, _, present, account⟩ | ⟨taken, _⟩
    · exact ⟨row, present, account.email⟩
    · exact taken
  obtain ⟨job, member, password, races, isInserted⟩ :=
    racer_of_row initial runs unknown noStart present isEmail
  obtain ⟨winner, found⟩ := List.getElem?_of_mem member
  rcases race_result initial runs member races
    (finished job member password races) with
    ⟨user, own, ends, hasId, hasEmail, hasRole, rows, _, account⟩ |
    ⟨_, nothing, _⟩
  · obtain rfl : row = own := by
      rw [rows] at isInserted
      exact List.mem_singleton.mp isInserted
    refine ⟨winner, job, password, user, row, found, races, ends, hasId,
      hasEmail, hasRole, rows, present, account, ?_, ?_⟩
    · intro other otherPresent same
      exact accounts.eq_of_email otherPresent present
        (same.trans isEmail.symm)
    · intro index other attempt different otherFound otherRaces
      have otherMember := List.mem_of_getElem? otherFound
      rcases race_result initial runs otherMember otherRaces
        (finished other otherMember attempt otherRaces) with
        ⟨_, otherRow, _, _, _, _, otherRows, _, otherAccount⟩ |
        ⟨_, otherNothing, refused⟩
      · have otherInserted : otherRow ∈ insertedUsers other := by
          rw [otherRows]
          exact List.mem_singleton_self otherRow
        exact absurd (otherAccount.email.trans isEmail.symm)
          (inserted_once initial runs otherFound found different otherInserted
            isInserted)
      · exact ⟨otherNothing, refused⟩
  · rw [nothing] at isInserted
    cases isInserted

end Race

/-! ## Two racers -/

/-- `Undisturbed`, and ended. -/
private def endedAlone (job : SystemJob deployment) : Bool :=
  job.outcome.isSome && job.calls.all fun exchange =>
    match exchange.means, exchange.result with
    | .performed circumstances, .error (.queryFailed code _) =>
        circumstances.fault.isNone && decide (code = PG_UNIQUE_VIOLATION)
    | .performed circumstances, .ok _ => circumstances.fault.isNone
    | .performed _, .error _ => false
    | _, _ => true

private theorem undisturbed_of_endedAlone {job : SystemJob deployment}
    (ended : endedAlone job = true) :
    job.outcome.isSome = true ∧ Undisturbed job := by
  obtain ⟨settled, quiet⟩ := Bool.and_eq_true_iff.mp ended
  refine ⟨settled, ?_⟩
  rintro ⟨call, result, means⟩ member circumstances isMeans
  have checked := List.all_eq_true.mp quiet _ member
  change means = .performed circumstances at isMeans
  subst isMeans
  cases result with
  | ok reply => exact ⟨Option.isNone_iff_eq_none.mp checked, by simp⟩
  | error thrown =>
      cases thrown with
      | queryFailed code parameters =>
          obtain ⟨healthy, isCode⟩ := Bool.and_eq_true_iff.mp checked
          refine ⟨Option.isNone_iff_eq_none.mp healthy, ?_⟩
          intro thrown same
          cases same
          exact ⟨parameters, by rw [of_decide_eq_true isCode]⟩
      | http exception => cases checked
      | rpc error message => cases checked
      | other => cases checked

private def isRacer (email : String) (job : SystemJob deployment) : Bool :=
  match job.message with
  | .service (.auth .REGISTER payload) =>
      (RegisterDto.validate deployment.validator deployment.mapping
        payload).toOption.any fun dto =>
          decide (dto.password = dto.confirmPassword ∧ dto.email = email)
  | _ => false

private theorem races_of_isRacer {email : String} {job : SystemJob deployment}
    (isRacer : isRacer email job = true) : ∃ password, Races job email password := by
  unfold System.isRacer at isRacer
  split at isRacer
  · rename_i payload isMessage
    obtain ⟨dto, valid, racing⟩ := (Option.any_eq_true _ _).mp isRacer
    obtain ⟨confirmed, sameEmail⟩ := of_decide_eq_true racing
    exact ⟨dto.password, payload, dto, isMessage, toOption_eq_some.mp valid,
      confirmed, sameEmail, rfl⟩
  · cases isRacer

private def isStart (job : SystemJob deployment) : Bool :=
  match job.message with
  | .start _ => true
  | _ => false

private def attempt (email password : String) :
    SystemMessage Validator.plain :=
  .http ⟨none, .register (.obj [("email", .str email),
    ("password", .str password), ("confirmPassword", .str password)])⟩

private def moment : Circumstances := ⟨calm 1, 0, 0⟩

/-- Both look the address up before either inserts it. -/
private theorem raced_ripley :
    ((System.play
      (.start ⟨∅, sampleDatabases, [sampleEnv none (by simp)]⟩)
      [.arrive (attempt "Ripley@example.com" "nostromo"),
        .arrive (attempt " ripley@EXAMPLE.com" "narcissus"),
        .act 0 .deliver, .act 0 .send, .act 1 .deliver, .act 1 .send,
        .act 2 .deliver, .act 3 .deliver, .act 2 (.perform moment),
        .act 3 (.perform moment), .act 2 (.perform moment),
        .act 3 (.perform moment), .act 2 (.perform moment),
        .act 3 (.perform moment), .act 3 (.perform moment),
        .act 2 (.perform moment), .act 0 .answer, .act 1 .answer] :
        Option (SystemTraffic (sampleDeployment
          (.sample 1 "ripley@example.com" .USER)))).any fun traffic =>
          traffic.jobs.all (fun job => endedAlone job && !isStart job) &&
            (traffic.jobs[2]?).any (isRacer "ripley@example.com")) = true := by
  decide +kernel

/-- Two spellings of one address are registered at the same time. -/
theorem one_account_per_email_example :
    ∃ (traffic : SystemTraffic
        (sampleDeployment (.sample 1 "ripley@example.com" .USER)))
      (job : SystemJob _) (row : UserRow), job ∈ traffic.jobs ∧
        insertedUsers job = [row] ∧ row.email.val = "ripley@example.com" := by
  obtain ⟨traffic, played, checked⟩ := (Option.any_eq_true _ _).mp raced_ripley
  obtain ⟨all, racing⟩ := Bool.and_eq_true_iff.mp checked
  obtain ⟨racer, found, isRacer⟩ := (Option.any_eq_true _ _).mp racing
  obtain ⟨password, races⟩ := races_of_isRacer isRacer
  have ended : ∀ job ∈ traffic.jobs, endedAlone job = true ∧ isStart job = false := by
    intro job member
    simpa using List.all_eq_true.mp all job member
  obtain ⟨_, _, _, race⟩ :=
    one_account_per_email accounts_empty (System.runs_of_play played)
  have noStart : ∀ job ∈ traffic.jobs, ¬ StartsWith job "ripley@example.com" := by
    rintro job member ⟨config, _, _, isMessage, _⟩
    have checked := (ended job member).2
    rw [isStart, isMessage] at checked
    cases checked
  obtain ⟨winner, job, _, _, row, jobFound, _, _, _, _, _, inserted, _, account,
    _⟩ := race "ripley@example.com" (fun row old => absurd old List.not_mem_nil)
      noStart ⟨racer, List.mem_of_getElem? found, password, races⟩
      (fun job member _ _ => undisturbed_of_endedAlone (ended job member).1)
  exact ⟨traffic, job, row, List.mem_of_getElem? jobFound, inserted,
    account.email⟩

end Cinema.System
