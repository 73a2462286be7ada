import Cinema.Orders.Ledger

/-!
# How often an order is cancelled

A cancel request reads the order, checks its status and saves it, and nothing
keeps another request from saving it in between.  Two requests that both read
a confirmed order both succeed.  An order is cancelled at most once if every
save finds it still confirmed.
-/

namespace Cinema.Orders

open Interleaving Relational Shared Catalog Backend

/-- What a valid cancel request asks for. -/
def cancelDto (validator : Validator) : Message → Option UserOrderPayload
  | .orders .CANCEL_USER_ORDER payload =>
      (UserOrderPayload.validate validator payload).toOption
  | _ => none

theorem cancelDto_eq_some {validator : Validator} {request : Message}
    {dto : UserOrderPayload}
    (asks : cancelDto validator request = some dto) :
    ∃ payload, request = .orders .CANCEL_USER_ORDER payload ∧
      UserOrderPayload.validate validator payload = .ok dto := by
  unfold cancelDto at asks
  split at asks
  · rename_i payload
    exact ⟨payload, rfl, toOption_eq_some.mp asks⟩
  · cases asks

/-- A valid request to cancel the order, by anyone. -/
def CancelOf (validator : Validator) (orderId : ℤ) (request : Message) : Prop :=
  (cancelDto validator request).any fun dto => dto.orderId = orderId

instance (validator : Validator) (orderId : ℤ) (request : Message) :
    Decidable (CancelOf validator orderId request) :=
  inferInstanceAs (Decidable (_ = true))

/-- The same by its owner, at a moment when the order exists. -/
def OwnersCancelOf (validator : Validator) (orderId : ℤ) (request : Message)
    (moment : Databases) : Prop :=
  ∃ dto, cancelDto validator request = some dto ∧ dto.orderId = orderId ∧
    ∃ row ∈ moment.orders.rows,
      row.id.val = orderId ∧ row.userId.val = dto.userId

def AlreadyCancelled (orderId : ℤ) (outcome : Except Thrown Answer) : Prop :=
  outcome =
    .error (conflictException s!"Order {orderId} is already cancelled")

/-- At most one request to cancel the order has succeeded.  Every answered
request of its owner has succeeded, with the cancelled order, or is told that
the order is already cancelled. -/
structure CancelledOnce (validator : Validator) (orderId : ℤ)
    (pool : Pool Message Databases BackendCall BackendReply Thrown Answer) :
    Prop where
  once : ∀ (i j : Nat) left right leftAnswer rightAnswer,
    pool.threads[i]? = some left → pool.threads[j]? = some right →
    CancelOf validator orderId left.request →
    CancelOf validator orderId right.request →
    left.program.outcome = some (.ok leftAnswer) →
    right.program.outcome = some (.ok rightAnswer) → i = j
  answered : ∀ thread ∈ pool.threads,
    OwnersCancelOf validator orderId thread.request thread.arrival →
    ∀ outcome, thread.program.outcome = some outcome →
      (∃ order, outcome = .ok (answerOrder order) ∧
        order.id = some orderId ∧ order.status = some .CANCELLED) ∨
      AlreadyCancelled orderId outcome

/-- No statement of a request of the owner to cancel the order fails, and every
statement of its save finds the order still confirmed. -/
def Uncontended (validator : Validator) (orderId : ℤ) :
    Conduct Message Databases Surroundings BackendCall where
  admits _ := True
  performs request surroundings call databases :=
    OwnersCancelOf validator orderId request databases →
      ∀ statement, call = .orders statement →
        surroundings.fault = none ∧
          (statement.isSave = true →
            ∃ row, databases.orders.find? orderId = some row ∧
              row.status = .CONFIRMED)

variable {validator : Validator} {arithmetic : Arithmetic}
  {granularity : Granularity} {orderId : ℤ}

/-! ## Two requests at once -/

/-- Both requests read the confirmed order before either saves it. -/
theorem cancelled_twice :
    ∃ pool, (backend .plain .exact .atomicSave).Runs .any
        (.start sampleDatabases) pool ∧ ¬ CancelledOnce .plain 1 pool := by
  have played : (((backend .plain .exact .atomicSave).playFreely
      (.start sampleDatabases)
      [.arrive (cancelMessage 7 1), .arrive (cancelMessage 7 1),
        .perform 0 (calm 1), .perform 1 (calm 2), .perform 0 (calm 3),
        .perform 1 (calm 4)]).any fun pool =>
      pool.threads[0]?.any (fun thread =>
        CancelOf .plain 1 thread.request ∧
          thread.program.outcome.any Except.toBool) &&
      pool.threads[1]?.any (fun thread =>
        CancelOf .plain 1 thread.request ∧
          thread.program.outcome.any Except.toBool)) = true := by
    decide +kernel
  have succeeded : ∀ {program :
      Program BackendCall BackendReply Thrown Answer},
      program.outcome.any Except.toBool = true →
        ∃ answer, program.outcome = some (.ok answer) := by
    intro program isOk
    obtain ⟨outcome, isOutcome, isOk⟩ := (Option.any_eq_true _ _).mp isOk
    cases outcome with
    | error thrown => cases isOk
    | ok answer => exact ⟨answer, isOutcome⟩
  obtain ⟨pool, reached, both⟩ := (Option.any_eq_true _ _).mp played
  obtain ⟨first, second⟩ := Bool.and_eq_true_iff.mp both
  obtain ⟨left, leftFound, leftDone⟩ := (Option.any_eq_true _ _).mp first
  obtain ⟨right, rightFound, rightDone⟩ := (Option.any_eq_true _ _).mp second
  obtain ⟨leftCancels, leftOk⟩ := of_decide_eq_true leftDone
  obtain ⟨rightCancels, rightOk⟩ := of_decide_eq_true rightDone
  obtain ⟨leftAnswer, leftOutcome⟩ := succeeded leftOk
  obtain ⟨rightAnswer, rightOutcome⟩ := succeeded rightOk
  refine ⟨pool, Service.runs_of_playFreely reached, fun cancelledOnce => ?_⟩
  have same := cancelledOnce.once 0 1 left right leftAnswer rightAnswer
    leftFound rightFound leftCancels rightCancels leftOutcome rightOutcome
  cases same

/-! ## Uncontended requests -/

/-- A request ends in success only by a statement of its save. -/
private def SavesLast (call : BackendCall)
    (next : BackendReply call → Program BackendCall BackendReply Thrown Answer) :
    Prop :=
  (∃ statement, call = .orders statement ∧ statement.isSave = true) ∨
    ∀ reply answer, (next reply).outcome ≠ some (.ok answer)

private theorem saveCancelled_savesLast (row : OrderRow) :
    (saveCancelled granularity row).Every (fun _ _ => True) SavesLast := by
  cases granularity with
  | atomicSave =>
      rw [saveCancelled_atomic]
      exact ⟨.inl ⟨_, rfl, rfl⟩, fun _ _ => trivial⟩
  | statements =>
      rw [saveCancelled_statements]
      refine ⟨.inl ⟨_, rfl, rfl⟩, fun reread _ => ?_⟩
      cases reread with
      | none => exact ⟨.inl ⟨_, rfl, rfl⟩, fun _ _ => trivial⟩
      | some current =>
          dsimp only
          split
          · trivial
          · exact ⟨.inl ⟨_, rfl, rfl⟩, fun _ _ => trivial⟩

private theorem handle_savesLast (orderId : ℤ) (request : Message) :
    (handle validator arithmetic granularity request).Every (fun _ _ => True)
      fun call next =>
        CancelOf validator orderId request → SavesLast call next := by
  cases asks : cancelDto validator request with
  | none =>
      refine Program.every_of_forall (fun call next cancels => ?_) _
      simp [CancelOf, asks] at cancels
  | some dto =>
      obtain ⟨payload, rfl, valid⟩ := cancelDto_eq_some asks
      rw [handle_cancel valid]
      refine ⟨fun _ => .inr fun rows answer => ?_, fun rows _ => ?_⟩
      · dsimp only
        split
        · simp
        · split
          · simp
          · cases granularity <;> simp [saveCancelled_atomic,
              saveCancelled_statements]
      · dsimp only
        split
        · trivial
        · split
          · trivial
          · exact (saveCancelled_savesLast _).mono fun _ _ saves _ => saves

private theorem handle_not_done {request : Message}
    (cancels : CancelOf validator orderId request) (answer : Answer) :
    (handle validator arithmetic granularity request).outcome ≠
      some (.ok answer) := by
  obtain ⟨dto, asks, _⟩ := (Option.any_eq_true _ _).mp cancels
  obtain ⟨payload, rfl, valid⟩ := cancelDto_eq_some asks
  rw [handle_cancel valid]
  simp

/-- The request at a position has succeeded in cancelling the order. -/
private def Succeeded (validator : Validator) (orderId : ℤ)
    (pool : Pool Message (Timeline Databases) BackendCall BackendReply Thrown
      Answer) (index : Nat) : Prop :=
  ∃ thread answer, pool.threads[index]? = some thread ∧
    CancelOf validator orderId thread.request ∧
    thread.program.outcome = some (.ok answer)

section Once

variable {pool : Pool Message (Timeline Databases) BackendCall BackendReply
  Thrown Answer}

private theorem succeeded_arrive {request : Message} {index : Nat}
    (succeeded : Succeeded validator orderId
      (pool.arrive (backend validator arithmetic granularity).recorded request)
      index) :
    Succeeded validator orderId pool index := by
  obtain ⟨thread, answer, found, cancels, done⟩ := succeeded
  rcases Nat.lt_or_ge index pool.threads.length with old | new
  · refine ⟨thread, answer, ?_, cancels, done⟩
    rwa [Pool.arrive, List.getElem?_append_left old] at found
  · have isNew : thread = ⟨request, pool.store,
        handle validator arithmetic granularity request⟩ := by
      rw [Pool.arrive, List.getElem?_append_right new] at found
      exact List.mem_singleton.mp (List.mem_of_getElem? found)
    rw [isNew] at cancels done
    exact absurd done (handle_not_done cancels answer)

/-- The order is cancelled once a request has succeeded. -/
private theorem cancelled_of_succeeded
    {conduct : Conduct Message (Timeline Databases) Surroundings BackendCall}
    (coherent : (ledger validator conduct).Coherent
      (backend validator arithmetic granularity).recorded pool) {index : Nat}
    (succeeded : Succeeded validator orderId pool index) :
    ∃ row, pool.store.now.orders.find? orderId = some row ∧
      row.status = .CANCELLED := by
  obtain ⟨thread, answer, found, cancels, done⟩ := succeeded
  obtain ⟨dto, asks, isOrder⟩ := (Option.any_eq_true _ _).mp cancels
  obtain ⟨payload, isCancel, valid⟩ := cancelDto_eq_some asks
  have outcome := coherent.answered ledger_sound
    (List.mem_of_getElem? found) done payload dto isCancel valid
  obtain ⟨_, row, rowFound, _, status⟩ := outcome
  rw [of_decide_eq_true isOrder] at rowFound
  exact ⟨row, rowFound, status⟩

/-- A request that has succeeded is one of the owner, and was so before its
last statement. -/
private theorem owner_of_succeeded {request : Message} {moments : List Databases}
    {before after : Timeline Databases}
    (effect : OrderEffect (Purchased validator request moments)
      (AsksToCancel validator request) before.now.orders after.now.orders)
    {payload : Json} (isCancel : request = .orders .CANCEL_USER_ORDER payload)
    {dto : UserOrderPayload} (asks : cancelDto validator request = some dto)
    (isOrder : dto.orderId = orderId)
    (cancelled : CancelledIn dto after.now.orders) :
    OwnersCancelOf validator orderId request before.now := by
  obtain ⟨row, found, owner, _⟩ := cancelled
  obtain ⟨member, isRow⟩ := Table.find?_eq_some.mp found
  have none : ∀ row, ¬ Purchased validator request moments row := by
    rintro row ⟨other, _, isPurchase, _⟩
    rw [isCancel] at isPurchase
    cases isPurchase
  obtain ⟨old, oldMember, terms⟩ := effect.mem_before none member
  refine ⟨dto, asks, isOrder, old, oldMember, ?_, ?_⟩
  · rw [terms.id, ← isOrder]
    exact isRow
  · rw [terms.userId]
    exact owner

/-- At most one success: the second one would have found the order
cancelled. -/
private theorem succeeded_unique {initial : Databases}
    (runs : (backend validator arithmetic granularity).recorded.Runs
      (Uncontended validator orderId).recorded (.start (.begin initial)) pool) :
    ∀ i j, Succeeded validator orderId pool i →
      Succeeded validator orderId pool j → i = j := by
  induction runs with
  | refl =>
      rintro i j ⟨thread, _, found, _⟩ _
      simp [Pool.start] at found
  | tail runs step ih =>
      have sound : (ledger validator
          (Uncontended validator orderId).recorded).Sound
          (backend validator arithmetic granularity).recorded := ledger_sound
      have coherent := (Protocol.coherent_start trivial).run sound runs
      have onward := coherent.step sound step
      have shapes := Service.Runs.every
        (fun request _ => handle_savesLast orderId request)
        (fun _ _ _ _ _ => trivial) runs (by simp [Pool.start])
      cases step with
      | arrive request admitted =>
          intro i j left right
          exact ih i j (succeeded_arrive left) (succeeded_arrive right)
      | perform index thread surroundings call next found pending allowed =>
          rename_i before
          have shape := shapes thread (List.mem_of_getElem? found)
          rw [pending] at shape
          have oldOrNew : ∀ k, Succeeded validator orderId
              (before.perform (backend validator arithmetic
                granularity).recorded index thread surroundings call next) k →
              Succeeded validator orderId before k ∨
                (k = index ∧ ∃ row,
                  before.store.now.orders.find? orderId = some row ∧
                    row.status = .CONFIRMED) := by
            rintro k ⟨other, answer, otherFound, cancels, done⟩
            rcases Service.getElem?_perform otherFound with
              ⟨isIndex, rfl⟩ | old
            · right
              obtain ⟨reply, _, last⟩ := Program.outcome_resume_ok done
              rcases shape.1 cancels with ⟨statement, rfl, saves⟩ | never
              · obtain ⟨dto, asks, isOrder⟩ :=
                  (Option.any_eq_true _ _).mp cancels
                obtain ⟨payload, isCancel, valid⟩ := cancelDto_eq_some asks
                obtain ⟨_, cancelled⟩ := onward.answered sound
                  (List.mem_of_getElem? otherFound) done payload dto isCancel
                  valid
                have effect :=
                  (coherent.guarantee sound surroundings found pending
                    allowed).2
                exact ⟨isIndex, (allowed (owner_of_succeeded effect isCancel
                  asks (of_decide_eq_true isOrder) cancelled) statement
                  rfl).2 saves⟩
              · exact absurd last (never reply answer)
            · exact .inl ⟨other, answer, old, cancels, done⟩
          have notBoth : ∀ k l, Succeeded validator orderId before k →
              ¬ (l = index ∧ ∃ row,
                before.store.now.orders.find? orderId = some row ∧
                  row.status = .CONFIRMED) := by
            rintro k l old ⟨_, row, has, confirmed⟩
            obtain ⟨other, hasOther, cancelled⟩ :=
              cancelled_of_succeeded coherent old
            rw [has] at hasOther
            cases hasOther
            rw [confirmed] at cancelled
            cases cancelled
          intro i j left right
          rcases oldOrNew i left with oldLeft | newLeft
          · rcases oldOrNew j right with oldRight | newRight
            · exact ih i j oldLeft oldRight
            · exact absurd newRight (notBoth i j oldLeft)
          · rcases oldOrNew j right with oldRight | newRight
            · exact absurd newLeft (notBoth j i oldRight)
            · exact newLeft.1.trans newRight.1.symm

end Once

/-- In a run in which no statement of a request of the owner to cancel the order
fails and every statement of its save finds the order still confirmed, the
order is cancelled at most once and every later request is told so. -/
theorem cancelled_once {initial : Databases}
    {pool : Pool Message Databases BackendCall BackendReply Thrown Answer}
    (runs : (backend validator arithmetic granularity).Runs
      (Uncontended validator orderId) (.start initial) pool) :
    CancelledOnce validator orderId pool := by
  obtain ⟨recorded, recordedRuns, rfl⟩ := runs.lift
  have sound : (ledger validator (Uncontended validator orderId).recorded).Sound
      (backend validator arithmetic granularity).recorded := ledger_sound
  have coherent := (Protocol.coherent_start trivial).run sound recordedRuns
  have original : ∀ {thread}, thread ∈ recorded.present.threads →
      ∃ recordedThread ∈ recorded.threads, recordedThread.present = thread :=
    List.mem_map.mp
  have originalAt : ∀ {k : Nat} {thread answer},
      recorded.present.threads[k]? = some thread →
      CancelOf validator orderId thread.request →
      thread.program.outcome = some (.ok answer) →
        Succeeded validator orderId recorded k := by
    intro k thread answer found cancels done
    obtain ⟨recordedThread, recordedFound, rfl⟩ :
        ∃ recordedThread, recorded.threads[k]? = some recordedThread ∧
          recordedThread.present = thread := by
      simpa [Pool.present] using found
    exact ⟨recordedThread, answer, recordedFound, cancels, done⟩
  constructor
  · intro i j left right leftAnswer rightAnswer leftFound rightFound
      leftCancels rightCancels leftDone rightDone
    exact succeeded_unique recordedRuns i j
      (originalAt leftFound leftCancels leftDone)
      (originalAt rightFound rightCancels rightDone)
  · rintro thread member ⟨dto, asks, isOrder, row, rowMember, rowId, owner⟩
      outcome ends
    obtain ⟨recordedThread, recordedMember, rfl⟩ := original member
    obtain ⟨payload, isCancel, valid⟩ := cancelDto_eq_some asks
    have post := coherent.answered ledger_sound recordedMember ends payload dto
      isCancel valid
    cases outcome with
    | ok answer =>
        obtain ⟨⟨order, isOrderAnswer, id, _, status⟩, _⟩ := post
        exact .inl ⟨order, by rw [isOrderAnswer], by rw [id, isOrder], status⟩
    | error thrown =>
        rcases post with already | absent | ⟨surroundings, call, timeline,
          evolves, allowed, fault⟩
        · right
          rw [AlreadyCancelled, already, isOrder]
        · exact absurd owner
            (absent row rowMember (rowId.trans isOrder.symm))
        · obtain ⟨kept, keptMember, same⟩ := evolves row rowMember
          have owners : OwnersCancelOf validator orderId recordedThread.request
              timeline.now :=
            ⟨dto, asks, isOrder, kept, keptMember,
              by rw [← same.terms.id]; exact rowId,
              by rw [← same.terms.userId]; exact owner⟩
          have healthy := (allowed owners call rfl).1
          rw [fault] at healthy
          cases healthy

/-- The check of a statement on the orders that implies `Uncontended`. -/
private def findsConfirmed (_ : Message) (surroundings : Surroundings) :
    BackendCall → Databases → Bool
  | .orders statement, databases =>
      surroundings.fault.isNone && (!statement.isSave ||
        (databases.orders.find? 1).any fun row => row.status = .CONFIRMED)
  | _, _ => true

private theorem uncontended_of_findsConfirmed {request : Message}
    {surroundings : Surroundings} {call : BackendCall} {databases : Databases}
    (checked : findsConfirmed request surroundings call databases = true) :
    (Uncontended validator 1).performs request surroundings call databases := by
  intro _ statement same
  subst same
  obtain ⟨healthy, saves⟩ := Bool.and_eq_true_iff.mp checked
  refine ⟨Option.isNone_iff_eq_none.mp healthy, fun isSave => ?_⟩
  have found : (databases.orders.find? 1).any
      (fun row => row.status = .CONFIRMED) = true := by
    simpa [isSave] using saves
  obtain ⟨row, hasRow, confirmed⟩ := (Option.any_eq_true _ _).mp found
  exact ⟨row, hasRow, of_decide_eq_true confirmed⟩

/-- Two requests one after the other. -/
theorem cancelled_once_example :
    ∃ pool : Pool Message Databases BackendCall BackendReply Thrown Answer,
      pool.finished = [0, 1] ∧ CancelledOnce .plain 1 pool := by
  have played : (((backend .plain .exact .atomicSave).play (fun _ => true)
      findsConfirmed (.start sampleDatabases)
      [.arrive (cancelMessage 7 1), .perform 0 (calm 1),
        .arrive (cancelMessage 7 1), .perform 0 (calm 2),
        .perform 1 (calm 3)]).any fun pool => pool.finished = [0, 1]) =
      true := by decide +kernel
  obtain ⟨pool, reached, finished⟩ := (Option.any_eq_true _ _).mp played
  have runs : (backend .plain .exact .atomicSave).Runs (Uncontended .plain 1)
      (.start sampleDatabases) pool :=
    Service.runs_of_play (fun _ _ => trivial)
      (fun _ _ _ _ checked => uncontended_of_findsConfirmed checked) reached
  exact ⟨pool, of_decide_eq_true finished, cancelled_once runs⟩

end Cinema.Orders
