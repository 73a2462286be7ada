import Cinema.Orders.Handlers

/-!
# The order ledger

Every step of every interleaving leaves the orders as they are, appends the
order some create request asks for, or cancels one order of the user who asks
for it.  The data of a new order are those of one movie that was in the
catalog at one moment after the arrival of its request.
-/

namespace Cinema.Orders

open Interleaving Relational Shared Catalog Backend

/-- The order copies the movie. -/
structure OrderRow.Snapshot (row : OrderRow) (movie : MovieRow) : Prop where
  movieId : row.movieId = movie.id
  movieTitle : row.movieTitle = movie.title
  movieReleaseYear : row.movieReleaseYear = movie.releaseYear
  ticketPrice : row.ticketPrice = movie.ticketPrice

/-- The row is the order that `request` asks for, copied from the movie as it
was in the catalog at one of the moments. -/
def Purchased (validator : Validator) (request : Message)
    (moments : List Databases) (row : OrderRow) : Prop :=
  ∃ payload dto, request = .orders .CREATE_ORDER payload ∧
    CreateOrderPayload.validate validator payload = .ok dto ∧
    row.userId.val = dto.userId ∧ row.quantity.val = dto.quantity ∧
    row.status = .CONFIRMED ∧
    ∃ databases ∈ moments, ∃ movie ∈ databases.movies.rows,
      movie.id.val = dto.movieId ∧ row.Snapshot movie

/-- `request` asks to cancel the order, on behalf of its owner. -/
def AsksToCancel (validator : Validator) (request : Message) (row : OrderRow) :
    Prop :=
  ∃ payload dto, request = .orders .CANCEL_USER_ORDER payload ∧
    UserOrderPayload.validate validator payload = .ok dto ∧
    row.id.val = dto.orderId ∧ row.userId.val = dto.userId

/-- The order of `dto` is there and cancelled. -/
def CancelledIn (dto : UserOrderPayload) (table : OrderTable) : Prop :=
  ∃ row, table.find? dto.orderId = some row ∧ row.userId.val = dto.userId ∧
    row.status = .CANCELLED

theorem CancelledIn.evolves {dto : UserOrderPayload}
    {before after : OrderTable} (cancelled : CancelledIn dto before)
    (evolves : Evolves before after) : CancelledIn dto after := by
  obtain ⟨row, found, owner, status⟩ := cancelled
  obtain ⟨member, isId⟩ := Table.find?_eq_some.mp found
  obtain ⟨kept, keptFound, same⟩ := evolves.find member
  have keptId : row.id.val = dto.orderId := isId
  rw [keptId] at keptFound
  refine ⟨kept, keptFound, by rw [← same.terms.userId]; exact owner, ?_⟩
  rcases same.status with unchanged | done
  · rw [unchanged, status]
  · exact done

/-- A failure that the conduct lets happen to a statement of a request, at a
moment after its arrival. -/
def Faults (conduct : Conduct Message (Timeline Databases) Surroundings
    BackendCall) (request : Message) (arrival : OrderTable)
    (thrown : Thrown) : Prop :=
  ∃ surroundings call timeline, Evolves arrival timeline.now.orders ∧
    conduct.performs request surroundings (.orders call) timeline ∧
      surroundings.fault = some thrown

/-- The answer to a cancel request that succeeds. -/
def CancelledAnswer (dto : UserOrderPayload) (answer : Answer) : Prop :=
  ∃ order, answer = answerOrder order ∧ order.id = some dto.orderId ∧
    order.userId = some dto.userId ∧ order.status = some .CANCELLED

/-- What the answer to a cancel request says about the orders. -/
def CancelOutcome (validator : Validator)
    (conduct : Conduct Message (Timeline Databases) Surroundings BackendCall)
    (request : Message) (arrival : OrderTable)
    (outcome : Except Thrown Answer) (table : OrderTable) : Prop :=
  ∀ payload dto, request = .orders .CANCEL_USER_ORDER payload →
    UserOrderPayload.validate validator payload = .ok dto →
      match outcome with
      | .ok answer => CancelledAnswer dto answer ∧ CancelledIn dto table
      | .error thrown =>
          thrown = conflictException
              s!"Order {dto.orderId} is already cancelled" ∨
            (∀ row ∈ arrival.rows, row.id.val = dto.orderId →
              row.userId.val ≠ dto.userId) ∨
            Faults conduct request arrival thrown

/-- The protocol of the order ledger. -/
def ledger (validator : Validator)
    (conduct : Conduct Message (Timeline Databases) Surroundings BackendCall) :
    Protocol Message (Timeline Databases) Surroundings BackendCall Thrown
      Answer where
  conduct := conduct
  inv _ := True
  rely before after :=
    before.Continues after ∧ Evolves before.now.orders after.now.orders
  guarantee request arrival before after :=
    before.Continues after ∧
      OrderEffect (Purchased validator request (arrival.since before))
        (AsksToCancel validator request) before.now.orders after.now.orders
  post request arrival outcome later :=
    CancelOutcome validator conduct request arrival.now.orders outcome
      later.now.orders

variable {validator : Validator} {arithmetic : Arithmetic}
  {granularity : Granularity}
  {conduct : Conduct Message (Timeline Databases) Surroundings BackendCall}

/-! ## The handlers keep the protocol -/

/-- The order just read is still there, at most cancelled. -/
private def Stored (read : OrderRow) (timeline : Timeline Databases) : Prop :=
  ∃ current, timeline.now.orders.find? read.id.val = some current ∧
    read.Kept current

private theorem Stored.stable {read : OrderRow}
    {before after : Timeline Databases} (stored : Stored read before)
    (evolves : Evolves before.now.orders after.now.orders) :
    Stored read after := by
  obtain ⟨current, found, kept⟩ := stored
  obtain ⟨member, isId⟩ := Table.find?_eq_some.mp found
  obtain ⟨later, laterFound, laterKept⟩ := evolves.find member
  have sameId : current.id.val = read.id.val := isId
  rw [sameId] at laterFound
  exact ⟨later, laterFound, kept.trans laterKept⟩

/-- An answered cancel request satisfies its post-condition from now on. -/
private theorem ends_cancel {payload : Json} {dto : UserOrderPayload}
    (valid : UserOrderPayload.validate validator payload = .ok dto)
    {arrival store : Timeline Databases} {outcome : Except Thrown Answer}
    (holds : ∀ later : Timeline Databases,
      Evolves store.now.orders later.now.orders →
        match outcome with
        | .ok answer =>
            CancelledAnswer dto answer ∧ CancelledIn dto later.now.orders
        | .error thrown =>
            thrown = conflictException
                s!"Order {dto.orderId} is already cancelled" ∨
              (∀ row ∈ arrival.now.orders.rows, row.id.val = dto.orderId →
                row.userId.val ≠ dto.userId) ∨
              Faults conduct (.orders .CANCEL_USER_ORDER payload)
                arrival.now.orders thrown) :
    (ledger validator conduct).Ends (.orders .CANCEL_USER_ORDER payload)
      arrival outcome store := by
  intro later onward _ otherPayload other same otherValid
  cases same
  rw [valid] at otherValid
  cases otherValid
  exact holds later onward.2

/-- A statement of a cancel request may fail for reasons of its own; it remains
to see what it does otherwise. -/
private theorem meets_unless_faulty {payload : Json} {dto : UserOrderPayload}
    (valid : UserOrderPayload.validate validator payload = .ok dto)
    {arrival store : Timeline Databases}
    (since : Evolves arrival.now.orders store.now.orders)
    {statement : SqlCall OrderRow Order OrderPatch}
    {next : SqlReply statement → Program BackendCall BackendReply Thrown Answer}
    (healthy : ∀ now, Evolves store.now.orders now.now.orders →
      ∀ surroundings : Surroundings, surroundings.fault = none →
        (ledger validator conduct).guarantee
          (.orders .CANCEL_USER_ORDER payload) arrival now
          (recordedExec validator surroundings (.orders statement) now).2 ∧
        (∀ reply,
          (recordedExec validator surroundings (.orders statement) now).1 =
            .ok reply →
          (ledger validator conduct).Meets (recordedExec validator)
            (.orders .CANCEL_USER_ORDER payload) arrival (next reply)
            (recordedExec validator surroundings (.orders statement) now).2) ∧
        ∀ error,
          (recordedExec validator surroundings (.orders statement) now).1 =
            .error error →
          (ledger validator conduct).Ends (.orders .CANCEL_USER_ORDER payload)
            arrival (.error error)
            (recordedExec validator surroundings (.orders statement) now).2) :
    (ledger validator conduct).Meets (recordedExec validator)
      (.orders .CANCEL_USER_ORDER payload) arrival
      (.call (.orders statement) next) store := by
  intro now rely _ surroundings allowed
  cases fault : surroundings.fault with
  | some thrown =>
      simp only [exec_faulty_orders fault]
      refine ⟨⟨Timeline.continues_push _ _, .refl _⟩, by simp, ?_⟩
      intro error same
      cases same
      exact ends_cancel valid fun later _ =>
        .inr (.inr ⟨surroundings, statement, now, since.trans rely.2, allowed,
          fault⟩)
  | none => exact healthy now rely.2 surroundings fault

/-- A statement that cancels the order whatever its present state, and ends
the request. -/
private theorem meets_cancellation {payload : Json} {dto : UserOrderPayload}
    (valid : UserOrderPayload.validate validator payload = .ok dto)
    {arrival store : Timeline Databases}
    (since : Evolves arrival.now.orders store.now.orders)
    {statement : SqlCall OrderRow Order OrderPatch}
    {next : SqlReply statement → Program BackendCall BackendReply Thrown Answer}
    (cancels : ∀ table : OrderTable, Evolves store.now.orders table →
      ∀ time, ∃ current written after answer, current ∈ table.rows ∧
        current.id.val = dto.orderId ∧ current.userId.val = dto.userId ∧
        orderSchema.exec time statement table = (.ok written, after) ∧
        CancellationOf current table after ∧
        next written = .done answer ∧ CancelledAnswer dto answer) :
    (ledger validator conduct).Meets (recordedExec validator)
      (.orders .CANCEL_USER_ORDER payload) arrival
      (.call (.orders statement) next) store := by
  apply meets_unless_faulty valid since
  intro now evolves surroundings fault
  obtain ⟨current, written, after, answer, member, isOrder, owner, executed,
    cancellation, isDone, told⟩ :=
      cancels now.now.orders evolves surroundings.now
  simp only [exec_orders fault, executed, Except.mapError]
  refine ⟨⟨Timeline.continues_push _ _, cancellation.effect member
    ⟨payload, dto, rfl, valid, isOrder, owner⟩⟩, ?_, by simp⟩
  intro reply same
  cases same
  rw [isDone]
  refine ends_cancel valid fun later evolvesOn => ⟨told, ?_⟩
  obtain ⟨row, found, kept, status⟩ := cancellation.find member
  rw [isOrder] at found
  have inTable : CancelledIn dto after :=
    ⟨row, found, by rw [← kept.terms.userId]; exact owner, status⟩
  exact inTable.evolves evolvesOn

/-- The entity that is answered, with or without generated columns. -/
private theorem cancelledAnswer_of_read {dto : UserOrderPayload}
    {read current : OrderRow} (isOrder : read.id.val = dto.orderId)
    (owner : read.userId.val = dto.userId)
    (sameOrder : current.id.val = dto.orderId) {change : Option OrderRow}
    (cancelling : Cancelling current change) :
    CancelledAnswer dto (answerOrder (change.elim (cancelled read)
      (OrderRow.refresh (cancelled read)))) := by
  refine ⟨_, rfl, ?_⟩
  cases written : change with
  | none => exact ⟨congrArg some isOrder, congrArg some owner, rfl⟩
  | some row =>
      have isId : row.id.val = dto.orderId :=
        (cancelling.id written).trans sameOrder
      exact ⟨congrArg some isId, congrArg some owner, rfl⟩

/-- The order read from the table at an earlier moment, as it is now. -/
private theorem current_of_stored {dto : UserOrderPayload} {read : OrderRow}
    (isOrder : read.id.val = dto.orderId) (owner : read.userId.val = dto.userId)
    {store : Timeline Databases} (stored : Stored read store)
    {table : OrderTable} (evolves : Evolves store.now.orders table) :
    ∃ current, table.find? read.id.val = some current ∧ read.Kept current ∧
      current ∈ table.rows ∧ current.id.val = dto.orderId ∧
      current.userId.val = dto.userId := by
  obtain ⟨current, found, kept⟩ : Stored read (.begin ⟨∅, table⟩) :=
    stored.stable evolves
  refine ⟨current, found, kept, (Table.find?_eq_some.mp found).1, ?_, ?_⟩
  · rw [← kept.terms.id]
    exact isOrder
  · rw [← kept.terms.userId]
    exact owner

private theorem meets_saveCancelled {payload : Json} {dto : UserOrderPayload}
    (valid : UserOrderPayload.validate validator payload = .ok dto)
    {arrival store : Timeline Databases}
    (since : Evolves arrival.now.orders store.now.orders) {read : OrderRow}
    (isOrder : read.id.val = dto.orderId)
    (owner : read.userId.val = dto.userId) (stored : Stored read store) :
    (ledger validator conduct).Meets (recordedExec validator)
      (.orders .CANCEL_USER_ORDER payload) arrival
      (saveCancelled granularity read) store := by
  cases granularity with
  | atomicSave =>
      rw [saveCancelled_atomic]
      apply meets_cancellation valid since
      intro table evolves time
      obtain ⟨current, found, kept, member, sameOrder, sameOwner⟩ :=
        current_of_stored isOrder owner stored evolves
      obtain ⟨change, cancelling, executes⟩ :=
        exec_save_cancelled kept.terms time
      exact ⟨current, change, _, _, member, sameOrder, sameOwner,
        executes table found, ⟨change, cancelling, rfl⟩, rfl,
        cancelledAnswer_of_read isOrder owner sameOrder cancelling⟩
  | statements =>
      rw [saveCancelled_statements]
      apply meets_unless_faulty valid since
      intro now evolves surroundings fault
      obtain ⟨seen, found, kept, member, sameOrder, sameOwner⟩ :=
        current_of_stored isOrder owner stored evolves
      simp only [exec_orders fault, Schema.exec, found,
        Except.mapError]
      refine ⟨⟨Timeline.continues_push _ _, .refl _⟩, ?_, by simp⟩
      intro reply same
      cases same
      cases differs : OrderRow.diff (cancelled read) seen with
      | none =>
          simp only [differs]
          have cancelling : Cancelling seen none := diff_cancelled_none differs
          refine ends_cancel valid fun later evolvesOn =>
            ⟨cancelledAnswer_of_read isOrder owner sameOrder cancelling, ?_⟩
          have already : CancelledIn dto now.now.orders :=
            ⟨seen, by rw [← isOrder]; exact found, sameOwner,
              diff_cancelled_none differs⟩
          exact already.evolves evolvesOn
      | some patch =>
          simp only [differs]
          apply meets_cancellation valid (by exact since.trans evolves)
          intro table evolvesOn time
          obtain ⟨cancelling, sets⟩ := diff_cancelled kept.terms differs
          obtain ⟨current, currentMember, keptOn⟩ := evolvesOn seen member
          have sameId : current.id.val = read.id.val := by
            rw [← keptOn.terms.id, ← kept.terms.id]
          have currentFound : table.find? read.id.val = some current :=
            Table.find?_eq_some.mpr ⟨currentMember, sameId⟩
          have setsNow : patch.status.getD current.status = .CANCELLED := by
            rcases cancelling.status with leaves | cancels
            · rcases keptOn.status with same | done
              · rw [same]
                exact sets
              · simp [leaves, done]
            · simp [cancels]
          obtain ⟨change, cancels, executes⟩ :=
            exec_update_cancelled _ cancelling setsNow time
          exact ⟨current, change, _, _, currentMember, sameId.trans isOrder,
            by rw [← keptOn.terms.userId]; exact sameOwner,
            executes table currentFound, ⟨change, cancels, rfl⟩, rfl,
            cancelledAnswer_of_read isOrder owner (sameId.trans isOrder)
              cancels⟩

theorem mem_owned {dto : UserOrderPayload} {table : OrderTable}
    {row : OrderRow} :
    row ∈ table.rows.filter (matchesAll (ownedCriteria dto)) ↔
      row ∈ table.rows ∧ row.id.val = dto.orderId ∧
        row.userId.val = dto.userId := by
  simp [matchesAll_iff, ownedCriteria, Criterion.integer, List.reduceOption]

/-- The ids of a stored order are accepted as parameters. -/
private theorem owned_accepted {dto : UserOrderPayload} {row : OrderRow}
    (isOrder : row.id.val = dto.orderId) (owner : row.userId.val = dto.userId) :
    ∀ criterion ∈ (ownedCriteria dto).reduceOption,
      criterion.parameter.rejected = none := by
  intro criterion member
  have inRange : ∀ stored : Integer,
      (Parameter.integer stored.val).rejected = none := fun stored => by
    simp [Parameter.rejected, stored.inRange.1, stored.inRange.2]
  simp only [ownedCriteria, Criterion.integer, Option.map_some,
    List.reduceOption_cons_of_some, List.reduceOption_nil, List.mem_cons,
    List.not_mem_nil, or_false] at member
  rcases member with rfl | rfl
  · rw [← isOrder]
    exact inRange row.id
  · rw [← owner]
    exact inRange row.userId

private theorem meets_cancel {payload : Json} (arrival : Timeline Databases) :
    (ledger validator conduct).Meets (recordedExec validator)
      (.orders .CANCEL_USER_ORDER payload) arrival
      (handle validator arithmetic granularity
        (.orders .CANCEL_USER_ORDER payload)) arrival := by
  cases valid : UserOrderPayload.validate validator payload with
  | error thrown =>
      rw [handle_refused (.orders .CANCEL_USER_ORDER _) valid]
      intro later onward _ otherPayload dto same otherValid
      cases same
      rw [valid] at otherValid
      cases otherValid
  | ok dto =>
      rw [handle_cancel valid]
      apply meets_unless_faulty valid (.refl _)
      intro now evolves surroundings fault
      rcases orderSchema.exec_matching surroundings.now
          (ownedCriteria dto) now.now.orders with
        selected | ⟨error, rejected⟩
      · simp only [exec_orders fault, selected, Except.mapError]
        refine ⟨⟨Timeline.continues_push _ _, .refl _⟩, ?_, by simp⟩
        intro reply same
        cases same
        cases first : (now.now.orders.rows.filter
            (matchesAll (ownedCriteria dto))).head? with
        | none =>
            dsimp only
            refine ends_cancel valid fun later _ => .inr (.inl ?_)
            intro row member isOrder owner
            obtain ⟨kept, keptMember, same⟩ := evolves row member
            have inResult : kept ∈ now.now.orders.rows.filter
                (matchesAll (ownedCriteria dto)) :=
              mem_owned.mpr ⟨keptMember, by rw [← same.terms.id]; exact isOrder,
                by rw [← same.terms.userId]; exact owner⟩
            rw [List.head?_eq_none_iff.mp first] at inResult
            cases inResult
        | some row =>
            dsimp only
            obtain ⟨member, isOrder, owner⟩ :=
              mem_owned.mp (List.mem_of_head? first)
            by_cases already : row.status = .CANCELLED
            · rw [if_pos already]
              exact ends_cancel valid fun later _ => .inl rfl
            · rw [if_neg already]
              exact meets_saveCancelled valid (by exact evolves) isOrder owner
                ⟨row, Table.find?_eq_some.mpr ⟨member, rfl⟩, .refl row⟩
      · simp only [exec_orders fault, rejected, Except.mapError]
        refine ⟨⟨Timeline.continues_push _ _, .refl _⟩, by simp, ?_⟩
        intro _ same
        cases same
        refine ends_cancel valid fun later _ => .inr (.inl ?_)
        intro row member isOrder owner
        have accepted := orderSchema.exec_matching_of_accepted
          (owned_accepted isOrder owner) surroundings.now now.now.orders
        rw [rejected] at accepted
        cases accepted

/-- The row inserted for a movie that was read. -/
private theorem purchased_of_build {payload : Json} {dto : CreateOrderPayload}
    (valid : CreateOrderPayload.validate validator payload = .ok dto)
    {moments : List Databases} {databases : Databases}
    (moment : databases ∈ moments) {movie : MovieRow}
    (found : databases.movies.find? dto.movieId = some movie)
    {id : ℤ} {time : Nat} {row : OrderRow}
    (built : OrderRow.build
      (OrdersService.newOrder arithmetic dto movie.hydrate) id time =
        .ok row) :
    Purchased validator (.orders .CREATE_ORDER payload) moments row := by
  obtain ⟨_, userId, movieId, title, year, ⟨price, isPrice, priceWritten⟩,
    quantity, _, status, _, _⟩ := OrderRow.build_eq_ok built
  obtain ⟨member, isMovie⟩ := Table.find?_eq_some.mp found
  simp only [OrdersService.newOrder, MovieRow.hydrate, Option.some.injEq]
    at userId movieId title year isPrice quantity status
  refine ⟨payload, dto, rfl, valid, userId.symm, quantity.symm, status,
    databases, moment, movie, member, isMovie, ⟨?_, ?_, ?_, ?_⟩⟩
  · exact Ranged.ext movieId.symm
  · exact Varchar.ext title.symm
  · exact Ranged.ext year.symm
  · rw [← isPrice, Numeric.write_read] at priceWritten
    exact (Except.ok.inj priceWritten).symm

private theorem ends_trivially {request : Message}
    (notCancel : ∀ payload, request ≠ .orders .CANCEL_USER_ORDER payload)
    {arrival store : Timeline Databases} {outcome : Except Thrown Answer} :
    (ledger validator conduct).Ends request arrival outcome store := by
  intro later _ _ payload dto same
  exact absurd same (notCancel payload)

private theorem meets_create {payload : Json} (arrival : Timeline Databases) :
    (ledger validator conduct).Meets (recordedExec validator)
      (.orders .CREATE_ORDER payload) arrival
      (handle validator arithmetic granularity
        (.orders .CREATE_ORDER payload)) arrival := by
  cases valid : CreateOrderPayload.validate validator payload with
  | error thrown =>
      rw [handle_refused (.orders .CREATE_ORDER _) valid]
      exact ends_trivially (by simp)
  | ok dto =>
      rw [handle_create valid]
      rintro read ⟨continues, _⟩ _ surroundings _
      refine ⟨⟨Timeline.continues_push _ _, .refl _⟩, ?_,
        fun _ _ => ends_trivially (by simp)⟩
      intro movie answered
      obtain ⟨row, found, rfl⟩ := findOneMovie_eq_ok answered
      rintro now ⟨continuesOn, _⟩ _ later _
      have moment : read.now ∈ arrival.since now :=
        Timeline.since_mono ((Timeline.continues_push _ _).trans continuesOn)
          (Timeline.now_mem_since continues)
      refine ⟨⟨Timeline.continues_push _ _, ?_⟩,
        fun _ _ => ends_trivially (by simp), fun _ _ => ends_trivially (by simp)⟩
      cases fault : later.fault with
      | some thrown =>
          simp only [exec_faulty_orders fault]
          exact .refl _
      | none =>
          simp only [exec_orders fault, Schema.exec, Timeline.push_now]
          rcases orderSchema.insertRow_cases later.now
              (OrdersService.newOrder arithmetic dto row.hydrate)
              now.now.orders with
            ⟨inserted, absent, built, _, equality⟩ |
            ⟨error, after, equality, rfl | rfl⟩
          · rw [equality]
            exact .inserted (purchased_of_build valid moment found built) absent
              (orderSchema.key_build built)
          · rw [equality]
            exact .refl _
          · rw [equality]
            exact .same rfl (by simp)

/-- A request that only reads orders. -/
private theorem meets_reader {request : Message}
    (notCancel : ∀ payload, request ≠ .orders .CANCEL_USER_ORDER payload)
    {arrival store : Timeline Databases}
    {program : Program BackendCall BackendReply Thrown Answer}
    (reads : program.Uses fun call =>
      (∃ statement, call = .movies statement) ∨
        ∃ parameters condition,
          call = .orders (.select parameters condition)) :
    (ledger validator conduct).Meets (recordedExec validator) request arrival
      program store := by
  refine Protocol.meets_of_uses ?_ ?_ reads
  · intro call isRead surroundings now _ _
    refine ⟨Timeline.continues_push _ _, ?_⟩
    rcases isRead with ⟨statement, rfl⟩ | ⟨parameters, condition, rfl⟩
    · exact .refl _
    · cases fault : surroundings.fault with
      | some thrown =>
          simp only [exec_faulty_orders fault]
          exact .refl _
      | none =>
          simp only [exec_orders fault, Schema.exec, Timeline.push_now]
          split <;> exact .refl _
  · intro outcome later payload dto same
    exact absurd same (notCancel payload)

theorem ledger_sound :
    (ledger validator conduct).Sound
      (backend validator arithmetic granularity).recorded where
  refl store := ⟨.refl _, .refl _⟩
  trans first second :=
    ⟨first.1.trans second.1, first.2.trans second.2⟩
  keeps _ _ := trivial
  tolerated _ guaranteed := ⟨guaranteed.1, guaranteed.2.evolves⟩
  handlers request store _ _ := by
    change (ledger validator conduct).Meets (recordedExec validator) request
      store (handle validator arithmetic granularity request) store
    cases request with
    | catalog pattern payload =>
        refine meets_reader (by simp) (Program.Uses.map _
          (MoviesController.uses_handle ?_ pattern payload))
        intro call
        exact ⟨.inl ⟨call, rfl⟩, fun _ => trivial⟩
    | orders pattern payload =>
        cases pattern with
        | CREATE_ORDER => exact meets_create store
        | FIND_USER_ORDERS =>
            refine meets_reader (by simp) ?_
            cases valid : UserIdPayload.validate validator payload with
            | error thrown =>
                rw [handle_refused (.orders .FIND_USER_ORDERS _) valid]
                trivial
            | ok dto =>
                rw [handle_findAll valid]
                exact ⟨.inr ⟨_, _, rfl⟩, fun _ => trivial⟩
        | FIND_USER_ORDER =>
            refine meets_reader (by simp) ?_
            cases valid : UserOrderPayload.validate validator payload with
            | error thrown =>
                rw [handle_refused (.orders .FIND_USER_ORDER _) valid]
                trivial
            | ok dto =>
                rw [handle_findOne valid]
                refine ⟨.inr ⟨_, _, rfl⟩, fun rows => ?_⟩
                cases rows <;> trivial
        | CANCEL_USER_ORDER => exact meets_cancel store

/-- New ids stay ahead of the ids in use. -/
theorem fresh_of_runs {initial : Databases}
    {pool : Pool Message Databases BackendCall BackendReply Thrown Answer}
    (runs : (backend validator arithmetic granularity).Runs .any
      (.start initial) pool) (fresh : initial.orders.Fresh) :
    pool.store.orders.Fresh := by
  obtain ⟨recorded, recordedRuns, rfl⟩ := runs.lift
  have sound : (ledger validator Conduct.any.recorded).Sound
      (backend validator arithmetic granularity).recorded := ledger_sound
  have both := recordedRuns.preserves (fun pool =>
      (ledger validator Conduct.any.recorded).Coherent
        (backend validator arithmetic granularity).recorded pool ∧
      pool.store.now.orders.Fresh)
    (fun {before after} holds step => by
      refine ⟨holds.1.step sound step, ?_⟩
      rcases holds.1.step_store sound step with same | ⟨_, _, _, effect⟩
      · rw [same]
        exact holds.2
      · exact effect.fresh holds.2)
    ⟨Protocol.coherent_start trivial, fresh⟩
  exact both.2

/-- Orders stay, at most cancelled. -/
theorem evolves_of_runs {initial : Databases}
    {pool later : Pool Message Databases BackendCall BackendReply Thrown Answer}
    (runs : (backend validator arithmetic granularity).Runs .any
      (.start initial) pool)
    (onward : (backend validator arithmetic granularity).Runs .any pool later) :
    Evolves pool.store.orders later.store.orders := by
  obtain ⟨recorded, recordedRuns, rfl⟩ := runs.lift
  obtain ⟨next, nextRuns, rfl⟩ := onward.liftFrom
  have sound : (ledger validator Conduct.any.recorded).Sound
      (backend validator arithmetic granularity).recorded := ledger_sound
  have coherent := (Protocol.coherent_start trivial).run sound recordedRuns
  exact (coherent.rely_of_runs sound nextRuns).2

/-! ## The ledger -/

section Ledger

variable {initial : Databases}
  {pool later : Pool Message (Timeline Databases) BackendCall BackendReply
    Thrown Answer}

/-- Between any two states of a run every order stays, with all its columns
but the status and the time of the last update, and its status at most goes
from `CONFIRMED` to `CANCELLED`.  A row that a step inserts is the order that
the request performing the step asks for, with the data of one movie row that
was in the catalog at one moment since the arrival of this request. -/
theorem order_ledger
    (runs : (backend validator arithmetic granularity).recorded.Runs .any
      (.start (.begin initial)) pool)
    (onward : (backend validator arithmetic granularity).recorded.Runs .any
      pool later) :
    (∀ row ∈ pool.store.now.orders.rows,
      ∃ kept ∈ later.store.now.orders.rows, row.SameTerms kept ∧
        (kept.status = row.status ∨
          (row.status = .CONFIRMED ∧ kept.status = .CANCELLED))) ∧
    ∀ next, (backend validator arithmetic granularity).recorded.Steps .any
        later next →
      ∀ row ∈ next.store.now.orders.rows,
        (∀ old ∈ later.store.now.orders.rows, old.id ≠ row.id) →
          ∃ thread,
            (backend validator arithmetic granularity).recorded.PerformedBy
              later next thread ∧
            Purchased validator thread.request
              (thread.arrival.since later.store) row := by
  have sound : (ledger validator .any).Sound
      (backend validator arithmetic granularity).recorded := ledger_sound
  have start : (ledger validator .any).Coherent
      (backend validator arithmetic granularity).recorded pool :=
    (Protocol.coherent_start trivial).run sound runs
  constructor
  · intro row member
    obtain ⟨kept, keptMember, same⟩ :=
      (start.rely_of_runs sound onward).2 row member
    refine ⟨kept, keptMember, same.terms, ?_⟩
    rcases same.status with unchanged | done
    · exact .inl unchanged
    · cases status : row.status with
      | CONFIRMED => exact .inr ⟨rfl, done⟩
      | CANCELLED => exact .inl done
  · intro next step row member new
    rcases (start.run sound onward).step_store sound step with
      same | ⟨thread, performed, _, effect⟩
    · rw [same] at member
      exact absurd rfl (new row member)
    · exact ⟨thread, performed, effect.inserted_of_new member new⟩

end Ledger

/-- A purchase while the same order is being cancelled. -/
theorem order_ledger_example :
    ∃ later next : Pool Message (Timeline Databases) BackendCall BackendReply
        Thrown Answer,
      (∃ kept ∈ later.store.now.orders.rows, sampleOrder.SameTerms kept) ∧
        ∃ row ∈ next.store.now.orders.rows, ∃ thread,
          (backend .plain .exact .statements).recorded.PerformedBy later next
            thread ∧
          Purchased .plain thread.request (thread.arrival.since later.store)
            row := by
  let service := (backend .plain .exact .statements).recorded
  have played : ((service.playFreely (.start (Timeline.begin sampleDatabases))
      [.arrive (purchaseMessage 8 1 2), .arrive (cancelMessage 7 1),
        .perform 0 (calm 1), .perform 1 (calm 2), .perform 1 (calm 3)]).any
      fun later => (service.playMoveFreely later (.perform 0 (calm 4))).any
        fun next => next.store.now.orders.rows.any fun row =>
          later.store.now.orders.rows.all fun old => old.id ≠ row.id) =
      true := by decide +kernel
  obtain ⟨later, reached, played⟩ := (Option.any_eq_true _ _).mp played
  obtain ⟨next, step, inserted⟩ := (Option.any_eq_true _ _).mp played
  obtain ⟨row, member, new⟩ := List.any_eq_true.mp inserted
  have runs : service.Runs .any (.start (.begin sampleDatabases)) later :=
    Service.runs_of_playFreely reached
  have ledger := order_ledger (.refl _) runs
  obtain ⟨kept, keptMember, terms, _⟩ := ledger.1 sampleOrder (by decide)
  refine ⟨later, next, ⟨kept, keptMember, terms⟩, row, member, ?_⟩
  exact ledger.2 next (Service.steps_of_playMoveFreely step) row member
    (by simpa using new)

end Cinema.Orders
