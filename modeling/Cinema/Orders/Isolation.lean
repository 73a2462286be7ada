import Cinema.Orders.Ledger

/-!
# Isolation between users

What a user is answered, and what becomes of the user's orders, depends on the
orders of this user alone.  Two order tables that agree on them cannot be told
apart by any message in the user's name, and no message in another name
changes them.
-/

namespace Cinema.Orders

open Interleaving Relational Shared Catalog Backend

variable {validator : Validator} {arithmetic : Arithmetic}
  {granularity : Granularity}

/-- Databases that some run from empty ones reaches. -/
def Reachable (validator : Validator) (arithmetic : Arithmetic)
    (granularity : Granularity) (databases : Databases) : Prop :=
  ∃ pool, (backend validator arithmetic granularity).Runs .any
    (.start ⟨∅, ∅⟩) pool ∧ pool.store = databases

/-- A message handled alone, call after call. -/
def answerAlone (validator : Validator) (arithmetic : Arithmetic)
    (granularity : Granularity) (environments : Nat → Surroundings)
    (message : Message) (databases : Databases) :
    Except Thrown Answer × Databases :=
  (handle validator arithmetic granularity message).run (exec validator)
    environments databases

/-- Two tables hold the same orders of a user. -/
def SameOrders (user : ℤ) (left right : OrderTable) : Prop :=
  ∀ row : OrderRow, row.userId.val = user →
    (row ∈ left.rows ↔ row ∈ right.rows)

/-- Every order in an answer belongs to the user. -/
def AnswerOf (user : ℤ) : Answer → Prop
  | .orders (.orders orders) => ∀ order ∈ orders, order.userId = some user
  | .orders (.order order) => order.userId = some user
  | .catalog _ => True

/-- Two outcomes that a user cannot tell apart. -/
structure Indistinguishable (user : ℤ)
    (left right : Except Thrown Answer × Databases) : Prop where
  answer : left.1 = right.1
  owned : ∀ answer, left.1 = .ok answer → AnswerOf user answer
  orders : SameOrders user left.2.orders right.2.orders

/-! ## One call in two tables -/

section Calls

variable {environments : Nat → Surroundings} {left right : Databases}
  {user : ℤ}

private theorem indistinguishable_fail {thrown : Thrown}
    (same : SameOrders user left.orders right.orders) :
    Indistinguishable user (.error thrown, left) (.error thrown, right) :=
  ⟨rfl, by simp, same⟩

/-- A statement that fails in both tables, or after which the rest of the
handler cannot tell them apart. -/
private theorem indistinguishable_call
    {statement : SqlCall OrderRow Order OrderPatch}
    {next : SqlReply statement → Program BackendCall BackendReply Thrown Answer}
    (same : SameOrders user left.orders right.orders)
    (healthy : ∀ now,
      (∃ error, orderSchema.exec now statement left.orders =
          (.error error, left.orders) ∧
        orderSchema.exec now statement right.orders =
          (.error error, right.orders)) ∨
      ∃ leftReply rightReply leftAfter rightAfter,
        orderSchema.exec now statement left.orders =
            (.ok leftReply, leftAfter) ∧
          orderSchema.exec now statement right.orders =
            (.ok rightReply, rightAfter) ∧
          ∀ later, Indistinguishable user
            ((next leftReply).run (exec validator) later
              { left with orders := leftAfter })
            ((next rightReply).run (exec validator) later
              { right with orders := rightAfter })) :
    Indistinguishable user
      (Program.run (exec validator) (.call (.orders statement) next)
        environments left)
      (Program.run (exec validator) (.call (.orders statement) next)
        environments right) := by
  cases fault : (environments 0).fault with
  | some thrown =>
      simp only [Program.run, exec_faulty_orders fault]
      exact indistinguishable_fail same
  | none =>
      rcases healthy (environments 0).now with
        ⟨error, leftFails, rightFails⟩ |
        ⟨leftReply, rightReply, leftAfter, rightAfter, leftRuns, rightRuns,
          rest⟩
      · simp only [Program.run, exec_orders fault, leftFails, rightFails,
          Except.mapError]
        exact indistinguishable_fail same
      · simp only [Program.run, exec_orders fault, leftRuns, rightRuns,
          Except.mapError]
        exact rest _

/-- A selection returns the matching rows of each table. -/
private theorem indistinguishable_select
    {criteria : List (Option (Criterion OrderRow))}
    {next : List OrderRow → Program BackendCall BackendReply Thrown Answer}
    (same : SameOrders user left.orders right.orders)
    (rest : ∀ later, Indistinguishable user
      ((next (left.orders.rows.filter (matchesAll criteria))).run
        (exec validator) later left)
      ((next (right.orders.rows.filter (matchesAll criteria))).run
        (exec validator) later right)) :
    Indistinguishable user
      (Program.run (exec validator) (.call (.orders (.matching criteria)) next)
        environments left)
      (Program.run (exec validator) (.call (.orders (.matching criteria)) next)
        environments right) := by
  refine indistinguishable_call same fun now => ?_
  rcases orderSchema.exec_matching_uniform now criteria with
    selects | ⟨error, fails⟩
  · exact .inr ⟨_, _, _, _, selects left.orders, selects right.orders, rest⟩
  · exact .inl ⟨error, fails left.orders, fails right.orders⟩

end Calls

/-! ## Listing -/

section Listing

variable {user : ℤ}

private theorem mem_ofUser {table : OrderTable} {row : OrderRow} :
    row ∈ table.rows.filter (matchesAll
        [Criterion.integer (fun row => row.userId.val) (some user)]) ↔
      row ∈ table.rows ∧ row.userId.val = user := by
  simp [matchesAll_iff, Criterion.integer, List.reduceOption]

/-- The orders of a user as they are listed. -/
private def listed (user : ℤ) (table : OrderTable) : List OrderRow :=
  (table.rows.filter (matchesAll
    [Criterion.integer (fun row => row.userId.val)
      (some user)])).insertionSort OrdersService.Newer

private theorem mem_listed {table : OrderTable} {row : OrderRow} :
    row ∈ listed user table ↔ row ∈ table.rows ∧ row.userId.val = user :=
  (List.mem_insertionSort _).trans mem_ofUser

private theorem nodup_rows (table : OrderTable) : table.rows.Nodup :=
  List.Nodup.of_map _ table.distinct

private theorem nodup_listed (table : OrderTable) :
    (listed user table).Nodup :=
  (List.perm_insertionSort _ _).nodup_iff.mpr ((nodup_rows table).filter _)

private theorem newer_total (left right : OrderRow) :
    OrdersService.Newer left right ∨ OrdersService.Newer right left := by
  unfold OrdersService.Newer
  omega

private theorem newer_trans {first second third : OrderRow}
    (left : OrdersService.Newer first second)
    (right : OrdersService.Newer second third) :
    OrdersService.Newer first third := by
  unfold OrdersService.Newer at *
  omega

private theorem pairwise_listed (table : OrderTable) :
    (listed user table).Pairwise OrdersService.Newer :=
  have : Std.Total OrdersService.Newer := ⟨newer_total⟩
  have : IsTrans OrderRow OrdersService.Newer := ⟨fun _ _ _ => newer_trans⟩
  List.pairwise_insertionSort _ _

/-- Strictly later in time, or at the same time under a greater id. -/
def StrictlyNewer (left right : OrderRow) : Prop :=
  right.createdAt < left.createdAt ∨
    (right.createdAt = left.createdAt ∧ right.id.val < left.id.val)

private theorem eq_of_newer {table : OrderTable} {left right : OrderRow}
    (leftMember : left ∈ table.rows) (rightMember : right ∈ table.rows)
    (forth : OrdersService.Newer left right)
    (back : OrdersService.Newer right left) : left = right := by
  have sameId : left.id.val = right.id.val := by
    unfold OrdersService.Newer at forth back
    omega
  exact OrderTable.eq_of_id leftMember rightMember sameId

private theorem strict_listed (table : OrderTable) :
    (listed user table).Pairwise StrictlyNewer := by
  have newer : (listed user table).Pairwise OrdersService.Newer :=
    pairwise_listed table
  have both := newer.and (nodup_listed table)
  refine both.imp_of_mem @fun left right leftMember rightMember related => ?_
  obtain ⟨newer, different⟩ := related
  have differentIds : left.id.val ≠ right.id.val := fun sameId =>
    different (OrderTable.eq_of_id
      (mem_listed.mp leftMember).1 (mem_listed.mp rightMember).1 sameId)
  unfold OrdersService.Newer at newer
  unfold StrictlyNewer
  omega

/-- Tables with the same orders of the user are listed alike. -/
private theorem listed_eq {left right : OrderTable}
    (same : SameOrders user left right) :
    listed user left = listed user right := by
  have sameMembers : ∀ row, row ∈ listed user left ↔ row ∈ listed user right := by
    intro row
    rw [mem_listed, mem_listed]
    exact ⟨fun ⟨member, owner⟩ => ⟨(same row owner).mp member, owner⟩,
      fun ⟨member, owner⟩ => ⟨(same row owner).mpr member, owner⟩⟩
  have perm : (listed user left).Perm (listed user right) :=
    (List.perm_ext_iff_of_nodup (nodup_listed left) (nodup_listed right)).mpr
      sameMembers
  refine List.Perm.eq_of_pairwise (fun first second firstMember secondMember
    forth back => ?_) (pairwise_listed left) (pairwise_listed right) perm
  exact eq_of_newer (mem_listed.mp firstMember).1
    (mem_listed.mp ((sameMembers second).mpr secondMember)).1 forth back

end Listing

/-! ## The handlers -/

section Handlers

variable {environments : Nat → Surroundings} {left right : Databases}
  {payload : Json}

private theorem alone_findAll {dto : UserIdPayload}
    (valid : UserIdPayload.validate validator payload = .ok dto)
    (same : SameOrders dto.userId left.orders right.orders) :
    Indistinguishable dto.userId
      (answerAlone validator arithmetic granularity environments
        (.orders .FIND_USER_ORDERS payload) left)
      (answerAlone validator arithmetic granularity environments
        (.orders .FIND_USER_ORDERS payload) right) := by
  rw [answerAlone, answerAlone, handle_findAll valid]
  refine indistinguishable_select same fun later => ?_
  change Indistinguishable dto.userId
    (.ok (.orders (.orders
      ((listed dto.userId left.orders).map OrderRow.hydrate))), left)
    (.ok (.orders (.orders
      ((listed dto.userId right.orders).map OrderRow.hydrate))), right)
  refine ⟨by rw [listed_eq same], ?_, same⟩
  rintro answer ⟨⟩ order member
  obtain ⟨row, rowMember, rfl⟩ := List.mem_map.mp member
  exact congrArg some (mem_listed.mp rowMember).2

/-- The order looked up together with its owner is the same in both tables. -/
private theorem head_owned_eq {dto : UserOrderPayload}
    {left right : OrderTable} (same : SameOrders dto.userId left right) :
    (left.rows.filter (matchesAll (ownedCriteria dto))).head? =
      (right.rows.filter (matchesAll (ownedCriteria dto))).head? := by
  have transfer : ∀ {first second : OrderTable},
      SameOrders dto.userId first second → ∀ row,
        (first.rows.filter (matchesAll (ownedCriteria dto))).head? = some row →
        (second.rows.filter (matchesAll (ownedCriteria dto))).head? =
          some row := by
    intro first second same row isHead
    obtain ⟨member, isOrder, owner⟩ := mem_owned.mp (List.mem_of_head? isHead)
    have present : row ∈ second.rows.filter (matchesAll (ownedCriteria dto)) :=
      mem_owned.mpr ⟨(same row owner).mp member, isOrder, owner⟩
    cases otherHead :
        (second.rows.filter (matchesAll (ownedCriteria dto))).head? with
    | none =>
        rw [List.head?_eq_none_iff.mp otherHead] at present
        cases present
    | some other =>
        obtain ⟨otherMember, otherIsOrder, _⟩ :=
          mem_owned.mp (List.mem_of_head? otherHead)
        rw [OrderTable.eq_of_id otherMember
          (mem_owned.mp present).1 (otherIsOrder.trans isOrder.symm)]
  cases leftHead : (left.rows.filter (matchesAll (ownedCriteria dto))).head? with
  | some row => exact (transfer same row leftHead).symm
  | none =>
      cases rightHead :
          (right.rows.filter (matchesAll (ownedCriteria dto))).head? with
      | none => rfl
      | some row =>
          have found := transfer
            (fun row owner => (same row owner).symm) row rightHead
          rw [leftHead] at found
          cases found

private theorem alone_findOne {dto : UserOrderPayload}
    (valid : UserOrderPayload.validate validator payload = .ok dto)
    (same : SameOrders dto.userId left.orders right.orders) :
    Indistinguishable dto.userId
      (answerAlone validator arithmetic granularity environments
        (.orders .FIND_USER_ORDER payload) left)
      (answerAlone validator arithmetic granularity environments
        (.orders .FIND_USER_ORDER payload) right) := by
  rw [answerAlone, answerAlone, handle_findOne valid]
  refine indistinguishable_select same fun later => ?_
  rw [head_owned_eq same]
  cases found : (right.orders.rows.filter
      (matchesAll (ownedCriteria dto))).head? with
  | none => exact indistinguishable_fail same
  | some row =>
      obtain ⟨_, _, owner⟩ := mem_owned.mp (List.mem_of_head? found)
      refine ⟨rfl, ?_, same⟩
      intro answer same
      cases same
      exact congrArg some owner

/-- Cancelling an order that both tables hold. -/
private theorem sameOrders_applied {user : ℤ} {left right : OrderTable}
    (same : SameOrders user left right) {row : OrderRow}
    (leftMember : row ∈ left.rows) (rightMember : row ∈ right.rows)
    {change : Option OrderRow} (cancelling : Cancelling row change) :
    SameOrders user (applied change left) (applied change right) := by
  cases change with
  | none => exact same
  | some written =>
      have sameId := congrArg Ranged.val cancelling.1.terms.id
      intro other owner
      have leftHas : left.Has written.id.val := ⟨row, leftMember, sameId⟩
      have rightHas : right.Has written.id.val := ⟨row, rightMember, sameId⟩
      constructor
      · intro member
        rcases Table.mem_replace.mp member with ⟨rfl, _⟩ | ⟨old, different⟩
        · exact Table.mem_replace.mpr (.inl ⟨rfl, rightHas⟩)
        · exact Table.mem_replace.mpr
            (.inr ⟨(same other owner).mp old, different⟩)
      · intro member
        rcases Table.mem_replace.mp member with ⟨rfl, _⟩ | ⟨old, different⟩
        · exact Table.mem_replace.mpr (.inl ⟨rfl, leftHas⟩)
        · exact Table.mem_replace.mpr
            (.inr ⟨(same other owner).mpr old, different⟩)

private theorem owned_cancelled {user : ℤ} {row : OrderRow}
    (owner : row.userId.val = user) (written : Option OrderRow) :
    AnswerOf user (answerOrder
      (written.elim (cancelled row) (OrderRow.refresh (cancelled row)))) := by
  cases written with
  | none => exact congrArg some owner
  | some other => exact congrArg some owner

private theorem alone_saveCancelled {user : ℤ} {row : OrderRow}
    (owner : row.userId.val = user)
    (same : SameOrders user left.orders right.orders)
    (leftMember : row ∈ left.orders.rows)
    (rightMember : row ∈ right.orders.rows) :
    Indistinguishable user
      ((saveCancelled granularity row).run (exec validator) environments left)
      ((saveCancelled granularity row).run (exec validator) environments
        right) := by
  have leftFound : left.orders.find? row.id.val = some row :=
    Table.find?_eq_some.mpr ⟨leftMember, rfl⟩
  have rightFound : right.orders.find? row.id.val = some row :=
    Table.find?_eq_some.mpr ⟨rightMember, rfl⟩
  cases granularity with
  | atomicSave =>
      rw [saveCancelled_atomic]
      refine indistinguishable_call same fun now => ?_
      obtain ⟨written, cancelling, executes⟩ :=
        exec_save_cancelled (.refl row) now
      refine .inr ⟨written, written, _, _, executes _ leftFound,
        executes _ rightFound, fun later => ⟨rfl, ?_, ?_⟩⟩
      · intro answer same
        cases same
        exact owned_cancelled owner written
      · exact sameOrders_applied same leftMember rightMember cancelling
  | statements =>
      rw [saveCancelled_statements]
      refine indistinguishable_call same fun now => ?_
      refine .inr ⟨some row, some row, left.orders, right.orders,
        by simp only [Schema.exec, leftFound],
        by simp only [Schema.exec, rightFound], fun later => ?_⟩
      cases differs : OrderRow.diff (cancelled row) row with
      | none =>
          simp only [differs]
          refine ⟨rfl, ?_, same⟩
          intro answer same
          cases same
          exact owned_cancelled owner none
      | some patch =>
          simp only [differs]
          refine indistinguishable_call same fun now => ?_
          obtain ⟨patchCancels, sets⟩ := diff_cancelled (.refl row) differs
          obtain ⟨written, cancelling, executes⟩ :=
            exec_update_cancelled row.id.val patchCancels sets now
          refine .inr ⟨written, written, _, _, executes _ leftFound,
            executes _ rightFound, fun later => ⟨rfl, ?_, ?_⟩⟩
          · intro answer same
            cases same
            exact owned_cancelled owner written
          · exact sameOrders_applied same leftMember rightMember cancelling

private theorem alone_cancel {dto : UserOrderPayload}
    (valid : UserOrderPayload.validate validator payload = .ok dto)
    (same : SameOrders dto.userId left.orders right.orders) :
    Indistinguishable dto.userId
      (answerAlone validator arithmetic granularity environments
        (.orders .CANCEL_USER_ORDER payload) left)
      (answerAlone validator arithmetic granularity environments
        (.orders .CANCEL_USER_ORDER payload) right) := by
  rw [answerAlone, answerAlone, handle_cancel valid]
  refine indistinguishable_select same fun later => ?_
  rw [head_owned_eq same]
  cases found : (right.orders.rows.filter
      (matchesAll (ownedCriteria dto))).head? with
  | none => exact indistinguishable_fail same
  | some row =>
      obtain ⟨rightMember, _, owner⟩ :=
        mem_owned.mp (List.mem_of_head? found)
      dsimp only
      split
      · exact indistinguishable_fail same
      · exact alone_saveCancelled owner same
          ((same row owner).mpr rightMember) rightMember

/-- With fresh sequences at the same number, the same row is inserted. -/
private theorem exec_insert_alike {left right : OrderTable}
    (leftFresh : left.Fresh) (rightFresh : right.Fresh)
    (nextId : left.nextId = right.nextId) (order : Order) (now : Nat) :
    (∃ error, orderSchema.exec now (.insert order) left = (.error error, left) ∧
      orderSchema.exec now (.insert order) right = (.error error, right)) ∨
    ∃ row leftAfter rightAfter,
      orderSchema.exec now (.insert order) left = (.ok row, leftAfter) ∧
        orderSchema.exec now (.insert order) right = (.ok row, rightAfter) ∧
        leftAfter.rows = left.rows ++ [row] ∧
        rightAfter.rows = right.rows ++ [row] := by
  cases built : orderSchema.build order left.nextId now with
  | error error =>
      refine .inl ⟨error, ?_, ?_⟩
      · simp only [Schema.exec, Schema.insertRow, built]
      · simp only [Schema.exec, Schema.insertRow, ← nextId, built]
  | ok row =>
      have isNext := orderSchema.key_build built
      have leftAbsent : ¬ left.Has (orderSchema.key row) :=
        leftFresh.not_has (le_of_eq isNext.symm)
      have rightAbsent : ¬ right.Has (orderSchema.key row) :=
        rightFresh.not_has (le_of_eq (nextId ▸ isNext.symm))
      refine .inr ⟨row, (left.append row leftAbsent).advance,
        (right.append row rightAbsent).advance, ?_, ?_, rfl, rfl⟩
      · simp only [Schema.exec, Schema.insertRow, built,
          dif_pos leftAbsent, if_neg (not_conflicted left row)]
      · simp only [Schema.exec, Schema.insertRow, ← nextId, built,
          dif_pos rightAbsent, if_neg (not_conflicted right row)]

private theorem run_lookup {payload : Json}
    {next : Movie → Program BackendCall BackendReply Thrown Answer}
    (databases : Databases) :
    Program.run (exec validator) (.call (.findOneMovie payload) next)
        environments databases =
      match findOneMovie validator (environments 0) payload
          databases.movies with
      | .ok movie =>
          (next movie).run (exec validator) (fun n => environments (n + 1))
            databases
      | .error thrown => (.error thrown, databases) := by
  simp only [Program.run, exec]
  cases findOneMovie validator (environments 0) payload databases.movies <;> rfl

private theorem alone_create {dto : CreateOrderPayload}
    (valid : CreateOrderPayload.validate validator payload = .ok dto)
    (same : SameOrders dto.userId left.orders right.orders)
    (leftFresh : left.orders.Fresh) (rightFresh : right.orders.Fresh)
    (nextId : left.orders.nextId = right.orders.nextId)
    (catalogAlike : findOneMovie validator (environments 0)
      (idMessage dto.movieId) left.movies =
        findOneMovie validator (environments 0) (idMessage dto.movieId)
          right.movies) :
    Indistinguishable dto.userId
      (answerAlone validator arithmetic granularity environments
        (.orders .CREATE_ORDER payload) left)
      (answerAlone validator arithmetic granularity environments
        (.orders .CREATE_ORDER payload) right) := by
  rw [answerAlone, answerAlone, handle_create valid]
  rw [run_lookup, run_lookup, catalogAlike]
  cases findOneMovie validator (environments 0) (idMessage dto.movieId)
      right.movies with
  | error thrown => exact indistinguishable_fail same
  | ok movie =>
      dsimp only
      refine indistinguishable_call same fun now => ?_
      rcases exec_insert_alike leftFresh rightFresh nextId
          (OrdersService.newOrder arithmetic dto movie) now with
        fails | ⟨row, leftAfter, rightAfter, leftRuns, rightRuns, leftRows,
          rightRows⟩
      · exact .inl fails
      · refine .inr ⟨row, row, leftAfter, rightAfter, leftRuns, rightRuns,
          fun later => ⟨rfl, ?_, ?_⟩⟩
        · intro answer same
          cases same
          rfl
        · intro other owner
          change other ∈ leftAfter.rows ↔ other ∈ rightAfter.rows
          rw [leftRows, rightRows, List.mem_append, List.mem_append,
            same other owner]

end Handlers

/-! ## The theorem -/

private theorem user_eq {payload : Json} {user : ℤ}
    (isUser : payload.get "userId" = some (.num user)) {userId : ℤ}
    (isDto : payload.get "userId" = some (.num userId)) : userId = user := by
  rw [isUser] at isDto
  simpa [eq_comm] using isDto

/-- A message whose payload is refused does not get as far as the databases. -/
private theorem alone_refused {user : ℤ} {left right : Databases}
    (same : SameOrders user left.orders right.orders) (pattern : OrderPatterns)
    {payload : Json} {environments : Nat → Surroundings} {thrown : Thrown}
    (refused : Refuses validator (.orders pattern payload) thrown) :
    Indistinguishable user
      (answerAlone validator arithmetic granularity environments
        (.orders pattern payload) left)
      (answerAlone validator arithmetic granularity environments
        (.orders pattern payload) right) := by
  rw [answerAlone, answerAlone, handle_refused _ refused]
  exact indistinguishable_fail same

/-- Two databases in which a user has the same orders answer every message in
the user's name alike. -/
private theorem alone_alike {user : ℤ} {left right : Databases}
    (leftFresh : left.orders.Fresh) (rightFresh : right.orders.Fresh)
    (same : SameOrders user left.orders right.orders)
    (nextId : left.orders.nextId = right.orders.nextId)
    (pattern : OrderPatterns) {payload : Json}
    {environments : Nat → Surroundings}
    (isUser : payload.get "userId" = some (.num user))
    (catalogAlike : ∀ n request,
      findOneMovie validator (environments n) request left.movies =
        findOneMovie validator (environments n) request right.movies) :
    Indistinguishable user
      (answerAlone validator arithmetic granularity environments
        (.orders pattern payload) left)
      (answerAlone validator arithmetic granularity environments
        (.orders pattern payload) right) := by
  cases pattern with
  | CREATE_ORDER =>
      cases valid : CreateOrderPayload.validate validator payload with
      | error thrown => exact alone_refused same .CREATE_ORDER valid
      | ok dto =>
          obtain rfl := user_eq isUser
            (CreateOrderPayload.fields_of_validate valid).1
          exact alone_create valid same leftFresh rightFresh nextId
            (catalogAlike 0 _)
  | FIND_USER_ORDERS =>
      cases valid : UserIdPayload.validate validator payload with
      | error thrown => exact alone_refused same .FIND_USER_ORDERS valid
      | ok dto =>
          obtain rfl := user_eq isUser (UserIdPayload.userId_of_validate valid)
          exact alone_findAll valid same
  | FIND_USER_ORDER =>
      cases valid : UserOrderPayload.validate validator payload with
      | error thrown => exact alone_refused same .FIND_USER_ORDER valid
      | ok dto =>
          obtain rfl := user_eq isUser
            (UserOrderPayload.ids_of_validate valid).1
          exact alone_findOne valid same
  | CANCEL_USER_ORDER =>
      cases valid : UserOrderPayload.validate validator payload with
      | error thrown => exact alone_refused same .CANCEL_USER_ORDER valid
      | ok dto =>
          obtain rfl := user_eq isUser
            (UserOrderPayload.ids_of_validate valid).1
          exact alone_cancel valid same

/-- A listing contains each order of the user once, newest first. -/
private theorem listing {user : ℤ} {payload : Json}
    {environments : Nat → Surroundings} {databases : Databases}
    (isUser : payload.get "userId" = some (.num user)) {orders : List Order}
    (answered : (answerAlone validator arithmetic granularity environments
      (.orders .FIND_USER_ORDERS payload) databases).1 =
        .ok (.orders (.orders orders))) :
    ∃ rows : List OrderRow, orders = rows.map OrderRow.hydrate ∧ rows.Nodup ∧
      rows.Pairwise StrictlyNewer ∧
      ∀ row, row ∈ rows ↔
        row ∈ databases.orders.rows ∧ row.userId.val = user := by
  refine ⟨listed user databases.orders, ?_, nodup_listed _, strict_listed _,
    fun _ => mem_listed⟩
  cases valid : UserIdPayload.validate validator payload with
  | error thrown =>
      rw [answerAlone,
        handle_refused (.orders .FIND_USER_ORDERS _) valid] at answered
      cases answered
  | ok dto =>
      obtain rfl := user_eq isUser (UserIdPayload.userId_of_validate valid)
      rw [answerAlone, handle_findAll valid] at answered
      cases fault : (environments 0).fault with
      | some thrown =>
          simp [Program.run, exec_faulty_orders fault] at answered
      | none =>
          rcases orderSchema.exec_matching (environments 0).now
              [Criterion.integer (fun row => row.userId.val) (some dto.userId)]
              databases.orders with selected | ⟨error, rejected⟩
          · simp only [Program.run, exec_orders fault, selected,
              Except.mapError, Except.ok.injEq, Answer.orders.injEq,
              OrderAnswer.orders.injEq] at answered
            exact answered.symm
          · simp [Program.run, exec_orders fault, rejected,
              Except.mapError] at answered

/-- An order of somebody else is as good as none. -/
private theorem foreign_order {payload : Json} {dto : UserOrderPayload}
    (valid : UserOrderPayload.validate validator payload = .ok dto)
    {databases : Databases}
    (foreign : ∀ row ∈ databases.orders.rows, row.id.val = dto.orderId →
      row.userId.val ≠ dto.userId) {pattern : OrderPatterns}
    (isPattern : pattern = .FIND_USER_ORDER ∨ pattern = .CANCEL_USER_ORDER)
    (environments : Nat → Surroundings) :
    answerAlone validator arithmetic granularity environments
        (.orders pattern payload) databases =
      ((answerAlone validator arithmetic granularity environments
        (.orders pattern payload) ⟨databases.movies, ∅⟩).1, databases) := by
  have nothing : databases.orders.rows.filter
      (matchesAll (ownedCriteria dto)) = [] := by
    rw [List.eq_nil_iff_forall_not_mem]
    intro row member
    obtain ⟨rowMember, isOrder, owner⟩ := mem_owned.mp member
    exact foreign row rowMember isOrder owner
  have run : ∀ next : List OrderRow →
      Program BackendCall BackendReply Thrown Answer, (∃ thrown, next [] =
        .fail thrown) →
      Program.run (exec validator)
          (.call (.orders (.matching (ownedCriteria dto))) next) environments
          databases =
        ((Program.run (exec validator)
          (.call (.orders (.matching (ownedCriteria dto))) next) environments
          ⟨databases.movies, ∅⟩).1, databases) := by
    rintro next ⟨thrown, fails⟩
    cases fault : (environments 0).fault with
    | some failure => simp only [Program.run, exec_faulty_orders fault]
    | none =>
        rcases orderSchema.exec_matching_uniform (environments 0).now (ownedCriteria dto) with
          selects | ⟨error, rejects⟩
        · have empty : (∅ : OrderTable).rows.filter
              (matchesAll (ownedCriteria dto)) = [] := rfl
          simp only [Program.run, exec_orders fault, selects, nothing, empty,
            Except.mapError, fails]
        · simp only [Program.run, exec_orders fault, rejects, Except.mapError]
  rcases isPattern with rfl | rfl
  · rw [answerAlone, answerAlone, handle_findOne valid]
    exact run _ ⟨_, rfl⟩
  · rw [answerAlone, answerAlone, handle_cancel valid]
    exact run _ ⟨_, rfl⟩

/-- Without a proper user a handler makes no call. -/
private theorem refused_without_user {payload : Json}
    (noUser : ¬ ∃ user : ℤ, 0 < user ∧
      payload.get "userId" = some (.num user)) (pattern : OrderPatterns) :
    ∃ thrown, handle validator arithmetic granularity
        (.orders pattern payload) = .fail thrown ∧
      thrown.statusCode = some 400 := by
  cases pattern with
  | CREATE_ORDER =>
      cases valid : CreateOrderPayload.validate validator payload with
      | error thrown =>
          exact ⟨thrown, handle_refused (.orders .CREATE_ORDER _) valid,
            statusCode_of_rejected CreateOrderPayload.calm valid⟩
      | ok dto =>
          exact absurd ⟨dto.userId, dto.userIdPositive,
            (CreateOrderPayload.fields_of_validate valid).1⟩ noUser
  | FIND_USER_ORDERS =>
      cases valid : UserIdPayload.validate validator payload with
      | error thrown =>
          exact ⟨thrown, handle_refused (.orders .FIND_USER_ORDERS _) valid,
            statusCode_of_rejected UserIdPayload.calm valid⟩
      | ok dto =>
          exact absurd ⟨dto.userId, dto.positive,
            UserIdPayload.userId_of_validate valid⟩ noUser
  | FIND_USER_ORDER =>
      cases valid : UserOrderPayload.validate validator payload with
      | error thrown =>
          exact ⟨thrown, handle_refused (.orders .FIND_USER_ORDER _) valid,
            statusCode_of_rejected UserOrderPayload.calm valid⟩
      | ok dto =>
          exact absurd ⟨dto.userId, dto.positive,
            (UserOrderPayload.ids_of_validate valid).1⟩ noUser
  | CANCEL_USER_ORDER =>
      cases valid : UserOrderPayload.validate validator payload with
      | error thrown =>
          exact ⟨thrown, handle_refused (.orders .CANCEL_USER_ORDER _) valid,
            statusCode_of_rejected UserOrderPayload.calm valid⟩
      | ok dto =>
          exact absurd ⟨dto.userId, dto.positive,
            (UserOrderPayload.ids_of_validate valid).1⟩ noUser

/-- No step of a message in another name, in any interleaving, touches an
order of the user. -/
private theorem others_keep {user : ℤ} {initial : Databases}
    {pool next : Pool Message Databases BackendCall BackendReply Thrown Answer}
    (runs : (backend validator arithmetic granularity).Runs .any
      (.start initial) pool)
    {thread : Thread Message Databases BackendCall BackendReply Thrown Answer}
    (performed : (backend validator arithmetic granularity).PerformedBy pool
      next thread)
    {pattern : OrderPatterns} {payload : Json}
    (isMessage : thread.request = .orders pattern payload)
    (other : payload.get "userId" ≠ some (.num user)) :
    SameOrders user pool.store.orders next.store.orders := by
  obtain ⟨recorded, recordedRuns, rfl⟩ := runs.lift
  have sound : (ledger validator Conduct.any.recorded).Sound
      (backend validator arithmetic granularity).recorded := ledger_sound
  have coherent := (Protocol.coherent_start trivial).run sound recordedRuns
  obtain ⟨index, surroundings, call, continuation, found, pending, rfl⟩ :=
    performed
  obtain ⟨original, originalFound, rfl⟩ : ∃ original,
      recorded.threads[index]? = some original ∧ original.present = thread := by
    simpa [Pool.present] using found
  have effect := (coherent.guarantee sound surroundings originalFound pending
    trivial).2
  intro row owner
  refine effect.mem_iff_of_unconcerned ?_ ?_
  · rintro inserted ⟨message, dto, isCreate, valid, isOwner, _⟩ sameUser
    obtain ⟨_, rfl⟩ : OrderPatterns.CREATE_ORDER = pattern ∧
        message = payload := by
      simpa [Thread.present, isCreate] using isMessage
    have owned : dto.userId = user := by
      rw [← isOwner, sameUser]
      exact owner
    exact other (owned ▸ (CreateOrderPayload.fields_of_validate valid).1)
  · rintro cancelled ⟨message, dto, isCancel, valid, _, isOwner⟩ sameUser
    obtain ⟨_, rfl⟩ : OrderPatterns.CANCEL_USER_ORDER = pattern ∧
        message = payload := by
      simpa [Thread.present, isCancel] using isMessage
    have owned : dto.userId = user := by
      rw [← isOwner, sameUser]
      exact owner
    exact other (owned ▸ (UserOrderPayload.ids_of_validate valid).1)

/-- The orders of a user are isolated from those of the others. -/
theorem orders_isolated (user : ℤ) :
    (∀ left right, Reachable validator arithmetic granularity left →
      Reachable validator arithmetic granularity right →
      SameOrders user left.orders right.orders →
      left.orders.nextId = right.orders.nextId →
      ∀ pattern payload environments,
        payload.get "userId" = some (.num user) →
        (∀ n request,
          findOneMovie validator (environments n) request left.movies =
            findOneMovie validator (environments n) request right.movies) →
        Indistinguishable user
          (answerAlone validator arithmetic granularity environments
            (.orders pattern payload) left)
          (answerAlone validator arithmetic granularity environments
            (.orders pattern payload) right)) ∧
    (∀ databases payload environments orders,
      payload.get "userId" = some (.num user) →
      (answerAlone validator arithmetic granularity environments
        (.orders .FIND_USER_ORDERS payload) databases).1 =
          .ok (.orders (.orders orders)) →
      ∃ rows : List OrderRow, orders = rows.map OrderRow.hydrate ∧
        rows.Nodup ∧ rows.Pairwise StrictlyNewer ∧
        ∀ row, row ∈ rows ↔
          row ∈ databases.orders.rows ∧ row.userId.val = user) ∧
    (∀ initial pool next thread pattern payload,
      (backend validator arithmetic granularity).Runs .any (.start initial)
        pool →
      (backend validator arithmetic granularity).PerformedBy pool next thread →
      thread.request = .orders pattern payload →
      payload.get "userId" ≠ some (.num user) →
      SameOrders user pool.store.orders next.store.orders) ∧
    (∀ databases payload dto pattern environments,
      UserOrderPayload.validate validator payload = .ok dto →
      dto.userId = user →
      (∀ row ∈ databases.orders.rows, row.id.val = dto.orderId →
        row.userId.val ≠ user) →
      pattern = .FIND_USER_ORDER ∨ pattern = .CANCEL_USER_ORDER →
      answerAlone validator arithmetic granularity environments
          (.orders pattern payload) databases =
        ((answerAlone validator arithmetic granularity environments
          (.orders pattern payload) ⟨databases.movies, ∅⟩).1, databases)) ∧
    ∀ payload, (¬ ∃ userId : ℤ, 0 < userId ∧
        payload.get "userId" = some (.num userId)) →
      ∀ pattern, ∃ thrown, handle validator arithmetic granularity
          (.orders pattern payload) = .fail thrown ∧
        thrown.statusCode = some 400 := by
  have fresh : ∀ {databases}, Reachable validator arithmetic granularity
      databases → databases.orders.Fresh := by
    rintro databases ⟨pool, runs, rfl⟩
    exact fresh_of_runs runs (fun row member => by cases member)
  refine ⟨?_, ?_, ?_, ?_, ?_⟩
  · intro left right leftReachable rightReachable same nextId pattern payload
      environments isUser catalogAlike
    exact alone_alike (fresh leftReachable) (fresh rightReachable) same nextId
      pattern isUser catalogAlike
  · intro databases payload environments orders isUser answered
    exact listing isUser answered
  · intro initial pool next thread pattern payload runs performed isMessage
      other
    exact others_keep runs performed isMessage other
  · rintro databases payload dto pattern environments valid rfl foreign
      isPattern
    exact foreign_order valid foreign isPattern environments
  · intro payload noUser pattern
    exact refused_without_user noUser pattern

/-- User 7 cannot tell an order of user 8 from one of user 9. -/
theorem orders_isolated_example :
    ∃ left right : Databases, left.orders.rows ≠ right.orders.rows ∧
      Indistinguishable 7
        (answerAlone .plain .exact .atomicSave calm (cancelMessage 7 1) left)
        (answerAlone .plain .exact .atomicSave calm (cancelMessage 7 1)
          right) := by
  let service := backend .plain .exact .atomicSave
  let premiere : List (Service.Move Message Surroundings) :=
    [.arrive premiereMessage, .perform 0 (calm 1), .perform 0 (calm 2),
      .arrive (purchaseMessage 7 1 2), .perform 1 (calm 3),
      .perform 1 (calm 4)]
  let sale (user : ℤ) : List (Service.Move Message Surroundings) :=
    [.arrive (purchaseMessage user 1 1), .perform 2 (calm 5),
      .perform 2 (calm 6)]
  let ofUser (databases : Databases) : List OrderRow :=
    databases.orders.rows.filter fun row => row.userId.val = 7
  have played : ((service.playFreely (.start ⟨∅, ∅⟩) (premiere ++ sale 8)).any
      fun left => (service.playFreely (.start ⟨∅, ∅⟩) (premiere ++ sale 9)).any
        fun right =>
          left.store.movies.rows = right.store.movies.rows ∧
            left.store.movies.nextId = right.store.movies.nextId ∧
            left.store.orders.nextId = right.store.orders.nextId ∧
            ofUser left.store = ofUser right.store ∧
            left.store.orders.rows ≠ right.store.orders.rows) = true := by
    decide +kernel
  obtain ⟨left, leftReached, played⟩ := (Option.any_eq_true _ _).mp played
  obtain ⟨right, rightReached, played⟩ := (Option.any_eq_true _ _).mp played
  obtain ⟨movies, movieIds, orderIds, orders, different⟩ :=
    of_decide_eq_true played
  have sameMovies : left.store.movies = right.store.movies :=
    Table.ext movies movieIds
  refine ⟨left.store, right.store, different,
    (@orders_isolated .plain .exact .atomicSave 7).1 left.store right.store
      ⟨left, Service.runs_of_playFreely leftReached, rfl⟩
      ⟨right, Service.runs_of_playFreely rightReached, rfl⟩ ?_ orderIds
      .CANCEL_USER_ORDER _ calm rfl (fun n request => by rw [sameMovies])⟩
  intro row owner
  have inFilter : ∀ databases : Databases,
      row ∈ databases.orders.rows ↔ row ∈ ofUser databases := fun databases => by
    simp [ofUser, owner]
  rw [inFilter left.store, inFilter right.store, orders]

end Cinema.Orders
