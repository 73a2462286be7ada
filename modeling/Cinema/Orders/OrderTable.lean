import Cinema.Orders.OrdersService

/-!
# What the order service does to its table

Besides inserting orders the service only ever saves an order it has read,
with the status set to `CANCELLED`.  Such a save changes nothing but the
status and the time of the last update, however stale the order read is.
-/

namespace Cinema.Orders

open Cinema.Relational

abbrev OrderTable : Type := Table OrderRow orderSchema.key

theorem OrderTable.eq_of_id {table : OrderTable} {left right : OrderRow}
    (leftMember : left ∈ table.rows) (rightMember : right ∈ table.rows)
    (sameId : left.id.val = right.id.val) : left = right :=
  Table.eq_of_key leftMember rightMember sameId

/-- The entity `cancel` saves after it has read `row`. -/
def cancelled (row : OrderRow) : Order :=
  { row.hydrate with status := some .CANCELLED }

/-- The changes an order can undergo once it is stored. -/
structure OrderRow.Kept (before after : OrderRow) : Prop where
  terms : before.SameTerms after
  status : after.status = before.status ∨ after.status = .CANCELLED

theorem OrderRow.Kept.refl (row : OrderRow) : row.Kept row :=
  ⟨.refl row, .inl rfl⟩

theorem OrderRow.Kept.trans {first second third : OrderRow}
    (left : first.Kept second) (right : second.Kept third) :
    first.Kept third := by
  refine ⟨left.terms.trans right.terms, ?_⟩
  rcases right.status with same | cancelled
  · rw [same]
    exact left.status
  · exact .inr cancelled

/-- Every order of the table stays, with its terms. -/
def Evolves (before after : OrderTable) : Prop :=
  ∀ row ∈ before.rows, ∃ kept ∈ after.rows, row.Kept kept

theorem Evolves.refl (table : OrderTable) : Evolves table table :=
  fun row member => ⟨row, member, .refl row⟩

theorem Evolves.trans {first second third : OrderTable}
    (left : Evolves first second) (right : Evolves second third) :
    Evolves first third := by
  intro row member
  obtain ⟨between, betweenMember, kept⟩ := left row member
  obtain ⟨last, lastMember, keptOn⟩ := right between betweenMember
  exact ⟨last, lastMember, kept.trans keptOn⟩

theorem evolves_of_rows {before after : OrderTable}
    (rows : after.rows = before.rows) : Evolves before after :=
  fun row member => ⟨row, by rwa [rows], .refl row⟩

/-- The order with a given id is found as long as the table evolves. -/
theorem Evolves.find {before after : OrderTable} (evolves : Evolves before after)
    {row : OrderRow} (member : row ∈ before.rows) :
    ∃ kept, after.find? row.id.val = some kept ∧ row.Kept kept := by
  obtain ⟨kept, keptMember, same⟩ := evolves row member
  exact ⟨kept, Table.find?_eq_some.mpr ⟨keptMember,
    (congrArg Ranged.val same.terms.id).symm⟩, same⟩

/-! ## Saving a cancelled order -/

/-- A patch that may set the status to `CANCELLED` and otherwise only touches
the time of the last update. -/
structure OrderPatch.Cancels (patch : OrderPatch) : Prop where
  userId : patch.userId = .none
  movieId : patch.movieId = .none
  createdAt : patch.createdAt = .none
  status : patch.status = .none ∨ patch.status = some .CANCELLED

private theorem changed_of_eq {α : Type} [DecidableEq α] {entity row : α}
    (same : entity = row) : changed (some entity) row = none := by
  simp [changed, same]

/-- The order read may be stale, but only in status and update time. -/
theorem diff_cancelled {read row : OrderRow} (terms : read.SameTerms row)
    {patch : OrderPatch}
    (differs : OrderRow.diff (cancelled read) row = some patch) :
    patch.Cancels ∧ patch.status.getD row.status = .CANCELLED := by
  simp only [OrderRow.diff] at differs
  split at differs
  · cases differs
  · cases differs
    refine ⟨⟨changed_of_eq (congrArg Ranged.val terms.userId),
      changed_of_eq (congrArg Ranged.val terms.movieId),
      changed_of_eq terms.createdAt, ?_⟩, changed_getD _ _⟩
    by_cases already : some OrderStatus.CANCELLED = some row.status
    · exact .inl (by simp [cancelled, changed, already])
    · exact .inr (by simp [cancelled, changed, already])

theorem diff_cancelled_none {read row : OrderRow}
    (same : OrderRow.diff (cancelled read) row = none) :
    row.status = .CANCELLED := by
  simp only [OrderRow.diff] at same
  split at same
  · rename_i nothing
    have noChange := congrArg OrderPatch.status nothing
    have value := changed_getD (cancelled read).status row.status
    simp only at noChange
    rw [noChange] at value
    exact value
  · cases same

/-- The database accepts such a patch and keeps the terms. -/
theorem build_of_cancels {patch : OrderPatch} (cancels : patch.Cancels)
    (row : OrderRow) (now : Nat) :
    ∃ written, OrderRow.build (OrderRow.overlay patch row) row.id.val now =
        .ok written ∧
      row.Kept written ∧
      written.status = patch.status.getD row.status := by
  refine ⟨{ row with
    status := patch.status.getD row.status
    updatedAt := patch.updatedAt.getD now }, ?_, ⟨⟨rfl, rfl, rfl, rfl, rfl,
      rfl, rfl, rfl, rfl⟩, ?_⟩, rfl⟩
  · simp [OrderRow.build, OrderRow.overlay, OrderRow.hydrate, cancels.userId,
      cancels.movieId, cancels.createdAt, notNull, defaulted,
      row.quantityPositive, row.totalNonneg, bind, Except.bind, pure,
      Except.pure]
  · rcases cancels.status with none | some
    · exact .inl (by simp [none])
    · exact .inr (by simp [some])

/-- What a write of an order does: the written row takes the place of the old
one. -/
theorem evolves_replace {table : OrderTable} {row written : OrderRow}
    (member : row ∈ table.rows) (kept : row.Kept written) :
    Evolves table (table.replace written) := by
  intro other otherMember
  by_cases same : other.id.val = written.id.val
  · have isRow : other = row :=
      OrderTable.eq_of_id otherMember member
        (same.trans (congrArg Ranged.val kept.terms.id).symm)
    refine ⟨written, Table.mem_replace.mpr (.inl ⟨rfl, ?_⟩), ?_⟩
    · exact ⟨row, member, congrArg Ranged.val kept.terms.id⟩
    · rw [isRow]
      exact kept
  · exact ⟨other, Table.mem_replace.mpr (.inr ⟨otherMember, same⟩),
      .refl other⟩

/-- No two orders conflict. -/
theorem not_conflicted (table : OrderTable) (row : OrderRow) :
    ¬ orderSchema.Conflicted table row := by
  rintro ⟨other, _, _, conflict⟩
  cases conflict

theorem updateRow_of_cancels {patch : OrderPatch} (cancels : patch.Cancels)
    (row : OrderRow) (now : Nat) :
    ∃ written, row.Kept written ∧
      written.status = patch.status.getD row.status ∧
      ∀ table : OrderTable, orderSchema.updateRow now patch row table =
        (.ok written, table.replace written) := by
  obtain ⟨written, built, kept, status⟩ := build_of_cancels cancels row now
  refine ⟨written, kept, status, fun table => ?_⟩
  have accepted : orderSchema.build (orderSchema.overlay patch row)
      (orderSchema.key row) now = .ok written := built
  simp only [Schema.updateRow, accepted, if_neg (not_conflicted table written)]

/-! ## The effect of one statement -/

/-- What one statement does to the orders: nothing, one insertion, or one
cancellation.  `inserts` and `cancels` say which orders are concerned. -/
inductive OrderEffect (inserts cancels : OrderRow → Prop)
    (before : OrderTable) : OrderTable → Prop where
  | same {after : OrderTable} (rows : after.rows = before.rows)
      (nextId : before.nextId ≤ after.nextId) :
      OrderEffect inserts cancels before after
  | inserted {row : OrderRow} (allowed : inserts row)
      (absent : ¬ before.Has (orderSchema.key row))
      (isNext : row.id.val = before.nextId) :
      OrderEffect inserts cancels before ((before.append row absent).advance)
  | cancelled {row written : OrderRow} (allowed : cancels row)
      (member : row ∈ before.rows) (kept : row.Kept written) :
      OrderEffect inserts cancels before (before.replace written)

namespace OrderEffect

variable {inserts cancels : OrderRow → Prop} {before after : OrderTable}

theorem refl (table : OrderTable) : OrderEffect inserts cancels table table :=
  .same rfl le_rfl

theorem evolves (effect : OrderEffect inserts cancels before after) :
    Evolves before after := by
  cases effect with
  | same rows nextId => exact evolves_of_rows rows
  | inserted allowed absent isNext =>
      intro row member
      exact ⟨row, List.mem_append_left _ member, .refl row⟩
  | cancelled allowed member kept => exact evolves_replace member kept

theorem fresh (effect : OrderEffect inserts cancels before after)
    (fresh : before.Fresh) : after.Fresh := by
  cases effect with
  | same rows nextId =>
      intro row member
      rw [rows] at member
      exact lt_of_lt_of_le (fresh row member) nextId
  | @inserted added allowed absent isNext =>
      intro row member
      rcases List.mem_append.mp member with old | new
      · exact lt_trans (fresh row old) (by simp)
      · rw [List.mem_singleton.mp new]
        change added.id.val < before.nextId + 1
        omega
  | @cancelled row written allowed member kept =>
      intro other otherMember
      rcases Table.mem_replace.mp otherMember with ⟨rfl, _⟩ | ⟨old, _⟩
      · have sameId := congrArg Ranged.val kept.terms.id
        have below : row.id.val < before.nextId := fresh row member
        change other.id.val < before.nextId
        omega
      · exact fresh other old

/-- A row under a new id has just been inserted. -/
theorem inserted_of_new (effect : OrderEffect inserts cancels before after)
    {row : OrderRow} (member : row ∈ after.rows)
    (new : ∀ old ∈ before.rows, old.id ≠ row.id) : inserts row := by
  cases effect with
  | same rows nextId =>
      rw [rows] at member
      exact absurd rfl (new row member)
  | inserted allowed absent isNext =>
      rcases List.mem_append.mp member with old | added
      · exact absurd rfl (new row old)
      · rwa [List.mem_singleton.mp added]
  | cancelled allowed oldMember kept =>
      rcases Table.mem_replace.mp member with ⟨rfl, _⟩ | ⟨old, _⟩
      · exact absurd kept.terms.id (new _ oldMember)
      · exact absurd rfl (new row old)

/-- Unless it inserts, the statement leaves only orders that were there. -/
theorem mem_before (effect : OrderEffect inserts cancels before after)
    (none : ∀ row, ¬ inserts row) {row : OrderRow} (member : row ∈ after.rows) :
    ∃ old ∈ before.rows, old.SameTerms row := by
  cases effect with
  | same rows nextId =>
      rw [rows] at member
      exact ⟨row, member, .refl row⟩
  | inserted allowed absent isNext => exact absurd allowed (none _)
  | cancelled allowed oldMember kept =>
      rcases Table.mem_replace.mp member with ⟨rfl, _⟩ | ⟨old, _⟩
      · exact ⟨_, oldMember, kept.terms⟩
      · exact ⟨row, old, .refl row⟩

/-- The orders of a user whom the statement does not concern stay. -/
theorem mem_iff_of_unconcerned
    (effect : OrderEffect inserts cancels before after) {row : OrderRow}
    (notInserted : ∀ other, inserts other → other.userId ≠ row.userId)
    (notCancelled : ∀ other, cancels other → other.userId ≠ row.userId) :
    row ∈ before.rows ↔ row ∈ after.rows := by
  cases effect with
  | same rows nextId => rw [rows]
  | inserted allowed absent isNext =>
      constructor
      · exact List.mem_append_left _
      · intro member
        rcases List.mem_append.mp member with old | new
        · exact old
        · rw [List.mem_singleton.mp new] at notInserted
          exact absurd rfl (notInserted _ allowed)
  | @cancelled other written allowed member kept =>
      have different : row.userId ≠ other.userId :=
        (notCancelled other allowed).symm
      constructor
      · intro rowMember
        refine Table.mem_replace.mpr (.inr ⟨rowMember, fun sameId => ?_⟩)
        have sameRow := OrderTable.eq_of_id rowMember
          member (sameId.trans (congrArg Ranged.val kept.terms.id).symm)
        exact different (congrArg OrderRow.userId sameRow)
      · intro rowMember
        rcases Table.mem_replace.mp rowMember with ⟨rfl, _⟩ | ⟨old, _⟩
        · exact absurd kept.terms.userId.symm different
        · exact old

end OrderEffect

/-- A row written over the order `current` to cancel it, or nothing if it is
cancelled already. -/
def Cancelling (current : OrderRow) : Option OrderRow → Prop
  | none => current.status = .CANCELLED
  | some row => current.Kept row ∧ row.status = .CANCELLED

theorem Cancelling.id {current row : OrderRow} {change : Option OrderRow}
    (cancelling : Cancelling current change) (written : change = some row) :
    row.id.val = current.id.val := by
  rw [written] at cancelling
  rw [cancelling.1.terms.id]

/-- Write a row, if there is one to write. -/
def applied (change : Option OrderRow) (table : OrderTable) : OrderTable :=
  change.elim table table.replace

/-- `after` is `before` with the order `current` cancelled. -/
def CancellationOf (current : OrderRow) (before after : OrderTable) : Prop :=
  ∃ change, Cancelling current change ∧ after = applied change before

theorem CancellationOf.effect {inserts cancels : OrderRow → Prop}
    {current : OrderRow} {before after : OrderTable}
    (cancellation : CancellationOf current before after)
    (member : current ∈ before.rows) (allowed : cancels current) :
    OrderEffect inserts cancels before after := by
  obtain ⟨change, cancelling, rfl⟩ := cancellation
  cases change with
  | none => exact .refl before
  | some row => exact .cancelled allowed member cancelling.1

theorem CancellationOf.find {current : OrderRow} {before after : OrderTable}
    (cancellation : CancellationOf current before after)
    (member : current ∈ before.rows) :
    ∃ row, after.find? current.id.val = some row ∧ current.Kept row ∧
      row.status = .CANCELLED := by
  obtain ⟨change, cancelling, rfl⟩ := cancellation
  cases change with
  | none =>
      exact ⟨current, Table.find?_eq_some.mpr ⟨member, rfl⟩, .refl current,
        cancelling⟩
  | some row =>
      have sameId := congrArg Ranged.val cancelling.1.terms.id
      exact ⟨row, Table.find?_eq_some.mpr ⟨Table.mem_replace.mpr
        (.inl ⟨rfl, current, member, sameId⟩), sameId.symm⟩, cancelling⟩

section Exec

variable {read current : OrderRow}

/-- However the order changed since it was read, saving it cancelled just
cancels it, whatever else the table holds. -/
theorem exec_save_cancelled (terms : read.SameTerms current) (now : Nat) :
    ∃ change, Cancelling current change ∧ ∀ table : OrderTable,
      table.find? read.id.val = some current →
        orderSchema.exec now (.save read.id.val (cancelled read)) table =
          (.ok change, applied change table) := by
  cases differs : orderSchema.diff (cancelled read) current with
  | none =>
      refine ⟨none, diff_cancelled_none differs, fun table found => ?_⟩
      simp only [Schema.exec, found, differs]
      rfl
  | some patch =>
      obtain ⟨cancelling, sets⟩ := diff_cancelled terms differs
      obtain ⟨written, kept, status, updates⟩ :=
        updateRow_of_cancels cancelling current now
      refine ⟨some written, ⟨kept, status.trans sets⟩, fun table found => ?_⟩
      simp only [Schema.exec, found, differs, updates table, Except.map]
      rfl

theorem exec_update_cancelled (id : ℤ) {patch : OrderPatch}
    (cancelling : patch.Cancels)
    (sets : patch.status.getD current.status = .CANCELLED) (now : Nat) :
    ∃ change, Cancelling current change ∧ ∀ table : OrderTable,
      table.find? id = some current →
        orderSchema.exec now (.update id patch) table =
          (.ok change, applied change table) := by
  obtain ⟨written, kept, status, updates⟩ :=
    updateRow_of_cancels cancelling current now
  refine ⟨some written, ⟨kept, status.trans sets⟩, fun table found => ?_⟩
  simp only [Schema.exec, found, updates table, Except.map]
  rfl

end Exec

end Cinema.Orders
