import Mathlib.Data.Int.Notation
import Mathlib.Data.List.Nodup

/-!
# Tables with a serial primary key

A table holds its rows in insertion order, no two with the same key, and the
next number of its sequence.  The key is an integer column that other means
than the sequence may have filled, so freshness of the sequence is a separate
property that the operations preserve.
-/

namespace Cinema.Relational

@[ext]
structure Table (Row : Type) (key : Row → ℤ) where
  rows : List Row
  nextId : ℤ
  distinct : (rows.map key).Nodup

namespace Table

variable {Row : Type} {key : Row → ℤ}

def empty : Table Row key := ⟨[], 1, List.nodup_nil⟩

instance : EmptyCollection (Table Row key) := ⟨empty⟩

/-- The sequence is ahead of every key in use. -/
def Fresh (table : Table Row key) : Prop :=
  ∀ row ∈ table.rows, key row < table.nextId

def find? (table : Table Row key) (id : ℤ) : Option Row :=
  table.rows.find? fun row => key row = id

def Has (table : Table Row key) (id : ℤ) : Prop :=
  ∃ row ∈ table.rows, key row = id

instance (table : Table Row key) (id : ℤ) : Decidable (table.Has id) :=
  inferInstanceAs (Decidable (∃ row ∈ table.rows, key row = id))

/-- Only the row under `id` has been added, changed or removed. -/
def DiffersAt (id : ℤ) (before after : Table Row key) : Prop :=
  ∀ other, other ≠ id → after.find? other = before.find? other

/-- Take a number from the sequence; it is not given back on failure. -/
def advance (table : Table Row key) : Table Row key :=
  { table with nextId := table.nextId + 1 }

def append (table : Table Row key) (row : Row)
    (absent : ¬ table.Has (key row)) : Table Row key where
  rows := table.rows ++ [row]
  nextId := table.nextId
  distinct := by
    rw [List.map_append, List.nodup_append]
    refine ⟨table.distinct, by simp, ?_⟩
    intro id member other single
    obtain ⟨old, oldMember, rfl⟩ := List.mem_map.mp member
    rw [List.map_singleton, List.mem_singleton] at single
    intro equality
    exact absent ⟨old, oldMember, equality.trans single⟩

/-- Put `row` in the place of the row with its key, if there is one. -/
def replace (table : Table Row key) (row : Row) : Table Row key where
  rows := table.rows.map fun old => if key old = key row then row else old
  nextId := table.nextId
  distinct := by
    have sameKeys : (table.rows.map fun old =>
        if key old = key row then row else old).map key =
        table.rows.map key := by
      rw [List.map_map]
      apply List.map_congr_left
      intro old _
      by_cases same : key old = key row
      · simp [same]
      · simp [same]
    rw [sameKeys]
    exact table.distinct

def erase (table : Table Row key) (id : ℤ) : Table Row key where
  rows := table.rows.filter fun row => key row ≠ id
  nextId := table.nextId
  distinct := table.distinct.sublist (List.Sublist.map _ List.filter_sublist)

variable {table : Table Row key}

@[simp] theorem advance_rows : table.advance.rows = table.rows := rfl

@[simp] theorem advance_nextId : table.advance.nextId = table.nextId + 1 := rfl

@[simp] theorem append_rows {row : Row} (absent : ¬ table.Has (key row)) :
    (table.append row absent).rows = table.rows ++ [row] := rfl

@[simp] theorem append_nextId {row : Row} (absent : ¬ table.Has (key row)) :
    (table.append row absent).nextId = table.nextId := rfl

@[simp] theorem replace_nextId {row : Row} :
    (table.replace row).nextId = table.nextId := rfl

@[simp] theorem erase_nextId {id : ℤ} :
    (table.erase id).nextId = table.nextId := rfl

/-- Two rows with the same key are the same row. -/
theorem eq_of_key {left right : Row} (leftMember : left ∈ table.rows)
    (rightMember : right ∈ table.rows) (same : key left = key right) :
    left = right :=
  List.inj_on_of_nodup_map table.distinct leftMember rightMember same

theorem find?_eq_some {id : ℤ} {row : Row} :
    table.find? id = some row ↔ row ∈ table.rows ∧ key row = id := by
  constructor
  · intro found
    exact ⟨List.mem_of_find?_eq_some found,
      by simpa using List.find?_some found⟩
  · rintro ⟨member, rfl⟩
    cases found : table.find? (key row) with
    | none =>
        have absent := List.find?_eq_none.mp found row member
        simp at absent
    | some other =>
        have otherKey : key other = key row := by
          simpa using List.find?_some found
        rw [eq_of_key (List.mem_of_find?_eq_some found) member otherKey]

theorem mem_replace {row other : Row} :
    other ∈ (table.replace row).rows ↔
      (other = row ∧ table.Has (key row)) ∨
        (other ∈ table.rows ∧ key other ≠ key row) := by
  simp only [replace, List.mem_map]
  constructor
  · rintro ⟨old, member, rfl⟩
    by_cases same : key old = key row
    · rw [if_pos same]
      exact .inl ⟨rfl, old, member, same⟩
    · rw [if_neg same]
      exact .inr ⟨member, same⟩
  · rintro (⟨rfl, old, member, same⟩ | ⟨member, different⟩)
    · exact ⟨old, member, if_pos same⟩
    · exact ⟨other, member, if_neg different⟩

theorem mem_erase {id : ℤ} {row : Row} :
    row ∈ (table.erase id).rows ↔ row ∈ table.rows ∧ key row ≠ id := by
  simp [erase]

theorem replace_has {row : Row} {id : ℤ} :
    (table.replace row).Has id ↔ table.Has id := by
  constructor
  · rintro ⟨other, member, rfl⟩
    rcases mem_replace.mp member with ⟨rfl, has⟩ | ⟨old, _⟩
    · exact has
    · exact ⟨other, old, rfl⟩
  · rintro ⟨old, member, rfl⟩
    by_cases same : key old = key row
    · exact ⟨row, mem_replace.mpr (.inl ⟨rfl, old, member, same⟩), same.symm⟩
    · exact ⟨old, mem_replace.mpr (.inr ⟨member, same⟩), rfl⟩

/-- The row that was put in its place. -/
theorem find?_replace {row : Row} (has : table.Has (key row)) :
    (table.replace row).find? (key row) = some row :=
  find?_eq_some.mpr ⟨mem_replace.mpr (.inl ⟨rfl, has⟩), rfl⟩

theorem differsAt_of_rows {after : Table Row key}
    (same : after.rows = table.rows) (id : ℤ) : DiffersAt id table after := by
  intro other _
  rw [find?, find?, same]

theorem differsAt_append {row : Row} (absent : ¬ table.Has (key row)) :
    DiffersAt (key row) table (table.append row absent) := by
  intro other elsewhere
  simp [find?, append_rows, List.find?_append, elsewhere.symm]

theorem differsAt_replace (row : Row) :
    DiffersAt (key row) table (table.replace row) := by
  intro other elsewhere
  apply Option.ext
  intro found
  rw [find?_eq_some, find?_eq_some, mem_replace]
  constructor
  · rintro ⟨⟨rfl, _⟩ | ⟨member, _⟩, isOther⟩
    · exact absurd isOther.symm elsewhere
    · exact ⟨member, isOther⟩
  · rintro ⟨member, rfl⟩
    exact ⟨.inr ⟨member, elsewhere⟩, rfl⟩

theorem differsAt_erase (id : ℤ) : DiffersAt id table (table.erase id) := by
  intro other elsewhere
  apply Option.ext
  intro found
  rw [find?_eq_some, find?_eq_some, mem_erase]
  constructor
  · rintro ⟨⟨member, _⟩, isOther⟩
    exact ⟨member, isOther⟩
  · rintro ⟨member, rfl⟩
    exact ⟨⟨member, elsewhere⟩, rfl⟩

theorem not_has_erase {id : ℤ} : ¬ (table.erase id).Has id := by
  rintro ⟨row, member, same⟩
  exact (mem_erase.mp member).2 same

theorem erase_rows_of_not_has {id : ℤ} (absent : ¬ table.Has id) :
    (table.erase id).rows = table.rows := by
  apply List.filter_eq_self.mpr
  intro row member
  exact decide_eq_true fun same => absent ⟨row, member, same⟩

theorem Fresh.lt_of_has (fresh : table.Fresh) {id : ℤ} (has : table.Has id) :
    id < table.nextId := by
  obtain ⟨row, member, rfl⟩ := has
  exact fresh row member

theorem Fresh.not_has (fresh : table.Fresh) {id : ℤ}
    (unused : table.nextId ≤ id) : ¬ table.Has id := by
  rintro ⟨row, member, rfl⟩
  exact absurd (fresh row member) (Int.not_lt.mpr unused)

end Table

end Cinema.Relational
