import Cinema.Interleaving.Program
import Cinema.Relational.Column
import Cinema.Relational.Table
import Mathlib.Data.List.ReduceOption
import Mathlib.Data.List.Sort

/-!
# A repository over one table

Objects are kept in a table through an object-relational mapper.  An entity is
the in-memory object, a row is what the database holds.  `save` inserts an
entity without an id; one with an id is compared with the row as it is read
again by id, and only the columns in which the two differ are written.  If the
row is gone, the entity is inserted as a new one: its id is a generated column,
which an insertion leaves to the sequence.
-/

namespace Cinema.Relational

open Cinema.Interleaving (Program)

/-- A bound parameter of a statement, typed by the column it is meant for. -/
inductive Parameter where
  | integer (value : ℤ)
  | smallint (value : ℤ)
  | numeric (value : ℚ)
  | text (value : String)
  | timestamp (value : Nat)

/-- How a class is mapped to a table.  Timestamps are numbers. -/
structure Schema (Row Entity Patch : Type) where
  key : Row → ℤ
  /-- Rows that violate a unique constraint together. -/
  conflicts : Row → Row → Bool
  idOf : Entity → Option ℤ
  hydrate : Row → Entity
  /-- Copy the generated columns of a written row back into the entity. -/
  refresh : Entity → Row → Entity
  /-- The updatable columns in which an entity differs from a row. -/
  diff : Entity → Row → Option Patch
  /-- What an update writes: the columns of the patch over those of the row. -/
  overlay : Patch → Row → Entity
  /-- The row for an id at a time, or the column that rejects the entity.
  Timestamps the entity does not carry are set to the time. -/
  build : Entity → ℤ → Nat → Except SqlError Row
  key_build : ∀ {entity id now row},
    build entity id now = .ok row → key row = id
  /-- The values that are sent to insert an entity, and to write a patch. -/
  parameters : Entity → List Parameter
  patchParameters : Patch → List Parameter

def Parameter.rejected : Parameter → Option SqlError
  | .integer value =>
      if -2147483648 ≤ value ∧ value ≤ 2147483647 then none
      else some .outOfRange
  | .smallint value =>
      if -32768 ≤ value ∧ value ≤ 32767 then none else some .outOfRange
  | .text value =>
      if '\x00' ∈ value.toList then some .invalidText else none
  | .numeric _ | .timestamp _ => none

/-- One statement, or a whole `save` where it is taken to be atomic. -/
inductive SqlCall (Row Entity Patch : Type) where
  | select (parameters : List Parameter) (condition : Row → Bool)
  | insert (entity : Entity)
  | save (id : ℤ) (entity : Entity)
  | reread (id : ℤ)
  | update (id : ℤ) (patch : Patch)
  | reinsert (id : ℤ) (entity : Entity)
  | delete (id : ℤ)

/-- The statements by which `save` stores a loaded entity. -/
def SqlCall.isSave {Row Entity Patch : Type} :
    SqlCall Row Entity Patch → Bool
  | .save _ _ | .reread _ | .update _ _ | .reinsert _ _ => true
  | .select _ _ | .insert _ | .delete _ => false

/-- The id of the row that a statement changes or deletes. -/
def SqlCall.target {Row Entity Patch : Type} :
    SqlCall Row Entity Patch → Option ℤ
  | .save id _ | .update id _ | .delete id => some id
  | .select _ _ | .insert _ | .reinsert _ _ | .reread _ => none

/-- A write answers with the row it left, `none` when it wrote nothing;
a deletion answers with the number of rows it removed. -/
abbrev SqlReply {Row Entity Patch : Type} : SqlCall Row Entity Patch → Type
  | .select _ _ => List Row
  | .insert _ => Row
  | .save _ _ => Option Row
  | .reread _ => Option Row
  | .update _ _ => Option Row
  | .reinsert _ _ => Row
  | .delete _ => Nat

/-- The row that a statement has written, by its reply. -/
def SqlCall.written {Row Entity Patch : Type} :
    (call : SqlCall Row Entity Patch) → SqlReply call → Option Row
  | .insert _, row => some row
  | .reinsert _ _, row => some row
  | .save _ _, row => row
  | .update _ _, row => row
  | .select _ _, _ | .reread _, _ | .delete _, _ => none

/-- Whether a statement has changed the rows, by its reply. -/
def SqlCall.changed {Row Entity Patch : Type} :
    (call : SqlCall Row Entity Patch) → SqlReply call → Bool
  | .delete _, count => count ≠ 0
  | call, reply => (call.written reply).isSome

/-- What a statement is sent with. -/
def SqlCall.parameters {Row Entity Patch : Type}
    (schema : Schema Row Entity Patch) :
    SqlCall Row Entity Patch → List Parameter
  | .select parameters _ => parameters
  | .insert entity | .reinsert _ entity => schema.parameters entity
  | .save id entity => .integer id :: schema.parameters entity
  | .update id patch => schema.patchParameters patch ++ [.integer id]
  | .reread id | .delete id => [.integer id]

/-- Whether a `save` of a loaded entity is one step or one step for each of
its two statements. -/
inductive Granularity where
  | atomicSave
  | statements
  deriving DecidableEq

namespace Schema

variable {Row Entity Patch : Type} (schema : Schema Row Entity Patch)

def Conflicted (table : Table Row schema.key) (row : Row) : Prop :=
  ∃ other ∈ table.rows,
    schema.key other ≠ schema.key row ∧ schema.conflicts other row = true

instance (table : Table Row schema.key) (row : Row) :
    Decidable (schema.Conflicted table row) :=
  inferInstanceAs (Decidable (∃ other ∈ table.rows, _ ∧ _))

def insertRow (now : Nat) (entity : Entity) (table : Table Row schema.key) :
    Except SqlError Row × Table Row schema.key :=
  match schema.build entity table.nextId now with
  | .error error => (.error error, table)
  | .ok row =>
      if absent : ¬ table.Has (schema.key row) then
        if schema.Conflicted table row then
          (.error .uniqueViolation, table.advance)
        else (.ok row, (table.append row absent).advance)
      else (.error .uniqueViolation, table.advance)

def updateRow (now : Nat) (patch : Patch) (row : Row)
    (table : Table Row schema.key) :
    Except SqlError Row × Table Row schema.key :=
  match schema.build (schema.overlay patch row) (schema.key row) now with
  | .error error => (.error error, table)
  | .ok written =>
      if schema.Conflicted table written then (.error .uniqueViolation, table)
      else (.ok written, table.replace written)

/-- The effect of one call on the table. -/
def exec (now : Nat) :
    (call : SqlCall Row Entity Patch) → Table Row schema.key →
      Except SqlError (SqlReply call) × Table Row schema.key
  | .select parameters condition, table =>
      match parameters.findSome? Parameter.rejected with
      | some error => (.error error, table)
      | none => (.ok (table.rows.filter condition), table)
  | .insert entity, table => schema.insertRow now entity table
  | .save id entity, table =>
      match table.find? id with
      | none =>
          let (result, after) := schema.insertRow now entity table
          (result.map some, after)
      | some row =>
          match schema.diff entity row with
          | none => (.ok none, table)
          | some patch =>
              let (result, after) := schema.updateRow now patch row table
              (result.map some, after)
  | .reread id, table => (.ok (table.find? id), table)
  | .update id patch, table =>
      match table.find? id with
      | none => (.ok none, table)
      | some row =>
          let (result, after) := schema.updateRow now patch row table
          (result.map some, after)
  | .reinsert _ entity, table => schema.insertRow now entity table
  | .delete id, table =>
      match (Parameter.integer id).rejected with
      | some error => (.error error, table)
      | none => (.ok (if table.Has id then 1 else 0), table.erase id)

end Schema

/-! ## The handle of a service -/

/-- One field of a `where` object. -/
structure Criterion (Row : Type) where
  parameter : Parameter
  holds : Row → Bool

namespace Criterion

variable {Row : Type}

/-- `{ column: value }`, where `undefined` places no constraint. -/
def integer (column : Row → ℤ) (value : Option ℤ) : Option (Criterion Row) :=
  value.map fun value => ⟨.integer value, fun row => column row = value⟩

def smallint (column : Row → ℤ) (value : Option ℤ) : Option (Criterion Row) :=
  value.map fun value => ⟨.smallint value, fun row => column row = value⟩

def text (column : Row → String) (value : Option String) :
    Option (Criterion Row) :=
  value.map fun value => ⟨.text value, fun row => column row = value⟩

/-- `{ column: Not(value) }` -/
def notInteger (column : Row → ℤ) (value : Option ℤ) :
    Option (Criterion Row) :=
  value.map fun value => ⟨.integer value, fun row => column row ≠ value⟩

end Criterion

/-- The conjunction of the criteria. -/
def matchesAll {Row : Type} (criteria : List (Option (Criterion Row)))
    (row : Row) : Bool :=
  criteria.reduceOption.all fun criterion => criterion.holds row

/-- `SELECT` with a `where` object. -/
abbrev SqlCall.matching {Row Entity Patch : Type}
    (criteria : List (Option (Criterion Row))) : SqlCall Row Entity Patch :=
  .select (criteria.reduceOption.map Criterion.parameter) (matchesAll criteria)

theorem matchesAll_iff {Row : Type} {criteria : List (Option (Criterion Row))}
    {row : Row} :
    matchesAll criteria row = true ↔
      ∀ criterion ∈ criteria.reduceOption, criterion.holds row = true := by
  simp [matchesAll]

/-- The first row with a given key. -/
theorem head?_matching_key {Row : Type} {key : Row → ℤ} (table : Table Row key)
    (id : ℤ) :
    (table.rows.filter
        (matchesAll [Criterion.integer key (some id)])).head? =
      table.find? id := by
  rw [List.head?_filter]
  unfold Table.find?
  congr 1
  funext row
  simp [matchesAll, List.reduceOption, Criterion.integer]

/-- What is injected into a service: how it issues one statement. -/
structure Repository {Row Entity Patch : Type}
    (schema : Schema Row Entity Patch) (Call : Type) (Reply : Call → Type)
    (Err : Type) where
  granularity : Granularity
  statement : (call : SqlCall Row Entity Patch) →
    Program Call Reply Err (SqlReply call)

namespace Repository

variable {Row Entity Patch : Type} {schema : Schema Row Entity Patch}
  {Call : Type} {Reply : Call → Type} {Err : Type}
  (repository : Repository schema Call Reply Err)

def select (criteria : List (Option (Criterion Row))) :
    Program Call Reply Err (List Row) :=
  repository.statement (.matching criteria)

def find (criteria : List (Option (Criterion Row)))
    (order : Row → Row → Prop) [DecidableRel order] :
    Program Call Reply Err (List Entity) := do
  let rows ← repository.select criteria
  return (rows.insertionSort order).map schema.hydrate

def findOneBy (criteria : List (Option (Criterion Row))) :
    Program Call Reply Err (Option Entity) := do
  let rows ← repository.select criteria
  return rows.head?.map schema.hydrate

def existsBy (criteria : List (Option (Criterion Row))) :
    Program Call Reply Err Bool := do
  let rows ← repository.select criteria
  return !rows.isEmpty

def save (entity : Entity) : Program Call Reply Err Entity :=
  match schema.idOf entity with
  | none => do
      let row ← repository.statement (.insert entity)
      return schema.refresh entity row
  | some id =>
      match repository.granularity with
      | .atomicSave => do
          let written ← repository.statement (.save id entity)
          return written.elim entity (schema.refresh entity)
      | .statements => do
          match ← repository.statement (.reread id) with
          | none =>
              let row ← repository.statement (.reinsert id entity)
              return schema.refresh entity row
          | some row =>
              match schema.diff entity row with
              | none => return entity
              | some patch =>
                  let written ← repository.statement (.update id patch)
                  return written.elim entity (schema.refresh entity)

/-- The number of rows affected. -/
def delete (id : ℤ) : Program Call Reply Err Nat :=
  repository.statement (.delete id)

section Uses

variable {repository} {allowed : Call → Prop}

theorem uses_find {criteria : List (Option (Criterion Row))}
    (issued : (repository.statement (.matching criteria)).Uses allowed)
    (order : Row → Row → Prop) [DecidableRel order] :
    (repository.find criteria order).Uses allowed :=
  issued.bind fun _ => trivial

theorem uses_findOneBy {criteria : List (Option (Criterion Row))}
    (issued : (repository.statement (.matching criteria)).Uses allowed) :
    (repository.findOneBy criteria).Uses allowed :=
  issued.bind fun _ => trivial

theorem uses_existsBy {criteria : List (Option (Criterion Row))}
    (issued : (repository.statement (.matching criteria)).Uses allowed) :
    (repository.existsBy criteria).Uses allowed :=
  issued.bind fun _ => trivial

theorem uses_save_new {entity : Entity} (new : schema.idOf entity = none)
    (issued : (repository.statement (.insert entity)).Uses allowed) :
    (repository.save entity).Uses allowed := by
  unfold save
  rw [new]
  exact issued.bind fun _ => trivial

theorem uses_save (issued : ∀ call, (repository.statement call).Uses allowed)
    (entity : Entity) : (repository.save entity).Uses allowed := by
  unfold save
  cases schema.idOf entity with
  | none => exact (issued _).bind fun _ => trivial
  | some id =>
      cases repository.granularity with
      | atomicSave => exact (issued _).bind fun _ => trivial
      | statements =>
          refine (issued _).bind fun reread => ?_
          cases reread with
          | none => exact (issued _).bind fun _ => trivial
          | some row =>
              cases differs : schema.diff entity row with
              | none => simp only [differs]; trivial
              | some patch =>
                  simp only [differs]
                  exact (issued _).bind fun _ => trivial

end Uses

section Spends

variable {repository} {price : Call → Nat}

/-- Every statement costs one unit. -/
def UnitCost (repository : Repository schema Call Reply Err)
    (price : Call → Nat) : Prop :=
  ∀ call, (repository.statement call).Spends price 1

theorem spends_find (unit : repository.UnitCost price)
    (criteria : List (Option (Criterion Row))) (order : Row → Row → Prop)
    [DecidableRel order] : (repository.find criteria order).Spends price 1 :=
  (unit _).map _

theorem spends_findOneBy (unit : repository.UnitCost price)
    (criteria : List (Option (Criterion Row))) :
    (repository.findOneBy criteria).Spends price 1 :=
  (unit _).map _

theorem spends_existsBy (unit : repository.UnitCost price)
    (criteria : List (Option (Criterion Row))) :
    (repository.existsBy criteria).Spends price 1 :=
  (unit _).map _

theorem spends_save_new (unit : repository.UnitCost price) {entity : Entity}
    (new : schema.idOf entity = none) :
    (repository.save entity).Spends price 1 := by
  unfold save
  rw [new]
  exact (unit _).map _

/-- A save takes two statements at most. -/
theorem spends_save (unit : repository.UnitCost price) (entity : Entity) :
    (repository.save entity).Spends price 2 := by
  cases new : schema.idOf entity with
  | none => exact (spends_save_new unit new).mono (by omega)
  | some id =>
      unfold save
      rw [new]
      cases repository.granularity with
      | atomicSave => exact ((unit _).map _).mono (by omega)
      | statements =>
          change Program.Spends price (_ >>= _) (1 + 1)
          refine (unit _).bind fun reread => ?_
          cases reread with
          | none => exact (unit _).map _
          | some row =>
              cases differs : schema.diff entity row with
              | none => simp only [differs]; trivial
              | some patch =>
                  simp only [differs]
                  exact (unit _).map _

end Spends

section Throws

variable {repository} {fails : Call → Err → Prop} {fine : Err → Prop}

theorem throws_find {criteria : List (Option (Criterion Row))}
    (selects : (repository.statement (.matching criteria)).Throws fails fine)
    (order : Row → Row → Prop) [DecidableRel order] :
    (repository.find criteria order).Throws fails fine :=
  selects.map _

theorem throws_findOneBy {criteria : List (Option (Criterion Row))}
    (selects : (repository.statement (.matching criteria)).Throws fails fine) :
    (repository.findOneBy criteria).Throws fails fine :=
  selects.map _

theorem throws_existsBy {criteria : List (Option (Criterion Row))}
    (selects : (repository.statement (.matching criteria)).Throws fails fine) :
    (repository.existsBy criteria).Throws fails fine :=
  selects.map _

theorem throws_save
    (issued : ∀ call, (repository.statement call).Throws fails fine)
    (entity : Entity) : (repository.save entity).Throws fails fine := by
  unfold save
  cases schema.idOf entity with
  | none => exact (issued _).map _
  | some id =>
      cases repository.granularity with
      | atomicSave => exact (issued _).map _
      | statements =>
          refine (issued _).bind fun reread => ?_
          cases reread with
          | none => exact (issued _).map _
          | some row =>
              cases differs : schema.diff entity row with
              | none => simp only [differs]; trivial
              | some patch =>
                  simp only [differs]
                  exact (issued _).map _

end Throws

end Repository

namespace Schema

variable {Row Entity Patch : Type} {schema : Schema Row Entity Patch}

/-! ## What one call can do -/

variable {table : Table Row schema.key}

theorem insertRow_cases (schema : Schema Row Entity Patch) (now : Nat) (entity : Entity)
    (table : Table Row schema.key) :
    (∃ row, ∃ absent : ¬ table.Has (schema.key row),
        schema.build entity table.nextId now = .ok row ∧
        ¬ schema.Conflicted table row ∧
        schema.insertRow now entity table =
          (.ok row, (table.append row absent).advance)) ∨
      ∃ error after, schema.insertRow now entity table = (.error error, after) ∧
        (after = table ∨ after = table.advance) := by
  unfold insertRow
  cases built : schema.build entity table.nextId now with
  | error error => exact .inr ⟨error, table, rfl, .inl rfl⟩
  | ok row =>
      by_cases absent : ¬ table.Has (schema.key row)
      · by_cases conflicted : schema.Conflicted table row
        · exact .inr ⟨.uniqueViolation, table.advance,
          by simp [absent, conflicted], .inr rfl⟩
        · exact .inl ⟨row, absent, rfl, conflicted, by simp [absent, conflicted]⟩
      · exact .inr ⟨.uniqueViolation, table.advance, by simp [absent], .inr rfl⟩

/-- A refusal as a duplicate: another row is in the way. -/
theorem insertRow_uniqueViolation {now : Nat} {entity : Entity}
    {table : Table Row schema.key}
    (builds : schema.build entity table.nextId now ≠ .error .uniqueViolation)
    (failed : (schema.insertRow now entity table).1 =
      .error .uniqueViolation) :
    ∃ row, schema.build entity table.nextId now = .ok row ∧
      (table.Has (schema.key row) ∨ schema.Conflicted table row) := by
  unfold insertRow at failed
  cases built : schema.build entity table.nextId now with
  | error error =>
      simp only [built] at failed
      cases failed
      exact absurd built builds
  | ok row =>
      refine ⟨row, rfl, ?_⟩
      by_contra free
      obtain ⟨absent, unique⟩ := not_or.mp free
      simp [built, absent, unique] at failed

theorem updateRow_cases (now : Nat) (patch : Patch) (row : Row)
    (table : Table Row schema.key) :
    (∃ written,
        schema.build (schema.overlay patch row) (schema.key row) now =
          .ok written ∧
        ¬ schema.Conflicted table written ∧
        schema.updateRow now patch row table =
          (.ok written, table.replace written)) ∨
      ∃ error, schema.updateRow now patch row table =
        (.error error, table) := by
  unfold updateRow
  cases built : schema.build (schema.overlay patch row) (schema.key row) now with
  | error error => exact .inr ⟨error, rfl⟩
  | ok written =>
      by_cases conflicted : schema.Conflicted table written
      · exact .inr ⟨.uniqueViolation, by simp [conflicted]⟩
      · exact .inl ⟨written, rfl, conflicted, by simp [conflicted]⟩

theorem updateRow_uniqueViolation {now : Nat} {patch : Patch} {row : Row}
    {table : Table Row schema.key}
    (builds : schema.build (schema.overlay patch row) (schema.key row) now ≠
      .error .uniqueViolation)
    (failed : (schema.updateRow now patch row table).1 =
      .error .uniqueViolation) :
    ∃ written, schema.build (schema.overlay patch row) (schema.key row) now =
        .ok written ∧ schema.Conflicted table written := by
  unfold updateRow at failed
  cases built : schema.build (schema.overlay patch row) (schema.key row) now with
  | error error =>
      simp only [built] at failed
      cases failed
      exact absurd built builds
  | ok written =>
      refine ⟨written, rfl, ?_⟩
      by_contra unique
      simp [built, unique] at failed

/-- A row that the columns accept can only be refused as a duplicate. -/
theorem insertRow_refuses_duplicates {now : Nat} {entity : Entity}
    {table : Table Row schema.key}
    (builds : schema.build entity table.nextId now ≠
      .error .uniqueViolation) :
    (∀ error, (schema.insertRow now entity table).1 = .error error →
        error = .uniqueViolation) ↔
      ∃ row, schema.build entity table.nextId now = .ok row := by
  unfold insertRow
  cases built : schema.build entity table.nextId now with
  | error error =>
      constructor
      · intro duplicates
        rw [built, duplicates error rfl] at builds
        exact absurd rfl builds
      · rintro ⟨row, impossible⟩
        cases impossible
  | ok row =>
      refine ⟨fun _ => ⟨row, rfl⟩, ?_⟩
      intro _ error refused
      dsimp only at refused
      split at refused
      · split at refused
        · cases refused
          rfl
        · cases refused
      · cases refused
        rfl

theorem updateRow_refuses_duplicates {now : Nat} {patch : Patch} {row : Row}
    {table : Table Row schema.key}
    (builds : schema.build (schema.overlay patch row) (schema.key row) now ≠
      .error .uniqueViolation) :
    (∀ error, (schema.updateRow now patch row table).1 = .error error →
        error = .uniqueViolation) ↔
      ∃ written, schema.build (schema.overlay patch row) (schema.key row) now =
        .ok written := by
  unfold updateRow
  cases built : schema.build (schema.overlay patch row) (schema.key row) now with
  | error error =>
      constructor
      · intro duplicates
        rw [built, duplicates error rfl] at builds
        exact absurd rfl builds
      · rintro ⟨written, impossible⟩
        cases impossible
  | ok written =>
      refine ⟨fun _ => ⟨written, rfl⟩, ?_⟩
      intro _ error refused
      dsimp only at refused
      split at refused
      · cases refused
        rfl
      · cases refused

/-- Whether a selection fails depends on its parameters alone. -/
theorem exec_matching_uniform (schema : Schema Row Entity Patch) (now : Nat)
    (criteria : List (Option (Criterion Row))) :
    (∀ table : Table Row schema.key,
      schema.exec now (.matching criteria : SqlCall Row Entity Patch) table =
        (.ok (table.rows.filter (matchesAll criteria)), table)) ∨
      ∃ error, ∀ table : Table Row schema.key,
        schema.exec now (.matching criteria : SqlCall Row Entity Patch) table =
          (.error error, table) := by
  cases rejected : (criteria.reduceOption.map Criterion.parameter).findSome?
      Parameter.rejected with
  | none => exact .inl fun table => by simp only [exec, rejected]
  | some error => exact .inr ⟨error, fun table => by simp only [exec, rejected]⟩

theorem exec_matching (schema : Schema Row Entity Patch) (now : Nat)
    (criteria : List (Option (Criterion Row)))
    (table : Table Row schema.key) :
    schema.exec now (.matching criteria : SqlCall Row Entity Patch) table =
        (.ok (table.rows.filter (matchesAll criteria)), table) ∨
      ∃ error, schema.exec now
        (.matching criteria : SqlCall Row Entity Patch) table =
          (.error error, table) := by
  rcases schema.exec_matching_uniform now criteria with
    selects | ⟨error, fails⟩
  · exact .inl (selects table)
  · exact .inr ⟨error, fails table⟩

theorem exec_matching_of_accepted {criteria : List (Option (Criterion Row))}
    (accepted : ∀ criterion ∈ criteria.reduceOption,
      criterion.parameter.rejected = none) (now : Nat)
    (table : Table Row schema.key) :
    schema.exec now (.matching criteria : SqlCall Row Entity Patch) table =
      (.ok (table.rows.filter (matchesAll criteria)), table) := by
  have none : (criteria.reduceOption.map Criterion.parameter).findSome?
      Parameter.rejected = none := by
    rw [List.findSome?_eq_none_iff]
    intro parameter member
    obtain ⟨criterion, criterionMember, rfl⟩ := List.mem_map.mp member
    exact accepted criterion criterionMember
  simp only [exec, none]

/-- What a deletion that is executed does, and what it counts. -/
theorem exec_delete_eq_ok {now : Nat} {id : ℤ} {count : Nat}
    (deletes : (schema.exec now (.delete id : SqlCall Row Entity Patch)
      table).1 = .ok count) :
    (schema.exec now (.delete id : SqlCall Row Entity Patch) table).2 =
        table.erase id ∧
      count = if table.Has id then 1 else 0 := by
  simp only [exec] at deletes ⊢
  split at deletes
  · cases deletes
  · cases deletes
    exact ⟨rfl, rfl⟩

/-- The four ways in which a call leaves the table. -/
inductive Effect (schema : Schema Row Entity Patch) (now : Nat)
    (call : SqlCall Row Entity Patch) (table : Table Row schema.key) :
    Table Row schema.key → Prop where
  | unchanged {after} (rows : after.rows = table.rows)
      (nextId : table.nextId ≤ after.nextId) :
      Effect schema now call table after
  | inserted {entity row} (isInsert : call = .insert entity ∨
        ∃ id, call = .save id entity ∨ call = .reinsert id entity)
      (built : schema.build entity table.nextId now = .ok row)
      (absent : ¬ table.Has (schema.key row))
      (unique : ¬ schema.Conflicted table row) :
      Effect schema now call table ((table.append row absent).advance)
  | updated {id patch row written}
      (isUpdate : call = .update id patch ∨
        ∃ entity, call = .save id entity ∧ schema.diff entity row = some patch)
      (found : table.find? id = some row)
      (built : schema.build (schema.overlay patch row) (schema.key row) now =
        .ok written)
      (unique : ¬ schema.Conflicted table written) :
      Effect schema now call table (table.replace written)
  | deleted {id} (isDelete : call = .delete id) :
      Effect schema now call table (table.erase id)

/-- A call leaves the rows alone, or it succeeds with its effect, and every row
it leaves is an old one or the one it reports. -/
inductive Executed (schema : Schema Row Entity Patch) (now : Nat)
    (call : SqlCall Row Entity Patch) (table : Table Row schema.key) :
    Except SqlError (SqlReply call) → Table Row schema.key → Prop where
  | idle {result after} (rows : after.rows = table.rows)
      (nextId : table.nextId ≤ after.nextId) :
      Executed schema now call table result after
  | effective {reply after} (effect : Effect schema now call table after)
      (rows : ∀ row ∈ after.rows,
        row ∈ table.rows ∨ call.written reply = some row) :
      Executed schema now call table (.ok reply) after

private theorem mem_appended {written : Row}
    (absent : ¬ table.Has (schema.key written)) :
    ∀ row ∈ (table.append written absent).rows,
      row ∈ table.rows ∨ some written = some row := by
  intro row member
  rcases List.mem_append.mp member with old | new
  · exact .inl old
  · exact .inr (congrArg some (List.mem_singleton.mp new).symm)

private theorem mem_replaced {written : Row} :
    ∀ row ∈ (table.replace written).rows,
      row ∈ table.rows ∨ some written = some row := by
  intro row member
  rcases Table.mem_replace.mp member with ⟨same, _⟩ | ⟨old, _⟩
  · exact .inr (congrArg some same.symm)
  · exact .inl old

/-- A call that inserts an entity, whatever it makes of the new row. -/
private theorem executed_insert {now : Nat} {call : SqlCall Row Entity Patch}
    {entity : Entity} (isInsert : call = .insert entity ∨
      ∃ id, call = .save id entity ∨ call = .reinsert id entity)
    {reply : Row → SqlReply call}
    (reports : ∀ row, call.written (reply row) = some row)
    {result : Except SqlError (SqlReply call)}
    (isResult : result = (schema.insertRow now entity table).1.map reply) :
    Executed schema now call table result
      (schema.insertRow now entity table).2 := by
  subst isResult
  rcases schema.insertRow_cases now entity table with
    ⟨row, absent, built, unique, equality⟩ |
    ⟨error, after, equality, rfl | rfl⟩
  · rw [equality]
    refine .effective (.inserted isInsert built absent unique) ?_
    rw [reports]
    exact mem_appended absent
  · rw [equality]
    exact .idle rfl le_rfl
  · rw [equality]
    exact .idle rfl (by simp)

private theorem map_id_eq {ε α : Type} (result : Except ε α) :
    result = result.map id := by
  cases result <;> rfl

theorem exec_executed (now : Nat) (call : SqlCall Row Entity Patch)
    (table : Table Row schema.key) :
    Executed schema now call table (schema.exec now call table).1
      (schema.exec now call table).2 := by
  have idle : ∀ result, Executed schema now call table result table :=
    fun result => .idle rfl le_rfl
  cases call with
  | select parameters condition =>
      simp only [exec]
      split <;> exact idle _
  | insert entity =>
      exact executed_insert (.inl rfl) (fun _ => rfl) (map_id_eq _)
  | save id entity =>
      cases found : table.find? id with
      | none =>
          simp only [exec, found]
          exact executed_insert (.inr ⟨id, .inl rfl⟩) (fun _ => rfl) rfl
      | some row =>
          cases differs : schema.diff entity row with
          | none =>
              simp only [exec, found, differs]
              exact idle _
          | some patch =>
              simp only [exec, found, differs]
              rcases updateRow_cases now patch row table with
                ⟨written, built, unique, equality⟩ | ⟨error, equality⟩
              · rw [equality]
                exact .effective (.updated (.inr ⟨entity, rfl, differs⟩) found
                  built unique) mem_replaced
              · rw [equality]
                exact idle _
  | reread id => exact idle _
  | update id patch =>
      cases found : table.find? id with
      | none =>
          simp only [exec, found]
          exact idle _
      | some row =>
          simp only [exec, found]
          rcases updateRow_cases now patch row table with
            ⟨written, built, unique, equality⟩ | ⟨error, equality⟩
          · rw [equality]
            exact .effective (.updated (.inl rfl) found built unique)
              mem_replaced
          · rw [equality]
            exact idle _
  | reinsert id entity =>
      exact executed_insert (.inr ⟨id, .inr rfl⟩) (fun _ => rfl) (map_id_eq _)
  | delete id =>
      simp only [exec]
      split
      · exact idle _
      · exact .effective (.deleted rfl) fun row member =>
          .inl (Table.mem_erase.mp member).1

theorem exec_effect (now : Nat) (call : SqlCall Row Entity Patch)
    (table : Table Row schema.key) :
    Effect schema now call table (schema.exec now call table).2 := by
  have executed := schema.exec_executed now call table
  generalize (schema.exec now call table).1 = result at executed
  cases executed with
  | idle rows nextId => exact .unchanged rows nextId
  | effective effect rows => exact effect

/-- A call that fails leaves every row as it was. -/
theorem exec_error_rows {now : Nat} {call : SqlCall Row Entity Patch}
    {error : SqlError} (failed : (schema.exec now call table).1 = .error error) :
    (schema.exec now call table).2.rows = table.rows := by
  have executed := schema.exec_executed now call table
  rw [failed] at executed
  cases executed with
  | idle rows nextId => exact rows

/-- An insertion that fails leaves every row as it was. -/
private theorem insertRow_unchanged {now : Nat} {entity : Entity}
    (failed : ∀ row, (schema.insertRow now entity table).1 ≠ .ok row) :
    (schema.insertRow now entity table).2.rows = table.rows := by
  rcases schema.insertRow_cases now entity table with
    ⟨row, absent, _, _, same⟩ | ⟨error, after, same, rfl | rfl⟩
  · exact absurd (congrArg Prod.fst same) (failed row)
  · rw [same]
  · rw [same, Table.advance_rows]

/-- A call that does not report a change leaves every row as it was. -/
theorem exec_unchanged_rows {now : Nat} {call : SqlCall Row Entity Patch}
    (unchanged : ∀ reply, (schema.exec now call table).1 = .ok reply →
      call.changed reply = false) :
    (schema.exec now call table).2.rows = table.rows := by
  cases call with
  | select parameters condition =>
      simp only [exec]
      split <;> rfl
  | insert entity =>
      exact insertRow_unchanged fun row inserted =>
        absurd (unchanged row inserted) (by simp [SqlCall.changed,
          SqlCall.written])
  | save id entity =>
      simp only [exec] at unchanged ⊢
      cases found : table.find? id with
      | none =>
          simp only [found] at unchanged ⊢
          apply insertRow_unchanged
          intro row inserted
          rw [inserted] at unchanged
          cases unchanged (some row) rfl
      | some row =>
          simp only [found] at unchanged ⊢
          cases differs : schema.diff entity row with
          | none => simp only
          | some patch =>
              simp only [differs] at unchanged ⊢
              rcases updateRow_cases now patch row table with
                ⟨written, _, _, same⟩ | ⟨error, same⟩
              · rw [same] at unchanged
                cases unchanged (some written) rfl
              · rw [same]
  | reread id => rfl
  | update id patch =>
      simp only [exec] at unchanged ⊢
      cases found : table.find? id with
      | none => simp only
      | some row =>
          simp only [found] at unchanged ⊢
          rcases updateRow_cases now patch row table with
            ⟨written, _, _, same⟩ | ⟨error, same⟩
          · rw [same] at unchanged
            cases unchanged (some written) rfl
          · rw [same]
  | reinsert id entity =>
      exact insertRow_unchanged fun row inserted =>
        absurd (unchanged row inserted) (by simp [SqlCall.changed,
          SqlCall.written])
  | delete id =>
      cases deleted : (schema.exec now
          (.delete id : SqlCall Row Entity Patch) table).1 with
      | error error => exact exec_error_rows deleted
      | ok count =>
          obtain ⟨after, isCount⟩ := schema.exec_delete_eq_ok deleted
          have zero := unchanged count deleted
          rw [after]
          apply Table.erase_rows_of_not_has
          intro isThere
          rw [if_pos isThere] at isCount
          subst isCount
          cases zero

/-- A row that a call leaves was there before, or the call has written it. -/
theorem mem_exec_rows {now : Nat} {call : SqlCall Row Entity Patch} {row : Row}
    (member : row ∈ (schema.exec now call table).2.rows) :
    row ∈ table.rows ∨ ∃ reply, (schema.exec now call table).1 = .ok reply ∧
      call.written reply = some row := by
  have executed := schema.exec_executed now call table
  generalize (schema.exec now call table).1 = result at executed ⊢
  cases executed with
  | idle rows nextId =>
      rw [rows] at member
      exact .inl member
  | @effective reply _ effect rows =>
      exact (rows row member).imp_right fun written => ⟨reply, rfl, written⟩

private theorem mem_insertRow {now : Nat} {entity : Entity} {row : Row}
    (inserts : (schema.insertRow now entity table).1 = .ok row) :
    row ∈ (schema.insertRow now entity table).2.rows := by
  rcases schema.insertRow_cases now entity table with
    ⟨written, absent, _, _, same⟩ | ⟨error, after, same, _⟩
  · rw [same] at inserts ⊢
    cases inserts
    exact List.mem_append_right _ (List.mem_singleton_self _)
  · rw [same] at inserts
    cases inserts

private theorem mem_updateRow {now : Nat} {patch : Patch} {old row : Row}
    (member : old ∈ table.rows)
    (updates : (schema.updateRow now patch old table).1 = .ok row) :
    row ∈ (schema.updateRow now patch old table).2.rows := by
  rcases schema.updateRow_cases now patch old table with
    ⟨written, built, _, same⟩ | ⟨error, same⟩
  · rw [same] at updates ⊢
    cases updates
    exact Table.mem_replace.mpr
      (.inl ⟨rfl, old, member, (schema.key_build built).symm⟩)
  · rw [same] at updates
    cases updates

private theorem ok_of_map_some {result : Except SqlError Row}
    {reply : Option Row} {row : Row} (maps : result.map some = .ok reply)
    (isRow : reply = some row) : result = .ok row := by
  cases result with
  | error error => cases maps
  | ok other =>
      cases maps
      cases isRow
      rfl

/-- What a call reports to have written is in the table. -/
theorem mem_of_written {now : Nat} {call : SqlCall Row Entity Patch}
    {reply : SqlReply call} {row : Row}
    (executed : (schema.exec now call table).1 = .ok reply)
    (written : call.written reply = some row) :
    row ∈ (schema.exec now call table).2.rows := by
  cases call with
  | insert entity =>
      cases written
      exact mem_insertRow executed
  | reinsert id entity =>
      cases written
      exact mem_insertRow executed
  | save id entity =>
      simp only [exec] at executed ⊢
      cases found : table.find? id with
      | none =>
          simp only [found] at executed ⊢
          exact mem_insertRow (ok_of_map_some executed written)
      | some old =>
          simp only [found] at executed ⊢
          cases differs : schema.diff entity old with
          | none =>
              simp only [differs] at executed
              cases executed
              cases written
          | some patch =>
              simp only [differs] at executed ⊢
              exact mem_updateRow (Table.find?_eq_some.mp found).1
                (ok_of_map_some executed written)
  | update id patch =>
      simp only [exec] at executed ⊢
      cases found : table.find? id with
      | none =>
          simp only [found] at executed
          cases executed
          cases written
      | some old =>
          simp only [found] at executed ⊢
          exact mem_updateRow (Table.find?_eq_some.mp found).1
            (ok_of_map_some executed written)
  | select | reread | delete => cases written

/-- The call may add a row to the table. -/
def Inserts (table : Table Row schema.key) :
    SqlCall Row Entity Patch → Prop
  | .insert _ | .reinsert _ _ => True
  | .save id _ => ¬ table.Has id
  | .select _ _ | .reread _ | .update _ _ | .delete _ => False

private theorem exec_save_nextId {now : Nat} {id : ℤ} {entity : Entity}
    (has : table.Has id) :
    (schema.exec now (.save id entity) table).2.nextId = table.nextId := by
  obtain ⟨row, member, isRow⟩ := has
  simp only [exec, Table.find?_eq_some.mpr ⟨member, isRow⟩]
  cases schema.diff entity row with
  | none => rfl
  | some patch =>
      rcases schema.updateRow_cases now patch row table with
        ⟨written, _, _, same⟩ | ⟨error, same⟩
      · simp only [same, Table.replace_nextId]
      · simp only [same]

/-- No other call leaves a row under a new id. -/
theorem has_of_exec {now : Nat} {call : SqlCall Row Entity Patch} {id : ℤ}
    (has : (schema.exec now call table).2.Has id) :
    table.Has id ∨ schema.Inserts table call := by
  have effect := schema.exec_effect now call table
  generalize isAfter : (schema.exec now call table).2 = after at has effect
  cases effect with
  | unchanged rows nextId =>
      left
      unfold Table.Has at has ⊢
      rwa [← rows]
  | @inserted entity row isInsert built absent unique =>
      right
      rcases isInsert with rfl | ⟨key, rfl | rfl⟩
      · trivial
      · -- An insertion has taken a number from the sequence.
        intro present
        have kept : (schema.exec now (.save key entity) table).2.nextId =
            table.nextId := exec_save_nextId present
        rw [isAfter, Table.advance_nextId, Table.append_nextId] at kept
        omega
      · trivial
  | updated isUpdate found built unique =>
      exact .inl (Table.replace_has.mp has)
  | deleted isDelete =>
      obtain ⟨row, member, isRow⟩ := has
      exact .inl ⟨row, (Table.mem_erase.mp member).1, isRow⟩

/-- The sequence stays ahead of the keys. -/
theorem Effect.fresh {now : Nat} {call : SqlCall Row Entity Patch}
    {after : Table Row schema.key}
    (effect : Effect schema now call table after) (fresh : table.Fresh) :
    after.Fresh := by
  cases effect with
  | unchanged rows nextId =>
      intro row member
      rw [rows] at member
      exact lt_of_lt_of_le (fresh row member) nextId
  | inserted isInsert built absent unique =>
      intro row member
      rcases List.mem_append.mp member with old | new
      · exact lt_trans (fresh row old) (by simp)
      · rw [List.mem_singleton.mp new, schema.key_build built]
        simp
  | @updated id patch row written isUpdate found built unique =>
      intro other member
      rcases Table.mem_replace.mp member with ⟨rfl, _⟩ | ⟨old, _⟩
      · rw [schema.key_build built]
        exact fresh row (Table.find?_eq_some.mp found).1
      · exact fresh other old
  | deleted isDelete =>
      intro row member
      exact fresh row (Table.mem_erase.mp member).1

/-- No two rows violate a unique constraint together. -/
def Unique (schema : Schema Row Entity Patch)
    (table : Table Row schema.key) : Prop :=
  ∀ left ∈ table.rows, ∀ right ∈ table.rows,
    schema.conflicts left right = true → schema.key left = schema.key right

/-- Whatever a call writes, it is checked against the rows that stay. -/
theorem Effect.unique {now : Nat} {call : SqlCall Row Entity Patch}
    {after : Table Row schema.key}
    (effect : Effect schema now call table after)
    (symmetric : ∀ left right, schema.conflicts left right = true →
      schema.conflicts right left = true)
    (unique : schema.Unique table) : schema.Unique after := by
  have appended : ∀ {row : Row} (absent : ¬ table.Has (schema.key row)),
      ¬ schema.Conflicted table row →
        schema.Unique (table.append row absent) := by
    intro row absent free left leftMember right rightMember conflicting
    rcases List.mem_append.mp leftMember with leftOld | leftNew <;>
      rcases List.mem_append.mp rightMember with rightOld | rightNew
    · exact unique left leftOld right rightOld conflicting
    · rw [List.mem_singleton.mp rightNew] at conflicting
      by_contra
      exact free ⟨left, leftOld, fun same => absent ⟨left, leftOld, same⟩,
        conflicting⟩
    · rw [List.mem_singleton.mp leftNew] at conflicting
      by_contra
      exact free ⟨right, rightOld, fun same => absent ⟨right, rightOld, same⟩,
        symmetric _ _ conflicting⟩
    · rw [List.mem_singleton.mp leftNew, List.mem_singleton.mp rightNew]
  cases effect with
  | unchanged rows nextId =>
      intro left leftMember right rightMember
      rw [rows] at leftMember rightMember
      exact unique left leftMember right rightMember
  | inserted isInsert built absent free => exact appended absent free
  | @updated id patch row written isUpdate found built free =>
      intro left leftMember right rightMember conflicting
      rcases Table.mem_replace.mp leftMember with
          ⟨rfl, _⟩ | ⟨leftOld, leftOther⟩ <;>
        rcases Table.mem_replace.mp rightMember with
          ⟨rfl, _⟩ | ⟨rightOld, rightOther⟩
      · rfl
      · by_contra
        exact free ⟨right, rightOld, rightOther, symmetric _ _ conflicting⟩
      · by_contra
        exact free ⟨left, leftOld, leftOther, conflicting⟩
      · exact unique left leftOld right rightOld conflicting
  | deleted isDelete =>
      intro left leftMember right rightMember
      exact unique left (Table.mem_erase.mp leftMember).1 right
        (Table.mem_erase.mp rightMember).1

theorem Effect.nextId {now : Nat} {call : SqlCall Row Entity Patch}
    {after : Table Row schema.key}
    (effect : Effect schema now call table after) :
    table.nextId ≤ after.nextId := by
  cases effect with
  | unchanged rows nextId => exact nextId
  | inserted isInsert built absent unique => simp
  | updated isUpdate found built unique => simp
  | deleted isDelete => simp

/-- An id that the sequence has passed and no row has stays without one. -/
theorem Effect.retired {now : Nat} {call : SqlCall Row Entity Patch}
    {after : Table Row schema.key}
    (effect : Effect schema now call table after) {id : ℤ}
    (passed : id < table.nextId) (absent : ¬ table.Has id) :
    ¬ after.Has id := by
  cases effect with
  | unchanged rows nextId =>
      unfold Table.Has at absent ⊢
      rwa [rows]
  | inserted isInsert built unused unique =>
      rintro ⟨row, member, isRow⟩
      rcases List.mem_append.mp member with old | new
      · exact absent ⟨row, old, isRow⟩
      · rw [List.mem_singleton.mp new, schema.key_build built] at isRow
        exact absurd isRow (ne_of_gt passed)
  | updated isUpdate found built unique =>
      rwa [Table.replace_has]
  | deleted isDelete =>
      rintro ⟨row, member, isRow⟩
      exact absent ⟨row, (Table.mem_erase.mp member).1, isRow⟩

/-- A call adds, changes or removes one row at most. -/
theorem Effect.differsAt {now : Nat} {call : SqlCall Row Entity Patch}
    {after : Table Row schema.key}
    (effect : Effect schema now call table after) :
    ∃ id, Table.DiffersAt id table after := by
  cases effect with
  | unchanged rows nextId => exact ⟨0, Table.differsAt_of_rows rows 0⟩
  | inserted isInsert built absent unique =>
      exact ⟨_, Table.differsAt_append absent⟩
  | updated isUpdate found built unique =>
      exact ⟨_, Table.differsAt_replace _⟩
  | deleted isDelete => exact ⟨_, Table.differsAt_erase _⟩

/-- Rows that a call does not aim at stay as they are. -/
theorem Effect.find? {now : Nat} {call : SqlCall Row Entity Patch}
    {after : Table Row schema.key}
    (effect : Effect schema now call table after) {id : ℤ} {row : Row}
    (found : table.find? id = some row) (elsewhere : call.target ≠ some id) :
    after.find? id = some row := by
  obtain ⟨member, isId⟩ := Table.find?_eq_some.mp found
  rw [Table.find?_eq_some]
  refine ⟨?_, isId⟩
  cases effect with
  | unchanged rows nextId =>
      rw [rows]
      exact member
  | inserted isInsert built absent unique =>
      exact List.mem_append_left _ member
  | @updated target patch old written isUpdate oldFound built unique =>
      rw [Table.mem_replace]
      refine .inr ⟨member, fun same => elsewhere ?_⟩
      have isTarget : target = id := by
        rw [← isId, same, schema.key_build built]
        exact (Table.find?_eq_some.mp oldFound).2.symm
      rcases isUpdate with rfl | ⟨entity, rfl, _⟩
      · exact congrArg some isTarget
      · exact congrArg some isTarget
  | @deleted target isDelete =>
      rw [Table.mem_erase]
      refine ⟨member, fun same => elsewhere ?_⟩
      rw [isDelete, ← same, isId]
      rfl

/-- What saving an entity over its row does. -/
theorem exec_save_eq_ok {now : Nat} {id : ℤ} {entity : Entity} {row : Row}
    {reply : Option Row} (found : table.find? id = some row)
    (saves : (schema.exec now (.save id entity) table).1 = .ok reply) :
    (schema.diff entity row = none ∧
        (schema.exec now (.save id entity) table).2 = table) ∨
      ∃ patch written, schema.diff entity row = some patch ∧
        schema.build (schema.overlay patch row) (schema.key row) now =
          .ok written ∧
        (schema.exec now (.save id entity) table).2 =
          table.replace written := by
  simp only [exec, found] at saves ⊢
  cases differs : schema.diff entity row with
  | none => exact .inl ⟨rfl, rfl⟩
  | some patch =>
      simp only [differs] at saves ⊢
      rcases updateRow_cases now patch row table with
        ⟨written, built, _, equality⟩ | ⟨error, equality⟩
      · rw [equality]
        exact .inr ⟨patch, written, rfl, built, rfl⟩
      · rw [equality] at saves
        cases saves

end Schema

end Cinema.Relational
