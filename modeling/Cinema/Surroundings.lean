import Cinema.Relational.Repository
import Cinema.Shared.Exceptions

/-!
# What a call meets outside the process

Time, and failures of the database or of the transport.
-/

namespace Cinema

open Relational Shared

/-- What the surroundings contribute to one call: the time, and a failure of
the database or of the transport. -/
structure Surroundings where
  now : Nat
  fault : Option Thrown
  transport : Option RpcFailure

/-- Nothing fails. -/
def calm (now : Nat) : Surroundings := ⟨now, none, none⟩

/-- A parameter as the driver reports it. -/
def parameterValue : Parameter → Json
  | .integer value | .smallint value => .num value
  | .numeric value => .num value
  | .text value => .str value
  | .timestamp value => .num value

/-- The error of a statement that the database has refused. -/
def queryFailed {Row Entity Patch : Type} (schema : Schema Row Entity Patch)
    (statement : SqlCall Row Entity Patch) (error : SqlError) : Thrown :=
  .queryFailed error.code
    ((statement.parameters schema).map parameterValue)

/-- The service recognises a duplicate by its SQLSTATE alone. -/
theorem isUniqueViolation_queryFailed {Row Entity Patch : Type}
    {schema : Schema Row Entity Patch} {statement : SqlCall Row Entity Patch}
    {error : SqlError} :
    IsUniqueViolation (queryFailed schema statement error) ↔
      error = .uniqueViolation := by
  constructor
  · rintro ⟨parameters, same⟩
    cases error with
    | uniqueViolation => rfl
    | _ => simp [queryFailed, SqlError.code, PG_UNIQUE_VIOLATION] at same
  · intro same
    subst same
    exact ⟨_, rfl⟩

/-- A statement fails with a driver error, or for reasons of its own. -/
def execStatement {Row Entity Patch : Type} (schema : Schema Row Entity Patch)
    (surroundings : Surroundings) (statement : SqlCall Row Entity Patch)
    (table : Table Row schema.key) :
    Except Thrown (SqlReply statement) × Table Row schema.key :=
  match surroundings.fault with
  | some thrown => (.error thrown, table)
  | none =>
      let (result, after) := schema.exec surroundings.now statement table
      (result.mapError (queryFailed schema statement), after)

section Statements

variable {Row Entity Patch : Type} {schema : Schema Row Entity Patch}
  {surroundings : Surroundings} {statement : SqlCall Row Entity Patch}
  {table : Table Row schema.key}

theorem execStatement_eq_ok {reply : SqlReply statement}
    (executed :
      (execStatement schema surroundings statement table).1 = .ok reply) :
    (schema.exec surroundings.now statement table).1 = .ok reply ∧
      (execStatement schema surroundings statement table).2 =
        (schema.exec surroundings.now statement table).2 := by
  unfold execStatement at executed ⊢
  split at executed
  · cases executed
  · cases result : (schema.exec surroundings.now statement table).1 with
    | error error => simp [result, Except.mapError] at executed
    | ok answer =>
        simp only [result, Except.mapError, Except.ok.injEq] at executed
        exact ⟨congrArg _ executed, rfl⟩

theorem execStatement_unchanged_rows
    (unchanged : ∀ reply,
      (execStatement schema surroundings statement table).1 = .ok reply →
        statement.changed reply = false) :
    (execStatement schema surroundings statement table).2.rows =
      table.rows := by
  cases fault : surroundings.fault with
  | some thrown => simp only [execStatement, fault]
  | none =>
      simp only [execStatement, fault] at unchanged ⊢
      apply schema.exec_unchanged_rows
      intro reply executed
      apply unchanged
      rw [executed]
      rfl

/-- A statement adds, changes or removes one row at most. -/
theorem execStatement_differsAt :
    ∃ id, Table.DiffersAt id table
      (execStatement schema surroundings statement table).2 := by
  cases fault : surroundings.fault with
  | some thrown =>
      simp only [execStatement, fault]
      exact ⟨0, Table.differsAt_of_rows rfl 0⟩
  | none =>
      simp only [execStatement, fault]
      exact (schema.exec_effect surroundings.now statement table).differsAt

/-- A row that a statement leaves was there before, or it has written it. -/
theorem mem_execStatement_rows {row : Row}
    (member : row ∈
      (execStatement schema surroundings statement table).2.rows) :
    row ∈ table.rows ∨ ∃ reply,
      (execStatement schema surroundings statement table).1 = .ok reply ∧
        statement.written reply = some row := by
  unfold execStatement at member ⊢
  cases fault : surroundings.fault with
  | some thrown =>
      simp only [fault] at member
      exact .inl member
  | none =>
      simp only [fault] at member ⊢
      rcases schema.mem_exec_rows member with old | ⟨reply, executed, written⟩
      · exact .inl old
      · exact .inr ⟨reply, by simp [executed, Except.mapError], written⟩

theorem mem_of_written {reply : SqlReply statement} {row : Row}
    (executed :
      (execStatement schema surroundings statement table).1 = .ok reply)
    (written : statement.written reply = some row) :
    row ∈ (execStatement schema surroundings statement table).2.rows := by
  obtain ⟨result, after⟩ := execStatement_eq_ok executed
  rw [after]
  exact schema.mem_of_written result written

/-- Only some statements leave a row under a new id. -/
theorem has_of_execStatement {id : ℤ}
    (has : (execStatement schema surroundings statement table).2.Has id) :
    table.Has id ∨ schema.Inserts table statement := by
  cases fault : surroundings.fault with
  | some thrown =>
      simp only [execStatement, fault] at has
      exact .inl has
  | none =>
      simp only [execStatement, fault] at has
      exact schema.has_of_exec has

end Statements

end Cinema
