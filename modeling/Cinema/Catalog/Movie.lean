import Cinema.Relational.Repository
import Cinema.Shared.Dtos

/-!
# Movies

The row of the `movies` table with its constraints, the entity in memory, and
the mapping between them.
-/

namespace Cinema.Catalog

open Cinema.Relational Cinema.Shared

/-- A row that satisfies the constraints of its columns and of the table. -/
@[ext]
structure MovieRow where
  id : Integer
  title : Varchar 255
  description : Option Text
  releaseYear : Smallint
  durationMinutes : Smallint
  ticketPrice : Numeric 10 2
  createdAt : Nat
  updatedAt : Nat
  /-- `CHK_movies_duration` -/
  durationPositive : 0 < durationMinutes.val
  /-- `CHK_movies_ticket_price` -/
  priceNonneg : 0 ≤ ticketPrice.units

instance : DecidableEq MovieRow := fun _ _ =>
  decidable_of_iff' _ MovieRow.ext_iff

/-- The entity: `none` is `null`, or `undefined` before the first save. -/
structure Movie where
  id : Option ℤ
  title : Option String
  description : Option String
  releaseYear : Option ℤ
  durationMinutes : Option ℤ
  ticketPrice : Option ℚ
  createdAt : Option Nat
  updatedAt : Option Nat
  deriving DecidableEq

/-- The columns a request can set. -/
inductive MovieField where
  | title
  | description
  | releaseYear
  | durationMinutes
  | ticketPrice
  deriving DecidableEq

/-- The type in which a request gives a column. -/
abbrev MovieField.Value : MovieField → Type
  | .title => String
  | .description => String
  | .releaseYear => ℤ
  | .durationMinutes => ℤ
  | .ticketPrice => ℚ

instance : (field : MovieField) → DecidableEq field.Value
  | .title => inferInstanceAs (DecidableEq String)
  | .description => inferInstanceAs (DecidableEq String)
  | .releaseYear => inferInstanceAs (DecidableEq ℤ)
  | .durationMinutes => inferInstanceAs (DecidableEq ℤ)
  | .ticketPrice => inferInstanceAs (DecidableEq ℚ)

def Movie.get (movie : Movie) : (field : MovieField) → Option field.Value
  | .title => movie.title
  | .description => movie.description
  | .releaseYear => movie.releaseYear
  | .durationMinutes => movie.durationMinutes
  | .ticketPrice => movie.ticketPrice

/-- What a partial update says about a column. -/
def changesGet {validator : Validator} (changes : UpdateMovieDto validator) :
    (field : MovieField) → Supplied field.Value
  | .title => changes.title
  | .description => changes.description
  | .releaseYear => changes.releaseYear
  | .durationMinutes => changes.durationMinutes
  | .ticketPrice => changes.ticketPrice

/-- Assign a property unless it is `undefined`. -/
def assigned {α : Type} (supplied : Supplied α) (current : Option α) :
    Option α :=
  match supplied with
  | .undefined => current
  | .null => none
  | .value value => some value

theorem assigned_eq {α : Type} (supplied : Supplied α) (current : Option α) :
    assigned supplied current = supplied.given.getD current := by
  cases supplied <;> rfl

theorem eq_value_of_assigned {α : Type} {supplied : Supplied α} {value : α}
    (assigns : assigned supplied none = some value) :
    supplied = .value value := by
  cases supplied with
  | undefined => cases assigns
  | null => cases assigns
  | value given =>
      cases assigns
      rfl

namespace Movie

variable {validator : Validator}

/-- `movies.create(dto)` -/
def create (dto : CreateMovieDto validator) : Movie where
  id := none
  title := some dto.title
  description := assigned dto.description none
  releaseYear := some dto.releaseYear
  durationMinutes := some dto.durationMinutes
  ticketPrice := some dto.ticketPrice
  createdAt := none
  updatedAt := none

/-- `movies.merge(movie, changes)` copies every property that is not
`undefined`. -/
def merge (movie : Movie) (changes : UpdateMovieDto validator) : Movie :=
  { movie with
    title := assigned changes.title movie.title
    description := assigned changes.description movie.description
    releaseYear := assigned changes.releaseYear movie.releaseYear
    durationMinutes := assigned changes.durationMinutes movie.durationMinutes
    ticketPrice := assigned changes.ticketPrice movie.ticketPrice }

theorem merge_get (movie : Movie) (changes : UpdateMovieDto validator)
    (field : MovieField) :
    (movie.merge changes).get field =
      assigned (changesGet changes field) (movie.get field) := by
  cases field <;> rfl

end Movie

/-! ## The mapping -/

/-- The columns an update writes; `none` leaves a column out. -/
structure MoviePatch where
  title : Option (Option String)
  description : Option (Option String)
  releaseYear : Option (Option ℤ)
  durationMinutes : Option (Option ℤ)
  ticketPrice : Option (Option ℚ)
  createdAt : Option (Option Nat)
  updatedAt : Option (Option Nat)
  deriving DecidableEq

def MoviePatch.none : MoviePatch :=
  ⟨.none, .none, .none, .none, .none, .none, .none⟩

def MoviePatch.get (patch : MoviePatch) :
    (field : MovieField) → Option (Option field.Value)
  | .title => patch.title
  | .description => patch.description
  | .releaseYear => patch.releaseYear
  | .durationMinutes => patch.durationMinutes
  | .ticketPrice => patch.ticketPrice

/-- The value to write if an entity differs from its row in a column. -/
def changed {α : Type} [DecidableEq α] (entity row : Option α) :
    Option (Option α) :=
  if entity = row then none else some entity

theorem changed_getD {α : Type} [DecidableEq α] (entity row : Option α) :
    (changed entity row).getD row = entity := by
  unfold changed
  split
  · rename_i same
    exact same.symm
  · rfl

namespace MovieRow

/-- The entity that is made of a row. -/
def hydrate (row : MovieRow) : Movie where
  id := some row.id.val
  title := some row.title.val
  description := row.description.map Text.val
  releaseYear := some row.releaseYear.val
  durationMinutes := some row.durationMinutes.val
  ticketPrice := some row.ticketPrice.read
  createdAt := some row.createdAt
  updatedAt := some row.updatedAt

/-- What `save` finds to write: every column in which the entity differs, `null`
included. -/
def diff (movie : Movie) (row : MovieRow) : Option MoviePatch :=
  let patch : MoviePatch := {
    title := changed movie.title row.hydrate.title
    description := changed movie.description row.hydrate.description
    releaseYear := changed movie.releaseYear row.hydrate.releaseYear
    durationMinutes := changed movie.durationMinutes row.hydrate.durationMinutes
    ticketPrice := changed movie.ticketPrice row.hydrate.ticketPrice
    createdAt := changed movie.createdAt row.hydrate.createdAt
    updatedAt := changed movie.updatedAt row.hydrate.updatedAt }
  if patch = MoviePatch.none then none else some patch

/-- The row with an update over it; `updatedAt` is set anew unless it is given. -/
def overlay (patch : MoviePatch) (row : MovieRow) : Movie where
  id := some row.id.val
  title := patch.title.getD row.hydrate.title
  description := patch.description.getD row.hydrate.description
  releaseYear := patch.releaseYear.getD row.hydrate.releaseYear
  durationMinutes := patch.durationMinutes.getD row.hydrate.durationMinutes
  ticketPrice := patch.ticketPrice.getD row.hydrate.ticketPrice
  createdAt := patch.createdAt.getD row.hydrate.createdAt
  updatedAt := patch.updatedAt.getD none

/-- The columns are checked before the table's own constraints. -/
def build (movie : Movie) (id : ℤ) (now : Nat) : Except SqlError MovieRow := do
  let id ← Ranged.write _ _ id
  let title ← notNull (Varchar.write 255) movie.title
  let description ← nullable Text.write movie.description
  let releaseYear ← notNull (Ranged.write _ _) movie.releaseYear
  let durationMinutes ← notNull (Ranged.write _ _) movie.durationMinutes
  let ticketPrice ← notNull (Numeric.write 10 2) movie.ticketPrice
  if durationPositive : 0 < durationMinutes.val then
    if priceNonneg : 0 ≤ ticketPrice.units then
      return { id, title, description, releaseYear, durationMinutes,
               ticketPrice, createdAt := movie.createdAt.getD now,
               updatedAt := movie.updatedAt.getD now, durationPositive,
               priceNonneg }
    else throw .checkViolation
  else throw .checkViolation

/-- What the database accepts, column by column. -/
theorem build_eq_ok {movie : Movie} {id : ℤ} {now : Nat} {row : MovieRow}
    (built : build movie id now = .ok row) :
    row.id.val = id ∧ movie.title = some row.title.val ∧
      movie.description = row.description.map Text.val ∧
      movie.releaseYear = some row.releaseYear.val ∧
      movie.durationMinutes = some row.durationMinutes.val ∧
      (∃ price, movie.ticketPrice = some price ∧
        Numeric.write 10 2 price = .ok row.ticketPrice) ∧
      row.createdAt = movie.createdAt.getD now ∧
      row.updatedAt = movie.updatedAt.getD now := by
  unfold build at built
  obtain ⟨id, idWritten, built⟩ := bind_eq_ok.mp built
  obtain ⟨title, titleWritten, built⟩ := bind_eq_ok.mp built
  obtain ⟨description, descriptionWritten, built⟩ := bind_eq_ok.mp built
  obtain ⟨releaseYear, yearWritten, built⟩ := bind_eq_ok.mp built
  obtain ⟨durationMinutes, durationWritten, built⟩ := bind_eq_ok.mp built
  obtain ⟨ticketPrice, priceWritten, built⟩ := bind_eq_ok.mp built
  obtain ⟨titleGiven, hasTitle, titleWritten⟩ := notNull_eq_ok.mp titleWritten
  obtain ⟨yearGiven, hasYear, yearWritten⟩ := notNull_eq_ok.mp yearWritten
  obtain ⟨durationGiven, hasDuration, durationWritten⟩ :=
    notNull_eq_ok.mp durationWritten
  have descriptionValue : movie.description =
      description.map Text.val := by
    rcases nullable_eq_ok.mp descriptionWritten with
      ⟨isNull, rfl⟩ | ⟨given, stored, isGiven, stores, rfl⟩
    · exact isNull
    · rw [isGiven, Option.map_some, Text.write_eq_ok.mp stores]
  split at built
  · split at built
    · cases built
      exact ⟨Ranged.write_eq_ok.mp idWritten, by rw [hasTitle, Varchar.write_eq_ok.mp titleWritten],
        descriptionValue,
        by rw [hasYear, Ranged.write_eq_ok.mp yearWritten],
        by rw [hasDuration, Ranged.write_eq_ok.mp durationWritten],
        notNull_eq_ok.mp priceWritten, rfl, rfl⟩
    · cases built
  · cases built

/-- A single row is never refused as a duplicate. -/
theorem build_ne_uniqueViolation (movie : Movie) (id : ℤ) (now : Nat) :
    build movie id now ≠ .error .uniqueViolation := by
  intro failed
  unfold build at failed
  rcases bind_eq_error.mp failed with idFails | ⟨id, _, failed⟩
  · exact Ranged.write_ne_uniqueViolation _ idFails
  rcases bind_eq_error.mp failed with titleFails | ⟨title, _, failed⟩
  · exact notNull_ne_uniqueViolation Varchar.write_ne_uniqueViolation _
      titleFails
  rcases bind_eq_error.mp failed with textFails | ⟨description, _, failed⟩
  · exact nullable_ne_uniqueViolation Text.write_ne_uniqueViolation _ textFails
  rcases bind_eq_error.mp failed with yearFails | ⟨releaseYear, _, failed⟩
  · exact notNull_ne_uniqueViolation Ranged.write_ne_uniqueViolation _
      yearFails
  rcases bind_eq_error.mp failed with minutesFail | ⟨minutes, _, failed⟩
  · exact notNull_ne_uniqueViolation Ranged.write_ne_uniqueViolation _
      minutesFail
  rcases bind_eq_error.mp failed with priceFails | ⟨ticketPrice, _, failed⟩
  · exact notNull_ne_uniqueViolation Numeric.write_ne_uniqueViolation _
      priceFails
  split at failed
  · split at failed <;> cases failed
  · cases failed

/-- A row is accepted again as it is. -/
theorem build_hydrate (row : MovieRow) (now : Nat) :
    build row.hydrate row.id.val now = .ok row := by
  have description : nullable Text.write (row.description.map Text.val) =
      .ok row.description := by
    cases row.description with
    | none => rfl
    | some text => simp [nullable, Except.map]
  simp [build, hydrate, notNull, description, row.durationPositive,
    row.priceNonneg, bind, Except.bind, pure, Except.pure]

/-- A row holds what was written, if the price has at most two decimals. -/
theorem get_build {movie : Movie} {id : ℤ} {now : Nat} {row : MovieRow}
    (built : build movie id now = .ok row)
    (cents : ∀ price, movie.ticketPrice = some price →
      (price * 10 ^ 2).den = 1) (field : MovieField) :
    row.hydrate.get field = movie.get field := by
  obtain ⟨_, title, description, releaseYear, durationMinutes,
    ⟨price, isPrice, written⟩, _, _⟩ := build_eq_ok built
  cases field with
  | title => exact title.symm
  | description => exact description.symm
  | releaseYear => exact releaseYear.symm
  | durationMinutes => exact durationMinutes.symm
  | ticketPrice =>
      have stored : row.ticketPrice.read = price :=
        Numeric.read_of_write (cents price isPrice) written
      calc some row.ticketPrice.read = some price := congrArg some stored
        _ = movie.ticketPrice := isPrice.symm

theorem overlay_get (patch : MoviePatch) (row : MovieRow)
    (field : MovieField) :
    (overlay patch row).get field =
      (patch.get field).getD (row.hydrate.get field) := by
  cases field <;> rfl

theorem diff_get {movie : Movie} {row : MovieRow} {patch : MoviePatch}
    (differs : diff movie row = some patch) (field : MovieField) :
    patch.get field = changed (movie.get field) (row.hydrate.get field) := by
  simp only [diff] at differs
  split at differs
  · cases differs
  · cases differs
    cases field <;> rfl

theorem overlay_diff {movie : Movie} {row : MovieRow} {patch : MoviePatch}
    (differs : diff movie row = some patch) (field : MovieField) :
    (overlay patch row).get field = movie.get field := by
  rw [overlay_get, diff_get differs]
  exact changed_getD _ _

/-- Columns in which the entity does not differ are left alone. -/
theorem diff_eq_none {movie : Movie} {row : MovieRow}
    (same : diff movie row = none) (field : MovieField) :
    row.hydrate.get field = movie.get field := by
  simp only [diff] at same
  split at same
  · rename_i nothing
    have unchanged : ∀ {α : Type} [DecidableEq α] {entity stored : Option α},
        changed entity stored = none → stored = entity := by
      intro α _ entity stored noChange
      have value := changed_getD entity stored
      rwa [noChange] at value
    cases field
    · exact unchanged (congrArg MoviePatch.title nothing)
    · exact unchanged (congrArg MoviePatch.description nothing)
    · exact unchanged (congrArg MoviePatch.releaseYear nothing)
    · exact unchanged (congrArg MoviePatch.durationMinutes nothing)
    · exact unchanged (congrArg MoviePatch.ticketPrice nothing)
  · cases same

/-- `UQ_movies_title_release_year` -/
def conflicts (left right : MovieRow) : Bool :=
  left.title = right.title && left.releaseYear = right.releaseYear

/-- The generated columns that a write returns. -/
def refresh (movie : Movie) (row : MovieRow) : Movie :=
  { movie with
    id := some row.id.val
    createdAt := some (movie.createdAt.getD row.createdAt)
    updatedAt := some row.updatedAt }

/-- The values an insertion binds. -/
def parameters (movie : Movie) : List Parameter :=
  [movie.title.map .text, movie.description.map .text,
    movie.releaseYear.map .smallint, movie.durationMinutes.map .smallint,
    movie.ticketPrice.map .numeric, movie.createdAt.map .timestamp,
    movie.updatedAt.map .timestamp].reduceOption

/-- The values an update binds. -/
def patchParameters (patch : MoviePatch) : List Parameter :=
  [patch.title.join.map .text, patch.description.join.map .text,
    patch.releaseYear.join.map .smallint,
    patch.durationMinutes.join.map .smallint,
    patch.ticketPrice.join.map .numeric, patch.createdAt.join.map .timestamp,
    patch.updatedAt.join.map .timestamp].reduceOption

end MovieRow

/-- `movie.entity.ts` -/
def movieSchema : Schema MovieRow Movie MoviePatch where
  key row := row.id.val
  conflicts := MovieRow.conflicts
  idOf := Movie.id
  hydrate := MovieRow.hydrate
  refresh := MovieRow.refresh
  diff := MovieRow.diff
  overlay := MovieRow.overlay
  build := MovieRow.build
  key_build built := (MovieRow.build_eq_ok built).1
  parameters := MovieRow.parameters
  patchParameters := MovieRow.patchParameters

end Cinema.Catalog
