import Cinema.Numerics.Rounding
import Mathlib.Data.Rat.Floor

/-!
# Column types

A value of a column type is one the database can hold.  Writing a parameter
into a column either yields such a value or fails with an SQLSTATE; reading
it back and writing it again yields the same value.
-/

namespace Cinema.Relational

inductive SqlError where
  | notNullViolation
  | uniqueViolation
  | checkViolation
  | stringTooLong
  | outOfRange
  | invalidText
  deriving DecidableEq, Repr

def SqlError.code : SqlError → String
  | .notNullViolation => "23502"
  | .uniqueViolation => "23505"
  | .checkViolation => "23514"
  | .stringTooLong => "22001"
  | .outOfRange => "22003"
  | .invalidText => "22021"

/-- A column declared `NOT NULL`. -/
def notNull {α β : Type} (write : α → Except SqlError β) :
    Option α → Except SqlError β
  | none => .error .notNullViolation
  | some value => write value

/-- A column that may be `NULL`. -/
def nullable {α β : Type} (write : α → Except SqlError β) :
    Option α → Except SqlError (Option β)
  | none => .ok none
  | some value => (write value).map some

theorem bind_eq_ok {ε α β : Type} {result : Except ε α} {rest : α → Except ε β}
    {value : β} :
    result >>= rest = .ok value ↔
      ∃ first, result = .ok first ∧ rest first = .ok value := by
  cases result with
  | ok first => simp [bind, Except.bind]
  | error error => simp [bind, Except.bind]

theorem bind_eq_error {ε α β : Type} {result : Except ε α}
    {rest : α → Except ε β} {error : ε} :
    result >>= rest = .error error ↔
      result = .error error ∨
        ∃ first, result = .ok first ∧ rest first = .error error := by
  cases result with
  | ok first => simp [bind, Except.bind]
  | error error => simp [bind, Except.bind]

theorem notNull_eq_ok {α β : Type} {write : α → Except SqlError β}
    {value : Option α} {stored : β} :
    notNull write value = .ok stored ↔
      ∃ given, value = some given ∧ write given = .ok stored := by
  cases value <;> simp [notNull]

theorem nullable_eq_ok {α β : Type} {write : α → Except SqlError β}
    {value : Option α} {stored : Option β} :
    nullable write value = .ok stored ↔
      (value = none ∧ stored = none) ∨
        ∃ given written, value = some given ∧ write given = .ok written ∧
          stored = some written := by
  cases value with
  | none => simp [nullable, eq_comm]
  | some given =>
      cases result : write given <;>
        simp [nullable, result, Except.map, eq_comm]

/-- A column that checks a value before it stores it. -/
theorem checked_eq_ok {β : Type} {accepted : Prop} [Decidable accepted]
    {make : accepted → β} {error : SqlError} {stored : β} :
    (if fits : accepted then .ok (make fits) else .error error :
        Except SqlError β) = .ok stored ↔
      ∃ fits, make fits = stored := by
  split
  · rename_i fits
    simp [fits]
  · rename_i refused
    simp [refused]

/-- Unless the type of a column does, the column reports no duplicate. -/
theorem notNull_ne_uniqueViolation {α β : Type} {write : α → Except SqlError β}
    (writes : ∀ value, write value ≠ .error .uniqueViolation)
    (value : Option α) : notNull write value ≠ .error .uniqueViolation := by
  cases value with
  | none => simp [notNull]
  | some value => exact writes value

theorem nullable_ne_uniqueViolation {α β : Type}
    {write : α → Except SqlError β}
    (writes : ∀ value, write value ≠ .error .uniqueViolation)
    (value : Option α) : nullable write value ≠ .error .uniqueViolation := by
  cases value with
  | none => simp [nullable]
  | some value =>
      intro failed
      cases result : write value with
      | ok stored => simp [nullable, result, Except.map] at failed
      | error error =>
          simp only [nullable, result, Except.map] at failed
          cases failed
          exact writes value result

/-! ## Integers -/

/-- Integers between two bounds, both included. -/
@[ext]
structure Ranged (lower upper : ℤ) where
  val : ℤ
  inRange : lower ≤ val ∧ val ≤ upper
  deriving DecidableEq

abbrev Integer : Type := Ranged (-2147483648) 2147483647

abbrev Smallint : Type := Ranged (-32768) 32767

namespace Ranged

variable {lower upper : ℤ}

def write (lower upper : ℤ) (value : ℤ) :
    Except SqlError (Ranged lower upper) :=
  if fits : lower ≤ value ∧ value ≤ upper then .ok ⟨value, fits⟩
  else .error .outOfRange

theorem write_eq_ok {value : ℤ} {stored : Ranged lower upper} :
    write lower upper value = .ok stored ↔ stored.val = value := by
  unfold write
  rw [checked_eq_ok]
  constructor
  · intro ⟨_, same⟩
    subst same
    rfl
  · intro same
    subst same
    exact ⟨stored.inRange, rfl⟩

theorem write_ne_uniqueViolation (value : ℤ) :
    write lower upper value ≠ .error .uniqueViolation := by
  unfold write
  split <;> simp

@[simp] theorem write_val (stored : Ranged lower upper) :
    write lower upper stored.val = .ok stored := write_eq_ok.mpr rfl

end Ranged

/-! ## Text -/

/-- Text without the NUL character, which PostgreSQL cannot store. -/
@[ext]
structure Text where
  val : String
  clean : '\x00' ∉ val.toList
  deriving DecidableEq

/-- `character varying(limit)`. -/
@[ext]
structure Varchar (limit : Nat) where
  val : String
  clean : '\x00' ∉ val.toList
  short : val.length ≤ limit
  deriving DecidableEq

namespace Text

def write (value : String) : Except SqlError Text :=
  if clean : '\x00' ∉ value.toList then .ok ⟨value, clean⟩
  else .error .invalidText

theorem write_eq_ok {value : String} {stored : Text} :
    write value = .ok stored ↔ stored.val = value := by
  unfold write
  rw [checked_eq_ok]
  constructor
  · intro ⟨_, same⟩
    subst same
    rfl
  · intro same
    subst same
    exact ⟨stored.clean, rfl⟩

theorem write_ne_uniqueViolation (value : String) :
    write value ≠ .error .uniqueViolation := by
  unfold write
  split <;> simp

@[simp] theorem write_val (stored : Text) : write stored.val = .ok stored :=
  write_eq_ok.mpr rfl

end Text

namespace Varchar

variable {limit : Nat}

def write (limit : Nat) (value : String) : Except SqlError (Varchar limit) :=
  if clean : '\x00' ∉ value.toList then
    if short : value.length ≤ limit then .ok ⟨value, clean, short⟩
    else .error .stringTooLong
  else .error .invalidText

theorem write_eq_ok {value : String} {stored : Varchar limit} :
    write limit value = .ok stored ↔ stored.val = value := by
  unfold write
  split
  · rw [checked_eq_ok]
    constructor
    · intro ⟨_, same⟩
      subst same
      rfl
    · intro same
      subst same
      exact ⟨stored.short, rfl⟩
  · rename_i unclean
    constructor
    · intro equality
      cases equality
    · intro same
      subst same
      exact absurd stored.clean unclean

theorem write_ne_uniqueViolation (value : String) :
    write limit value ≠ .error .uniqueViolation := by
  unfold write
  split
  · split <;> simp
  · simp

@[simp] theorem write_val (stored : Varchar limit) :
    write limit stored.val = .ok stored := write_eq_ok.mpr rfl

end Varchar

/-! ## Decimals -/

/-- `numeric(precision, scale)`, held as an integer number of units of
`10 ^ -scale`. -/
@[ext]
structure Numeric (precision scale : Nat) where
  units : ℤ
  inRange : |units| < 10 ^ precision
  deriving DecidableEq

namespace Numeric

variable {precision scale : Nat}

def read (stored : Numeric precision scale) : ℚ :=
  stored.units / 10 ^ scale

/-- Rounding of `numeric` values: to the nearest integer, ties away from
zero. -/
def round (value : ℚ) : ℤ :=
  if 0 ≤ value then ⌊value + 1 / 2⌋ else -⌊-value + 1 / 2⌋

def write (precision scale : Nat) (value : ℚ) :
    Except SqlError (Numeric precision scale) :=
  let units := round (value * 10 ^ scale)
  if fits : |units| < 10 ^ precision then .ok ⟨units, fits⟩
  else .error .outOfRange

theorem floor_half (units : ℤ) : ⌊(units : ℚ) + 1 / 2⌋ = units := by
  rw [Int.floor_eq_iff]
  constructor <;> norm_num

@[simp] theorem round_intCast (units : ℤ) : round (units : ℚ) = units := by
  unfold round
  split
  · exact floor_half units
  · have negated : (-(units : ℚ)) = ((-units : ℤ) : ℚ) := by push_cast; rfl
    rw [negated, floor_half, Int.neg_neg]

/-- A value that is closer than one half to an integer. -/
theorem round_eq {value : ℚ} {nearest : ℤ}
    (near : |value - nearest| < 1 / 2) : round value = nearest := by
  unfold round
  split
  · exact Numerics.floor_add_half_eq near
  · have mirrored : |-value - ((-nearest : ℤ) : ℚ)| < 1 / 2 := by
      rw [← abs_neg]
      push_cast
      rwa [neg_sub, sub_neg_eq_add, neg_add_eq_sub]
    rw [Numerics.floor_add_half_eq mirrored, Int.neg_neg]

/-- A value close enough to a number of units is stored as that number. -/
theorem write_of_near {value : ℚ} {units : ℤ}
    (near : |value * 10 ^ scale - units| < 1 / 2)
    (fits : |units| < 10 ^ precision) :
    ∃ stored : Numeric precision scale,
      write precision scale value = .ok stored ∧ stored.units = units := by
  have rounded := round_eq near
  have inRange : |round (value * 10 ^ scale)| < 10 ^ precision := by
    rwa [rounded]
  exact ⟨⟨_, inRange⟩, by simp only [write, dif_pos inRange], rounded⟩

theorem write_eq_ok {value : ℚ} {stored : Numeric precision scale} :
    write precision scale value = .ok stored ↔
      stored.units = round (value * 10 ^ scale) := by
  simp only [write]
  rw [checked_eq_ok]
  constructor
  · intro ⟨_, same⟩
    subst same
    rfl
  · intro equality
    rw [← equality]
    exact ⟨stored.inRange, rfl⟩

theorem write_ne_uniqueViolation (value : ℚ) :
    write precision scale value ≠ .error .uniqueViolation := by
  simp only [write]
  split <;> simp

theorem read_mul_scale (stored : Numeric precision scale) :
    stored.read * 10 ^ scale = (stored.units : ℚ) := by
  unfold read
  exact div_mul_cancel₀ _ (pow_ne_zero _ (by norm_num))

@[simp] theorem write_read (stored : Numeric precision scale) :
    write precision scale stored.read = .ok stored := by
  unfold write
  simp only [read_mul_scale, round_intCast]
  rw [dif_pos stored.inRange]

/-- A value with at most `scale` decimals is stored exactly. -/
theorem read_of_write {value : ℚ} {stored : Numeric precision scale}
    (exact : (value * 10 ^ scale).den = 1)
    (written : write precision scale value = .ok stored) :
    stored.read = value := by
  simp only [write] at written
  split at written
  · cases written
    have integral : ((value * 10 ^ scale).num : ℚ) = value * 10 ^ scale :=
      Rat.coe_int_num_of_den_eq_one exact
    have rounded : (round (value * 10 ^ scale) : ℚ) = value * 10 ^ scale := by
      rw [← integral, round_intCast]
    change (round (value * 10 ^ scale) : ℚ) / 10 ^ scale = value
    rw [rounded]
    exact mul_div_cancel_right₀ value (pow_ne_zero _ (by norm_num))
  · cases written

end Numeric

end Cinema.Relational
