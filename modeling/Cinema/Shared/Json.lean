import Mathlib.Data.Int.Log
import Mathlib.Data.Rat.Floor

/-!
# JSON values

What travels between the processes.  A number is the rational denoted by the
decimal text it is printed as; strings are sequences of Unicode scalar values.
-/

namespace Cinema.Shared

inductive Json where
  | null
  | bool (value : Bool)
  | num (value : ℚ)
  | str (value : String)
  | arr (items : List Json)
  | obj (fields : List (String × Json))

/-- The own enumerable properties of an object. -/
abbrev Fields : Type := List (String × Json)

namespace Fields

/-- `fields[name]`, `none` standing for `undefined`. -/
def get (fields : Fields) (name : String) : Option Json :=
  (fields.find? fun field => field.1 = name).map Prod.snd

/-- `{ ...fields, [name]: value }`. -/
def override (fields : Fields) (name : String) (value : Json) : Fields :=
  fields.filter (fun field => field.1 ≠ name) ++ [(name, value)]

theorem get_override (fields : Fields) (name : String) (value : Json) :
    (fields.override name value).get name = some value := by
  have absent : (fields.filter fun field => field.1 ≠ name).find?
      (fun field => decide (field.1 = name)) = none := by
    simp [List.find?_eq_none]
  simp only [override, get, List.find?_append, absent]
  simp

theorem get_override_of_ne (fields : Fields) {name other : String}
    (value : Json) (different : other ≠ name) :
    (fields.override name value).get other = fields.get other := by
  have kept : (fields.filter fun field => field.1 ≠ name).find?
      (fun field => decide (field.1 = other)) =
      fields.find? (fun field => decide (field.1 = other)) := by
    rw [List.find?_filter]
    congr 1
    funext field
    by_cases same : field.1 = other
    · simp [same, different]
    · simp [same]
  simp only [override, get, List.find?_append, kept]
  have reverse : name ≠ other := Ne.symm different
  simp [reverse]

end Fields

namespace Json

/-- A number that is printed with an exponent and without a point, as `1e-7`
is: it is not zero, smaller than a millionth and has one significant digit. -/
def bareExponent (value : ℚ) : Bool :=
  value ≠ 0 && |value| < 1 / 1000000 &&
    (|value| * 10 ^ (-Int.log 10 |value|)).den = 1

example : bareExponent (1 / 10 ^ 7) = true := by decide +kernel

example : bareExponent (15 / 10 ^ 8) = false := by decide +kernel

/-- The properties of a value seen as an object; an array has its indices. -/
def ownFields : Json → Fields
  | .obj fields => fields
  | .arr items => items.mapIdx fun index item => (toString index, item)
  | _ => []

def get (value : Json) (name : String) : Option Json :=
  value.ownFields.get name

/-- `value ?? fallback`. -/
def coalesce (value : Option Json) (fallback : Json) : Json :=
  match value with
  | none => fallback
  | some .null => fallback
  | some value => value

def isNullish : Option Json → Bool
  | none => true
  | some .null => true
  | some _ => false

/-- The integer a validated property holds. -/
def toInt : Option Json → ℤ
  | some (.num value) => value.num
  | _ => 0

def toNumber : Option Json → ℚ
  | some (.num value) => value
  | _ => 0

def toText : Option Json → String
  | some (.str value) => value
  | _ => ""

end Json

end Cinema.Shared
