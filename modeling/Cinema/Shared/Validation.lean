import Cinema.Shared.Exceptions

/-!
# Validation of payloads

The decorators of the DTO classes as data, and the validation pipe that every
application installs (`whitelist`, `forbidNonWhitelisted`, `transform`).
-/

namespace Cinema.Shared

/-- The characters of a text but for the variation selectors, which choose how
the character before them is shown. -/
def shownCharacters (text : String) : Nat :=
  text.toList.countP fun c => c ≠ '\uFE0E' ∧ c ≠ '\uFE0F'

/-- The string checks of the validation library: its e-mail syntax, and the
length its bounds are compared with.  The length counts code points, a
surrogate pair once; variation selectors are left out, some or all of them
depending on the release. -/
structure Validator where
  isEmail : String → Bool
  length : String → Nat
  counts : ∀ text,
    shownCharacters text ≤ length text ∧ length text ≤ text.length

theorem Validator.length_le (validator : Validator) (text : String) :
    validator.length text ≤ text.length := (validator.counts text).2

/-- A simple validator, for examples. -/
def Validator.plain : Validator where
  isEmail text := text.toList.contains '@'
  length := String.length
  counts _ := ⟨List.countP_le_length, le_rfl⟩

inductive Rule where
  | isDefined
  | isInt
  | isPositive
  | isNumber (maxDecimalPlaces : Nat)
  | min (bound : ℤ)
  | max (bound : ℤ)
  | isString
  | isNotEmpty
  | minLength (bound : Nat)
  | maxLength (bound : Nat)
  | isEmail
  deriving DecidableEq

namespace Rule

/-- The number check splits the printed number at its point and throws where
there is none to be found. -/
def throws : Rule → Option Json → Bool
  | .isNumber _, some (.num value) => Json.bareExponent value
  | _, _ => false

/-- Whether a rule accepts a value; one that throws does not. -/
def check (validator : Validator) : Rule → Option Json → Bool
  | .isDefined, value => !Json.isNullish value
  | .isInt, some (.num value) => value.den = 1
  | .isPositive, some (.num value) => 0 < value
  | .isNumber places, some (.num value) =>
      (value * 10 ^ places).den = 1 ∧ ¬ Json.bareExponent value
  | .min bound, some (.num value) => bound ≤ value
  | .max bound, some (.num value) => value ≤ bound
  | .isString, some (.str _) => true
  | .isNotEmpty, value =>
      match value with
      | none => false
      | some .null => false
      | some (.str text) => text ≠ ""
      | some _ => true
  | .minLength bound, some (.str text) => bound ≤ validator.length text
  | .maxLength bound, some (.str text) => validator.length text ≤ bound
  | .isEmail, some (.str text) => validator.isEmail text
  | _, _ => false

/-- What is reported for a property that breaks the rule. -/
def message (property : String) : Rule → String
  | .isDefined => s!"{property} should not be null or undefined"
  | .isInt => s!"{property} must be an integer number"
  | .isPositive => s!"{property} must be a positive number"
  | .isNumber _ =>
      s!"{property} must be a number conforming to the specified constraints"
  | .min bound => s!"{property} must not be less than {bound}"
  | .max bound => s!"{property} must not be greater than {bound}"
  | .isString => s!"{property} must be a string"
  | .isNotEmpty => s!"{property} should not be empty"
  | .minLength bound =>
      s!"{property} must be longer than or equal to {bound} characters"
  | .maxLength bound =>
      s!"{property} must be shorter than or equal to {bound} characters"
  | .isEmail => s!"{property} must be an email"

section Check

variable {validator : Validator} {value : Option Json}

theorem check_isInt :
    Rule.isInt.check validator value = true ↔
      ∃ number : ℤ, value = some (.num number) := by
  constructor
  · intro checked
    match value with
    | some (.num rational) =>
        have integral : rational.den = 1 := by simpa [check] using checked
        exact ⟨rational.num, by rw [Rat.coe_int_num_of_den_eq_one integral]⟩
    | none | some .null | some (.bool _) | some (.str _) | some (.arr _)
    | some (.obj _) => simp [check] at checked
  · rintro ⟨number, rfl⟩
    simp [check]

theorem check_isNumber {places : Nat} :
    (Rule.isNumber places).check validator value = true ↔
      ∃ number : ℚ, value = some (.num number) ∧
        (number * 10 ^ places).den = 1 ∧ ¬ Json.bareExponent number := by
  constructor
  · intro checked
    match value with
    | some (.num rational) =>
        exact ⟨rational, rfl, by simpa only [check, decide_eq_true_eq]
          using checked⟩
    | none | some .null | some (.bool _) | some (.str _) | some (.arr _)
    | some (.obj _) => simp [check] at checked
  · rintro ⟨number, rfl, exact⟩
    simpa only [check, decide_eq_true_eq] using exact

theorem check_of_throws {rule : Rule} (thrown : rule.throws value = true) :
    rule.check validator value = false := by
  unfold throws at thrown
  split at thrown
  · simp [check, thrown]
  · cases thrown

theorem check_isString :
    Rule.isString.check validator value = true ↔
      ∃ text, value = some (.str text) := by
  constructor
  · intro checked
    match value with
    | some (.str text) => exact ⟨text, rfl⟩
    | none | some .null | some (.bool _) | some (.num _) | some (.arr _)
    | some (.obj _) => simp [check] at checked
  · rintro ⟨text, rfl⟩
    rfl

theorem check_isEmail :
    Rule.isEmail.check validator value = true ↔
      ∃ text, value = some (.str text) ∧ validator.isEmail text = true := by
  constructor
  · intro checked
    match value with
    | some (.str text) => exact ⟨text, rfl, checked⟩
    | none | some .null | some (.bool _) | some (.num _) | some (.arr _)
    | some (.obj _) => simp [check] at checked
  · rintro ⟨text, rfl, valid⟩
    exact valid

@[simp] theorem check_isPositive_num {number : ℚ} :
    Rule.isPositive.check validator (some (.num number)) = true ↔
      0 < number :=
  decide_eq_true_iff

@[simp] theorem check_min_num {bound : ℤ} {number : ℚ} :
    (Rule.min bound).check validator (some (.num number)) = true ↔
      (bound : ℚ) ≤ number :=
  decide_eq_true_iff

@[simp] theorem check_max_num {bound : ℤ} {number : ℚ} :
    (Rule.max bound).check validator (some (.num number)) = true ↔
      number ≤ bound :=
  decide_eq_true_iff

@[simp] theorem check_isNotEmpty_str {text : String} :
    Rule.isNotEmpty.check validator (some (.str text)) = true ↔
      text ≠ "" :=
  decide_eq_true_iff

@[simp] theorem check_minLength_str {bound : Nat} {text : String} :
    (Rule.minLength bound).check validator (some (.str text)) = true ↔
      bound ≤ validator.length text :=
  decide_eq_true_iff

@[simp] theorem check_maxLength_str {bound : Nat} {text : String} :
    (Rule.maxLength bound).check validator (some (.str text)) = true ↔
      validator.length text ≤ bound :=
  decide_eq_true_iff

end Check

end Rule

/-- Without a nested class there is nothing to hear of. -/
theorem heard_of_plain : ∀ (_ : Validator) (_ : Json), false = true →
    ([] : List String) ≠ [] := by
  intro _ _ never
  cases never

/-- One decorated property of a DTO class; `rules` are in source order.
`nested` gives the messages of `@ValidateNested`, and `nestedThrows` says
whether a rule of the nested class throws. -/
structure Property where
  name : String
  transform : Json → Json := id
  optional : Bool := false
  rules : List Rule
  nested : Validator → Json → List String := fun _ _ => []
  nestedThrows : Json → Bool := fun _ => false
  nestedHeard : ∀ validator value, nestedThrows value = true →
    nested validator value ≠ [] := by exact heard_of_plain

namespace Property

/-- A rule throws that is evaluated for the value. -/
def throws (property : Property) (value : Option Json) : Bool :=
  !(property.optional && Json.isNullish value) &&
    (property.rules.any (fun rule => rule.throws value) ||
      value.elim false property.nestedThrows)

/-- The messages of the rules a value breaks.  Decorators are evaluated
bottom-up, so the last one reports first. -/
def violations (validator : Validator) (property : Property)
    (value : Option Json) : List String :=
  if property.optional && Json.isNullish value then []
  else
    (property.rules.filter fun rule => !rule.check validator value).reverse.map
      (Rule.message property.name) ++
    value.elim [] (property.nested validator)

theorem violations_eq_nil {validator : Validator} {property : Property}
    {value : Option Json} :
    property.violations validator value = [] ↔
      (property.optional = true ∧ Json.isNullish value = true) ∨
        (∀ rule ∈ property.rules, rule.check validator value = true) ∧
          value.elim [] (property.nested validator) = [] := by
  unfold violations
  by_cases skipped : (property.optional && Json.isNullish value) = true
  · simp [Bool.and_eq_true_iff.mp skipped]
  · rw [if_neg skipped]
    rw [Bool.and_eq_true_iff] at skipped
    simp [skipped]

/-- Only a number check throws. -/
theorem throws_of_rules {property : Property}
    (noNumber : ∀ places, Rule.isNumber places ∉ property.rules)
    (plain : property.nestedThrows = fun _ => false) (value : Option Json) :
    property.throws value = false := by
  have quiet : ∀ rule ∈ property.rules, rule.throws value = false := by
    intro rule listed
    cases rule with
    | isNumber places => exact absurd listed (noNumber places)
    | _ => rfl
  have inner : value.elim false property.nestedThrows = false := by
    rw [plain]
    cases value <;> rfl
  have own : property.rules.any (fun rule => rule.throws value) = false :=
    List.any_eq_false.mpr fun rule listed => by simp [quiet rule listed]
  rw [throws, own, inner, Bool.or_false, Bool.and_false]

/-- A property that throws is not silent. -/
theorem violations_of_throws {validator : Validator} {property : Property}
    {value : Option Json} (thrown : property.throws value = true) :
    property.violations validator value ≠ [] := by
  obtain ⟨evaluated, reason⟩ := Bool.and_eq_true_iff.mp thrown
  intro silent
  rcases violations_eq_nil.mp silent with ⟨optional, nullish⟩ | ⟨rules, nested⟩
  · simp [optional, nullish] at evaluated
  · rcases Bool.or_eq_true_iff.mp reason with own | inner
    · obtain ⟨rule, listed, throws⟩ := List.any_eq_true.mp own
      have broken : rule.check validator value = false :=
        Rule.check_of_throws throws
      rw [rules rule listed] at broken
      cases broken
    · cases value with
      | none => cases inner
      | some value => exact property.nestedHeard validator value inner nested

theorem throws_of_silent {validator : Validator} {property : Property}
    {value : Option Json} (silent : property.violations validator value = []) :
    property.throws value = false :=
  Bool.eq_false_iff.mpr fun thrown => violations_of_throws thrown silent

end Property

/-! ## The pipe -/

/-- The keys that the transformation to a class instance drops: the prototype
and the names of inherited methods. -/
def inheritedKeys : List String :=
  ["__proto__", "prototype", "constructor", "hasOwnProperty", "isPrototypeOf",
    "propertyIsEnumerable", "toLocaleString", "toString", "valueOf",
    "__defineGetter__", "__defineSetter__", "__lookupGetter__",
    "__lookupSetter__"]

/-- The `@Transform` of the property with the name of a field, if any. -/
def transformField (properties : List Property) (field : String × Json) :
    String × Json :=
  (field.1,
    match properties.find? fun property => property.name = field.1 with
    | some property => property.transform field.2
    | none => field.2)

/-- The instance made of a payload: every property after its `@Transform`. -/
def transformed (properties : List Property) (payload : Json) : Fields :=
  (payload.ownFields.filter fun field => field.1 ∉ inheritedKeys).map
    (transformField properties)

/-- All messages about an instance, those about unknown properties first. -/
def validationMessages (validator : Validator) (properties : List Property)
    (fields : Fields) : List String :=
  (fields.filter fun field =>
      !properties.any fun property => property.name = field.1).map
    (fun field => s!"property {field.1} should not exist") ++
  properties.flatMap fun property =>
    property.violations validator (fields.get property.name)

/-- The validation of an instance throws. -/
def validationThrows (properties : List Property) (fields : Fields) : Bool :=
  properties.any fun property => property.throws (fields.get property.name)

theorem validationMessages_eq_nil {validator : Validator}
    {properties : List Property} {fields : Fields} :
    validationMessages validator properties fields = [] ↔
      (∀ field ∈ fields, ∃ property ∈ properties, property.name = field.1) ∧
        ∀ property ∈ properties,
          property.violations validator (fields.get property.name) = [] := by
  unfold validationMessages
  rw [List.append_eq_nil_iff, List.map_eq_nil_iff, List.filter_eq_nil_iff,
    List.flatMap_eq_nil_iff]
  simp

theorem validationMessages_of_throws {validator : Validator}
    {properties : List Property} {fields : Fields}
    (thrown : validationThrows properties fields = true) :
    validationMessages validator properties fields ≠ [] := by
  intro silent
  obtain ⟨property, listed, throws⟩ := List.any_eq_true.mp thrown
  exact Property.violations_of_throws throws
    ((validationMessages_eq_nil.mp silent).2 property listed)

theorem throws_of_silent {validator : Validator} {properties : List Property}
    {fields : Fields}
    (silent : validationMessages validator properties fields = []) :
    validationThrows properties fields = false :=
  Bool.eq_false_iff.mpr fun thrown =>
    validationMessages_of_throws thrown silent

mutual

/-- The messages about a value under `@ValidateNested`; the items of an array
are validated one by one.  `parents` prefixes what is said about the value
itself, `path` what is said about its parts. -/
def nestedMessages (validator : Validator) (properties : List Property)
    (name parents path : String) : Json → List String
  | .obj fields =>
      (validationMessages validator properties
        (transformed properties (.obj fields))).map
        fun message => s!"{path}.{message}"
  | .arr items =>
      nestedItems validator properties name path 0 items
  | _ => [s!"{parents}nested property {name} must be either object or array"]

def nestedItems (validator : Validator) (properties : List Property)
    (name path : String) (index : Nat) : List Json → List String
  | [] => []
  | item :: items =>
      nestedMessages validator properties name s!"{path}."
        s!"{path}.{index}" item ++
      nestedItems validator properties name path (index + 1) items

end

mutual

/-- The validation of a value under `@ValidateNested` throws. -/
def nestedThrows (properties : List Property) : Json → Bool
  | .obj fields =>
      validationThrows properties (transformed properties (.obj fields))
  | .arr items => nestedItemsThrow properties items
  | _ => false

def nestedItemsThrow (properties : List Property) : List Json → Bool
  | [] => false
  | item :: items =>
      nestedThrows properties item || nestedItemsThrow properties items

end

mutual

theorem nestedMessages_of_throws {validator : Validator}
    {properties : List Property} (name parents path : String) (value : Json)
    (thrown : nestedThrows properties value = true) :
    nestedMessages validator properties name parents path value ≠ [] := by
  cases value with
  | obj fields =>
      rw [nestedThrows] at thrown
      rw [nestedMessages, Ne, List.map_eq_nil_iff]
      exact validationMessages_of_throws thrown
  | arr items =>
      rw [nestedThrows] at thrown
      rw [nestedMessages]
      exact nestedItems_of_throws name path 0 items thrown
  | null | bool | num | str => simp [nestedThrows] at thrown

theorem nestedItems_of_throws {validator : Validator}
    {properties : List Property} (name path : String) (index : Nat)
    (items : List Json) (thrown : nestedItemsThrow properties items = true) :
    nestedItems validator properties name path index items ≠ [] := by
  cases items with
  | nil => simp [nestedItemsThrow] at thrown
  | cons item items =>
      rw [nestedItemsThrow, Bool.or_eq_true_iff] at thrown
      rw [nestedItems, Ne, List.append_eq_nil_iff, not_and_or]
      rcases thrown with here | later
      · exact .inl (nestedMessages_of_throws name _ _ item here)
      · exact .inr (nestedItems_of_throws name path (index + 1) items later)

end

/-- An instance of a class that passed the pipe. -/
structure Instance (validator : Validator) (properties : List Property) where
  payload : Json
  silent : validationMessages validator properties
    (transformed properties payload) = []

/-- The instance made of a payload that passes, or the exception.  What the
validation throws by accident is not an exception of the framework. -/
def validationPipe (validator : Validator) (properties : List Property)
    (payload : Json) : Except Thrown (Instance validator properties) :=
  if validationThrows properties (transformed properties payload) then
    .error .other
  else if silent : validationMessages validator properties
      (transformed properties payload) = [] then .ok ⟨payload, silent⟩
  else
    .error (badRequestMessages (validationMessages validator properties
      (transformed properties payload)))

theorem toOption_eq_some {ε α : Type} {result : Except ε α} {value : α} :
    result.toOption = some value ↔ result = .ok value := by
  cases result <;> simp [Except.toOption]

theorem map_eq_ok {ε α β : Type} {result : Except ε α} {f : α → β}
    {value : β} :
    result.map f = .ok value ↔ ∃ first, result = .ok first ∧ f first = value := by
  cases result with
  | ok first => simp [Except.map]
  | error error => simp [Except.map]

/-! ## A second pipe -/

/-- What a transformation has changed it leaves alone the next time. -/
def Settling (properties : List Property) : Prop :=
  ∀ property ∈ properties, ∀ value,
    property.transform (property.transform value) = property.transform value

section Again

variable {properties : List Property}

/-- Without transformations a payload is its own instance. -/
theorem transformed_plain {fields : Fields}
    (plain : ∀ property ∈ properties, property.transform = id)
    (own : ∀ field ∈ fields, field.1 ∉ inheritedKeys) :
    transformed properties (.obj fields) = fields := by
  have kept : fields.filter (fun field => field.1 ∉ inheritedKeys) = fields :=
    List.filter_eq_self.mpr fun field member => decide_eq_true (own field member)
  rw [transformed, Json.ownFields, kept]
  refine (List.map_congr_left fun field _ => ?_).trans (List.map_id fields)
  unfold transformField
  cases found : properties.find? fun property => property.name = field.1 with
  | none => rfl
  | some property =>
      simp only [plain property (List.mem_of_find?_eq_some found)]
      rfl

private theorem transformField_transformField (settling : Settling properties)
    (field : String × Json) :
    transformField properties (transformField properties field) =
      transformField properties field := by
  unfold transformField
  cases found : properties.find? fun property => property.name = field.1 with
  | none => rfl
  | some property =>
      have listed := List.mem_of_find?_eq_some found
      exact congrArg (Prod.mk field.1) (settling property listed field.2)

theorem transformed_transformed (settling : Settling properties)
    (payload : Json) :
    transformed properties (.obj (transformed properties payload)) =
      transformed properties payload := by
  have kept : (transformed properties payload).filter
      (fun field => field.1 ∉ inheritedKeys) =
        transformed properties payload := by
    apply List.filter_eq_self.mpr
    intro field member
    obtain ⟨original, originalMember, rfl⟩ := List.mem_map.mp member
    exact (List.mem_filter.mp originalMember).2
  rw [transformed, Json.ownFields, kept]
  conv_rhs => rw [transformed]
  rw [transformed, List.map_map]
  exact List.map_congr_left fun field _ =>
    transformField_transformField settling field

end Again

section Pipe

variable {validator : Validator} {properties : List Property}

theorem validationPipe_of_silent {payload : Json}
    (silent : validationMessages validator properties
      (transformed properties payload) = []) :
    validationPipe validator properties payload = .ok ⟨payload, silent⟩ := by
  rw [validationPipe, throws_of_silent silent, if_neg Bool.false_ne_true,
    dif_pos silent]

theorem validationPipe_payload {payload : Json}
    {accepted : Instance validator properties}
    (passes : validationPipe validator properties payload = .ok accepted) :
    accepted.payload = payload := by
  unfold validationPipe at passes
  split at passes
  · cases passes
  · split at passes
    · cases passes
      rfl
    · cases passes

theorem validationPipe_error {payload : Json} {error : Thrown}
    (rejected : validationPipe validator properties payload = .error error) :
    (∃ messages, error = badRequestMessages messages) ∨
      validationThrows properties (transformed properties payload) = true ∧
        error = .other := by
  unfold validationPipe at rejected
  split at rejected
  · rename_i thrown
    cases rejected
    exact .inr ⟨thrown, rfl⟩
  · split at rejected
    · cases rejected
    · cases rejected
      exact .inl ⟨_, rfl⟩

/-- None of the properties is a number that can throw. -/
def Calm (properties : List Property) : Prop :=
  ∀ property ∈ properties, ∀ value, property.throws value = false

theorem calm_of_rules
    (noNumber : ∀ property ∈ properties, ∀ places,
      Rule.isNumber places ∉ property.rules)
    (plain : ∀ property ∈ properties,
      property.nestedThrows = fun _ => false) : Calm properties :=
  fun property listed => Property.throws_of_rules (noNumber property listed)
    (plain property listed)

theorem Calm.validationThrows (calm : Calm properties) (fields : Fields) :
    validationThrows properties fields = false :=
  List.any_eq_false.mpr fun property listed => by
    simp [calm property listed (fields.get property.name)]

/-- Whatever a handler reads from a payload, a refusal is a bad request. -/
theorem statusCode_of_rejected {α : Type} (calm : Calm properties)
    {payload : Json} {error : Thrown}
    {build : Instance validator properties → α}
    (rejected : (validationPipe validator properties payload).map build =
      .error error) :
    error.statusCode = some 400 := by
  cases outcome : validationPipe validator properties payload with
  | ok accepted =>
      rw [outcome] at rejected
      cases rejected
  | error thrown =>
      rw [outcome] at rejected
      cases rejected
      rcases validationPipe_error outcome with ⟨messages, rfl⟩ | ⟨thrown, _⟩
      · exact statusCode_http _
      · rw [calm.validationThrows] at thrown
        cases thrown

end Pipe

namespace Instance

variable {validator : Validator} {properties : List Property}

def fields (accepted : Instance validator properties) : Fields :=
  transformed properties accepted.payload

/-- The value of a property. -/
def get (accepted : Instance validator properties) (property : Property) :
    Option Json :=
  accepted.fields.get property.name

theorem violations_get (accepted : Instance validator properties)
    {property : Property} (member : property ∈ properties) :
    property.violations validator (accepted.get property) = [] :=
  List.flatMap_eq_nil_iff.mp
    (List.append_eq_nil_iff.mp accepted.silent).2 property member

/-- The rules of a property hold of its value, unless it is optional and
missing. -/
theorem rules (accepted : Instance validator properties)
    {property : Property} (member : property ∈ properties)
    (present : property.optional = false ∨
      Json.isNullish (accepted.get property) = false)
    {rule : Rule} (listed : rule ∈ property.rules) :
    rule.check validator (accepted.get property) = true := by
  rcases Property.violations_eq_nil.mp (accepted.violations_get member) with
    ⟨optional, nullish⟩ | ⟨rules, _⟩
  · rcases present with required | present
    · simp [required] at optional
    · simp [present] at nullish
  · exact rules rule listed

private theorem get_map_transformField {properties : List Property}
    {property : Property}
    (found : properties.find? (fun other => other.name = property.name) =
      some property) (fields : Fields) :
    Fields.get (fields.map (transformField properties)) property.name =
      (Fields.get fields property.name).map property.transform := by
  induction fields with
  | nil => rfl
  | cons field rest ih =>
      unfold Fields.get at ih ⊢
      by_cases same : field.1 = property.name
      · simp [same, found, transformField]
      · have skipped :
            ¬ (transformField properties field).1 = property.name := same
        simp only [List.map_cons, List.find?_cons, skipped, same,
          decide_false]
        exact ih

/-- A property whose name is its own and no inherited one. -/
def Listed (properties : List Property) (property : Property) : Prop :=
  properties.find? (fun other => other.name = property.name) =
      some property ∧
    property.name ∉ inheritedKeys

theorem Listed.member {property : Property}
    (listed : Listed properties property) : property ∈ properties :=
  List.mem_of_find?_eq_some listed.1

/-- The transformation acts on each property alone. -/
theorem Listed.get_transformed {property : Property}
    (listed : Listed properties property) (payload : Json) :
    (transformed properties payload).get property.name =
      (payload.get property.name).map property.transform := by
  have kept : Fields.get (payload.ownFields.filter fun field =>
      field.1 ∉ inheritedKeys) property.name = payload.get property.name := by
    unfold Json.get Fields.get
    rw [List.find?_filter]
    congr 2
    funext field
    by_cases same : field.1 = property.name
    · simp [same, listed.2]
    · simp [same]
  rw [transformed, get_map_transformField listed.1, kept]

theorem get_eq_transform (accepted : Instance validator properties)
    {property : Property} (listed : Listed properties property) :
    accepted.get property =
      (accepted.payload.get property.name).map property.transform :=
  listed.get_transformed accepted.payload

theorem get_plain {fields : Fields}
    (plain : transformed properties (.obj fields) = fields)
    (silent : validationMessages validator properties
      (transformed properties (.obj fields)) = []) (property : Property) :
    (⟨.obj fields, silent⟩ : Instance validator properties).get property =
      fields.get property.name := by
  rw [get, Instance.fields, plain]

/-- The names of the fields are those of the properties. -/
theorem field_known (accepted : Instance validator properties)
    {field : String × Json} (member : field ∈ accepted.fields) :
    ∃ property ∈ properties, property.name = field.1 :=
  (validationMessages_eq_nil.mp accepted.silent).1 field member

/-- An instance that is sent on passes the same pipe once more, and stays what
it is. -/
theorem passes_again (accepted : Instance validator properties)
    (settling : Settling properties) :
    ∃ again, validationPipe validator properties (.obj accepted.fields) =
        .ok again ∧ again.fields = accepted.fields := by
  have same := transformed_transformed settling accepted.payload
  have silent : validationMessages validator properties
      (transformed properties (.obj accepted.fields)) = [] := by
    rw [fields, same]
    exact accepted.silent
  exact ⟨_, validationPipe_of_silent silent, same⟩

end Instance

end Cinema.Shared
