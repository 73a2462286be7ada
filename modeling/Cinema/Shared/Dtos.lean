import Cinema.Shared.Validation
import Cinema.Text.Normalization

/-!
# Payload classes of the catalog and the orders

Every class is given by its decorated properties and by a structure for the
instances that pass: what the rules check is carried by the structure.
-/

namespace Cinema.Shared

open Cinema.Text (trim Trimmed)

namespace Instance

variable {validator : Validator} {properties : List Property}
  {property : Property} (accepted : Instance validator properties)

/-- A property whose rules are evaluated. -/
def Present (property : Property) : Prop :=
  property.optional = false ∨ Json.isNullish (accepted.get property) = false

/-- The value of an integral property. -/
def int (property : Property) : ℤ := Json.toInt (accepted.get property)

/-- The value of a numeric property. -/
def number (property : Property) : ℚ := Json.toNumber (accepted.get property)

/-- The value of a string property. -/
def text (property : Property) : String := Json.toText (accepted.get property)

variable {accepted}

theorem get_int (member : property ∈ properties)
    (present : accepted.Present property)
    (listed : Rule.isInt ∈ property.rules) :
    accepted.get property = some (.num (accepted.int property : ℤ)) := by
  obtain ⟨number, equality⟩ :=
    Rule.check_isInt.mp (accepted.rules member present listed)
  simp [int, equality, Json.toInt]

theorem positive (member : property ∈ properties)
    (present : accepted.Present property)
    (integral : Rule.isInt ∈ property.rules)
    (listed : Rule.isPositive ∈ property.rules) :
    0 < accepted.int property := by
  have rule := accepted.rules member present listed
  rw [get_int member present integral] at rule
  exact_mod_cast Rule.check_isPositive_num.mp rule

theorem atLeast (member : property ∈ properties)
    (present : accepted.Present property)
    (integral : Rule.isInt ∈ property.rules) {bound : ℤ}
    (listed : Rule.min bound ∈ property.rules) :
    bound ≤ accepted.int property := by
  have rule := accepted.rules member present listed
  rw [get_int member present integral] at rule
  exact_mod_cast Rule.check_min_num.mp rule

theorem atMost (member : property ∈ properties)
    (present : accepted.Present property)
    (integral : Rule.isInt ∈ property.rules) {bound : ℤ}
    (listed : Rule.max bound ∈ property.rules) :
    accepted.int property ≤ bound := by
  have rule := accepted.rules member present listed
  rw [get_int member present integral] at rule
  exact_mod_cast Rule.check_max_num.mp rule

theorem get_number (member : property ∈ properties)
    (present : accepted.Present property) {places : Nat}
    (listed : Rule.isNumber places ∈ property.rules) :
    accepted.get property = some (.num (accepted.number property)) ∧
      (accepted.number property * 10 ^ places).den = 1 := by
  obtain ⟨value, equality, exact⟩ :=
    Rule.check_isNumber.mp (accepted.rules member present listed)
  simp [number, equality, Json.toNumber, exact]

theorem get_text (member : property ∈ properties)
    (present : accepted.Present property)
    (listed : Rule.isString ∈ property.rules) :
    accepted.get property = some (.str (accepted.text property)) := by
  obtain ⟨value, equality⟩ :=
    Rule.check_isString.mp (accepted.rules member present listed)
  simp [text, equality, Json.toText]

theorem text_ne_empty (member : property ∈ properties)
    (present : accepted.Present property)
    (isText : Rule.isString ∈ property.rules)
    (listed : Rule.isNotEmpty ∈ property.rules) :
    accepted.text property ≠ "" := by
  have rule := accepted.rules member present listed
  rw [get_text member present isText] at rule
  exact Rule.check_isNotEmpty_str.mp rule

theorem le_length (member : property ∈ properties)
    (present : accepted.Present property)
    (isText : Rule.isString ∈ property.rules) {bound : Nat}
    (listed : Rule.minLength bound ∈ property.rules) :
    bound ≤ validator.length (accepted.text property) := by
  have rule := accepted.rules member present listed
  rw [get_text member present isText] at rule
  exact Rule.check_minLength_str.mp rule

theorem length_le (member : property ∈ properties)
    (present : accepted.Present property)
    (isText : Rule.isString ∈ property.rules) {bound : Nat}
    (listed : Rule.maxLength bound ∈ property.rules) :
    validator.length (accepted.text property) ≤ bound := by
  have rule := accepted.rules member present listed
  rw [get_text member present isText] at rule
  exact Rule.check_maxLength_str.mp rule

/-- A required integer has the value it has in the payload. -/
theorem payload_int (property : Property) (listed : Listed properties property)
    (plain : property.transform = id) (required : property.optional = false)
    (integral : Rule.isInt ∈ property.rules) :
    accepted.payload.get property.name =
      some (.num (accepted.int property : ℤ)) := by
  have same : accepted.get property = accepted.payload.get property.name := by
    rw [accepted.get_eq_transform listed, plain, Option.map_id_fun, id]
  rw [← same]
  exact get_int listed.member (.inl required) integral

end Instance

/-! ## Identifiers -/

/-- `@IsInt() @IsPositive()` -/
def positiveInt (name : String) : Property where
  name := name
  rules := [.isInt, .isPositive]

theorem Instance.positiveInt_pos {validator : Validator}
    {properties : List Property} {accepted : Instance validator properties}
    {name : String} (member : positiveInt name ∈ properties) :
    0 < accepted.int (positiveInt name) :=
  Instance.positive member (.inl rfl) (by simp [positiveInt])
    (by simp [positiveInt])

private theorem positiveInt_silent {validator : Validator} {name : String}
    {id : ℤ} (positive : 0 < id) :
    (positiveInt name).violations validator (some (.num id)) = [] := by
  rw [Property.violations_eq_nil]
  refine .inr ⟨?_, rfl⟩
  intro rule listed
  rcases List.mem_cons.mp listed with rfl | listed
  · exact Rule.check_isInt.mpr ⟨id, rfl⟩
  · rw [List.mem_singleton.mp listed]
    exact Rule.check_isPositive_num.mpr (by exact_mod_cast positive)

theorem positiveInt_throws (name : String) (value : Option Json) :
    (positiveInt name).throws value = false :=
  Property.throws_of_rules (by simp [positiveInt]) rfl value

/-- A message about one row. -/
structure IdPayload where
  id : ℤ
  positive : 0 < id

/-- `id-payloads.ts` -/
def IdPayload.properties : List Property := [positiveInt "id"]

theorem IdPayload.calm : Calm properties :=
  calm_of_rules (by simp [properties, positiveInt])
    (by simp [properties, positiveInt])

/-- The pipe in front of a handler turns the payload into an instance or throws. -/
def IdPayload.validate (validator : Validator) (payload : Json) :
    Except Thrown IdPayload :=
  (validationPipe validator properties payload).map fun accepted =>
    ⟨accepted.int (positiveInt "id"),
    Instance.positiveInt_pos (by simp [properties])⟩

theorem IdPayload.id_of_validate {validator : Validator} {payload : Json}
    {dto : IdPayload} (valid : validate validator payload = .ok dto) :
    payload.get "id" = some (.num dto.id) := by
  obtain ⟨accepted, passes, rfl⟩ := map_eq_ok.mp valid
  rw [← validationPipe_payload passes]
  exact accepted.payload_int (positiveInt "id")
    ⟨rfl, by decide⟩ rfl rfl (by decide)

/-- What the gateway and the order service send passes. -/
theorem IdPayload.validate_id {validator : Validator} {id : ℤ}
    (positive : 0 < id) :
    ∃ dto, validate validator (.obj [("id", .num id)]) = .ok dto ∧
      dto.id = id := by
  have plain : transformed properties (.obj [("id", .num id)]) =
      [("id", .num id)] := by
    apply transformed_plain
    · simp [properties, positiveInt]
    · simp [inheritedKeys]
  have silent : validationMessages validator properties
      (transformed properties (.obj [("id", .num id)])) = [] := by
    rw [plain, validationMessages_eq_nil]
    refine ⟨by simp [properties, positiveInt], ?_⟩
    intro property member
    rw [List.mem_singleton.mp member]
    exact positiveInt_silent positive
  refine ⟨_, map_eq_ok.mpr ⟨_, validationPipe_of_silent silent, rfl⟩, ?_⟩
  simp only [Instance.int, Instance.get_plain plain]
  simp [Fields.get, positiveInt, Json.toInt]

/-- A message about everything of one user. -/
structure UserIdPayload where
  userId : ℤ
  positive : 0 < userId

def UserIdPayload.properties : List Property := [positiveInt "userId"]

theorem UserIdPayload.calm : Calm properties :=
  calm_of_rules (by simp [properties, positiveInt])
    (by simp [properties, positiveInt])

def UserIdPayload.validate (validator : Validator) (payload : Json) :
    Except Thrown UserIdPayload :=
  (validationPipe validator properties payload).map fun accepted =>
    ⟨accepted.int (positiveInt "userId"),
    Instance.positiveInt_pos (by simp [properties])⟩

theorem UserIdPayload.userId_of_validate {validator : Validator}
    {payload : Json} {dto : UserIdPayload}
    (valid : validate validator payload = .ok dto) :
    payload.get "userId" = some (.num dto.userId) := by
  obtain ⟨accepted, passes, rfl⟩ := map_eq_ok.mp valid
  rw [← validationPipe_payload passes]
  exact accepted.payload_int (positiveInt "userId")
    ⟨rfl, by decide⟩ rfl rfl (by decide)

/-! ## Orders -/

/-- A message about one order of one user. -/
structure UserOrderPayload extends UserIdPayload where
  orderId : ℤ
  orderIdPositive : 0 < orderId

/-- The properties of a class come before those it inherits. -/
def UserOrderPayload.properties : List Property :=
  positiveInt "orderId" :: UserIdPayload.properties

theorem UserOrderPayload.calm : Calm properties :=
  calm_of_rules (by simp [properties, UserIdPayload.properties, positiveInt])
    (by simp [properties, UserIdPayload.properties, positiveInt])

def UserOrderPayload.validate (validator : Validator) (payload : Json) :
    Except Thrown UserOrderPayload :=
  (validationPipe validator properties payload).map fun accepted =>
    { userId := accepted.int (positiveInt "userId")
      positive := Instance.positiveInt_pos
        (by simp [properties, UserIdPayload.properties])
      orderId := accepted.int (positiveInt "orderId")
      orderIdPositive := Instance.positiveInt_pos (by simp [properties]) }

theorem UserOrderPayload.ids_of_validate {validator : Validator}
    {payload : Json} {dto : UserOrderPayload}
    (valid : validate validator payload = .ok dto) :
    payload.get "userId" = some (.num dto.userId) ∧
      payload.get "orderId" = some (.num dto.orderId) := by
  obtain ⟨accepted, passes, rfl⟩ := map_eq_ok.mp valid
  rw [← validationPipe_payload passes]
  constructor
  · exact accepted.payload_int (positiveInt "userId")
      ⟨rfl, by decide⟩ rfl rfl (by decide)
  · exact accepted.payload_int (positiveInt "orderId")
      ⟨rfl, by decide⟩ rfl rfl (by decide)

theorem UserOrderPayload.validate_ids {validator : Validator}
    {userId orderId : ℤ} (userPositive : 0 < userId)
    (orderPositive : 0 < orderId) :
    ∃ dto, validate validator
        (.obj [("userId", .num userId), ("orderId", .num orderId)]) = .ok dto ∧
      dto.userId = userId ∧ dto.orderId = orderId := by
  have plain : transformed properties
      (.obj [("userId", .num userId), ("orderId", .num orderId)]) =
        [("userId", .num userId), ("orderId", .num orderId)] := by
    apply transformed_plain
    · simp [properties, UserIdPayload.properties, positiveInt]
    · simp [inheritedKeys]
  have silent : validationMessages validator properties (transformed properties
      (.obj [("userId", .num userId), ("orderId", .num orderId)])) = [] := by
    rw [plain, validationMessages_eq_nil]
    refine ⟨by simp [properties, UserIdPayload.properties, positiveInt], ?_⟩
    intro property member
    rcases List.mem_cons.mp member with rfl | member
    · exact positiveInt_silent orderPositive
    · rw [List.mem_singleton.mp member]
      exact positiveInt_silent userPositive
  refine ⟨_, map_eq_ok.mpr ⟨_, validationPipe_of_silent silent, rfl⟩, ?_, ?_⟩
  · simp only [Instance.int, Instance.get_plain plain]
    simp [Fields.get, positiveInt, Json.toInt]
  · simp only [Instance.int, Instance.get_plain plain]
    simp [Fields.get, positiveInt, Json.toInt]

/-- Only the DTO bounds a quantity from above. -/
def MAX_TICKETS_PER_ORDER : ℤ := 10

/-- The HTTP body: price and owner are never accepted from the client. -/
structure CreateOrderDto where
  movieId : ℤ
  movieIdPositive : 0 < movieId
  quantity : ℤ
  quantityBounds : 1 ≤ quantity ∧ quantity ≤ MAX_TICKETS_PER_ORDER

/-- `@IsInt() @Min(1) @Max(MAX_TICKETS_PER_ORDER)` -/
def CreateOrderDto.quantityProperty : Property where
  name := "quantity"
  rules := [.isInt, .min 1, .max MAX_TICKETS_PER_ORDER]

/-- `create-order.dto.ts` -/
def CreateOrderDto.properties : List Property :=
  [positiveInt "movieId", quantityProperty]

theorem CreateOrderDto.calm : Calm properties :=
  calm_of_rules (by simp [properties, quantityProperty, positiveInt])
    (by simp [properties, quantityProperty, positiveInt])

/-- The message: the gateway adds the id of the authenticated user. -/
structure CreateOrderPayload extends CreateOrderDto where
  userId : ℤ
  userIdPositive : 0 < userId

/-- The user comes before the inherited properties of the body. -/
def CreateOrderPayload.properties : List Property :=
  positiveInt "userId" :: CreateOrderDto.properties

theorem CreateOrderPayload.calm : Calm properties :=
  calm_of_rules
    (by simp [properties, CreateOrderDto.properties,
      CreateOrderDto.quantityProperty, positiveInt])
    (by simp [properties, CreateOrderDto.properties,
      CreateOrderDto.quantityProperty, positiveInt])

theorem Instance.quantity_bounds {validator : Validator}
    {properties : List Property} {accepted : Instance validator properties}
    (member : CreateOrderDto.quantityProperty ∈ properties) :
    1 ≤ accepted.int CreateOrderDto.quantityProperty ∧
      accepted.int CreateOrderDto.quantityProperty ≤ MAX_TICKETS_PER_ORDER :=
  ⟨Instance.atLeast member (.inl rfl) (by decide) (by decide),
    Instance.atMost member (.inl rfl) (by decide) (by decide)⟩

def CreateOrderPayload.validate (validator : Validator) (payload : Json) :
    Except Thrown CreateOrderPayload :=
  (validationPipe validator properties payload).map fun accepted =>
    { movieId := accepted.int (positiveInt "movieId")
      movieIdPositive := Instance.positiveInt_pos
        (by simp [properties, CreateOrderDto.properties])
      quantity := accepted.int CreateOrderDto.quantityProperty
      quantityBounds := Instance.quantity_bounds
        (by simp [properties, CreateOrderDto.properties])
      userId := accepted.int (positiveInt "userId")
      userIdPositive := Instance.positiveInt_pos (by simp [properties]) }

theorem CreateOrderPayload.fields_of_validate {validator : Validator}
    {payload : Json} {dto : CreateOrderPayload}
    (valid : validate validator payload = .ok dto) :
    payload.get "userId" = some (.num dto.userId) ∧
      payload.get "movieId" = some (.num dto.movieId) ∧
      payload.get "quantity" = some (.num dto.quantity) := by
  obtain ⟨accepted, passes, rfl⟩ := map_eq_ok.mp valid
  rw [← validationPipe_payload passes]
  refine ⟨?_, ?_, ?_⟩
  · exact accepted.payload_int (positiveInt "userId")
      ⟨rfl, by decide⟩ rfl rfl (by decide)
  · exact accepted.payload_int (positiveInt "movieId")
      ⟨rfl, by decide⟩ rfl rfl (by decide)
  · exact accepted.payload_int CreateOrderDto.quantityProperty
      ⟨rfl, by decide⟩ rfl rfl (by decide)

/-- The body of an order passes the second pipe with the owner over it. -/
theorem CreateOrderPayload.validate_override {validator : Validator}
    (accepted : Instance validator CreateOrderDto.properties) {userId : ℤ}
    (positive : 0 < userId) :
    ∃ dto, validate validator
        (.obj (accepted.fields.override "userId" (.num userId))) = .ok dto ∧
      dto.userId = userId ∧
      dto.movieId = accepted.int (positiveInt "movieId") := by
  have fieldNames : ∀ field ∈ accepted.fields.override "userId" (.num userId),
      field.1 = "userId" ∨ field.1 = "movieId" ∨ field.1 = "quantity" := by
    intro field member
    rcases List.mem_append.mp member with old | new
    · obtain ⟨property, listed, isName⟩ :=
        accepted.field_known (List.mem_filter.mp old).1
      rcases List.mem_cons.mp listed with rfl | listed
      · exact .inr (.inl isName.symm)
      · rw [List.mem_singleton.mp listed] at isName
        exact .inr (.inr isName.symm)
    · rw [List.mem_singleton.mp new]
      exact .inl rfl
  have plain : transformed properties
      (.obj (accepted.fields.override "userId" (.num userId))) =
        accepted.fields.override "userId" (.num userId) := by
    apply transformed_plain
    · simp [properties, CreateOrderDto.properties,
        CreateOrderDto.quantityProperty, positiveInt]
    · intro field member
      rcases fieldNames field member with same | same | same <;>
        simp [same, inheritedKeys]
  have kept : ∀ property ∈ CreateOrderDto.properties,
      (accepted.fields.override "userId" (.num userId)).get property.name =
        accepted.get property := by
    intro property listed
    apply Fields.get_override_of_ne
    rcases List.mem_cons.mp listed with rfl | listed
    · decide
    · rw [List.mem_singleton.mp listed]
      decide
  have silent : validationMessages validator properties (transformed properties
      (.obj (accepted.fields.override "userId" (.num userId)))) = [] := by
    rw [plain, validationMessages_eq_nil]
    constructor
    · intro field member
      rcases fieldNames field member with same | same | same <;>
        simp [same, properties, CreateOrderDto.properties,
          CreateOrderDto.quantityProperty, positiveInt]
    · intro property member
      rcases List.mem_cons.mp member with rfl | listed
      · rw [positiveInt, Fields.get_override]
        exact positiveInt_silent positive
      · rw [kept property listed]
        exact accepted.violations_get listed
  refine ⟨_, map_eq_ok.mpr ⟨_, validationPipe_of_silent silent, rfl⟩, ?_, ?_⟩
  · simp only [Instance.int, Instance.get_plain plain]
    simp [positiveInt, Fields.get_override, Json.toInt]
  · have movie := kept (positiveInt "movieId") List.mem_cons_self
    simp only [Instance.int, Instance.get_plain plain, movie]

/-! ## Movies -/

/-- The transformation of the movie classes: strings are trimmed. -/
def trimValue : Json → Json
  | .str text => .str (trim text)
  | value => value

theorem trimmed_of_trimValue {value : Json} {text : String}
    (equality : trimValue value = .str text) : Trimmed text := by
  cases value with
  | str original =>
      cases equality
      exact Cinema.Text.trimmed_trim original
  | null | bool | num | arr | obj => cases equality

namespace CreateMovieDto

/-- Trimmed before it is measured, so that blanks alone are no title. -/
def titleProperty : Property where
  name := "title"
  transform := trimValue
  rules := [.isString, .isNotEmpty, .maxLength 255]

/-- The only optional property of a new movie. -/
def descriptionProperty : Property where
  name := "description"
  transform := trimValue
  optional := true
  rules := [.isString, .maxLength 2000]

def releaseYearProperty : Property where
  name := "releaseYear"
  rules := [.isInt, .min 1888, .max 2100]

def durationMinutesProperty : Property where
  name := "durationMinutes"
  rules := [.isInt, .min 1, .max 600]

/-- A price in whole cents. -/
def ticketPriceProperty : Property where
  name := "ticketPrice"
  rules := [.isNumber 2, .min 0, .max 10000]

/-- `create-movie.dto.ts` -/
def properties : List Property :=
  [titleProperty, descriptionProperty, releaseYearProperty,
    durationMinutesProperty, ticketPriceProperty]

/-! What the rules require of each value. -/

/-- `@IsString() @IsNotEmpty() @MaxLength(255)` after the transformation. -/
def ValidTitle (validator : Validator) (title : String) : Prop :=
  Trimmed title ∧ title ≠ "" ∧ validator.length title ≤ 255

/-- `@IsString() @MaxLength(2000)` after the transformation. -/
def ValidDescription (validator : Validator) (description : String) : Prop :=
  Trimmed description ∧ validator.length description ≤ 2000

def ValidReleaseYear (releaseYear : ℤ) : Prop :=
  1888 ≤ releaseYear ∧ releaseYear ≤ 2100

def ValidDurationMinutes (durationMinutes : ℤ) : Prop :=
  1 ≤ durationMinutes ∧ durationMinutes ≤ 600

/-- `@IsNumber({ maxDecimalPlaces: 2 }) @Min(0) @Max(10000)` -/
def ValidTicketPrice (ticketPrice : ℚ) : Prop :=
  0 ≤ ticketPrice ∧ ticketPrice ≤ 10000 ∧ (ticketPrice * 10 ^ 2).den = 1

end CreateMovieDto

namespace Instance

open CreateMovieDto

variable {validator : Validator} {properties : List Property}
  {accepted : Instance validator properties} {property : Property}

/-- A property with the decorators of another one, optional or not. -/
structure Like (properties : List Property) (property original : Property) :
    Prop where
  listed : Listed properties property
  transform : property.transform = original.transform
  rules : property.rules = original.rules

private theorem trimmed_text (listed : Listed properties property)
    (trims : property.transform = trimValue)
    (isText : accepted.get property = some (.str (accepted.text property))) :
    Trimmed (accepted.text property) := by
  have image := accepted.get_eq_transform listed
  rw [isText, trims] at image
  obtain ⟨original, _, equality⟩ := Option.map_eq_some_iff.mp image.symm
  exact trimmed_of_trimValue equality

theorem valid_title (like : Like properties property titleProperty)
    (present : accepted.Present property) :
    ValidTitle validator (accepted.text property) := by
  have isString : Rule.isString ∈ property.rules := by
    simp [like.rules, titleProperty]
  have isText := get_text like.listed.member present isString
  exact ⟨trimmed_text like.listed like.transform isText,
    text_ne_empty like.listed.member present isString
      (by simp [like.rules, titleProperty]),
    length_le like.listed.member present isString
      (by simp [like.rules, titleProperty])⟩

theorem valid_description
    (like : Like properties property descriptionProperty)
    (present : accepted.Present property) :
    ValidDescription validator (accepted.text property) := by
  have isString : Rule.isString ∈ property.rules := by
    simp [like.rules, descriptionProperty]
  have isText := get_text like.listed.member present isString
  exact ⟨trimmed_text like.listed like.transform isText,
    length_le like.listed.member present isString
      (by simp [like.rules, descriptionProperty])⟩

theorem valid_releaseYear
    (like : Like properties property releaseYearProperty)
    (present : accepted.Present property) :
    ValidReleaseYear (accepted.int property) := by
  have isInt : Rule.isInt ∈ property.rules := by
    simp [like.rules, releaseYearProperty]
  exact ⟨atLeast like.listed.member present isInt
      (by simp [like.rules, releaseYearProperty]),
    atMost like.listed.member present isInt
      (by simp [like.rules, releaseYearProperty])⟩

theorem valid_durationMinutes
    (like : Like properties property durationMinutesProperty)
    (present : accepted.Present property) :
    ValidDurationMinutes (accepted.int property) := by
  have isInt : Rule.isInt ∈ property.rules := by
    simp [like.rules, durationMinutesProperty]
  exact ⟨atLeast like.listed.member present isInt
      (by simp [like.rules, durationMinutesProperty]),
    atMost like.listed.member present isInt
      (by simp [like.rules, durationMinutesProperty])⟩

theorem valid_ticketPrice
    (like : Like properties property ticketPriceProperty)
    (present : accepted.Present property) :
    ValidTicketPrice (accepted.number property) := by
  have isNumberRule : Rule.isNumber 2 ∈ property.rules := by
    rw [like.rules]
    decide
  have minRule : Rule.min 0 ∈ property.rules := by
    rw [like.rules]
    decide
  have maxRule : Rule.max 10000 ∈ property.rules := by
    rw [like.rules]
    decide
  obtain ⟨isNumber, cents⟩ := get_number like.listed.member present isNumberRule
  have least := accepted.rules like.listed.member present minRule
  have greatest := accepted.rules like.listed.member present maxRule
  rw [isNumber] at least greatest
  exact ⟨by simpa using Rule.check_min_num.mp least,
    by simpa using Rule.check_max_num.mp greatest, cents⟩

end Instance

/-- What a payload says about an optional property. -/
inductive Supplied (α : Type) where
  | undefined
  | null
  | value (value : α)
  deriving DecidableEq

namespace Supplied

variable {validator : Validator} {properties : List Property} {α : Type}

/-- What the instance says about a property, with its value read as `read` does. -/
def of (accepted : Instance validator properties) (property : Property)
    (read : Property → α) : Supplied α :=
  match accepted.get property with
  | none => .undefined
  | some .null => .null
  | some _ => .value (read property)

theorem of_eq_value {accepted : Instance validator properties}
    {property : Property} {read : Property → α} {value : α}
    (supplied : of accepted property read = .value value) :
    accepted.Present property ∧ value = read property := by
  unfold of at supplied
  split at supplied
  · cases supplied
  · cases supplied
  · rename_i notNull present
    cases supplied
    refine ⟨.inr ?_, rfl⟩
    rw [present]
    unfold Json.isNullish
    split
    · contradiction
    · rename_i equality
      cases equality
      exact absurd rfl notNull
    · rfl

/-- The value to assign, if there is one. -/
def given : Supplied α → Option (Option α)
  | .undefined => none
  | .null => some none
  | .value chosen => some (some chosen)

/-- `supplied ?? fallback` -/
def coalesce (supplied : Supplied α) (fallback : Option α) : Option α :=
  match supplied with
  | .value given => some given
  | _ => fallback

/-- `supplied ?? current`, for a value that is there. -/
def getD (supplied : Supplied α) (current : α) : α :=
  match supplied with
  | .value given => given
  | _ => current

theorem coalesce_some (supplied : Supplied α) (current : α) :
    supplied.coalesce (some current) = some (supplied.getD current) := by
  cases supplied <;> rfl

end Supplied

open CreateMovieDto in
/-- A new movie that has passed the rules. -/
structure CreateMovieDto (validator : Validator) where
  title : String
  description : Supplied String
  releaseYear : ℤ
  durationMinutes : ℤ
  ticketPrice : ℚ
  titleValid : ValidTitle validator title
  descriptionValid : ∀ text, description = .value text →
    ValidDescription validator text
  releaseYearValid : ValidReleaseYear releaseYear
  durationMinutesValid : ValidDurationMinutes durationMinutes
  ticketPriceValid : ValidTicketPrice ticketPrice

namespace CreateMovieDto

private theorem title_listed : Instance.Listed properties titleProperty :=
  ⟨rfl, by decide⟩

private theorem description_listed :
    Instance.Listed properties descriptionProperty := ⟨rfl, by decide⟩

private theorem releaseYear_listed :
    Instance.Listed properties releaseYearProperty := ⟨rfl, by decide⟩

private theorem durationMinutes_listed :
    Instance.Listed properties durationMinutesProperty := ⟨rfl, by decide⟩

private theorem ticketPrice_listed :
    Instance.Listed properties ticketPriceProperty := ⟨rfl, by decide⟩

private theorem like {property : Property}
    (listed : Instance.Listed properties property) :
    Instance.Like properties property property := ⟨listed, rfl, rfl⟩

end CreateMovieDto

/-- Read off an instance that has passed. -/
def CreateMovieDto.ofInstance {validator : Validator}
    (accepted : Instance validator properties) : CreateMovieDto validator where
  title := accepted.text titleProperty
  description := .of accepted descriptionProperty accepted.text
  releaseYear := accepted.int releaseYearProperty
  durationMinutes := accepted.int durationMinutesProperty
  ticketPrice := accepted.number ticketPriceProperty
  titleValid := by
    have required : accepted.Present titleProperty := .inl rfl
    exact Instance.valid_title (like title_listed) required
  descriptionValid := by
    intro text supplied
    obtain ⟨present, rfl⟩ := Supplied.of_eq_value supplied
    exact Instance.valid_description (like description_listed) present
  releaseYearValid := by
    have required : accepted.Present releaseYearProperty := .inl rfl
    exact Instance.valid_releaseYear (like releaseYear_listed) required
  durationMinutesValid := by
    have required : accepted.Present durationMinutesProperty := .inl rfl
    exact Instance.valid_durationMinutes (like durationMinutes_listed) required
  ticketPriceValid := by
    have required : accepted.Present ticketPriceProperty := .inl rfl
    exact Instance.valid_ticketPrice (like ticketPrice_listed) required

namespace CreateMovieDto

private theorem listed_of_mem {property : Property}
    (member : property ∈ properties) : Instance.Listed properties property := by
  simp only [properties, List.mem_cons, List.not_mem_nil, or_false] at member
  rcases member with rfl | rfl | rfl | rfl | rfl
  · exact title_listed
  · exact description_listed
  · exact releaseYear_listed
  · exact durationMinutes_listed
  · exact ticketPrice_listed

/-- Of the properties of a movie only the price can throw. -/
private theorem price_of_like {others : List Property}
    {property original : Property} {payload : Json}
    (member : original ∈ properties)
    (like : Instance.Like others property original)
    (isName : property.name = original.name)
    (plain : property.nestedThrows = fun _ => false)
    (thrown : property.throws
      ((transformed others payload).get property.name) = true) :
    ∃ price, payload.get "ticketPrice" = some (.num price) ∧
      Json.bareExponent price = true := by
  have quiet : (∀ places, Rule.isNumber places ∉ original.rules) → False := by
    intro noNumber
    rw [← like.rules] at noNumber
    rw [Property.throws_of_rules noNumber plain] at thrown
    cases thrown
  simp only [properties, List.mem_cons, List.not_mem_nil, or_false] at member
  rcases member with rfl | rfl | rfl | rfl | rfl
  · exact (quiet (by simp [titleProperty])).elim
  · exact (quiet (by simp [descriptionProperty])).elim
  · exact (quiet (by simp [releaseYearProperty])).elim
  · exact (quiet (by simp [durationMinutesProperty])).elim
  · have untouched : property.transform = id := like.transform
    have isPrice : property.name = "ticketPrice" := isName
    rw [like.listed.get_transformed, untouched, Option.map_id, id, isPrice]
      at thrown
    simp only [Property.throws, like.rules, ticketPriceProperty, plain]
      at thrown
    cases given : payload.get "ticketPrice" with
    | none => simp [given, Rule.throws] at thrown
    | some value =>
        cases value with
        | num price =>
            refine ⟨price, rfl, ?_⟩
            simpa [given, Rule.throws] using (Bool.and_eq_true_iff.mp thrown).2
        | null | bool | str | arr | obj => simp [given, Rule.throws] at thrown

private theorem plain_of_mem {property : Property}
    (member : property ∈ properties) :
    property.nestedThrows = fun _ => false := by
  simp only [properties, List.mem_cons, List.not_mem_nil, or_false] at member
  rcases member with rfl | rfl | rfl | rfl | rfl <;> rfl

theorem price_of_throws {payload : Json}
    (thrown : validationThrows properties (transformed properties payload) =
      true) :
    ∃ price, payload.get "ticketPrice" = some (.num price) ∧
      Json.bareExponent price = true := by
  obtain ⟨property, member, throws⟩ := List.any_eq_true.mp thrown
  exact price_of_like member (like (listed_of_mem member)) rfl
    (plain_of_mem member) throws

end CreateMovieDto

def CreateMovieDto.validate (validator : Validator) (payload : Json) :
    Except Thrown (CreateMovieDto validator) :=
  (validationPipe validator properties payload).map ofInstance

/-- `PartialType` makes every property optional. -/
def partialType (properties : List Property) : List Property :=
  properties.map fun property => { property with optional := true }

open CreateMovieDto in
/-- Every property may be missing or null; what is given obeys the same rules. -/
structure UpdateMovieDto (validator : Validator) where
  title : Supplied String
  description : Supplied String
  releaseYear : Supplied ℤ
  durationMinutes : Supplied ℤ
  ticketPrice : Supplied ℚ
  titleValid : ∀ text, title = .value text → ValidTitle validator text
  descriptionValid : ∀ text, description = .value text →
    ValidDescription validator text
  releaseYearValid : ∀ year, releaseYear = .value year → ValidReleaseYear year
  durationMinutesValid : ∀ minutes, durationMinutes = .value minutes →
    ValidDurationMinutes minutes
  ticketPriceValid : ∀ price, ticketPrice = .value price →
    ValidTicketPrice price

namespace UpdateMovieDto

open CreateMovieDto (titleProperty descriptionProperty releaseYearProperty
  durationMinutesProperty ticketPriceProperty title_listed description_listed
  releaseYear_listed durationMinutes_listed ticketPrice_listed)

/-- `update-movie.dto.ts` -/
def properties : List Property := partialType CreateMovieDto.properties

private theorem like_optional {property : Property}
    (listed : Instance.Listed CreateMovieDto.properties property) :
    Instance.Like properties { property with optional := true } property := by
  refine ⟨⟨?_, listed.2⟩, rfl, rfl⟩
  rw [properties, partialType, List.find?_map]
  exact Option.map_eq_some_iff.mpr ⟨property, listed.1, rfl⟩

theorem price_of_throws {payload : Json}
    (thrown : validationThrows properties (transformed properties payload) =
      true) :
    ∃ price, payload.get "ticketPrice" = some (.num price) ∧
      Json.bareExponent price = true := by
  obtain ⟨property, member, throws⟩ := List.any_eq_true.mp thrown
  obtain ⟨original, listed, rfl⟩ := List.mem_map.mp member
  have plain := CreateMovieDto.plain_of_mem listed
  exact CreateMovieDto.price_of_like listed
    (like_optional (CreateMovieDto.listed_of_mem listed)) rfl plain throws

variable {validator : Validator}

/-- The same where a property may be missing. -/
def ofInstance (accepted : Instance validator properties) :
    UpdateMovieDto validator where
  title := .of accepted { titleProperty with optional := true } accepted.text
  description :=
    .of accepted { descriptionProperty with optional := true } accepted.text
  releaseYear :=
    .of accepted { releaseYearProperty with optional := true } accepted.int
  durationMinutes :=
    .of accepted { durationMinutesProperty with optional := true } accepted.int
  ticketPrice :=
    .of accepted { ticketPriceProperty with optional := true } accepted.number
  titleValid := by
    intro text supplied
    obtain ⟨present, rfl⟩ := Supplied.of_eq_value supplied
    exact Instance.valid_title (like_optional title_listed) present
  descriptionValid := by
    intro text supplied
    obtain ⟨present, rfl⟩ := Supplied.of_eq_value supplied
    exact Instance.valid_description (like_optional description_listed) present
  releaseYearValid := by
    intro year supplied
    obtain ⟨present, rfl⟩ := Supplied.of_eq_value supplied
    exact Instance.valid_releaseYear (like_optional releaseYear_listed) present
  durationMinutesValid := by
    intro minutes supplied
    obtain ⟨present, rfl⟩ := Supplied.of_eq_value supplied
    exact Instance.valid_durationMinutes (like_optional durationMinutes_listed)
      present
  ticketPriceValid := by
    intro price supplied
    obtain ⟨present, rfl⟩ := Supplied.of_eq_value supplied
    exact Instance.valid_ticketPrice (like_optional ticketPrice_listed) present

/-- What an array under `changes` amounts to: none of the columns is one of
its properties. -/
def none : UpdateMovieDto validator where
  title := .undefined
  description := .undefined
  releaseYear := .undefined
  durationMinutes := .undefined
  ticketPrice := .undefined
  titleValid := by simp
  descriptionValid := by simp
  releaseYearValid := by simp
  durationMinutesValid := by simp
  ticketPriceValid := by simp

end UpdateMovieDto

/-- The id of the path and the changes of the body. -/
structure UpdateMoviePayload (validator : Validator) extends IdPayload where
  changes : UpdateMovieDto validator

namespace UpdateMoviePayload

variable {validator : Validator}

/-- `@IsDefined() @ValidateNested() @Type(() => UpdateMovieDto)` -/
def changesProperty : Property where
  name := "changes"
  rules := [.isDefined]
  nested validator :=
    nestedMessages validator UpdateMovieDto.properties "changes" "" "changes"
  nestedThrows := nestedThrows UpdateMovieDto.properties
  nestedHeard _ := nestedMessages_of_throws "changes" "" "changes"

/-- The nested property comes before the inherited id. -/
def properties : List Property := changesProperty :: IdPayload.properties

/-- The changes that a nested value asks for. -/
def changesOf (value : Option Json)
    (silent : value.elim [] (changesProperty.nested validator) = []) :
    UpdateMovieDto validator :=
  match value with
  | some (.obj fields) =>
      .ofInstance ⟨.obj fields, by
        simpa [changesProperty, nestedMessages] using silent⟩
  | _ => .none

private theorem nested_silent (accepted : Instance validator properties) :
    (accepted.get changesProperty).elim [] (changesProperty.nested validator) =
      [] := by
  have listed : changesProperty ∈ properties := by simp [properties]
  have valid := accepted.violations_get listed
  rcases Property.violations_eq_nil.mp valid with ⟨optional, _⟩ | ⟨_, silent⟩
  · cases optional
  · exact silent

def validate (validator : Validator) (payload : Json) :
    Except Thrown (UpdateMoviePayload validator) :=
  (validationPipe validator properties payload).map fun accepted =>
    { id := accepted.int (positiveInt "id")
      positive := Instance.positiveInt_pos
        (by simp [properties, IdPayload.properties])
      changes := changesOf (accepted.get changesProperty)
        (nested_silent accepted) }

theorem settling : Settling UpdateMovieDto.properties := by
  have trims : ∀ value, trimValue (trimValue value) = trimValue value := by
    intro value
    cases value with
    | str text => exact congrArg Json.str (Cinema.Text.trimmed_trim text)
    | null | bool | num | arr | obj => rfl
  intro property member value
  obtain ⟨original, listed, rfl⟩ := List.mem_map.mp member
  simp only [CreateMovieDto.properties, List.mem_cons, List.not_mem_nil,
    or_false] at listed
  rcases listed with rfl | rfl | rfl | rfl | rfl
  · exact trims value
  · exact trims value
  · rfl
  · rfl
  · rfl

/-- The changes that have passed the gateway pass the service. -/
theorem validate_changes
    (accepted : Instance validator UpdateMovieDto.properties) {id : ℤ}
    (positive : 0 < id) :
    ∃ dto, validate validator (.obj
        [("id", .num id), ("changes", .obj accepted.fields)]) = .ok dto ∧
      dto.id = id := by
  have plain : transformed properties
      (.obj [("id", .num id), ("changes", .obj accepted.fields)]) =
        [("id", .num id), ("changes", .obj accepted.fields)] := by
    apply transformed_plain
    · simp [properties, changesProperty, IdPayload.properties, positiveInt]
    · simp [inheritedKeys]
  have nested : nestedMessages validator UpdateMovieDto.properties "changes" ""
      "changes" (.obj accepted.fields) = [] := by
    have again := transformed_transformed settling accepted.payload
    rw [nestedMessages, Instance.fields, again, accepted.silent]
    rfl
  have silent : validationMessages validator properties (transformed properties
      (.obj [("id", .num id), ("changes", .obj accepted.fields)])) = [] := by
    rw [plain, validationMessages_eq_nil]
    refine ⟨by simp [properties, changesProperty, IdPayload.properties,
      positiveInt], ?_⟩
    intro property member
    rcases List.mem_cons.mp member with rfl | member
    · refine Property.violations_eq_nil.mpr (.inr ⟨?_, nested⟩)
      intro rule listed
      rw [List.mem_singleton.mp listed]
      rfl
    · rw [List.mem_singleton.mp member]
      exact positiveInt_silent positive
  refine ⟨_, map_eq_ok.mpr ⟨_, validationPipe_of_silent silent, rfl⟩, ?_⟩
  simp only [Instance.int, Instance.get_plain plain]
  simp [Fields.get, positiveInt, Json.toInt]

end UpdateMoviePayload

end Cinema.Shared
