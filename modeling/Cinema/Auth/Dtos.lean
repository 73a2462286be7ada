import Cinema.Shared.Dtos

/-!
# Credentials

The payload classes of registration and login.  Both normalise the e-mail
address before it is validated; the two differ in what they require of the
password.
-/

namespace Cinema.Auth

open Shared Text

/-- The address under which an account is stored. -/
def normalized (mapping : CaseMapping) (email : String) : String :=
  mapping.toLowerCase (trim email)

/-- `normalize-email.ts` -/
def normalizeEmail (mapping : CaseMapping) : Json → Json
  | .str value => .str (normalized mapping value)
  | value => value

@[simp] theorem normalized_normalized {mapping : CaseMapping} (email : String) :
    normalized mapping (normalized mapping email) = normalized mapping email :=
  CaseMapping.lower_trim_idem email

theorem normalized_of_normalizeEmail {mapping : CaseMapping} {value : Json}
    {email : String} (equality : normalizeEmail mapping value = .str email) :
    normalized mapping email = email := by
  cases value with
  | str original =>
      have isNormalized : normalized mapping original = email :=
        Json.str.inj equality
      rw [← isNormalized, normalized_normalized]
  | null => simp [normalizeEmail] at equality
  | bool value => simp [normalizeEmail] at equality
  | num value => simp [normalizeEmail] at equality
  | arr items => simp [normalizeEmail] at equality
  | obj fields => simp [normalizeEmail] at equality

namespace RegisterDto

/-- The address of an account, within its column. -/
def emailProperty (mapping : CaseMapping) : Property where
  name := "email"
  transform := normalizeEmail mapping
  rules := [.isEmail, .maxLength 255]

/-- The upper bound is there since bcrypt only uses the first 72 bytes. -/
def passwordProperty : Property where
  name := "password"
  rules := [.isString, .minLength 8, .maxLength 72]

/-- Whether it is the password is for the service to check. -/
def confirmPasswordProperty : Property where
  name := "confirmPassword"
  rules := [.isString, .isNotEmpty]

/-- `register.dto.ts` -/
def properties (mapping : CaseMapping) : List Property :=
  [emailProperty mapping, passwordProperty, confirmPasswordProperty]

theorem calm (mapping : CaseMapping) : Calm (properties mapping) :=
  calm_of_rules (by simp [properties, emailProperty, passwordProperty,
      confirmPasswordProperty])
    (by simp [properties, emailProperty, passwordProperty,
      confirmPasswordProperty])

end RegisterDto

/-- A registration that has passed the rules. -/
structure RegisterDto (validator : Validator) (mapping : CaseMapping) where
  email : String
  password : String
  confirmPassword : String
  emailNormalized : normalized mapping email = email
  emailValid : validator.isEmail email = true
  emailLength : validator.length email ≤ 255
  passwordLength : 8 ≤ validator.length password ∧
    validator.length password ≤ 72
  confirmed : confirmPassword ≠ ""

namespace LoginDto

/-- The same normalisation, without a bound on the length. -/
def emailProperty (mapping : CaseMapping) : Property where
  name := "email"
  transform := normalizeEmail mapping
  rules := [.isEmail]

/-- No lower bound: a short password is a wrong one. -/
def passwordProperty : Property where
  name := "password"
  rules := [.isString, .isNotEmpty, .maxLength 72]

/-- `login.dto.ts` -/
def properties (mapping : CaseMapping) : List Property :=
  [emailProperty mapping, passwordProperty]

theorem calm (mapping : CaseMapping) : Calm (properties mapping) :=
  calm_of_rules (by simp [properties, emailProperty, passwordProperty])
    (by simp [properties, emailProperty, passwordProperty])

end LoginDto

/-- Credentials that have passed the rules. -/
structure LoginDto (validator : Validator) (mapping : CaseMapping) where
  email : String
  password : String
  emailNormalized : normalized mapping email = email
  emailValid : validator.isEmail email = true
  passwordGiven : password ≠ ""
  passwordLength : validator.length password ≤ 72

section Instances

variable {validator : Validator} {mapping : CaseMapping}
  {properties : List Property} {accepted : Instance validator properties}
  {property : Property}

/-- A required e-mail address is a normalised string with valid syntax. -/
private theorem valid_email (listed : Instance.Listed properties property)
    (normalizes : property.transform = normalizeEmail mapping)
    (required : property.optional = false)
    (isEmail : Rule.isEmail ∈ property.rules) :
    accepted.get property = some (.str (accepted.text property)) ∧
      normalized mapping (accepted.text property) = accepted.text property ∧
      validator.isEmail (accepted.text property) = true := by
  obtain ⟨text, isText, valid⟩ := Rule.check_isEmail.mp
    (accepted.rules listed.member (.inl required) isEmail)
  have same : accepted.text property = text := by
    simp [Instance.text, isText, Json.toText]
  have image := accepted.get_eq_transform listed
  rw [isText, normalizes] at image
  obtain ⟨original, _, equality⟩ := Option.map_eq_some_iff.mp image.symm
  rw [same]
  exact ⟨isText, normalized_of_normalizeEmail equality, valid⟩

end Instances

namespace RegisterDto

variable {validator : Validator} {mapping : CaseMapping}

theorem email_listed :
    Instance.Listed (properties mapping) (emailProperty mapping) := by
  constructor
  · simp [properties, emailProperty]
  · simp [emailProperty, inheritedKeys]

theorem password_listed :
    Instance.Listed (properties mapping) passwordProperty := by
  constructor
  · simp [properties, emailProperty, passwordProperty]
  · simp [passwordProperty, inheritedKeys]

theorem confirmPassword_listed :
    Instance.Listed (properties mapping) confirmPasswordProperty := by
  constructor
  · simp [properties, emailProperty, passwordProperty, confirmPasswordProperty]
  · simp [confirmPasswordProperty, inheritedKeys]

theorem text_email (accepted : Instance validator (properties mapping)) :
    accepted.get (emailProperty mapping) =
      some (.str (accepted.text (emailProperty mapping))) :=
  (valid_email email_listed rfl rfl (by simp [emailProperty])).1

/-- Read off an instance that has passed. -/
def ofInstance (accepted : Instance validator (properties mapping)) :
    RegisterDto validator mapping where
  email := accepted.text (emailProperty mapping)
  password := accepted.text passwordProperty
  confirmPassword := accepted.text confirmPasswordProperty
  emailNormalized :=
    (valid_email email_listed rfl rfl (by simp [emailProperty])).2.1
  emailValid :=
    (valid_email email_listed rfl rfl (by simp [emailProperty])).2.2
  emailLength := by
    have listed : Rule.maxLength 255 ∈ (emailProperty mapping).rules := by
      simp [emailProperty]
    have rule := accepted.rules email_listed.member (.inl rfl) listed
    rw [text_email] at rule
    exact Rule.check_maxLength_str.mp rule
  passwordLength :=
    ⟨Instance.le_length password_listed.member (.inl rfl)
      (by simp [passwordProperty]) (by simp [passwordProperty]),
    Instance.length_le password_listed.member (.inl rfl)
      (by simp [passwordProperty]) (by simp [passwordProperty])⟩
  confirmed := Instance.text_ne_empty confirmPassword_listed.member (.inl rfl)
    (by simp [confirmPasswordProperty]) (by simp [confirmPasswordProperty])

def validate (validator : Validator) (mapping : CaseMapping) (payload : Json) :
    Except Thrown (RegisterDto validator mapping) :=
  (validationPipe validator (properties mapping) payload).map ofInstance

theorem settling : Settling (properties mapping) := by
  have normalizes : ∀ value, normalizeEmail mapping
      (normalizeEmail mapping value) = normalizeEmail mapping value := by
    intro value
    cases value with
    | str email => exact congrArg Json.str (normalized_normalized email)
    | null | bool | num | arr | obj => rfl
  intro property member value
  simp only [properties, List.mem_cons, List.not_mem_nil, or_false] at member
  rcases member with rfl | rfl | rfl
  · exact normalizes value
  · rfl
  · rfl

/-- The service reads the credentials of the body that the gateway has
accepted. -/
theorem validate_again {body : Json} {email password : String}
    {sent : Instance validator (properties mapping)}
    {dto : RegisterDto validator mapping}
    (accepted : validationPipe validator (properties mapping) body = .ok sent)
    (again : validate validator mapping (.obj sent.fields) = .ok dto)
    (isEmail : body.get "email" = some (.str email))
    (isPassword : body.get "password" = some (.str password)) :
    dto.email = normalized mapping email ∧ dto.password = password := by
  obtain ⟨received, passes, sameFields⟩ := sent.passes_again settling
  obtain ⟨same, isReceived, rfl⟩ := map_eq_ok.mp again
  rw [passes] at isReceived
  cases isReceived
  rw [← validationPipe_payload accepted] at isEmail isPassword
  have emailSent := sent.get_eq_transform email_listed
  have passwordSent := sent.get_eq_transform password_listed
  have emailName : (emailProperty mapping).name = "email" := rfl
  have passwordName : passwordProperty.name = "password" := rfl
  rw [emailName, isEmail] at emailSent
  rw [passwordName, isPassword] at passwordSent
  simp only [ofInstance, Instance.text, Instance.get, sameFields]
  rw [Instance.get] at emailSent passwordSent
  rw [emailSent, passwordSent]
  exact ⟨rfl, rfl⟩

end RegisterDto

namespace LoginDto

variable {validator : Validator} {mapping : CaseMapping}

theorem email_listed :
    Instance.Listed (properties mapping) (emailProperty mapping) := by
  constructor
  · simp [properties, emailProperty]
  · simp [emailProperty, inheritedKeys]

theorem password_listed :
    Instance.Listed (properties mapping) passwordProperty := by
  constructor
  · simp [properties, emailProperty, passwordProperty]
  · simp [passwordProperty, inheritedKeys]

def ofInstance (accepted : Instance validator (properties mapping)) :
    LoginDto validator mapping where
  email := accepted.text (emailProperty mapping)
  password := accepted.text passwordProperty
  emailNormalized :=
    (valid_email email_listed rfl rfl (by simp [emailProperty])).2.1
  emailValid :=
    (valid_email email_listed rfl rfl (by simp [emailProperty])).2.2
  passwordGiven := Instance.text_ne_empty password_listed.member (.inl rfl)
    (by simp [passwordProperty]) (by simp [passwordProperty])
  passwordLength := Instance.length_le password_listed.member (.inl rfl)
    (by simp [passwordProperty]) (by simp [passwordProperty])

def validate (validator : Validator) (mapping : CaseMapping) (payload : Json) :
    Except Thrown (LoginDto validator mapping) :=
  (validationPipe validator (properties mapping) payload).map ofInstance

/-! ### The body of a login -/

/-- A body with the two credentials and nothing else. -/
def body (email password : String) : Json :=
  .obj [("email", .str email), ("password", .str password)]

variable {email password : String}

theorem transformed_body :
    transformed (properties mapping) (body email password) =
      [("email", .str (normalized mapping email)), ("password", .str password)] := by
  simp [transformed, body, Json.ownFields, inheritedKeys, transformField,
    properties, emailProperty, passwordProperty, normalizeEmail]

/-- Exactly these credentials pass. -/
theorem silent_body :
    validationMessages validator (properties mapping)
        (transformed (properties mapping) (body email password)) = [] ↔
      validator.isEmail (normalized mapping email) = true ∧ password ≠ "" ∧
        validator.length password ≤ 72 := by
  rw [transformed_body, validationMessages_eq_nil]
  simp [properties, emailProperty, passwordProperty, Fields.get,
    Property.violations_eq_nil, Rule.check]

/-- The gateway sends on the same credentials under the normalised address. -/
theorem validationPipe_body
    (accepted : validator.isEmail (normalized mapping email) = true ∧
      password ≠ "" ∧ validator.length password ≤ 72) :
    ∃ sent, validationPipe validator (properties mapping) (body email password) =
        .ok sent ∧
      Json.obj sent.fields = body (normalized mapping email) password := by
  refine ⟨_, validationPipe_of_silent (silent_body.mpr accepted), ?_⟩
  rw [Instance.fields, transformed_body]
  rfl

theorem validate_body
    (accepted : validator.isEmail (normalized mapping email) = true ∧
      password ≠ "" ∧ validator.length password ≤ 72) :
    ∃ dto, validate validator mapping (body email password) = .ok dto ∧
      dto.email = normalized mapping email ∧ dto.password = password := by
  refine ⟨_, map_eq_ok.mpr
    ⟨_, validationPipe_of_silent (silent_body.mpr accepted), rfl⟩, ?_, ?_⟩
  · simp only [ofInstance, Instance.text, Instance.get, Instance.fields,
      transformed_body]
    rfl
  · simp only [ofInstance, Instance.text, Instance.get, Instance.fields,
      transformed_body]
    rfl

theorem validationPipe_body_rejected
    (refused : ¬ (validator.isEmail (normalized mapping email) = true ∧
      password ≠ "" ∧ validator.length password ≤ 72)) :
    ∃ thrown, validationPipe validator (properties mapping)
      (body email password) = .error thrown :=
  ⟨_, dif_neg fun silent => refused (silent_body.mp silent)⟩

end LoginDto

end Cinema.Auth
