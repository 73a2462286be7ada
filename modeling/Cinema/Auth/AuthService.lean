import Cinema.Auth.User
import Cinema.Auth.Dtos

/-!
# The auth service

The validated environment, `AuthService` over what is injected into it, and
the message handlers of its controller.
-/

namespace Cinema.Auth

open Cinema.Interleaving Cinema.Relational Cinema.Shared Cinema.Text

namespace AuthEnv

def secretProperty : Property where
  name := "JWT_SECRET"
  rules := [.isString, .minLength 32]

def expiresInProperty : Property where
  name := "JWT_EXPIRES_IN"
  rules := [.isString, .isNotEmpty]

def adminEmailProperty : Property where
  name := "ADMIN_EMAIL"
  rules := [.isEmail]

def adminPasswordProperty : Property where
  name := "ADMIN_PASSWORD"
  rules := [.isString, .minLength 8]

/-- `Boolean(value)` of an optional string. -/
def given (value : Option String) : Option String :=
  value.filter fun text => text ≠ ""

end AuthEnv

/-- An accepted environment.  The variables of the admin account are validated
only if `ADMIN_EMAIL` is set. -/
structure AuthEnv (validator : Validator) where
  JWT_SECRET : String
  JWT_EXPIRES_IN : String := "1h"
  ADMIN_EMAIL : Option String
  ADMIN_PASSWORD : Option String
  secretValid : AuthEnv.secretProperty.violations validator
    (some (.str JWT_SECRET)) = []
  expiresInValid : AuthEnv.expiresInProperty.violations validator
    (some (.str JWT_EXPIRES_IN)) = []
  adminEmailValid : (AuthEnv.given ADMIN_EMAIL).isSome →
    AuthEnv.adminEmailProperty.violations validator
      (ADMIN_EMAIL.map .str) = []
  adminPasswordValid : (AuthEnv.given ADMIN_EMAIL).isSome →
    AuthEnv.adminPasswordProperty.violations validator
      (ADMIN_PASSWORD.map .str) = []

/-- The e-mail address and the password of the admin account, if both are
set. -/
def AuthEnv.admin {validator : Validator} (config : AuthEnv validator) :
    Option (String × String) :=
  (AuthEnv.given config.ADMIN_EMAIL).bind fun email =>
    (AuthEnv.given config.ADMIN_PASSWORD).map fun password =>
      (email, password)

/-- An account without its hash; a property is missing where the entity lacks it. -/
structure PublicUser where
  id : Option ℤ
  email : Option String
  role : Option Role
  createdAt : Option Nat
  deriving DecidableEq

/-- What a login is answered with. -/
structure AccessToken where
  accessToken : String
  tokenType : String
  expiresIn : String
  deriving DecidableEq

def BCRYPT_SALT_ROUNDS : Nat := 12

/-- One message for an unknown address and for a wrong password. -/
def INVALID_CREDENTIALS : String := "Invalid email or password"

/-- The asynchronous operations of the libraries: `bcrypt.hash` with its cost,
`bcrypt.compare`, and `signAsync` with a secret and a time to live. -/
structure Crypto (Call : Type) (Reply : Call → Type) where
  hash : String → Nat → Program Call Reply Thrown String
  compare : String → String → Program Call Reply Thrown Bool
  signAsync : String → String → Json → Program Call Reply Thrown String

/-- The payload of a token. -/
def JwtPayload.ofUser (user : User) : Json :=
  .obj (definedFields
    [("sub", user.id.map fun id => .num id),
      ("email", user.email.map .str),
      ("role", user.role.map fun role => .str role.value)])

variable {Call : Type} {Reply : Call → Type} {validator : Validator}
  {mapping : CaseMapping}

namespace AuthService

variable (users : Repository userSchema Call Reply Thrown)
  (crypto : Crypto Call Reply) (config : AuthEnv validator)

/-- Everything but the hash. -/
def toPublicUser (user : User) : PublicUser where
  id := user.id
  email := user.email
  role := user.role
  createdAt := user.createdAt

/-- Hash, then insert: two accounts with one address meet at the unique column. -/
def createUser (email password : String) (role : Role) :
    Program Call Reply Thrown PublicUser := do
  let passwordHash ← crypto.hash password BCRYPT_SALT_ROUNDS
  let user ← users.save (User.create email passwordHash role)
  return toPublicUser user

def register (dto : RegisterDto validator mapping) :
    Program Call Reply Thrown PublicUser := do
  if dto.password ≠ dto.confirmPassword then
    .fail (badRequestException "Passwords do not match")
  else
    if ← users.existsBy (emailCriteria dto.email) then
      .fail (conflictException "Email is already registered")
    else
      -- Public registration always creates a regular user.
      createUser users crypto dto.email dto.password .USER

/-- `bcrypt.compare(password, user.passwordHash)`, which rejects a missing
hash. -/
def comparePassword (password : String) (user : User) :
    Program Call Reply Thrown Bool :=
  match user.passwordHash with
  | none => .fail .other
  | some passwordHash => crypto.compare password passwordHash

/-- Reads the hash, which the entity otherwise leaves out. -/
def login (dto : LoginDto validator mapping) :
    Program Call Reply Thrown AccessToken := do
  let rows ← users.select (emailCriteria dto.email)
  match rows.head?.map UserRow.hydrateSelected with
  | none => .fail (unauthorizedException INVALID_CREDENTIALS)
  | some user =>
      let passwordMatches ← comparePassword crypto dto.password user
      if !passwordMatches then
        .fail (unauthorizedException INVALID_CREDENTIALS)
      else
        let accessToken ← crypto.signAsync config.JWT_SECRET
          config.JWT_EXPIRES_IN (JwtPayload.ofUser user)
        return {
          accessToken
          tokenType := "Bearer"
          expiresIn := config.JWT_EXPIRES_IN }

/-- The token may outlive the account. -/
def getProfile (userId : ℤ) : Program Call Reply Thrown PublicUser := do
  match ← users.findOneBy
    [Criterion.integer (fun row => row.id.val) (some userId)] with
  | none => .fail (notFoundException "User not found")
  | some user => return toPublicUser user

/-- `onApplicationBootstrap` -/
def ensureAdminAccount (mapping : CaseMapping) :
    Program Call Reply Thrown Unit := do
  match config.admin with
  | none => return ()
  | some (email, password) =>
      let normalizedEmail := mapping.toLowerCase (trim email)
      if ← users.existsBy (emailCriteria normalizedEmail) then return ()
      else
        let _ ← createUser users crypto normalizedEmail password .ADMIN
        return ()

section Uses

variable {users} {crypto} {config} {allowed : Call → Prop}

private theorem uses_createUser
    (hashes : ∀ password rounds, (crypto.hash password rounds).Uses allowed)
    {email : String} {role : Role}
    (inserts : ∀ passwordHash, (users.statement
      (.insert (User.create email passwordHash role))).Uses allowed)
    (password : String) :
    (createUser users crypto email password role).Uses allowed :=
  (hashes _ _).bind fun passwordHash =>
    (Repository.uses_save_new rfl (inserts passwordHash)).bind fun _ => trivial

theorem uses_register
    (selects : ∀ parameters condition,
      (users.statement (.select parameters condition)).Uses allowed)
    (hashes : ∀ password rounds, (crypto.hash password rounds).Uses allowed)
    (dto : RegisterDto validator mapping)
    (inserts : ∀ passwordHash, (users.statement
      (.insert (User.create dto.email passwordHash .USER))).Uses allowed) :
    (register users crypto dto).Uses allowed := by
  unfold register
  split
  · trivial
  · refine (Repository.uses_existsBy (selects _ _)).bind fun found => ?_
    split
    · trivial
    · exact uses_createUser hashes inserts _

theorem uses_login
    (selects : ∀ parameters condition,
      (users.statement (.select parameters condition)).Uses allowed)
    (compares : ∀ password passwordHash,
      (crypto.compare password passwordHash).Uses allowed)
    (signs : ∀ secret expiresIn payload,
      (crypto.signAsync secret expiresIn payload).Uses allowed)
    (dto : LoginDto validator mapping) :
    (login users crypto config dto).Uses allowed := by
  refine (selects _ _).bind fun rows => ?_
  cases rows with
  | nil => trivial
  | cons row rest =>
      refine (compares _ _).bind fun passwordMatches => ?_
      split
      · trivial
      · exact (signs _ _ _).bind fun _ => trivial

theorem uses_ensureAdminAccount
    (selects : ∀ parameters condition,
      (users.statement (.select parameters condition)).Uses allowed)
    (hashes : ∀ password rounds, (crypto.hash password rounds).Uses allowed)
    (inserts : ∀ email passwordHash, normalized mapping email = email →
      (users.statement
        (.insert (User.create email passwordHash .ADMIN))).Uses allowed) :
    (ensureAdminAccount users crypto config mapping).Uses allowed := by
  unfold ensureAdminAccount
  split
  · trivial
  · rename_i email password _
    refine (Repository.uses_existsBy (selects _ _)).bind fun found => ?_
    split
    · trivial
    · exact (uses_createUser hashes (fun _ => inserts _ _
        (normalized_normalized email)) password).bind fun _ => trivial

end Uses

end AuthService

/-! ## Messages -/

/-- The messages of the service. -/
inductive AuthPatterns where
  | REGISTER
  | LOGIN
  | GET_PROFILE
  deriving DecidableEq

def AuthPatterns.value : AuthPatterns → String
  | .REGISTER => "auth.register"
  | .LOGIN => "auth.login"
  | .GET_PROFILE => "auth.get_profile"

/-- What the handlers return. -/
inductive AuthAnswer where
  | user (user : PublicUser)
  | token (token : AccessToken)
  deriving DecidableEq

namespace AuthController

variable (validator mapping)
  (users : Repository userSchema Call Reply Thrown)
  (crypto : Crypto Call Reply)

def register (payload : Json) : Program Call Reply Thrown PublicUser := do
  let dto ← .ofExcept (RegisterDto.validate validator mapping payload)
  AuthService.register users crypto dto

def login (config : AuthEnv validator) (payload : Json) :
    Program Call Reply Thrown AccessToken := do
  let dto ← .ofExcept (LoginDto.validate validator mapping payload)
  AuthService.login users crypto config dto

def getProfile (payload : Json) : Program Call Reply Thrown PublicUser := do
  let dto ← .ofExcept (UserIdPayload.validate validator payload)
  AuthService.getProfile users dto.userId

/-- The handler of a message. -/
def handle (config : AuthEnv validator) (pattern : AuthPatterns)
    (payload : Json) : Program Call Reply Thrown AuthAnswer :=
  match pattern with
  | .REGISTER => .user <$> register validator mapping users crypto payload
  | .LOGIN => .token <$> login validator mapping users crypto config payload
  | .GET_PROFILE => .user <$> getProfile validator users payload

/-- The pipe of the handler throws on the payload. -/
def Refuses : AuthPatterns → Json → Thrown → Prop
  | .REGISTER, payload, thrown =>
      RegisterDto.validate validator mapping payload = .error thrown
  | .LOGIN, payload, thrown =>
      LoginDto.validate validator mapping payload = .error thrown
  | .GET_PROFILE, payload, thrown =>
      UserIdPayload.validate validator payload = .error thrown

variable {validator} {mapping} {users} {crypto}

theorem handle_refused {config : AuthEnv validator} {pattern : AuthPatterns}
    {payload : Json} {thrown : Thrown}
    (refused : Refuses validator mapping pattern payload thrown) :
    handle validator mapping users crypto config pattern payload =
      .fail thrown := by
  cases pattern with
  | REGISTER | LOGIN | GET_PROFILE =>
      exact Program.map_bind_refused refused _ _

/-- Only a registration inserts, and it inserts a regular user. -/
theorem uses_handle {allowed : Call → Prop} {pattern : AuthPatterns}
    (selects : ∀ parameters condition,
      (users.statement (.select parameters condition)).Uses allowed)
    (hashes : ∀ password rounds, (crypto.hash password rounds).Uses allowed)
    (compares : ∀ password passwordHash,
      (crypto.compare password passwordHash).Uses allowed)
    (signs : ∀ secret expiresIn payload,
      (crypto.signAsync secret expiresIn payload).Uses allowed)
    (inserts : pattern = .REGISTER → ∀ email passwordHash,
      normalized mapping email = email → (users.statement
        (.insert (User.create email passwordHash .USER))).Uses allowed)
    (config : AuthEnv validator) (payload : Json) :
    (handle validator mapping users crypto config pattern payload).Uses
      allowed := by
  cases pattern with
  | REGISTER =>
      refine ((Program.uses_ofExcept _).bind fun dto => ?_).map _
      exact AuthService.uses_register selects hashes dto fun _ =>
        inserts rfl _ _ dto.emailNormalized
  | LOGIN =>
      exact ((Program.uses_ofExcept _).bind fun dto =>
        AuthService.uses_login selects compares signs dto).map _
  | GET_PROFILE =>
      refine ((Program.uses_ofExcept _).bind fun dto => ?_).map _
      refine (Repository.uses_findOneBy (selects _ _)).bind fun user => ?_
      cases user <;> trivial

end AuthController

end Cinema.Auth
