import Cinema.System

/-!
# The handlers of the auth service, call by call

For a payload that passes validation each handler is a fixed sequence of
calls; for any other payload it only takes the message.
-/

namespace Cinema.System

open Interleaving Relational Shared Text Auth Catalog Orders Gateway

variable {deployment : Deployment}

abbrev AuthProgram (deployment : Deployment) : Type :=
  Program (SystemCall deployment.validator) SystemReply Thrown SystemAnswer

/-- A password is hashed, and a row with the hash inserted. -/
def creating (email password : String) (role : Role)
    (finish : PublicUser → AuthProgram deployment) : AuthProgram deployment :=
  .call (.hash password BCRYPT_SALT_ROUNDS) fun passwordHash =>
    .call (.users (.insert (User.create email passwordHash role))) fun row =>
      finish (AuthService.toPublicUser
        (UserRow.refresh (User.create email passwordHash role) row))

/-- The rest of a registration whose payload is valid. -/
def registering (dto : RegisterDto deployment.validator deployment.mapping) :
    AuthProgram deployment :=
  if dto.password ≠ dto.confirmPassword then
    .fail (badRequestException "Passwords do not match")
  else
    .call (.users (.matching (emailCriteria dto.email))) fun rows =>
      if rows.isEmpty then
        creating dto.email dto.password .USER fun user =>
          .done (.auth (.user user))
      else .fail (conflictException "Email is already registered")

/-- The rest of a login once the password has been compared. -/
def signing (config : AuthEnv deployment.validator) (row : UserRow)
    (passwordMatches : Bool) : AuthProgram deployment :=
  if passwordMatches then
    .call (.sign config.JWT_SECRET config.JWT_EXPIRES_IN
        (JwtPayload.ofUser row.hydrateSelected)) fun accessToken =>
      .done (.auth (.token
        ⟨accessToken, "Bearer", config.JWT_EXPIRES_IN⟩))
  else .fail (unauthorizedException INVALID_CREDENTIALS)

/-- The rest of a login whose payload is valid. -/
def loggingIn (config : AuthEnv deployment.validator)
    (dto : LoginDto deployment.validator deployment.mapping) :
    AuthProgram deployment :=
  .call (.users (.matching (emailCriteria dto.email))) fun rows =>
    match rows.head? with
    | none => .fail (unauthorizedException INVALID_CREDENTIALS)
    | some row =>
        .call (.compare dto.password row.passwordHash.val)
          (signing config row)

/-- `{ id: userId }` -/
def accountCriteria (userId : ℤ) : List (Option (Criterion UserRow)) :=
  [Criterion.integer (fun row => row.id.val) (some userId)]

/-- The rest of the start of a process: it listens. -/
def listening (config : AuthEnv deployment.validator) :
    AuthProgram deployment :=
  .call (.listen config) fun _ => .done .started

section Handlers

variable {payload : Json}

theorem handle_register
    {dto : RegisterDto deployment.validator deployment.mapping}
    (valid : RegisterDto.validate deployment.validator deployment.mapping
      payload = .ok dto) :
    handle deployment (.service (.auth .REGISTER payload)) =
      .call .process fun _ => registering dto := by
  refine congrArg (Program.call _) (funext fun config => ?_)
  simp only [Auth.AuthController.handle, Auth.AuthController.register, valid,
    Program.ofExcept_ok, Program.done_bind, AuthService.register, registering]
  by_cases differ : dto.password ≠ dto.confirmPassword
  · simp only [if_pos differ]
    rfl
  · simp only [if_neg differ]
    refine congrArg (Program.call _) (funext fun rows => ?_)
    cases rows <;> rfl

theorem handle_login {dto : LoginDto deployment.validator deployment.mapping}
    (valid : LoginDto.validate deployment.validator deployment.mapping payload =
      .ok dto) :
    handle deployment (.service (.auth .LOGIN payload)) =
      .call .process fun config => loggingIn config dto := by
  refine congrArg (Program.call _) (funext fun config => ?_)
  simp only [Auth.AuthController.handle, Auth.AuthController.login, valid]
  refine congrArg (Program.call _) (funext fun rows => ?_)
  cases rows with
  | nil => rfl
  | cons row rest =>
      refine congrArg (Program.call _) (funext fun passwordMatches => ?_)
      cases passwordMatches <;> rfl

theorem handle_getProfile {dto : UserIdPayload}
    (valid : UserIdPayload.validate deployment.validator payload = .ok dto) :
    handle deployment (.service (.auth .GET_PROFILE payload)) =
      .call .process fun _ =>
        .call (.users (.matching (accountCriteria dto.userId))) fun rows =>
          match rows.head? with
          | none => .fail (notFoundException "User not found")
          | some row =>
              .done (.auth (.user (AuthService.toPublicUser row.hydrate))) := by
  refine congrArg (Program.call _) (funext fun config => ?_)
  simp only [Auth.AuthController.handle, Auth.AuthController.getProfile, valid]
  refine congrArg (Program.call _) (funext fun rows => ?_)
  cases rows <;> rfl

theorem handle_start {config : AuthEnv deployment.validator}
    {email password : String} (admin : config.admin = some (email, password)) :
    handle deployment (.start config) =
      .call (.users (.matching
        (emailCriteria (normalized deployment.mapping email)))) fun rows =>
          if rows.isEmpty then
            creating (normalized deployment.mapping email) password .ADMIN
              fun _ => listening config
          else listening config := by
  simp only [handle, handleStart, AuthService.ensureAdminAccount, admin]
  refine congrArg (Program.call _) (funext fun rows => ?_)
  cases rows <;> rfl

theorem handle_start_without_admin {config : AuthEnv deployment.validator}
    (noAdmin : config.admin = none) :
    handle deployment (.start config) = listening config := by
  simp only [handle, handleStart, AuthService.ensureAdminAccount, noAdmin]
  rfl

end Handlers

end Cinema.System
