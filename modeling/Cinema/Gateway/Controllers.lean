import Cinema.Auth.AuthService
import Cinema.Orders.OrdersService

/-!
# The API gateway

The guards and the controllers of the gateway.  A route runs its guards, then
the pipes of its arguments, and then sends one message to a service.
-/

namespace Cinema.Gateway

open Interleaving Shared Text Auth Catalog Orders

/-- What the gateway calls: the verification of a token, which may throw, and
its RPC clients. -/
structure Clients (Call : Type) (Reply : Call → Type) where
  verifyAsync : String → Program Call Reply Thrown (Option Json)
  auth : AuthPatterns → Json → Program Call Reply Thrown AuthAnswer
  catalog : CatalogPatterns → Json → Program Call Reply Thrown CatalogAnswer
  orders : OrderPatterns → Json → Program Call Reply Thrown OrderAnswer

/-- User identity extracted from a verified token. -/
structure AuthUser where
  id : ℤ
  email : Option Json
  role : Role

/-- `Object.values(Role).includes(value)` -/
def Role.ofValue (value : String) : Option Role :=
  [Role.USER, Role.ADMIN].find? fun role => role.value = value

/-- The identity in the payload of a token, if it has the right shape. -/
def AuthUser.ofPayload (payload : Json) : Option AuthUser :=
  match payload.get "sub", payload.get "role" with
  | some (.num sub), some (.str value) =>
      if sub.den = 1 then
        (Role.ofValue value).map fun role =>
          ⟨sub.num, payload.get "email", role⟩
      else none
  | _, _ => none

/-- The second word of the header, if the first is `Bearer`. -/
def extractBearerToken (header : Option String) : Option String :=
  match (header.map fun text => text.toList.splitOn ' ') with
  | some (type :: token :: _) =>
      if type = "Bearer".toList ∧ token ≠ [] then some (String.ofList token)
      else none
  | _ => none

variable {Call : Type} {Reply : Call → Type}

/-- `JwtAuthGuard.canActivate` -/
def jwtAuthGuard (clients : Clients Call Reply) (authorization : Option String) :
    Program Call Reply Thrown AuthUser := do
  match extractBearerToken authorization with
  | none => .fail (unauthorizedException "Missing bearer token")
  | some token =>
      match ← clients.verifyAsync token with
      | none => .fail (unauthorizedException "Invalid or expired token")
      | some payload =>
          match AuthUser.ofPayload payload with
          | none => .fail (unauthorizedException "Invalid token payload")
          | some user => return user

/-- `RolesGuard.canActivate` -/
def rolesGuard (requiredRoles : List Role) (user : AuthUser) :
    Except Thrown Unit :=
  if requiredRoles = [] then .ok ()
  else if user.role ∈ requiredRoles then .ok ()
  else .error (forbiddenException "Insufficient permissions")

/-- `ParseIntPipe` on the number the validation pipe makes of a path segment,
`none` for `NaN` and the infinities. -/
def parseIntPipe (value : Option ℚ) : Except Thrown ℤ :=
  match value with
  | some number =>
      -- From `1e21` on the text of a number has an exponent.
      if number.den = 1 ∧ |number| < 10 ^ 21 then .ok number.num
      else
        .error (badRequestException
          "Validation failed (numeric string is expected)")
  | none =>
      .error (badRequestException
        "Validation failed (numeric string is expected)")

/-- The bodies of successful answers; a deletion has none. -/
inductive GatewayAnswer where
  | auth (answer : AuthAnswer)
  | catalog (answer : CatalogAnswer)
  | orders (answer : OrderAnswer)
  | noContent

variable (validator : Validator) (mapping : CaseMapping)
  (clients : Clients Call Reply)

namespace AuthController

def register (body : Json) : Program Call Reply Thrown GatewayAnswer := do
  let dto ← .ofExcept
    (validationPipe validator (RegisterDto.properties mapping) body)
  let answer ← clients.auth .REGISTER (.obj dto.fields)
  return .auth answer

def login (body : Json) : Program Call Reply Thrown GatewayAnswer := do
  let dto ← .ofExcept
    (validationPipe validator (LoginDto.properties mapping) body)
  let answer ← clients.auth .LOGIN (.obj dto.fields)
  return .auth answer

/-- The message carries the id of the token, nothing of the request. -/
def me (authorization : Option String) :
    Program Call Reply Thrown GatewayAnswer := do
  let user ← jwtAuthGuard clients authorization
  let answer ← clients.auth .GET_PROFILE (.obj [("userId", .num user.id)])
  return .auth answer

end AuthController

namespace MoviesController

def findAll : Program Call Reply Thrown GatewayAnswer := do
  let answer ← clients.catalog .FIND_ALL_MOVIES (.obj [])
  return .catalog answer

def findOne (id : Option ℚ) : Program Call Reply Thrown GatewayAnswer := do
  let id ← .ofExcept (parseIntPipe id)
  let answer ← clients.catalog .FIND_ONE_MOVIE (.obj [("id", .num id)])
  return .catalog answer

def create (authorization : Option String) (body : Json) :
    Program Call Reply Thrown GatewayAnswer := do
  let user ← jwtAuthGuard clients authorization
  let _ ← .ofExcept (rolesGuard [.ADMIN] user)
  let dto ← .ofExcept (validationPipe validator CreateMovieDto.properties body)
  let answer ← clients.catalog .CREATE_MOVIE (.obj dto.fields)
  return .catalog answer

/-- Guards first, then the path, then the body. -/
def update (authorization : Option String) (id : Option ℚ) (body : Json) :
    Program Call Reply Thrown GatewayAnswer := do
  let user ← jwtAuthGuard clients authorization
  let _ ← .ofExcept (rolesGuard [.ADMIN] user)
  let id ← .ofExcept (parseIntPipe id)
  let changes ← .ofExcept
    (validationPipe validator UpdateMovieDto.properties body)
  let answer ← clients.catalog .UPDATE_MOVIE
    (.obj [("id", .num id), ("changes", .obj changes.fields)])
  return .catalog answer

def remove (authorization : Option String) (id : Option ℚ) :
    Program Call Reply Thrown GatewayAnswer := do
  let user ← jwtAuthGuard clients authorization
  let _ ← .ofExcept (rolesGuard [.ADMIN] user)
  let id ← .ofExcept (parseIntPipe id)
  let _ ← clients.catalog .DELETE_MOVIE (.obj [("id", .num id)])
  return .noContent

end MoviesController

/-! Every route acts on behalf of the authenticated user only. -/

namespace OrdersController

/-- The user of the token overrides whatever the body says. -/
def create (authorization : Option String) (body : Json) :
    Program Call Reply Thrown GatewayAnswer := do
  let user ← jwtAuthGuard clients authorization
  let dto ← .ofExcept (validationPipe validator CreateOrderDto.properties body)
  let answer ← clients.orders .CREATE_ORDER
    (.obj (dto.fields.override "userId" (.num user.id)))
  return .orders answer

def findAll (authorization : Option String) :
    Program Call Reply Thrown GatewayAnswer := do
  let user ← jwtAuthGuard clients authorization
  let answer ← clients.orders .FIND_USER_ORDERS
    (.obj [("userId", .num user.id)])
  return .orders answer

def findOne (authorization : Option String) (orderId : Option ℚ) :
    Program Call Reply Thrown GatewayAnswer := do
  let user ← jwtAuthGuard clients authorization
  let orderId ← .ofExcept (parseIntPipe orderId)
  let answer ← clients.orders .FIND_USER_ORDER
    (.obj [("userId", .num user.id), ("orderId", .num orderId)])
  return .orders answer

def cancel (authorization : Option String) (orderId : Option ℚ) :
    Program Call Reply Thrown GatewayAnswer := do
  let user ← jwtAuthGuard clients authorization
  let orderId ← .ofExcept (parseIntPipe orderId)
  let answer ← clients.orders .CANCEL_USER_ORDER
    (.obj [("userId", .num user.id), ("orderId", .num orderId)])
  return .orders answer

end OrdersController

/-! ## Requests -/

/-- The routes with their arguments; a path segment is given as the number it
is converted to. -/
inductive Route where
  | register (body : Json)
  | login (body : Json)
  | me
  | findAllMovies
  | findOneMovie (id : Option ℚ)
  | createMovie (body : Json)
  | updateMovie (id : Option ℚ) (body : Json)
  | removeMovie (id : Option ℚ)
  | createOrder (body : Json)
  | findAllOrders
  | findOneOrder (id : Option ℚ)
  | cancelOrder (id : Option ℚ)

/-- A request: its `Authorization` header and its route. -/
structure HttpRequest where
  authorization : Option String
  route : Route

/-- The handler of a request. -/
def handle (request : HttpRequest) :
    Program Call Reply Thrown GatewayAnswer :=
  match request.route with
  | .register body => AuthController.register validator mapping clients body
  | .login body => AuthController.login validator mapping clients body
  | .me => AuthController.me clients request.authorization
  | .findAllMovies => MoviesController.findAll clients
  | .findOneMovie id => MoviesController.findOne clients id
  | .createMovie body =>
      MoviesController.create validator clients request.authorization body
  | .updateMovie id body =>
      MoviesController.update validator clients request.authorization id body
  | .removeMovie id =>
      MoviesController.remove clients request.authorization id
  | .createOrder body =>
      OrdersController.create validator clients request.authorization body
  | .findAllOrders => OrdersController.findAll clients request.authorization
  | .findOneOrder id =>
      OrdersController.findOne clients request.authorization id
  | .cancelOrder id =>
      OrdersController.cancel clients request.authorization id

end Cinema.Gateway
