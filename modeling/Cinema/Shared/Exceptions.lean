import Cinema.Shared.Json

/-!
# Exceptions and their way over the wire

`toRpcErrorPayload` normalises what a handler throws; `toHttpException` turns
what a remote call failed with back into an exception.
-/

namespace Cinema.Shared

/-- `getResponse()` is a string or an object; `message` and `name` are those of the
`Error`. -/
structure HttpException where
  status : ℚ
  response : Json
  message : String
  name : String

/-- Anything thrown inside a handler. -/
inductive Thrown where
  | http (exception : HttpException)
  | rpc (error : Json) (message : String)
  /-- A `QueryFailedError`: the SQLSTATE of the driver error, and the
  parameters of the statement. -/
  | queryFailed (code : String) (parameters : List Json)
  | other

/-- A built-in exception of the framework constructed from a message. -/
def HttpException.standard (status : ℚ) (error name message : String) :
    HttpException where
  status := status
  response := .obj
    [("message", .str message), ("error", .str error),
      ("statusCode", .num status)]
  message := message
  name := name

/-- 404 -/
def notFoundException (message : String) : Thrown :=
  .http (.standard 404 "Not Found" "NotFoundException" message)

/-- 409 -/
def conflictException (message : String) : Thrown :=
  .http (.standard 409 "Conflict" "ConflictException" message)

/-- 401 -/
def unauthorizedException (message : String) : Thrown :=
  .http (.standard 401 "Unauthorized" "UnauthorizedException" message)

/-- 403 -/
def forbiddenException (message : String) : Thrown :=
  .http (.standard 403 "Forbidden" "ForbiddenException" message)

/-- 400 with a single message. -/
def badRequestException (message : String) : Thrown :=
  .http (.standard 400 "Bad Request" "BadRequestException" message)

/-- The validation pipe passes the list of its messages. -/
def badRequestMessages (messages : List String) : Thrown :=
  .http {
    status := 400
    response := .obj
      [("message", .arr (messages.map .str)), ("error", .str "Bad Request"),
        ("statusCode", .num 400)]
    message := "Bad Request Exception"
    name := "BadRequestException" }

/-- 502: the service answered something else than an error payload. -/
def badGatewayException (message : String) : HttpException :=
  .standard 502 "Bad Gateway" "BadGatewayException" message

/-- 503: the connection failed. -/
def serviceUnavailableException (message : String) : HttpException :=
  .standard 503 "Service Unavailable" "ServiceUnavailableException" message

/-- 504: no answer in time. -/
def gatewayTimeoutException (message : String) : HttpException :=
  .standard 504 "Gateway Timeout" "GatewayTimeoutException" message

/-! ## `rpc-error.ts` -/

/-- The SQLSTATE of a duplicate key. -/
def PG_UNIQUE_VIOLATION : String := "23505"

/-- The database has refused a duplicate key. -/
def IsUniqueViolation (thrown : Thrown) : Prop :=
  ∃ parameters, thrown = .queryFailed PG_UNIQUE_VIOLATION parameters

/-- The type guard: a numeric `statusCode` and a `message` of any type. -/
def isRpcErrorPayload : Json → Bool
  | .obj fields =>
      (match Fields.get fields "statusCode" with
        | some (.num _) => true
        | _ => false) && (Fields.get fields "message").isSome
  | _ => false

/-- The three fields of `RpcErrorPayload`. -/
def rpcErrorPayload (statusCode : ℚ) (message error : Json) : Json :=
  .obj [("statusCode", .num statusCode), ("message", message),
    ("error", error)]

/-- The three branches of the source, and the one for everything else. -/
def toRpcErrorPayload : Thrown → Json
  | .http exception =>
      match exception.response with
      | .str response =>
          rpcErrorPayload exception.status (.str response)
            (.str exception.name)
      | body =>
          rpcErrorPayload exception.status
            (Json.coalesce (body.get "message") (.str exception.message))
            (Json.coalesce (body.get "error") (.str exception.name))
  | .rpc error message =>
      if isRpcErrorPayload error then error
      else
        rpcErrorPayload 500
          (match error with
            | .str text => .str text
            | _ => .str message)
          (.str "Internal Server Error")
  | .queryFailed code _ =>
      if code = PG_UNIQUE_VIOLATION then
        rpcErrorPayload 409 (.str "Resource already exists") (.str "Conflict")
      else
        rpcErrorPayload 500 (.str "Internal server error")
          (.str "Internal Server Error")
  | .other =>
      rpcErrorPayload 500 (.str "Internal server error")
        (.str "Internal Server Error")

/-- The `statusCode` a payload carries. -/
def statusCodeOf (payload : Json) : Option ℚ :=
  match payload.get "statusCode" with
  | some (.num status) => some status
  | _ => none

/-- The status with which a thrown value is reported. -/
def Thrown.statusCode (thrown : Thrown) : Option ℚ :=
  statusCodeOf (toRpcErrorPayload thrown)

@[simp] theorem statusCodeOf_rpcErrorPayload (statusCode : ℚ)
    (message error : Json) :
    statusCodeOf (rpcErrorPayload statusCode message error) =
      some statusCode := by
  simp [statusCodeOf, rpcErrorPayload, Json.get, Json.ownFields, Fields.get]

@[simp] theorem statusCode_http (exception : HttpException) :
    (Thrown.http exception).statusCode = some exception.status := by
  simp only [Thrown.statusCode, toRpcErrorPayload]
  split <;> exact statusCodeOf_rpcErrorPayload _ _ _

/-! ## `rpc-client.ts` -/

/-- The names under which the gateway registers its clients. -/
inductive Services where
  | auth
  | catalog
  | order
  deriving DecidableEq

def Services.value : Services → String
  | .auth => "AUTH_SERVICE"
  | .catalog => "CATALOG_SERVICE"
  | .order => "ORDER_SERVICE"

/-- What a pending call is rejected with: an error the service sent, or one
of the transport. -/
inductive RpcFailure where
  | sent (error : Json)
  | timeout
  | connection (code : String)
  | other

/-- The codes with which a socket reports that nobody listens. -/
def CONNECTION_ERROR_CODES : List String :=
  ["ECONNREFUSED", "ECONNRESET", "EHOSTUNREACH", "ENOTFOUND", "EPIPE"]

/-- The `code` of an error, where it is a string. -/
def RpcFailure.code : RpcFailure → Option String
  | .sent error =>
      match error.get "code" with
      | some (.str code) => some code
      | _ => none
  | .connection code => some code
  | _ => none

/-- Keep the properties that are defined. -/
def definedFields (fields : List (String × Option Json)) : Fields :=
  fields.filterMap fun field => field.2.map fun value => (field.1, value)

/-- An error payload is recognised first, then the time-out, then the codes of the
connection. -/
def toHttpException (service : Services) (failure : RpcFailure) :
    HttpException :=
  let unexpected :=
    if failure.code.any (· ∈ CONNECTION_ERROR_CODES) then
      serviceUnavailableException s!"{service.value} is unavailable"
    else
      badGatewayException s!"Unexpected response from {service.value}"
  match failure with
  | .sent error =>
      match isRpcErrorPayload error, error.get "statusCode" with
      | true, some (.num statusCode) =>
          { status := statusCode
            response := .obj (definedFields
              [("statusCode", error.get "statusCode"),
                ("message", error.get "message"),
                ("error", error.get "error")])
            message :=
              match error.get "message" with
              | some (.str message) => message
              | _ => "Http Exception"
            name := "HttpException" }
      | _, _ => unexpected
  | .timeout =>
      gatewayTimeoutException s!"{service.value} did not respond in time"
  | _ => unexpected

end Cinema.Shared
