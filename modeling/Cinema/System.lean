import Cinema.Backend
import Cinema.Gateway.Controllers
import Cinema.Interleaving.Remote

/-!
# The whole system

Gateway, auth service, catalog and order service with their databases.  The
clients send HTTP requests; the auth service is started any number of times,
and any of its processes may take a message.
-/

namespace Cinema

open Interleaving Relational Shared Text Auth Catalog Orders Gateway

/-- Password hashing: the result depends on the cost and a random salt. -/
structure Bcrypt where
  hash : (password : String) → (rounds salt : Nat) → String
  compare : (password passwordHash : String) → Bool

/-- Tokens: `sign` fails unless the time to live is a time span it accepts;
`verify` is what a token carries if it is accepted at a time. -/
structure Jwt where
  accepts : (expiresIn : String) → Bool
  sign : (secret expiresIn : String) → (issuedAt : Nat) → Json → Option String
  verify : (secret : String) → (now : Nat) → (token : String) → Option Json
  sign_isSome : ∀ {secret expiresIn issuedAt payload},
    (sign secret expiresIn issuedAt payload).isSome = accepts expiresIn

/-- What the services are deployed with. -/
structure Deployment where
  validator : Validator
  mapping : CaseMapping
  arithmetic : Arithmetic
  bcrypt : Bcrypt
  jwt : Jwt
  granularity : Granularity
  /-- The secret of the gateway. -/
  JWT_SECRET : String

/-! ## Messages -/

/-- What the RPC clients send. -/
inductive ServiceMessage where
  | auth (pattern : AuthPatterns) (payload : Json)
  | catalog (pattern : CatalogPatterns) (payload : Json)
  | orders (pattern : OrderPatterns) (payload : Json)

/-- The service a message goes to. -/
def ServiceMessage.service : ServiceMessage → Services
  | .auth _ _ => .auth
  | .catalog _ _ => .catalog
  | .orders _ _ => .order

abbrev ServiceMessage.Answer : ServiceMessage → Type
  | .auth _ _ => AuthAnswer
  | .catalog _ _ => CatalogAnswer
  | .orders _ _ => OrderAnswer

/-- A request, the start of a process of the auth service, or a message
between services. -/
inductive SystemMessage (validator : Validator) where
  | http (request : HttpRequest)
  | start (config : AuthEnv validator)
  | service (message : ServiceMessage)

/-- What a handler ends with: the answer to a request or to a message, or that a
process listens. -/
inductive SystemAnswer where
  | http (answer : GatewayAnswer)
  | started
  | auth (answer : AuthAnswer)
  | catalog (answer : CatalogAnswer)
  | orders (answer : OrderAnswer)

/-- Why a client gives up on a pending call. -/
inductive ClientFailure where
  | timeout
  | connection (code : String)
  | other

/-- What the client catches in its place. -/
def ClientFailure.toRpcFailure : ClientFailure → RpcFailure
  | .timeout => .timeout
  | .connection code => .connection code
  | .other => .other

/-! ## Calls -/

/-- `process` is the arrival of a message at a process of the auth service,
`listen` the moment from which a process takes messages. -/
inductive SystemCall (validator : Validator) where
  | verify (token : String)
  | process
  | listen (config : AuthEnv validator)
  | users (statement : UserStatement)
  | hash (password : String) (rounds : Nat)
  | compare (password passwordHash : String)
  | sign (secret expiresIn : String) (payload : Json)
  | movies (statement : SqlCall MovieRow Movie MoviePatch)
  | orders (statement : SqlCall OrderRow Order OrderPatch)
  | send (message : ServiceMessage)

abbrev SystemReply {validator : Validator} : SystemCall validator → Type
  | .verify _ => Option Json
  | .process => AuthEnv validator
  | .listen _ => Unit
  | .users statement => SqlReply statement
  | .hash _ _ => String
  | .compare _ _ => Bool
  | .sign _ _ _ => String
  | .movies statement => SqlReply statement
  | .orders statement => SqlReply statement
  | .send message => message.Answer

/-- The three databases, and the environments of the processes of the auth
service. -/
structure SystemStore (validator : Validator) where
  users : UserTable
  databases : Databases
  processes : List (AuthEnv validator)

/-- The surroundings of a call, the salt of a hash, and the process that takes
a message. -/
structure Circumstances extends Surroundings where
  salt : Nat
  process : Nat

namespace System

variable (deployment : Deployment)

/-- One call on the store, under the circumstances of the moment. -/
def exec (circumstances : Circumstances) :
    (call : SystemCall deployment.validator) →
      SystemStore deployment.validator →
      Except Thrown (SystemReply call) × SystemStore deployment.validator
  | .verify token, store =>
      (.ok (deployment.jwt.verify deployment.JWT_SECRET circumstances.now
        token), store)
  | .process, store =>
      match store.processes[circumstances.process]? with
      | some config => (.ok config, store)
      | none => (.error .other, store)
  | .listen config, store =>
      (.ok (), { store with processes := store.processes ++ [config] })
  | .users statement, store =>
      let (result, users) := execStatement userSchema
        circumstances.toSurroundings statement store.users
      (result, { store with users })
  | .hash password rounds, store =>
      (.ok (deployment.bcrypt.hash password rounds circumstances.salt), store)
  | .compare password passwordHash, store =>
      (.ok (deployment.bcrypt.compare password passwordHash), store)
  | .sign secret expiresIn payload, store =>
      match deployment.jwt.sign secret expiresIn circumstances.now payload with
      | some token => (.ok token, store)
      | none => (.error .other, store)
  | .movies statement, store =>
      let (result, movies) := execStatement movieSchema
        circumstances.toSurroundings statement store.databases.movies
      (result, { store with databases := { store.databases with movies } })
  | .orders statement, store =>
      let (result, orders) := execStatement orderSchema
        circumstances.toSurroundings statement store.databases.orders
      (result, { store with databases := { store.databases with orders } })
  | .send _, store => (.error .other, store)

variable {deployment}

/-! ## What is injected into the services -/

section Injected

variable {validator : Validator}

def users (granularity : Granularity) :
    Repository userSchema (SystemCall validator) SystemReply Thrown where
  granularity := granularity
  statement call := .perform (SystemCall.users call)

def movies (granularity : Granularity) :
    Repository movieSchema (SystemCall validator) SystemReply Thrown where
  granularity := granularity
  statement call := .perform (SystemCall.movies call)

def orders (granularity : Granularity) :
    Repository orderSchema (SystemCall validator) SystemReply Thrown where
  granularity := granularity
  statement call := .perform (SystemCall.orders call)

/-- Each operation of the libraries is a call of its own. -/
def crypto : Crypto (SystemCall validator) SystemReply where
  hash password rounds := .perform (SystemCall.hash password rounds)
  compare password passwordHash :=
    .perform (SystemCall.compare password passwordHash)
  signAsync secret expiresIn payload :=
    .perform (SystemCall.sign secret expiresIn payload)

/-- Every remote call is the sending of one message. -/
def clients : Clients (SystemCall validator) SystemReply where
  verifyAsync token := .perform (SystemCall.verify token)
  auth pattern payload := .perform (SystemCall.send (.auth pattern payload))
  catalog pattern payload :=
    .perform (SystemCall.send (.catalog pattern payload))
  orders pattern payload :=
    .perform (SystemCall.send (.orders pattern payload))

/-- The client of the order service. -/
def catalog : CatalogClient (SystemCall validator) SystemReply :=
  fun payload => do
    match ← Program.perform
      (SystemCall.send (.catalog .FIND_ONE_MOVIE payload)) with
    | .movie movie => return movie
    | _ => .fail .other

end Injected

/-! ## Handlers -/

section Handlers

variable (deployment)

/-- Some process of the auth service takes the message, with the environment it was
started in. -/
def handleAuth (pattern : AuthPatterns) (payload : Json) :
    Program (SystemCall deployment.validator) SystemReply Thrown
      AuthAnswer := do
  let config ← .perform SystemCall.process
  AuthController.handle deployment.validator deployment.mapping
    (users deployment.granularity) crypto config pattern payload

/-- A process listens after `onApplicationBootstrap`. -/
def handleStart (config : AuthEnv deployment.validator) :
    Program (SystemCall deployment.validator) SystemReply Thrown Unit := do
  AuthService.ensureAdminAccount (users deployment.granularity) crypto config
    deployment.mapping
  .perform (SystemCall.listen config)

def handleCatalog (pattern : CatalogPatterns) (payload : Json) :
    Program (SystemCall deployment.validator) SystemReply Thrown
      CatalogAnswer :=
  Catalog.MoviesController.handle deployment.validator
    (movies deployment.granularity) pattern payload

def handleOrders (pattern : OrderPatterns) (payload : Json) :
    Program (SystemCall deployment.validator) SystemReply Thrown
      OrderAnswer :=
  Orders.OrdersController.handle deployment.validator
    (orders deployment.granularity) deployment.arithmetic catalog pattern
    payload

/-- What every message runs. -/
def handle : SystemMessage deployment.validator →
    Program (SystemCall deployment.validator) SystemReply Thrown SystemAnswer
  | .http request =>
      .http <$> Gateway.handle deployment.validator deployment.mapping clients
        request
  | .start config => do
      handleStart deployment config
      return .started
  | .service (.auth pattern payload) =>
      .auth <$> handleAuth deployment pattern payload
  | .service (.catalog pattern payload) =>
      .catalog <$> handleCatalog deployment pattern payload
  | .service (.orders pattern payload) =>
      .orders <$> handleOrders deployment pattern payload

/-- The pipe of the handler throws on the payload. -/
def Refuses : ServiceMessage → Thrown → Prop
  | .auth pattern payload =>
      AuthController.Refuses deployment.validator deployment.mapping pattern
        payload
  | .catalog pattern payload =>
      Catalog.MoviesController.Refuses deployment.validator pattern payload
  | .orders pattern payload =>
      Orders.OrdersController.Refuses deployment.validator pattern payload

variable {deployment}

/-- What a handler does then; the auth service looks at its process first. -/
def refusal : ServiceMessage → Thrown →
    Program (SystemCall deployment.validator) SystemReply Thrown SystemAnswer
  | .auth _ _, thrown => .call .process fun _ => .fail thrown
  | .catalog _ _, thrown | .orders _ _, thrown => .fail thrown

theorem handle_refused (message : ServiceMessage)
    {thrown : Thrown} (refused : Refuses deployment message thrown) :
    handle deployment (.service message) = refusal message thrown := by
  cases message with
  | auth pattern payload =>
      refine congrArg (Program.call _) (funext fun config => ?_)
      simp only [AuthController.handle_refused refused]
      rfl
  | catalog pattern payload =>
      rw [handle, handleCatalog,
        Catalog.MoviesController.handle_refused refused]
      rfl
  | orders pattern payload =>
      rw [handle, handleOrders, Orders.OrdersController.handle_refused refused]
      rfl

end Handlers

/-! ## Messages between the services -/

variable {validator : Validator}

/-- Only sending is done elsewhere. -/
def remote : SystemCall validator → Option (SystemMessage validator)
  | .send message => some (.service message)
  | _ => none

/-- What a service answers to a message. -/
def answerOf : (message : ServiceMessage) → SystemAnswer →
    Option message.Answer
  | .auth _ _, .auth answer => some answer
  | .catalog _ _, .catalog answer => some answer
  | .orders _ _, .orders answer => some answer
  | _, _ => none

/-- The exception an RPC client throws for what a service has thrown. -/
def relayed (service : Services) (thrown : Thrown) : Thrown :=
  .http (toHttpException service (.sent (toRpcErrorPayload thrown)))

/-- The exception an RPC client throws on its own. -/
def gaveUp (service : Services) (failure : ClientFailure) : Thrown :=
  .http (toHttpException service failure.toRpcFailure)

/-- What the caller gets for what the handler has ended with. -/
def receive : (call : SystemCall validator) → Except Thrown SystemAnswer →
    Except Thrown (SystemReply call)
  | .send message, .ok answer =>
      match answerOf message answer with
      | some reply => .ok reply
      | none => .error (gaveUp message.service .other)
  | .send message, .error thrown => .error (relayed message.service thrown)
  | _, _ => .error .other

/-- What the caller gets when its client gives up. -/
def abandon : SystemCall validator → ClientFailure → Thrown
  | .send message, failure => gaveUp message.service failure
  | _, _ => .other

end System

/-- The services and their messages. -/
def system (deployment : Deployment) :
    Network (SystemMessage deployment.validator)
      (SystemStore deployment.validator) Circumstances ClientFailure
      (SystemCall deployment.validator) SystemReply Thrown SystemAnswer where
  handler := System.handle deployment
  exec := System.exec deployment
  remote := System.remote
  receive := System.receive
  abandon := System.abandon

abbrev SystemTraffic (deployment : Deployment) : Type :=
  Traffic (SystemMessage deployment.validator)
    (SystemStore deployment.validator) Circumstances ClientFailure
    (SystemCall deployment.validator) SystemReply Thrown SystemAnswer

abbrev SystemJob (deployment : Deployment) : Type :=
  Job (SystemMessage deployment.validator) Circumstances ClientFailure
    (SystemCall deployment.validator) SystemReply Thrown SystemAnswer

abbrev SystemExchange (deployment : Deployment) : Type :=
  Exchange Circumstances ClientFailure (SystemCall deployment.validator)
    SystemReply Thrown

/-- Messages between services come from services only. -/
def fromOutside {validator : Validator} : SystemMessage validator → Prop
  | .http _ => True
  | .start _ => True
  | .service _ => False

instance {validator : Validator} :
    DecidablePred (fromOutside : SystemMessage validator → Prop)
  | .http _ => .isTrue trivial
  | .start _ => .isTrue trivial
  | .service _ => .isFalse id

/-- Any requests and any starts. -/
def anyClients {deployment : Deployment} (_ : SystemTraffic deployment)
    (message : SystemMessage deployment.validator) : Prop :=
  fromOutside message

/-- Play a schedule of any clients. -/
def System.play {deployment : Deployment} :
    SystemTraffic deployment →
      List (Network.Move (SystemMessage deployment.validator) Circumstances
        ClientFailure) → Option (SystemTraffic deployment) :=
  (system deployment).play fun _ message => decide (fromOutside message)

theorem System.runs_of_play {deployment : Deployment}
    {traffic later : SystemTraffic deployment}
    {moves : List (Network.Move (SystemMessage deployment.validator)
      Circumstances ClientFailure)}
    (played : System.play traffic moves = some later) :
    (system deployment).Runs anyClients traffic later :=
  Network.runs_of_play
    (fun _ message permitted =>
      (of_decide_eq_true permitted : fromOutside message))
    played

/-! ## A small deployment, for examples -/

/-- The first 72 bytes of the UTF-8 encoding. -/
def utf8 (text : String) : List UInt8 :=
  text.toList.flatMap String.utf8EncodeChar

/-- Keeps what is compared instead of hashing it. -/
def Bcrypt.sample : Bcrypt where
  hash password _ _ := String.ofList
    (((utf8 password).take 72).map fun byte => Char.ofNat (byte.toNat + 1))
  compare password passwordHash :=
    String.ofList (((utf8 password).take 72).map
      fun byte => Char.ofNat (byte.toNat + 1)) = passwordHash

/-- The payload of the token that `Jwt.sample` knows. -/
def Jwt.samplePayload (id : ℚ) (email : String) (role : Role) : Json :=
  .obj [("sub", .num id), ("email", .str email), ("role", .str role.value)]

/-- Issues a token for one account that it recognises again. -/
def Jwt.sample (id : ℚ) (email : String) (role : Role) : Jwt where
  accepts expiresIn := expiresIn = "1h"
  sign _ expiresIn _ payload :=
    if expiresIn = "1h" then
      match payload.get "sub", payload.get "email", payload.get "role" with
      | some (.num sub), some (.str address), some (.str value) =>
          if sub = id ∧ address = email ∧ value = role.value then some "token"
          else some "other"
      | _, _, _ => some "other"
    else none
  verify _ _ token :=
    if token = "token" then some (samplePayload id email role) else none
  sign_isSome := by
    intro secret expiresIn issuedAt payload
    by_cases accepted : expiresIn = "1h"
    · simp only [accepted, if_true]
      split
      · split <;> rfl
      · rfl
    · simp [accepted]

def sampleSecret : String := "a secret with at least 32 characters"

/-- An environment with or without an admin account. -/
def sampleEnv (admin : Option (String × String))
    (valid : ∀ email password, admin = some (email, password) →
      Validator.plain.isEmail email = true ∧ 8 ≤ password.length) :
    AuthEnv .plain where
  JWT_SECRET := sampleSecret
  ADMIN_EMAIL := admin.map Prod.fst
  ADMIN_PASSWORD := admin.map Prod.snd
  secretValid := by decide
  expiresInValid := by decide
  adminEmailValid := by
    cases admin with
    | none => simp [AuthEnv.given]
    | some account =>
        intro _
        simp [Property.violations, AuthEnv.adminEmailProperty, Rule.check,
          (valid account.1 account.2 rfl).1]
  adminPasswordValid := by
    cases admin with
    | none => simp [AuthEnv.given]
    | some account =>
        intro _
        simp [Property.violations, AuthEnv.adminPasswordProperty, Rule.check,
          Validator.plain, (valid account.1 account.2 rfl).2]

def sampleDeployment (jwt : Jwt) : Deployment where
  validator := .plain
  mapping := .ascii
  arithmetic := .exact
  bcrypt := .sample
  jwt := jwt
  granularity := .statements
  JWT_SECRET := sampleSecret

end Cinema
