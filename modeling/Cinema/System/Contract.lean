import Cinema.Interleaving.Failures
import Cinema.System.Secrecy

/-!
# The error contract

The statuses that every route and every message can be answered with, and the
one shape of the bodies: what is thrown in a service is reported with one of
the statuses of its message, and its client throws it with the same status and
the same three fields.
-/

namespace Cinema.System

open Interleaving Relational Shared Text Auth Catalog Orders Gateway

variable {deployment : Deployment}

/-! ## The statuses -/

/-- What a client throws on its own. -/
def clientStatuses : List ℚ := [502, 503, 504]

/-- What the handler of a message reports. -/
def messageStatuses : ServiceMessage → List ℚ
  | .auth .REGISTER _ => [400, 409, 500]
  | .auth .LOGIN _ => [400, 401, 500]
  | .auth .GET_PROFILE _ => [400, 404, 500]
  | .catalog .FIND_ALL_MOVIES _ => [500]
  | .catalog .FIND_ONE_MOVIE _ => [400, 404, 500]
  | .catalog .CREATE_MOVIE _ => [400, 409, 500]
  | .catalog .UPDATE_MOVIE _ => [400, 404, 409, 500]
  | .catalog .DELETE_MOVIE _ => [400, 404, 500]
  | .orders .CREATE_ORDER _ => [400, 404, 409, 500] ++ clientStatuses
  | .orders .FIND_USER_ORDERS _ => [400, 500]
  | .orders .FIND_USER_ORDER _ => [400, 404, 500]
  | .orders .CANCEL_USER_ORDER _ => [400, 404, 409, 500]

/-- What the gateway answers on a route that does not succeed. -/
def routeStatuses : Route → List ℚ
  | .register _ => [400, 409, 500] ++ clientStatuses
  | .login _ => [400, 401, 500] ++ clientStatuses
  | .me => [400, 401, 404, 500] ++ clientStatuses
  | .findAllMovies => [500] ++ clientStatuses
  | .findOneMovie _ => [400, 404, 500] ++ clientStatuses
  | .createMovie _ => [400, 401, 403, 409, 500] ++ clientStatuses
  | .updateMovie _ _ => [400, 401, 403, 404, 409, 500] ++ clientStatuses
  | .removeMovie _ => [400, 401, 403, 404, 500] ++ clientStatuses
  | .createOrder _ => [400, 401, 404, 409, 500] ++ clientStatuses
  | .findAllOrders => [400, 401, 500] ++ clientStatuses
  | .findOneOrder _ => [400, 401, 404, 500] ++ clientStatuses
  | .cancelOrder _ => [400, 401, 404, 409, 500] ++ clientStatuses

/-- What the gateway refuses on its own. -/
def ownStatuses : Route → List ℚ
  | .register _ | .login _ | .findOneMovie _ => [400]
  | .me | .findAllOrders => [401]
  | .findAllMovies => []
  | .createMovie _ | .updateMovie _ _ | .removeMovie _ => [400, 401, 403]
  | .createOrder _ | .findOneOrder _ | .cancelOrder _ => [400, 401]

/-- What a handler reports of a payload that it does not refuse. -/
def laterStatuses : ServiceMessage → List ℚ
  | .auth .REGISTER _ => [409, 500]
  | .auth .LOGIN _ => [401, 500]
  | .auth .GET_PROFILE _ => [404, 500]
  | .catalog .FIND_ALL_MOVIES _ => [500]
  | .catalog .FIND_ONE_MOVIE _ => [404, 500]
  | .catalog .CREATE_MOVIE _ => [409, 500]
  | .catalog .UPDATE_MOVIE _ => [404, 409, 500]
  | .catalog .DELETE_MOVIE _ => [404, 500]
  | .orders .CREATE_ORDER _ => [404, 409, 500] ++ clientStatuses
  | .orders .FIND_USER_ORDERS _ => [500]
  | .orders .FIND_USER_ORDER _ => [404, 500]
  | .orders .CANCEL_USER_ORDER _ => [404, 409, 500]

theorem laterStatuses_subset (message : ServiceMessage) :
    laterStatuses message ⊆ messageStatuses message := by
  rcases message with ⟨pattern, payload⟩ | ⟨pattern, payload⟩ |
      ⟨pattern, payload⟩ <;>
    cases pattern <;> simp [laterStatuses, messageStatuses, clientStatuses]

theorem bad_notMem_laterStatuses (message : ServiceMessage) :
    400 ∉ laterStatuses message := by
  rcases message with ⟨pattern, payload⟩ | ⟨pattern, payload⟩ |
      ⟨pattern, payload⟩ <;>
    cases pattern <;> norm_num [laterStatuses, clientStatuses]

/-- What a handler checks before its first statement: the pipe, and in a
registration that the passwords agree. -/
def checks (validator : Validator) (mapping : CaseMapping) :
    ServiceMessage → Except Thrown Unit
  | .auth .REGISTER payload =>
      (RegisterDto.validate validator mapping payload).bind fun dto =>
        if dto.password ≠ dto.confirmPassword then
          .error (badRequestException "Passwords do not match")
        else .ok ()
  | .auth .LOGIN payload =>
      (LoginDto.validate validator mapping payload).map fun _ => ()
  | .auth .GET_PROFILE payload =>
      (UserIdPayload.validate validator payload).map fun _ => ()
  | .catalog .FIND_ALL_MOVIES _ => .ok ()
  | .catalog .FIND_ONE_MOVIE payload =>
      (IdPayload.validate validator payload).map fun _ => ()
  | .catalog .CREATE_MOVIE payload =>
      (CreateMovieDto.validate validator payload).map fun _ => ()
  | .catalog .UPDATE_MOVIE payload =>
      (UpdateMoviePayload.validate validator payload).map fun _ => ()
  | .catalog .DELETE_MOVIE payload =>
      (IdPayload.validate validator payload).map fun _ => ()
  | .orders .CREATE_ORDER payload =>
      (CreateOrderPayload.validate validator payload).map fun _ => ()
  | .orders .FIND_USER_ORDERS payload =>
      (UserIdPayload.validate validator payload).map fun _ => ()
  | .orders .FIND_USER_ORDER payload =>
      (UserOrderPayload.validate validator payload).map fun _ => ()
  | .orders .CANCEL_USER_ORDER payload =>
      (UserOrderPayload.validate validator payload).map fun _ => ()

/-! ## What is reported -/

/-- A service reports the thrown value in the one shape. -/
structure Reports (statuses : List ℚ) (thrown : Thrown) : Prop where
  notRpc : ∀ error message, thrown ≠ .rpc error message
  presentable : thrown.Presentable
  status : ownStatus thrown ∈ statuses

/-- The gateway answers in the one shape. -/
structure Presents (statuses : List ℚ) (exception : HttpException) : Prop
    where
  shape : RpcErrorPayload exception.response
  sameStatus : statusCodeOf exception.response = some exception.status
  status : exception.status ∈ statuses

section Shape

variable {statuses more : List ℚ} {thrown : Thrown}
  {exception : HttpException}

theorem Reports.mono (reports : Reports statuses thrown)
    (listed : statuses ⊆ more) : Reports more thrown :=
  ⟨reports.notRpc, reports.presentable, listed reports.status⟩

theorem Presents.mono (presents : Presents statuses exception)
    (listed : statuses ⊆ more) : Presents more exception :=
  ⟨presents.shape, presents.sameStatus, listed presents.status⟩

/-- An exception in the one shape is reported in it. -/
theorem Presents.reports (presents : Presents statuses exception) :
    Reports statuses (.http exception) where
  notRpc error message same := by cases same
  presentable := by
    obtain ⟨text, isMessage, good⟩ := presents.shape.message
    obtain ⟨name, isError⟩ := presents.shape.error
    refine .inr ⟨fun given isGiven _ => ?_, fun given isGiven _ => ?_⟩
    · rw [isMessage] at isGiven
      cases isGiven
      exact good
    · rw [isError] at isGiven
      cases isGiven
      exact ⟨name, rfl⟩
  status := presents.status

/-- The exceptions of the framework have the shape. -/
theorem presents_standard {status : ℚ} (error name message : String)
    (listed : status ∈ statuses) :
    Presents statuses (.standard status error name message) where
  shape := ⟨⟨status, rfl⟩, ⟨.str message, rfl, trivial⟩, error, rfl⟩
  sameStatus := rfl
  status := listed

/-- So has the one of the validation pipe. -/
theorem presents_messages (messages : List String) (listed : 400 ∈ statuses) :
    ∃ exception, badRequestMessages messages = .http exception ∧
      Presents statuses exception := by
  refine ⟨_, rfl, ⟨⟨400, rfl⟩, ⟨_, rfl, ?_⟩, _, rfl⟩, rfl, listed⟩
  intro item member
  obtain ⟨text, _, same⟩ := List.mem_map.mp member
  exact ⟨text, same.symm⟩

/-- What a client throws for a service is what the service has reported. -/
theorem presents_relayed (reports : Reports statuses thrown)
    (service : Services) :
    ∃ exception, relayed service thrown = .http exception ∧
      Presents statuses exception := by
  obtain ⟨message, error, _, _, payload⟩ := toRpcErrorPayload_eq reports.notRpc
  have shape := (shape_iff_presentable thrown).mpr reports.presentable
  rw [payload] at shape
  obtain ⟨sameStatus, sameResponse⟩ :=
    toHttpException_rpcErrorPayload (ownStatus thrown) message error service
  refine ⟨_, rfl, ?_, ?_, ?_⟩
  · rw [payload, sameResponse]
    exact shape
  · rw [payload, sameResponse, sameStatus]
    exact statusCodeOf_rpcErrorPayload _ _ _
  · rw [payload, sameStatus]
    exact reports.status

/-- What a client throws on its own. -/
theorem presents_gaveUp (service : Services) (failure : ClientFailure) :
    ∃ exception, gaveUp service failure = .http exception ∧
      Presents clientStatuses exception := by
  have unexpected : ∀ known : Bool, Presents clientStatuses
      (if known = true then
        serviceUnavailableException s!"{service.value} is unavailable"
      else
        badGatewayException s!"Unexpected response from {service.value}") := by
    intro known
    cases known with
    | true => exact presents_standard _ _ _ (by simp [clientStatuses])
    | false => exact presents_standard _ _ _ (by simp [clientStatuses])
  refine ⟨_, rfl, ?_⟩
  cases failure with
  | timeout => exact presents_standard _ _ _ (by simp [clientStatuses])
  | connection code => exact unexpected (code ∈ CONNECTION_ERROR_CODES)
  | other => exact unexpected false

theorem reports_standard {status : ℚ} (error name message : String)
    (listed : status ∈ statuses) :
    Reports statuses (.http (.standard status error name message)) :=
  (presents_standard error name message listed).reports

/-- An error that the service does not know is an internal one. -/
theorem reports_other (listed : 500 ∈ statuses) : Reports statuses .other where
  notRpc error message same := by cases same
  presentable := trivial
  status := listed

/-- Whatever a handler reads from a payload, a refusal is a bad request, or the
validation has thrown. -/
theorem reports_rejected {value : Type} {validator : Validator}
    {properties : List Property} {payload : Json}
    {build : Instance validator properties → value} (listed : 400 ∈ statuses)
    (internal : 500 ∈ statuses)
    (rejected : (validationPipe validator properties payload).map build =
      .error thrown) : Reports statuses thrown := by
  cases outcome : validationPipe validator properties payload with
  | ok accepted =>
      rw [outcome] at rejected
      cases rejected
  | error refusal =>
      rw [outcome] at rejected
      cases rejected
      rcases validationPipe_error outcome with ⟨messages, rfl⟩ | ⟨_, rfl⟩
      · obtain ⟨exception, isException, presents⟩ :=
          presents_messages messages listed
        rw [isException]
        exact presents.reports
      · exact reports_other internal

end Shape

/-- The handler of a message refuses the payload, or reports what comes
later. -/
inductive Tells (validator : Validator) (mapping : CaseMapping)
    (message : ServiceMessage) (thrown : Thrown) : Prop
  | refused (refusal : checks validator mapping message = .error thrown)
  | later (reports : Reports (laterStatuses message) thrown)

section Tells

variable {validator : Validator} {mapping : CaseMapping}
  {message : ServiceMessage} {thrown : Thrown}

theorem reports_checks
    (refusal : checks validator mapping message = .error thrown) :
    Reports [400, 500] thrown := by
  have rejected : ∀ {value : Type} {properties : List Property}
      {payload : Json} {build : Instance validator properties → value},
      ((validationPipe validator properties payload).map build).map
        (fun _ => ()) = .error thrown → Reports [400, 500] thrown := by
    intro value properties payload build failed
    cases validated : (validationPipe validator properties payload).map build with
    | ok dto =>
        rw [validated] at failed
        cases failed
    | error error =>
        rw [validated] at failed
        cases failed
        exact reports_rejected (by simp) (by simp) validated
  rcases message with ⟨pattern, payload⟩ | ⟨pattern, payload⟩ |
      ⟨pattern, payload⟩ <;> cases pattern
  case auth.REGISTER =>
    simp only [checks] at refusal
    cases validated : RegisterDto.validate validator mapping payload with
    | error error =>
        rw [validated] at refusal
        cases refusal
        exact reports_rejected (by simp) (by simp) validated
    | ok dto =>
        simp only [validated, Except.bind] at refusal
        split at refusal
        · cases refusal
          exact reports_standard _ _ _ (by simp)
        · cases refusal
  case catalog.FIND_ALL_MOVIES => cases refusal
  all_goals exact rejected refusal

theorem Tells.reports (tells : Tells validator mapping message thrown) :
    Reports (messageStatuses message) thrown := by
  cases tells with
  | later reports => exact reports.mono (laterStatuses_subset message)
  | refused refusal =>
      have reports := reports_checks refusal
      apply reports.mono
      rcases message with ⟨pattern, payload⟩ | ⟨pattern, payload⟩ |
          ⟨pattern, payload⟩ <;> cases pattern
      case catalog.FIND_ALL_MOVIES => cases refusal
      all_goals simp [messageStatuses]

/-- Nothing but a refusal is reported as a bad request. -/
theorem Tells.bad (tells : Tells validator mapping message thrown)
    (bad : ownStatus thrown = 400) :
    checks validator mapping message = .error thrown := by
  cases tells with
  | refused refusal => exact refusal
  | later reports =>
      have status := reports.status
      rw [bad] at status
      exact absurd status (bad_notMem_laterStatuses message)

end Tells

/-! ## What the databases report -/

/-- What fails outside the statements themselves is an error of the driver,
and no violation of a unique constraint. -/
def Sane (surroundings : Surroundings) : Prop :=
  ∀ thrown, surroundings.fault = some thrown → thrown = .other ∨
    ∃ code parameters, thrown = .queryFailed code parameters ∧
      code ≠ PG_UNIQUE_VIOLATION

/-- Only a statement that writes can meet a duplicate. -/
def statementStatuses {Row Entity Patch : Type} :
    SqlCall Row Entity Patch → List ℚ
  | .select _ _ | .reread _ | .delete _ => [500]
  | _ => [409, 500]

section Statements

variable {Row Entity Patch : Type} {schema : Schema Row Entity Patch}

theorem reports_queryFailed {statuses : List ℚ} {code : String}
    {parameters : List Json}
    (listed : (if code = PG_UNIQUE_VIOLATION then 409 else 500) ∈ statuses) :
    Reports statuses (.queryFailed code parameters) where
  notRpc error message same := by cases same
  presentable := trivial
  status := listed

private theorem rejected_code {parameter : Parameter} {error : SqlError}
    (rejected : parameter.rejected = some error) :
    error.code ≠ PG_UNIQUE_VIOLATION := by
  have known : error = .outOfRange ∨ error = .invalidText := by
    cases parameter with
    | integer value | smallint value | text value =>
        simp only [Parameter.rejected] at rejected
        split at rejected <;> simp_all
    | numeric value | timestamp value => cases rejected
  rcases known with rfl | rfl <;>
    simp [SqlError.code, PG_UNIQUE_VIOLATION]

/-- A statement that only reads or deletes meets no duplicate. -/
theorem exec_code (now : Nat) {statement : SqlCall Row Entity Patch}
    {table : Table Row schema.key} {error : SqlError}
    (failed : (schema.exec now statement table).1 = .error error) :
    (if error.code = PG_UNIQUE_VIOLATION then 409 else 500 : ℚ) ∈
      statementStatuses statement := by
  have writes : (if error.code = PG_UNIQUE_VIOLATION then 409 else 500 : ℚ) ∈
      ([409, 500] : List ℚ) := by
    split <;> simp
  have internal : error.code ≠ PG_UNIQUE_VIOLATION →
      (if error.code = PG_UNIQUE_VIOLATION then 409 else 500 : ℚ) ∈
        ([500] : List ℚ) := by
    intro other
    simp [other]
  cases statement with
  | select parameters condition =>
      apply internal
      simp only [Schema.exec] at failed
      split at failed
      · rename_i refusal isRejected
        cases failed
        obtain ⟨parameter, _, rejected⟩ :=
          List.exists_of_findSome?_eq_some isRejected
        exact rejected_code rejected
      · cases failed
  | reread id => cases failed
  | delete id =>
      apply internal
      simp only [Schema.exec] at failed
      split at failed
      · rename_i refusal rejected
        cases failed
        exact rejected_code rejected
      · cases failed
  | insert | save | update | reinsert => exact writes

theorem reports_execStatement {surroundings : Surroundings}
    (sane : Sane surroundings) {statement : SqlCall Row Entity Patch}
    {table : Table Row schema.key} {thrown : Thrown}
    (failed : (execStatement schema surroundings statement table).1 =
      .error thrown) : Reports (statementStatuses statement) thrown := by
  have always : (500 : ℚ) ∈ statementStatuses statement := by
    cases statement <;> simp [statementStatuses]
  unfold execStatement at failed
  cases fault : surroundings.fault with
  | some failure =>
      simp only [fault] at failed
      cases failed
      rcases sane thrown fault with rfl | ⟨code, parameters, rfl, other⟩
      · exact reports_other always
      · exact reports_queryFailed (by simpa [other] using always)
  | none =>
      simp only [fault] at failed
      cases result : (schema.exec surroundings.now statement table).1 with
      | ok reply => simp [result, Except.mapError] at failed
      | error error =>
          simp only [result, Except.mapError, Except.error.injEq] at failed
          rw [← failed]
          exact reports_queryFailed (exec_code _ result)

end Statements

/-! ## What the handlers report -/

section Services

variable {Call : Type} {Reply : Call → Type} {fails : Call → Thrown → Prop}
  {statuses : List ℚ} {validator : Validator} {mapping : CaseMapping}

/-- Every statement of a repository fails as the database does. -/
def Reporting {Row Entity Patch : Type} {schema : Schema Row Entity Patch}
    (repository : Repository schema Call Reply Thrown)
    (fails : Call → Thrown → Prop) : Prop :=
  ∀ statement, (repository.statement statement).Throws fails
    (Reports (statementStatuses statement))

section Statements

variable {Row Entity Patch : Type} {schema : Schema Row Entity Patch}
  {repository : Repository schema Call Reply Thrown}

theorem Reporting.reads (reporting : Reporting repository fails)
    {statement : SqlCall Row Entity Patch}
    (reads : statementStatuses statement = [500]) (internal : 500 ∈ statuses) :
    (repository.statement statement).Throws fails (Reports statuses) := by
  refine (reporting statement).mono fun thrown reports => reports.mono ?_
  rw [reads]
  simpa using internal

theorem Reporting.all (reporting : Reporting repository fails)
    (conflict : 409 ∈ statuses) (internal : 500 ∈ statuses)
    (statement : SqlCall Row Entity Patch) :
    (repository.statement statement).Throws fails (Reports statuses) := by
  refine (reporting statement).mono fun thrown reports => reports.mono ?_
  cases statement <;> simp [statementStatuses, conflict, internal]

end Statements

section Catalog

variable {movies : Repository movieSchema Call Reply Thrown}
  (reporting : Reporting movies fails)
include reporting

private theorem throws_findOne (missing : 404 ∈ statuses)
    (internal : 500 ∈ statuses) (id : ℤ) :
    (MoviesService.findOne movies id).Throws fails (Reports statuses) := by
  refine (Repository.throws_findOneBy
    (reporting.reads rfl internal)).bind fun movie => ?_
  cases movie with
  | none => exact reports_standard _ _ _ missing
  | some movie => trivial

private theorem throws_assertTitleIsFree (conflict : 409 ∈ statuses)
    (internal : 500 ∈ statuses) (title : Option String)
    (releaseYear excludeId : Option ℤ) :
    (MoviesService.assertTitleIsFree movies title releaseYear
      excludeId).Throws fails (Reports statuses) := by
  refine (Repository.throws_existsBy
    (reporting.reads rfl internal)).bind fun found => ?_
  cases found with
  | true => exact reports_standard _ _ _ conflict
  | false => trivial

/-- The catalog. -/
theorem throws_movies (pattern : CatalogPatterns) (payload : Json) :
    (Catalog.MoviesController.handle validator movies pattern payload).Throws
      fails (Tells validator mapping (.catalog pattern payload)) := by
  cases pattern with
  | FIND_ALL_MOVIES =>
      exact ((Repository.throws_find (reporting.reads rfl
        (by simp [laterStatuses])) _).mono fun _ => .later).map _
  | FIND_ONE_MOVIE =>
      refine (Program.throws_ofExcept_bind (fun thrown rejected =>
        .refused (by simp [checks, rejected, Except.map])) fun dto _ => ?_).map _
      exact (throws_findOne reporting (by simp [laterStatuses])
        (by simp [laterStatuses]) _).mono fun _ => .later
  | CREATE_MOVIE =>
      refine (Program.throws_ofExcept_bind (fun thrown rejected =>
        .refused (by simp [checks, rejected, Except.map])) fun dto _ => ?_).map _
      have issued : ∀ statement, (movies.statement statement).Throws fails
          (Reports (laterStatuses (.catalog .CREATE_MOVIE payload))) :=
        reporting.all (by simp [laterStatuses]) (by simp [laterStatuses])
      exact ((throws_assertTitleIsFree reporting (by simp [laterStatuses])
        (by simp [laterStatuses]) _ _ _).bind fun _ =>
          Repository.throws_save issued _).mono fun _ => .later
  | UPDATE_MOVIE =>
      refine (Program.throws_ofExcept_bind (fun thrown rejected =>
        .refused (by simp [checks, rejected, Except.map])) fun dto _ => ?_).map _
      have issued : ∀ statement, (movies.statement statement).Throws fails
          (Reports (laterStatuses (.catalog .UPDATE_MOVIE payload))) :=
        reporting.all (by simp [laterStatuses]) (by simp [laterStatuses])
      refine Program.Throws.mono ?_ fun _ => .later
      refine (throws_findOne reporting (by simp [laterStatuses])
        (by simp [laterStatuses]) _).bind fun movie => ?_
      dsimp only
      split
      · exact (throws_assertTitleIsFree reporting
          (by simp [laterStatuses]) (by simp [laterStatuses])
          _ _ _).bind fun _ => Repository.throws_save issued _
      · exact Repository.throws_save issued _
  | DELETE_MOVIE =>
      refine (Program.throws_ofExcept_bind (fun thrown rejected =>
        .refused (by simp [checks, rejected, Except.map])) fun dto _ => ?_).map _
      refine Program.Throws.mono ?_ fun _ => .later
      refine Program.Throws.bind ?_ fun _ => trivial
      refine Program.Throws.bind (reporting.reads rfl
        (by simp [laterStatuses])) fun affected => ?_
      split
      · exact reports_standard _ _ _ (by simp [laterStatuses])
      · trivial

end Catalog

section Orders

variable {orders : Repository orderSchema Call Reply Thrown}
  {arithmetic : Arithmetic} {catalog : CatalogClient Call Reply}
  (reporting : Reporting orders fails)
include reporting

private theorem throws_findOneForUser (missing : 404 ∈ statuses)
    (internal : 500 ∈ statuses) (userId orderId : ℤ) :
    (OrdersService.findOneForUser orders userId orderId).Throws fails
      (Reports statuses) := by
  refine (Repository.throws_findOneBy
    (reporting.reads rfl internal)).bind fun order => ?_
  cases order with
  | none => exact reports_standard _ _ _ missing
  | some order => trivial

/-- The order service, which passes on what the lookup fails with. -/
theorem throws_orders
    (lookup : ∀ id : IdPayload,
      (catalog (.obj [("id", .num id.id)])).Throws fails
        (Reports ([404, 500] ++ clientStatuses)))
    (pattern : OrderPatterns) (payload : Json) :
    (Orders.OrdersController.handle validator orders arithmetic catalog pattern
      payload).Throws fails
        (Tells validator mapping (.orders pattern payload)) := by
  cases pattern with
  | CREATE_ORDER =>
      refine (Program.throws_ofExcept_bind (fun thrown rejected =>
        .refused (by simp [checks, rejected, Except.map])) fun dto _ => ?_).map _
      refine Program.Throws.mono ?_ fun _ => .later
      refine ((lookup ⟨dto.movieId, dto.movieIdPositive⟩).mono
        fun thrown reports => reports.mono ?_).bind fun movie => ?_
      · intro status listed
        simp only [List.mem_append, List.mem_cons, laterStatuses] at *
        tauto
      · exact Repository.throws_save (reporting.all
          (by simp [laterStatuses]) (by simp [laterStatuses])) _
  | FIND_USER_ORDERS =>
      refine (Program.throws_ofExcept_bind (fun thrown rejected =>
        .refused (by simp [checks, rejected, Except.map])) fun dto _ => ?_).map _
      exact (Repository.throws_find (reporting.reads rfl
        (by simp [laterStatuses])) _).mono fun _ => .later
  | FIND_USER_ORDER =>
      refine (Program.throws_ofExcept_bind (fun thrown rejected =>
        .refused (by simp [checks, rejected, Except.map])) fun dto _ => ?_).map _
      exact (throws_findOneForUser reporting (by simp [laterStatuses])
        (by simp [laterStatuses]) _ _).mono fun _ => .later
  | CANCEL_USER_ORDER =>
      refine (Program.throws_ofExcept_bind (fun thrown rejected =>
        .refused (by simp [checks, rejected, Except.map])) fun dto _ => ?_).map _
      refine Program.Throws.mono ?_ fun _ => .later
      refine (throws_findOneForUser reporting (by simp [laterStatuses])
        (by simp [laterStatuses]) _ _).bind fun order => ?_
      split
      · exact reports_standard _ _ _ (by simp [laterStatuses])
      · exact Repository.throws_save (reporting.all
          (by simp [laterStatuses]) (by simp [laterStatuses])) _

end Orders

section Auth

variable {users : Repository userSchema Call Reply Thrown}
  {crypto : Crypto Call Reply} {config : AuthEnv validator}
  (reporting : Reporting users fails)
include reporting

section Hashing

variable (hashes : ∀ password rounds,
  (crypto.hash password rounds).Throws fails fun _ => False)
include hashes

private theorem throws_createUser (conflict : 409 ∈ statuses)
    (internal : 500 ∈ statuses) (email password : String) (role : Role) :
    (AuthService.createUser users crypto email password role).Throws fails
      (Reports statuses) :=
  ((hashes _ _).mono fun _ impossible => impossible.elim).bind
    fun _ =>
      (Repository.throws_save (reporting.all conflict internal) _).map _

theorem throws_ensureAdminAccount (conflict : 409 ∈ statuses)
    (internal : 500 ∈ statuses) :
    (AuthService.ensureAdminAccount users crypto config mapping).Throws fails
      (Reports statuses) := by
  unfold AuthService.ensureAdminAccount
  split
  · trivial
  · refine (Repository.throws_existsBy
      (reporting.reads rfl internal)).bind fun found => ?_
    split
    · trivial
    · exact (throws_createUser reporting hashes conflict internal _ _ _).map _

end Hashing

/-- The auth service. -/
theorem throws_accounts
    (hashes : ∀ password rounds,
      (crypto.hash password rounds).Throws fails fun _ => False)
    (compares : ∀ password passwordHash,
      (crypto.compare password passwordHash).Throws fails fun _ => False)
    (signs : ∀ secret expiresIn payload,
      (crypto.signAsync secret expiresIn payload).Throws fails (Reports [500]))
    (pattern : AuthPatterns) (payload : Json) :
    (Auth.AuthController.handle validator mapping users crypto config pattern
      payload).Throws fails
        (Tells validator mapping (.auth pattern payload)) := by
  cases pattern with
  | REGISTER =>
      refine (Program.throws_ofExcept_bind (fun thrown rejected =>
        .refused (by simp [checks, rejected, Except.bind]))
        fun dto valid => ?_).map _
      unfold AuthService.register
      split
      · rename_i differ
        exact .refused (by simp [checks, valid, Except.bind, differ])
      · refine Program.Throws.mono ?_ fun _ => .later
        refine (Repository.throws_existsBy (reporting.reads rfl
          (by simp [laterStatuses]))).bind fun found => ?_
        split
        · exact reports_standard _ _ _ (by simp [laterStatuses])
        · exact throws_createUser reporting hashes
            (by simp [laterStatuses]) (by simp [laterStatuses]) _ _ _
  | LOGIN =>
      refine (Program.throws_ofExcept_bind (fun thrown rejected =>
        .refused (by simp [checks, rejected, Except.map])) fun dto _ => ?_).map _
      refine Program.Throws.mono ?_ fun _ => .later
      refine Program.Throws.bind (reporting.reads rfl
        (by simp [laterStatuses])) fun rows => ?_
      cases rows with
      | nil => exact reports_standard _ _ _ (by simp [laterStatuses])
      | cons row rest =>
          refine Program.Throws.bind ((compares _ _).mono
            fun _ impossible => impossible.elim) fun passwordMatches => ?_
          split
          · exact reports_standard _ _ _ (by simp [laterStatuses])
          · exact ((signs _ _ _).mono fun thrown reports =>
              reports.mono (by simp [laterStatuses])).map _
  | GET_PROFILE =>
      refine (Program.throws_ofExcept_bind (fun thrown rejected =>
        .refused (by simp [checks, rejected, Except.map])) fun dto _ => ?_).map _
      refine Program.Throws.mono ?_ fun _ => .later
      refine (Repository.throws_findOneBy (reporting.reads rfl
        (by simp [laterStatuses]))).bind fun user => ?_
      cases user with
      | none => exact reports_standard _ _ _ (by simp [laterStatuses])
      | some user => trivial

end Auth

end Services

/-! ## What the gateway answers -/

/-- An exception that the gateway answers in the one shape. -/
def Answers (statuses : List ℚ) (thrown : Thrown) : Prop :=
  ∃ exception, thrown = .http exception ∧ Presents statuses exception

theorem Answers.mono {statuses more : List ℚ} {thrown : Thrown}
    (answers : Answers statuses thrown) (listed : statuses ⊆ more) :
    Answers more thrown := by
  obtain ⟨exception, isException, presents⟩ := answers
  exact ⟨exception, isException, presents.mono listed⟩

theorem answers_standard {statuses : List ℚ} {status : ℚ}
    (error name message : String) (listed : status ∈ statuses) :
    Answers statuses (.http (.standard status error name message)) :=
  ⟨_, rfl, presents_standard error name message listed⟩

variable (deployment) in
/-- What the calls fail with. -/
def Fails : SystemCall deployment.validator → Thrown → Prop
  | .verify _, _ | .listen _, _ | .hash _ _, _ | .compare _ _, _ => False
  | .process, thrown | .sign _ _ _, thrown => Reports [500] thrown
  | .users statement, thrown => Reports (statementStatuses statement) thrown
  | .movies statement, thrown => Reports (statementStatuses statement) thrown
  | .orders statement, thrown => Reports (statementStatuses statement) thrown
  | .send message, thrown =>
      Answers (messageStatuses message ++ clientStatuses) thrown ∧
        (ownStatus thrown = 400 → ∃ refusal, checks deployment.validator
          deployment.mapping message = .error refusal)

/-- The validation of the body throws: the price of a movie is a number whose
text has an exponent and no point. -/
def Stumbles : Route → Prop
  | .createMovie body | .updateMovie _ body => ∃ price,
      body.get "ticketPrice" = some (.num price) ∧
        Json.bareExponent price = true
  | _ => False

variable (deployment) in
/-- What the messages fail with. -/
def Fine : SystemMessage deployment.validator → Thrown → Prop
  | .http request, thrown => Answers (routeStatuses request.route) thrown ∨
      Stumbles request.route ∧ thrown = .other
  | .start _, thrown => Reports [409, 500] thrown
  | .service message, thrown =>
      Tells deployment.validator deployment.mapping message thrown

/-- A request is refused by the gateway, or what a client throws for its
message is passed on. -/
inductive Passes
    (fails : SystemCall deployment.validator → Thrown → Prop) (route : Route)
    (thrown : Thrown) : Prop
  | own (answers : Answers (ownStatuses route) thrown)
  | stumbled (stumbles : Stumbles route) (isOther : thrown = .other)
  | forwarded {user message}
      (forwards : Forwards deployment.validator deployment.mapping route user
        message)
      (failed : fails (.send message) thrown)

section Gateway

variable {fails : SystemCall deployment.validator → Thrown → Prop}
  {route : Route} {α : Type}

private theorem throws_pipe {properties : List Property} {body : Json}
    {rest : Instance deployment.validator properties →
      Program (SystemCall deployment.validator) SystemReply Thrown α}
    (bad : 400 ∈ ownStatuses route)
    (stumbles :
      validationThrows properties (transformed properties body) = true →
        Stumbles route)
    (later : ∀ dto,
      validationPipe deployment.validator properties body = .ok dto →
        (rest dto).Throws fails (Passes fails route)) :
    (.ofExcept (validationPipe deployment.validator properties body) >>=
      rest).Throws fails (Passes fails route) := by
  refine Program.throws_ofExcept_bind (fun thrown rejected => ?_) later
  rcases validationPipe_error rejected with ⟨messages, rfl⟩ | ⟨throws, isOther⟩
  · exact .own (presents_messages messages bad)
  · exact .stumbled (stumbles throws) isOther

private theorem throws_calm_pipe {properties : List Property} {body : Json}
    {rest : Instance deployment.validator properties →
      Program (SystemCall deployment.validator) SystemReply Thrown α}
    (bad : 400 ∈ ownStatuses route) (calm : Calm properties)
    (later : ∀ dto,
      validationPipe deployment.validator properties body = .ok dto →
        (rest dto).Throws fails (Passes fails route)) :
    (.ofExcept (validationPipe deployment.validator properties body) >>=
      rest).Throws fails (Passes fails route) := by
  refine throws_pipe bad (fun throws => ?_) later
  rw [calm.validationThrows] at throws
  cases throws

private theorem throws_parse {value : Option ℚ}
    {rest : ℤ → Program (SystemCall deployment.validator) SystemReply Thrown α}
    (bad : 400 ∈ ownStatuses route)
    (later : ∀ id, parseIntPipe value = .ok id →
      (rest id).Throws fails (Passes fails route)) :
    (.ofExcept (parseIntPipe value) >>= rest).Throws fails
      (Passes fails route) := by
  refine Program.throws_ofExcept_bind (fun thrown rejected => .own ?_) later
  unfold parseIntPipe at rejected
  split at rejected
  · split at rejected
    · cases rejected
    · cases rejected
      exact answers_standard _ _ _ bad
  · cases rejected
    exact answers_standard _ _ _ bad

private theorem throws_guard
    (verifies : ∀ token thrown, ¬ fails (.verify token) thrown)
    {authorization : Option String}
    {rest : AuthUser →
      Program (SystemCall deployment.validator) SystemReply Thrown α}
    (unauthorized : 401 ∈ ownStatuses route)
    (later : ∀ user, (rest user).Throws fails (Passes fails route)) :
    (jwtAuthGuard clients authorization >>= rest).Throws fails
      (Passes fails route) := by
  refine Program.Throws.bind ?_ later
  unfold jwtAuthGuard
  split
  · exact .own (answers_standard _ _ _ unauthorized)
  · refine ⟨fun thrown failed => absurd failed (verifies _ _),
      fun claims => ?_⟩
    cases claims with
    | none => exact .own (answers_standard _ _ _ unauthorized)
    | some payload =>
        cases isUser : AuthUser.ofPayload payload with
        | none =>
            simp only [Program.bind, isUser]
            exact .own (answers_standard _ _ _ unauthorized)
        | some user =>
            simp only [Program.bind, isUser]
            trivial

private theorem throws_roles {user : AuthUser}
    {rest : Unit →
      Program (SystemCall deployment.validator) SystemReply Thrown α}
    (forbidden : 403 ∈ ownStatuses route)
    (later : ∀ passed, user.role = .ADMIN →
      (rest passed).Throws fails (Passes fails route)) :
    (.ofExcept (rolesGuard [.ADMIN] user) >>= rest).Throws fails
      (Passes fails route) := by
  refine Program.throws_ofExcept_bind (fun thrown rejected => .own ?_)
    fun passed isAdmin => later passed (by simpa [rolesGuard] using isAdmin)
  unfold rolesGuard at rejected
  split at rejected
  · cases rejected
  · split at rejected
    · cases rejected
    · cases rejected
      exact answers_standard _ _ _ forbidden

private theorem throws_send {user : Option AuthUser} {message : ServiceMessage}
    (forwards : Forwards deployment.validator deployment.mapping route user
      message)
    {rest : message.Answer → GatewayAnswer} :
    ((Program.perform (SystemCall.send message) :
        Program (SystemCall deployment.validator) SystemReply Thrown
          message.Answer) >>= fun answer => pure (rest answer)).Throws fails
      (Passes fails route) :=
  ⟨fun _ failed => .forwarded forwards failed, fun _ => trivial⟩

/-- Every route refuses with its own statuses, and passes the rest on. -/
theorem throws_http
    (verifies : ∀ token thrown, ¬ fails (.verify token) thrown)
    (request : HttpRequest) :
    (handle deployment (.http request)).Throws fails
      (Passes fails request.route) := by
  obtain ⟨authorization, route⟩ := request
  apply Program.Throws.map
  cases route with
  | register body =>
      exact throws_calm_pipe (by simp [ownStatuses]) (RegisterDto.calm _)
        fun dto valid => throws_send (.register valid)
  | login body =>
      exact throws_calm_pipe (by simp [ownStatuses]) (LoginDto.calm _)
        fun dto valid => throws_send (.login valid)
  | me =>
      exact throws_guard verifies (by simp [ownStatuses]) fun user =>
        throws_send .me
  | findAllMovies => exact throws_send .findAllMovies
  | findOneMovie value =>
      exact throws_parse (by simp [ownStatuses]) fun id parsed =>
        throws_send (.findOneMovie parsed)
  | createMovie body =>
      refine throws_guard verifies (by simp [ownStatuses]) fun user => ?_
      refine throws_roles (by simp [ownStatuses]) fun _ isAdmin => ?_
      exact throws_pipe (by simp [ownStatuses]) CreateMovieDto.price_of_throws
        fun dto valid => throws_send (.createMovie isAdmin valid)
  | updateMovie value body =>
      refine throws_guard verifies (by simp [ownStatuses]) fun user => ?_
      refine throws_roles (by simp [ownStatuses]) fun _ isAdmin => ?_
      refine throws_parse (by simp [ownStatuses]) fun id parsed => ?_
      exact throws_pipe (by simp [ownStatuses]) UpdateMovieDto.price_of_throws
        fun changes valid => throws_send (.updateMovie isAdmin parsed valid)
  | removeMovie value =>
      refine throws_guard verifies (by simp [ownStatuses]) fun user => ?_
      refine throws_roles (by simp [ownStatuses]) fun _ isAdmin => ?_
      exact throws_parse (by simp [ownStatuses]) fun id parsed =>
        throws_send (.removeMovie isAdmin parsed)
  | createOrder body =>
      refine throws_guard verifies (by simp [ownStatuses]) fun user => ?_
      exact throws_calm_pipe (by simp [ownStatuses]) CreateOrderDto.calm
        fun dto valid => throws_send (.createOrder valid)
  | findAllOrders =>
      exact throws_guard verifies (by simp [ownStatuses]) fun user =>
        throws_send .findAllOrders
  | findOneOrder value =>
      refine throws_guard verifies (by simp [ownStatuses]) fun user => ?_
      exact throws_parse (by simp [ownStatuses]) fun id parsed =>
        throws_send (.findOneOrder parsed)
  | cancelOrder value =>
      refine throws_guard verifies (by simp [ownStatuses]) fun user => ?_
      exact throws_parse (by simp [ownStatuses]) fun id parsed =>
        throws_send (.cancelOrder parsed)

/-- The statuses of a route are those of the gateway and of its message. -/
theorem Passes.answers {thrown : Thrown}
    (passes : Passes (Fails deployment) route thrown) :
    Answers (routeStatuses route) thrown ∨
      Stumbles route ∧ thrown = .other := by
  cases passes with
  | own answers =>
      refine .inl (answers.mono ?_)
      cases route <;> simp [ownStatuses, routeStatuses]
  | stumbled stumbles isOther => exact .inr ⟨stumbles, isOther⟩
  | forwarded forwards failed =>
      refine .inl (failed.1.mono ?_)
      cases forwards <;>
        simp [messageStatuses, routeStatuses, clientStatuses]

end Gateway

/-! ## Every run -/

private theorem reporting_users (granularity : Granularity) :
    Reporting (users granularity : Repository userSchema
      (SystemCall deployment.validator) SystemReply Thrown) (Fails deployment) :=
  fun _ => Program.throws_perform fun _ reports => reports

private theorem reporting_movies (granularity : Granularity) :
    Reporting (movies granularity : Repository movieSchema
      (SystemCall deployment.validator) SystemReply Thrown) (Fails deployment) :=
  fun _ => Program.throws_perform fun _ reports => reports

private theorem reporting_orders (granularity : Granularity) :
    Reporting (orders granularity : Repository orderSchema
      (SystemCall deployment.validator) SystemReply Thrown) (Fails deployment) :=
  fun _ => Program.throws_perform fun _ reports => reports

/-- The catalog never refuses the payload of a lookup. -/
private theorem reports_lookup {id : IdPayload} {thrown : Thrown}
    (failed : Fails deployment
      (.send (.catalog .FIND_ONE_MOVIE (.obj [("id", .num id.id)]))) thrown) :
    Reports ([404, 500] ++ clientStatuses) thrown := by
  obtain ⟨⟨exception, rfl, presents⟩, refused⟩ := failed
  have reports := presents.reports
  refine ⟨reports.notRpc, reports.presentable, ?_⟩
  rcases List.mem_cons.mp reports.status with bad | status
  · obtain ⟨refusal, isRefused⟩ := refused bad
    obtain ⟨dto, passes, _⟩ :=
      @IdPayload.validate_id deployment.validator id.id id.positive
    rw [checks, passes] at isRefused
    cases isRefused
  · exact status

theorem throws_handle (message : SystemMessage deployment.validator) :
    (handle deployment message).Throws (Fails deployment)
      (Fine deployment message) := by
  cases message with
  | http request =>
      exact (throws_http (fun _ _ impossible => impossible) request).mono
        fun _ passes => passes.answers
  | start config =>
      refine Program.Throws.bind (Program.Throws.bind ?_ fun _ => ?_)
        fun _ => trivial
      · exact throws_ensureAdminAccount (reporting_users _)
          (fun _ _ => Program.throws_perform fun _ impossible => impossible)
          (by simp) (by simp)
      · exact Program.throws_perform fun _ impossible => impossible.elim
  | service message =>
      cases message with
      | auth pattern payload =>
          have internal : ([500] : List ℚ) ⊆
              laterStatuses (.auth pattern payload) := by
            cases pattern <;> simp [laterStatuses]
          have signs : ∀ secret expiresIn claims,
              (crypto.signAsync secret expiresIn claims :
                Program (SystemCall deployment.validator) SystemReply Thrown
                  String).Throws (Fails deployment) (Reports [500]) :=
            fun _ _ _ => Program.throws_perform fun _ reports => reports
          have processes : (Program.perform SystemCall.process :
              Program (SystemCall deployment.validator) SystemReply Thrown
                (AuthEnv deployment.validator)).Throws (Fails deployment)
                (Tells deployment.validator deployment.mapping
                  (.auth pattern payload)) :=
            Program.throws_perform fun thrown reports =>
              .later (Reports.mono reports internal)
          refine (processes.bind fun config => ?_).map _
          exact throws_accounts (reporting_users _)
            (fun _ _ => Program.throws_perform fun _ impossible => impossible)
            (fun _ _ => Program.throws_perform fun _ impossible => impossible)
            signs pattern payload
      | catalog pattern payload =>
          exact (throws_movies (reporting_movies _) pattern payload).map _
      | orders pattern payload =>
          refine (throws_orders (reporting_orders _) (fun id => ?_)
            pattern payload).map _
          refine ⟨fun thrown failed => reports_lookup failed, fun answer => ?_⟩
          · cases answer with
            | movie movie => trivial
            | movies | deleted => exact reports_other (by simp)

theorem ownStatus_relayed {thrown : Thrown}
    (notRpc : ∀ error message, thrown ≠ .rpc error message)
    (service : Services) :
    ownStatus (relayed service thrown) = ownStatus thrown := by
  obtain ⟨message, error, _, _, payload⟩ := toRpcErrorPayload_eq notRpc
  rw [relayed, payload]
  exact (toHttpException_rpcErrorPayload _ message error service).1

private theorem fails_relayed {message : ServiceMessage} {thrown : Thrown}
    (tells : Tells deployment.validator deployment.mapping message thrown) :
    Fails deployment (.send message) (relayed message.service thrown) := by
  have reports := tells.reports
  obtain ⟨exception, isException, presents⟩ :=
    presents_relayed reports message.service
  refine ⟨⟨exception, isException, presents.mono (by simp)⟩, fun bad => ?_⟩
  rw [ownStatus_relayed reports.notRpc] at bad
  exact ⟨thrown, tells.bad bad⟩

theorem ownStatus_gaveUp (service : Services) (failure : ClientFailure) :
    ownStatus (gaveUp service failure) ∈ clientStatuses := by
  obtain ⟨exception, isException, presents⟩ := presents_gaveUp service failure
  rw [isException]
  exact presents.reports.status

theorem ownStatus_gaveUp_ne {status : ℚ} (other : status ∉ clientStatuses)
    (service : Services) (failure : ClientFailure) :
    ownStatus (gaveUp service failure) ≠ status := by
  intro same
  rw [← same] at other
  exact other (ownStatus_gaveUp service failure)

private theorem fails_gaveUp (message : ServiceMessage)
    (failure : ClientFailure) :
    Fails deployment (.send message) (gaveUp message.service failure) := by
  obtain ⟨exception, isException, presents⟩ :=
    presents_gaveUp message.service failure
  exact ⟨⟨exception, isException, presents.mono (by simp)⟩,
    fun bad =>
      absurd bad (ownStatus_gaveUp_ne (by norm_num [clientStatuses]) _ _)⟩

/-- No call fails with anything else in sane surroundings. -/
theorem confines (deployment : Deployment) :
    (system deployment).Confines (fun _ => True)
      (fun circumstances => Sane circumstances.toSurroundings)
      (Fails deployment) (Fine deployment) where
  handlers := throws_handle
  performs := by
    intro circumstances store call thrown _ sane isLocal failed
    cases call with
    | verify | listen | hash | compare => cases failed
    | process =>
        change (exec deployment circumstances .process store).1 = _ at failed
        simp only [exec] at failed
        split at failed
        · cases failed
        · cases failed
          exact reports_other (by simp)
    | sign secret expiresIn payload =>
        change (exec deployment circumstances (.sign secret expiresIn payload)
          store).1 = _ at failed
        simp only [exec] at failed
        split at failed
        · cases failed
        · cases failed
          exact reports_other (by simp)
    | users statement | movies statement | orders statement =>
        exact reports_execStatement sane failed
    | send message => cases isLocal
  receives := by
    intro call message outcome thrown isRemote reports failed
    cases call with
    | send sent =>
        cases isRemote
        cases outcome with
        | error failure =>
            cases failed
            exact fails_relayed (reports failure rfl)
        | ok answer =>
            change receive (.send sent) (.ok answer) = _ at failed
            simp only [receive] at failed
            split at failed
            · cases failed
            · cases failed
              exact fails_gaveUp sent .other
    | _ => cases isRemote
  abandons := by
    intro call message failure isRemote
    cases call with
    | send sent => exact fails_gaveUp sent failure
    | _ => cases isRemote

section Runs

variable {store : SystemStore deployment.validator}
  {traffic : SystemTraffic deployment}

end Runs

/-! ## A missing movie -/

/-- Nothing has failed around a call. -/
def undisturbed (exchange : SystemExchange deployment) : Bool :=
  match exchange.means with
  | .performed circumstances => circumstances.fault.isNone
  | _ => true

theorem undisturbed_of_calls {traffic : SystemTraffic deployment}
    (calls : traffic.jobs.all fun job => job.calls.all undisturbed) :
    Network.Undisturbed
      (fun circumstances : Circumstances => Sane circumstances.toSurroundings)
      traffic := by
  intro job member exchange made circumstances performed thrown fault
  have calm := List.all_eq_true.mp (List.all_eq_true.mp calls job member)
    exchange made
  simp only [undisturbed, performed, fault] at calm
  cases calm

/-- A request with the status and the body of the error it is answered with. -/
def errorOf (job : SystemJob deployment) :
    Option (HttpRequest × ℚ × Json) :=
  match job.message, job.outcome.map httpAnswer with
  | .http request, some (.error answer) => some (request, answer)
  | _, _ => none

theorem errorOf_eq_some {job : SystemJob deployment}
    {request : HttpRequest} {answer : ℚ × Json}
    (isError : errorOf job = some (request, answer)) :
    job.message = .http request ∧
      job.outcome.map httpAnswer = some (.error answer) := by
  unfold errorOf at isError
  split at isError
  · rename_i isRequest answered
    cases isError
    exact ⟨isRequest, answered⟩
  · cases isError

end Cinema.System
