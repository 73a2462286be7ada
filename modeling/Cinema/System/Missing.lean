import Cinema.Catalog.Handlers
import Cinema.Interleaving.Sequential
import Cinema.Orders.Handlers
import Cinema.System.Purchase

/-!
# Requests for what is not there

Six routes look a movie or an order up by its id.  All of them find nothing if
there is nothing; but an id is sent to the database as the number it is, and
the key columns hold 32 bits.
-/

namespace Cinema.System

open Interleaving Relational Shared Text Auth Catalog Orders Gateway Backend

variable {deployment : Deployment}

/-! ## Requests that are served alone -/

/-- The request carries a token that is accepted for the user. -/
def Authenticated (deployment : Deployment) (request : HttpRequest)
    (circumstances : Circumstances) : Option AuthUser → Prop
  | none => True
  | some user => ∃ token claims,
      extractBearerToken request.authorization = some token ∧
        deployment.jwt.verify deployment.JWT_SECRET circumstances.now token =
          some claims ∧
        AuthUser.ofPayload claims = some user

/-- The databases are up, and the token is valid at the moment. -/
def Attends (deployment : Deployment) (request : HttpRequest)
    (user : Option AuthUser) (circumstances : Circumstances) : Prop :=
  circumstances.fault = none ∧
    Authenticated deployment request circumstances user

/-- An error with a status, and no table has changed. -/
def Refused (status : ℚ) (store : SystemStore deployment.validator)
    (outcome : Except Thrown SystemAnswer)
    (final : SystemStore deployment.validator) : Prop :=
  final = store ∧ ∃ thrown, outcome = .error thrown ∧
    thrown.statusCode = some status ∧
    ∀ error message, thrown ≠ .rpc error message

section Served

variable {request : HttpRequest} {user : Option AuthUser}
  {message : ServiceMessage} {store : SystemStore deployment.validator}

/-- Whoever sends a message that is refused fails with the same status. -/
theorem surely_relayed {calm : Circumstances → Prop} {status : ℚ}
    {next : message.Answer → SystemProgram deployment}
    (served : (system deployment).Surely calm
      (handle deployment (.service message)) store (Refused status store)) :
    (system deployment).Surely calm (.call (.send message) next) store
      (Refused status store) := by
  apply Network.surely_send rfl served
  intro outcome middle refused
  obtain ⟨rfl, thrown, rfl, isStatus, notRpc⟩ := refused
  apply Network.surely_fail
  refine ⟨rfl, _, rfl, ?_, fun error text => by simp [relayed]⟩
  rw [relayed_statusCode notRpc, isStatus]

theorem surely_http {status : ℚ}
    (forwards : Forwards deployment.validator deployment.mapping request.route
      user message)
    (attended : ∃ circumstances, Attends deployment request user circumstances)
    (served : (system deployment).Surely (Attends deployment request user)
      (handle deployment (.service message)) store (Refused status store)) :
    (system deployment).Surely (Attends deployment request user)
      (handle deployment (.http request)) store (Refused status store) := by
  cases user with
  | none =>
      rw [handle_open forwards]
      exact surely_relayed served
  | some user =>
      have possible := attended
      obtain ⟨circumstances, _, token, _, isToken, _⟩ := attended
      obtain ⟨next, program, passes⟩ := handle_guarded forwards isToken
      rw [program]
      apply Network.surely_perform rfl possible
      intro moment attends
      obtain ⟨_, other, claims, isOther, verified, isUser⟩ := attends
      rw [isToken] at isOther
      cases isOther
      change (system deployment).Surely _
        (next (deployment.jwt.verify deployment.JWT_SECRET moment.now token))
        store _
      rw [verified, passes claims isUser]
      exact surely_relayed served

end Served

/-! ## What the statements find -/

def NoMovie (store : SystemStore deployment.validator) (id : ℤ) : Prop :=
  ∀ row ∈ store.databases.movies.rows, row.id.val ≠ id

/-- The user owns no order with the id. -/
def NoOrder (store : SystemStore deployment.validator) (userId id : ℤ) :
    Prop :=
  ∀ row ∈ store.databases.orders.rows, row.id.val = id → row.userId.val ≠ userId

/-- The status for an id without a row. -/
def missingStatus (id : ℤ) : ℚ := if id ≤ 2147483647 then 404 else 500

section Statements

variable {Row Entity Patch : Type} {schema : Schema Row Entity Patch}
  {surroundings : Surroundings} {table : Table Row schema.key} {id : ℤ}

theorem rejected_integer (positive : 0 < id) :
    (Parameter.integer id).rejected =
      if id ≤ 2147483647 then none else some .outOfRange := by
  have above : -2147483648 ≤ id := by omega
  simp [Parameter.rejected, above]

/-- A selection by an id that no row has. -/
theorem execStatement_missing (healthy : surroundings.fault = none)
    (positive : 0 < id) {criteria : List (Option (Criterion Row))}
    {others : List Parameter}
    (byId : criteria.reduceOption.map Criterion.parameter =
      .integer id :: others)
    (accepted : others.findSome? Parameter.rejected = none)
    (absent : ∀ row ∈ table.rows, matchesAll criteria row ≠ true) :
    execStatement schema surroundings (.matching criteria) table =
      (if id ≤ 2147483647 then .ok []
        else .error (queryFailed schema (.matching criteria) .outOfRange),
        table) := by
  have nothing : table.rows.filter (matchesAll criteria) = [] :=
    List.filter_eq_nil_iff.mpr absent
  simp only [execStatement, healthy, Schema.exec, byId, List.findSome?_cons,
    rejected_integer positive]
  by_cases inRange : id ≤ 2147483647
  · simp only [if_pos inRange, accepted, nothing]
    rfl
  · simp only [if_neg inRange]
    rfl

/-- A deletion by an id that no row has. -/
theorem execStatement_delete_missing (healthy : surroundings.fault = none)
    (positive : 0 < id) (absent : ¬ table.Has id) :
    execStatement schema surroundings (.delete id) table =
      (if id ≤ 2147483647 then .ok 0
        else .error (queryFailed schema (.delete id) .outOfRange), table) := by
  have same : table.erase id = table := by
    obtain ⟨rows, nextId, distinct⟩ := table
    have kept := Table.erase_rows_of_not_has absent
    simp only [Table.erase] at kept ⊢
    simp only [kept]
  simp only [execStatement, healthy, Schema.exec, rejected_integer positive]
  by_cases inRange : id ≤ 2147483647
  · simp only [if_pos inRange, absent, if_false, same]
    rfl
  · simp only [if_neg inRange]
    rfl

end Statements

/-- The call finds nothing for the id, or is refused for it, and leaves the
store alone. -/
def Misses (id : ℤ) (store : SystemStore deployment.validator)
    (call : SystemCall deployment.validator) (nothing : SystemReply call)
    (circumstances : Circumstances) : Prop :=
  ∃ parameters, exec deployment circumstances call store =
    (if id ≤ 2147483647 then .ok nothing
      else .error (.queryFailed SqlError.outOfRange.code parameters), store)

theorem surely_misses {calm : Circumstances → Prop} {id : ℤ}
    {store : SystemStore deployment.validator}
    {call : SystemCall deployment.validator} {nothing : SystemReply call}
    {next : SystemReply call → SystemProgram deployment} {text : String}
    (isLocal : remote call = none) (possible : ∃ moment, calm moment)
    (misses : ∀ moment, calm moment → Misses id store call nothing moment)
    (notFound : next nothing = .fail (notFoundException text)) :
    (system deployment).Surely calm (.call call next) store
      (Refused (missingStatus id) store) := by
  apply Network.surely_perform isLocal possible
  intro moment isCalm
  obtain ⟨parameters, executed⟩ := misses moment isCalm
  have result : (system deployment).exec moment call store = _ := executed
  rw [result]
  unfold missingStatus
  by_cases inRange : id ≤ 2147483647
  · simp only [if_pos inRange, Program.resume_ok, notFound]
    exact Network.surely_fail
      ⟨rfl, _, rfl, statusCode_http _, by simp [notFoundException]⟩
  · simp only [if_neg inRange, Program.resume_error]
    exact Network.surely_fail ⟨rfl, _, rfl, rfl, by simp⟩

section Calls

variable {request : HttpRequest} {user : Option AuthUser} {id : ℤ}
  {store : SystemStore deployment.validator} {moment : Circumstances}

theorem misses_movie (positive : 0 < id) (noMovie : NoMovie store id)
    (attends : Attends deployment request user moment) :
    Misses id store (.movies (.matching (movieCriteria id))) [] moment := by
  have absent : ∀ row ∈ store.databases.movies.rows,
      matchesAll (movieCriteria id) row ≠ true := by
    intro row member
    simp [matchesAll, movieCriteria, List.reduceOption, Criterion.integer,
      noMovie row member]
  have executed : execStatement movieSchema moment.toSurroundings
      (.matching (movieCriteria id)) store.databases.movies = _ :=
    execStatement_missing attends.1 positive rfl rfl absent
  refine ⟨[.num id], ?_⟩
  simp only [exec, executed]
  rfl

theorem misses_deletion (positive : 0 < id) (noMovie : NoMovie store id)
    (attends : Attends deployment request user moment) :
    Misses id store (.movies (.delete id)) (0 : Nat) moment := by
  have absent : ¬ store.databases.movies.Has id := by
    rintro ⟨row, member, same⟩
    exact noMovie row member same
  have executed : execStatement movieSchema moment.toSurroundings (.delete id)
      store.databases.movies = _ :=
    execStatement_delete_missing attends.1 positive absent
  refine ⟨[.num id], ?_⟩
  simp only [exec, executed]
  rfl

/-- The id of an account is one of a serial column. -/
def IsAccountId (userId : ℤ) : Prop := 1 ≤ userId ∧ userId ≤ 2147483647

theorem misses_order {dto : UserOrderPayload} (account : IsAccountId dto.userId)
    (noOrder : NoOrder store dto.userId dto.orderId)
    (attends : Attends deployment request user moment) :
    Misses dto.orderId store (.orders (.matching (ownedCriteria dto))) []
      moment := by
  have absent : ∀ row ∈ store.databases.orders.rows,
      matchesAll (ownedCriteria dto) row ≠ true := by
    intro row member
    simp only [ne_eq, matchesAll_iff]
    intro matched
    have isOrder := matched ⟨.integer dto.orderId, _⟩ List.mem_cons_self
    have isOwner := matched ⟨.integer dto.userId, _⟩
      (List.mem_cons_of_mem _ List.mem_cons_self)
    exact noOrder row member (of_decide_eq_true isOrder)
      (of_decide_eq_true isOwner)
  have accepted : [Parameter.integer dto.userId].findSome?
      Parameter.rejected = none := by
    have inRange : -2147483648 ≤ dto.userId ∧ dto.userId ≤ 2147483647 := by
      unfold IsAccountId at account
      omega
    simp [Parameter.rejected, inRange]
  have executed : execStatement orderSchema moment.toSurroundings
      (.matching (ownedCriteria dto)) store.databases.orders = _ :=
    execStatement_missing attends.1 dto.orderIdPositive rfl accepted absent
  refine ⟨[.num dto.orderId, .num dto.userId], ?_⟩
  simp only [exec, executed]
  rfl

end Calls

/-! ## The handlers -/

section Handlers

variable {payload : Json}

theorem handle_updateMovie {dto : UpdateMoviePayload deployment.validator}
    (valid : UpdateMoviePayload.validate deployment.validator payload =
      .ok dto) :
    ∃ next, handle deployment (.service (.catalog .UPDATE_MOVIE payload)) =
        .call (.movies (.matching (movieCriteria dto.id))) next ∧
      next [] = .fail (notFoundException s!"Movie {dto.id} not found") := by
  simp only [handle, handleCatalog, Catalog.MoviesController.handle,
    Catalog.MoviesController.update, valid]
  exact ⟨_, rfl, rfl⟩

theorem handle_removeMovie {dto : IdPayload}
    (valid : IdPayload.validate deployment.validator payload = .ok dto) :
    ∃ next, handle deployment (.service (.catalog .DELETE_MOVIE payload)) =
        .call (.movies (.delete dto.id)) next ∧
      next (0 : Nat) = .fail (notFoundException s!"Movie {dto.id} not found") := by
  simp only [handle, handleCatalog, Catalog.MoviesController.handle,
    Catalog.MoviesController.remove, valid]
  exact ⟨_, rfl, rfl⟩

theorem handle_findOneOrder {dto : UserOrderPayload}
    (valid : UserOrderPayload.validate deployment.validator payload =
      .ok dto) :
    ∃ next, handle deployment (.service (.orders .FIND_USER_ORDER payload)) =
        .call (.orders (.matching (ownedCriteria dto))) next ∧
      next [] = .fail (notFoundException s!"Order {dto.orderId} not found") := by
  simp only [handle, handleOrders, Orders.OrdersController.handle,
    Orders.OrdersController.findOne, valid]
  exact ⟨_, rfl, rfl⟩

theorem handle_cancelOrder {dto : UserOrderPayload}
    (valid : UserOrderPayload.validate deployment.validator payload =
      .ok dto) :
    ∃ next, handle deployment (.service (.orders .CANCEL_USER_ORDER payload)) =
        .call (.orders (.matching (ownedCriteria dto))) next ∧
      next [] = .fail (notFoundException s!"Order {dto.orderId} not found") := by
  simp only [handle, handleOrders, Orders.OrdersController.handle,
    Orders.OrdersController.cancel, valid]
  exact ⟨_, rfl, rfl⟩

end Handlers

/-! ## The six routes -/

/-- A request that is accepted, for an id that is not there. -/
inductive AsksForMissing (deployment : Deployment)
    (store : SystemStore deployment.validator) (id : ℤ) :
    Route → Option AuthUser → Prop where
  | findOneMovie {value} (parsed : parseIntPipe value = .ok id)
      (noMovie : NoMovie store id) :
      AsksForMissing deployment store id (.findOneMovie value) none
  | updateMovie {user value body changes} (isAdmin : user.role = .ADMIN)
      (parsed : parseIntPipe value = .ok id)
      (valid : validationPipe deployment.validator UpdateMovieDto.properties
        body = .ok changes)
      (noMovie : NoMovie store id) :
      AsksForMissing deployment store id (.updateMovie value body) (some user)
  | removeMovie {user value} (isAdmin : user.role = .ADMIN)
      (parsed : parseIntPipe value = .ok id) (noMovie : NoMovie store id) :
      AsksForMissing deployment store id (.removeMovie value) (some user)
  | createOrder {user body dto} (account : IsAccountId user.id)
      (valid : validationPipe deployment.validator CreateOrderDto.properties
        body = .ok dto)
      (isMovie : dto.int (positiveInt "movieId") = id)
      (noMovie : NoMovie store id) :
      AsksForMissing deployment store id (.createOrder body) (some user)
  | findOneOrder {user value} (account : IsAccountId user.id)
      (parsed : parseIntPipe value = .ok id)
      (noOrder : NoOrder store user.id id) :
      AsksForMissing deployment store id (.findOneOrder value) (some user)
  | cancelOrder {user value} (account : IsAccountId user.id)
      (parsed : parseIntPipe value = .ok id)
      (noOrder : NoOrder store user.id id) :
      AsksForMissing deployment store id (.cancelOrder value) (some user)

section Routes

variable {request : HttpRequest} {user : Option AuthUser} {id : ℤ}
  {store : SystemStore deployment.validator}

/-- The catalog looks a movie up for the gateway and for the order service. -/
private theorem surely_findOneMovie (positive : 0 < id)
    (noMovie : NoMovie store id)
    (attended : ∃ moment, Attends deployment request user moment) :
    (system deployment).Surely (Attends deployment request user)
      (handle deployment (.service (.catalog .FIND_ONE_MOVIE (idMessage id))))
      store (Refused (missingStatus id) store) := by
  obtain ⟨dto, valid, rfl⟩ :=
    @IdPayload.validate_id deployment.validator id positive
  rw [idMessage, handle_findOneMovie valid]
  exact surely_misses rfl attended
    (fun moment attends => misses_movie positive noMovie attends) rfl

/-- Whether it is there is decided by the range of the key. -/
theorem surely_missing (positive : 0 < id)
    (asks : AsksForMissing deployment store id request.route user)
    (attended : ∃ moment, Attends deployment request user moment) :
    (system deployment).Surely (Attends deployment request user)
      (handle deployment (.http request)) store
      (Refused (missingStatus id) store) := by
  obtain ⟨authorization, route⟩ := request
  cases asks with
  | findOneMovie parsed noMovie =>
      apply surely_http (.findOneMovie parsed) attended
      exact surely_findOneMovie positive noMovie attended
  | @updateMovie user value body changes isAdmin parsed accepted noMovie =>
      apply surely_http (.updateMovie isAdmin parsed accepted) attended
      obtain ⟨dto, valid, rfl⟩ :=
        UpdateMoviePayload.validate_changes changes positive
      obtain ⟨next, program, notFound⟩ := handle_updateMovie valid
      rw [program]
      exact surely_misses rfl attended
        (fun moment attends => misses_movie positive noMovie attends) notFound
  | removeMovie isAdmin parsed noMovie =>
      apply surely_http (.removeMovie isAdmin parsed) attended
      obtain ⟨dto, valid, rfl⟩ := IdPayload.validate_id positive
      obtain ⟨next, program, notFound⟩ := handle_removeMovie valid
      rw [program]
      exact surely_misses rfl attended
        (fun moment attends => misses_deletion positive noMovie attends)
        notFound
  | @createOrder user body accepted account valid isMovie noMovie =>
      apply surely_http (.createOrder valid) attended
      have userPositive : 0 < user.id := by
        unfold IsAccountId at account
        omega
      obtain ⟨dto, validOrder, _, sameMovie⟩ :=
        CreateOrderPayload.validate_override accepted userPositive
      rw [handle_createOrder validOrder, sameMovie, isMovie]
      apply surely_relayed
      exact surely_findOneMovie positive noMovie attended
  | @findOneOrder user value account parsed noOrder =>
      apply surely_http (.findOneOrder parsed) attended
      have userPositive : 0 < user.id := by
        unfold IsAccountId at account
        omega
      obtain ⟨dto, valid, isUser, rfl⟩ :=
        UserOrderPayload.validate_ids userPositive positive
      obtain ⟨next, program, notFound⟩ := handle_findOneOrder valid
      rw [program]
      rw [← isUser] at account noOrder
      exact surely_misses rfl attended
        (fun moment attends => misses_order account noOrder attends) notFound
  | @cancelOrder user value account parsed noOrder =>
      apply surely_http (.cancelOrder parsed) attended
      have userPositive : 0 < user.id := by
        unfold IsAccountId at account
        omega
      obtain ⟨dto, valid, isUser, rfl⟩ :=
        UserOrderPayload.validate_ids userPositive positive
      obtain ⟨next, program, notFound⟩ := handle_cancelOrder valid
      rw [program]
      rw [← isUser] at account noOrder
      exact surely_misses rfl attended
        (fun moment attends => misses_order account noOrder attends) notFound

/-- For an id that does not fit the key the answer is another one. -/
private theorem not_surely_404 (positive : 0 < id)
    (tooLarge : ¬ id ≤ 2147483647)
    (asks : AsksForMissing deployment store id request.route user)
    (attended : ∃ moment, Attends deployment request user moment) :
    ¬ (system deployment).Surely (Attends deployment request user)
        (handle deployment (.http request)) store (Refused 404 store) := by
  have answered := surely_missing positive asks attended
  rw [missingStatus, if_neg tooLarge] at answered
  intro found
  obtain ⟨⟨outcome, final, alone⟩, always⟩ := answered
  obtain ⟨_, thrown, rfl, is500, _⟩ := always outcome final alone
  obtain ⟨_, _, same, is404, _⟩ := found.2 _ final alone
  cases same
  rw [is500] at is404
  norm_num at is404

/-- A request for an id that is not there is answered 404, and changes no
table, if and only if the id fits the key columns. -/
theorem missing_is_404 (positive : 0 < id)
    (asks : AsksForMissing deployment store id request.route user)
    (attended : ∃ moment, Attends deployment request user moment) :
    (system deployment).Surely (Attends deployment request user)
        (handle deployment (.http request)) store (Refused 404 store) ↔
      id ≤ 2147483647 := by
  constructor
  · intro found
    by_contra tooLarge
    exact not_surely_404 positive tooLarge asks attended found
  · intro inRange
    have answered := surely_missing positive asks attended
    rw [missingStatus, if_pos inRange] at answered
    exact answered

/-- It is so answered in a run, whatever else waits to be served. -/
theorem missing_answered {traffic : SystemTraffic deployment}
    (positive : 0 < id)
    (asks : AsksForMissing deployment traffic.store id request.route user)
    (attended : ∃ moment, Attends deployment request user moment) :
    ∃ later job thrown,
      (system deployment).Runs anyClients traffic later ∧
        later.store = traffic.store ∧
        later.jobs[traffic.jobs.length]? = some job ∧
        job.message = .http request ∧
        job.outcome = some (.error thrown) ∧
        thrown.statusCode = some (missingStatus id) := by
  obtain ⟨⟨outcome, final, alone⟩, always⟩ :=
    surely_missing positive asks attended
  obtain ⟨rfl, thrown, rfl, isStatus, _⟩ := always outcome final alone
  have admitted : anyClients traffic (.http request) := trivial
  obtain ⟨later, job, runs, same, found, isRequest, ends⟩ :=
    Network.Alone.message admitted alone
  exact ⟨later, job, thrown, runs, same, found, isRequest, ends, isStatus⟩

end Routes

/-- A user asks for an order that nobody has. -/
theorem missing_is_404_example :
    ∃ (store : SystemStore Validator.plain) (request : HttpRequest)
      (user : Option AuthUser),
      (system (sampleDeployment (.sample 7 "ripley@example.com" .USER))).Surely
        (Attends (sampleDeployment (.sample 7 "ripley@example.com" .USER))
          request user)
        (handle _ (.http request)) store (Refused 404 store) := by
  let deployment := sampleDeployment (.sample 7 "ripley@example.com" .USER)
  let user : AuthUser := ⟨7, some (.str "ripley@example.com"), .USER⟩
  let request : HttpRequest := ⟨some "Bearer token", .findOneOrder (some 5)⟩
  let store : SystemStore deployment.validator := ⟨∅, sampleDatabases, []⟩
  have parsed : parseIntPipe (some 5) = .ok 5 := by norm_num [parseIntPipe]
  have noOrder : NoOrder store user.id 5 := by
    intro row member isOrder
    rw [List.mem_singleton.mp member] at isOrder
    cases isOrder
  have asks : AsksForMissing deployment store 5 request.route (some user) :=
    .findOneOrder ⟨by decide, by decide⟩ parsed noOrder
  have attends : Attends deployment request (some user) ⟨calm 1, 0, 0⟩ :=
    ⟨rfl, "token", Jwt.samplePayload 7 "ripley@example.com" .USER, by decide, rfl,
      rfl⟩
  exact ⟨store, request, some user,
    (missing_is_404 (by decide) asks ⟨_, attends⟩).mpr (by decide)⟩

/-- A movie is looked up by an id that is accepted but fits no key. -/
theorem missing_is_500 :
    ∃ (store : SystemStore Validator.plain) (request : HttpRequest),
      request = ⟨none, .findOneMovie (some 2147483648)⟩ ∧
        store = ⟨∅, ⟨∅, ∅⟩, []⟩ ∧
        AsksForMissing (sampleDeployment (.sample 7 "ripley@example.com" .USER))
          store 2147483648 request.route none ∧
        ¬ (system (sampleDeployment
            (.sample 7 "ripley@example.com" .USER))).Surely
          (Attends (sampleDeployment (.sample 7 "ripley@example.com" .USER))
            request none)
          (handle _ (.http request)) store (Refused 404 store) := by
  let deployment := sampleDeployment (.sample 7 "ripley@example.com" .USER)
  let request : HttpRequest := ⟨none, .findOneMovie (some 2147483648)⟩
  let store : SystemStore deployment.validator := ⟨∅, ⟨∅, ∅⟩, []⟩
  have parsed : parseIntPipe (some 2147483648) = .ok 2147483648 := by
    norm_num [parseIntPipe]
  have asks : AsksForMissing deployment store 2147483648 request.route none :=
    .findOneMovie parsed fun row member => absurd member List.not_mem_nil
  have attends : Attends deployment request none ⟨calm 1, 0, 0⟩ :=
    ⟨rfl, trivial⟩
  exact ⟨store, request, rfl, rfl, asks,
    not_surely_404 (by decide) (by decide) asks ⟨_, attends⟩⟩

end Cinema.System
