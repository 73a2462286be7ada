import Cinema.Interleaving.Atomicity
import Cinema.Catalog.Rules
import Cinema.Orders.Ledger
import Cinema.System.Purchase

/-!
# The backend within the whole system

The catalog and the order service of the whole system do nothing that they
could not do over their two databases alone, where a lookup reads the movie in
one step.  What holds of every run of the backend holds of them.
-/

namespace Cinema.System

open Interleaving Relational Shared Text Auth Catalog Orders Gateway

/-! ## The same handler over two repositories -/

section Repositories

variable {Store Base Call Op : Type} {Reply : Call → Type} {Result : Op → Type}
  {Msg Req α β : Type}
  {reading : Reading Msg Store Call Reply α Req Base Op Result β}
  {Row Entity Patch : Type} {schema : Schema Row Entity Patch}

/-- Two repositories that issue the same statements. -/
structure ReadsRepository
    (reading : Reading Msg Store Call Reply α Req Base Op Result β)
    (left : Repository schema Call Reply Thrown)
    (right : Repository schema Op Result Thrown) : Prop where
  granularity : left.granularity = right.granularity
  statement : ∀ statement, reading.Programs Eq
    (left.statement statement) (right.statement statement)

variable {left : Repository schema Call Reply Thrown}
  {right : Repository schema Op Result Thrown}
  (same : ReadsRepository reading left right)
include same

private theorem reads_find (criteria : List (Option (Criterion Row)))
    (order : Row → Row → Prop) [DecidableRel order] :
    reading.Programs Eq
      (left.find criteria order) (right.find criteria order) :=
  (same.statement _).map_eq _

private theorem reads_findOneBy (criteria : List (Option (Criterion Row))) :
    reading.Programs Eq
      (left.findOneBy criteria) (right.findOneBy criteria) :=
  (same.statement _).map_eq _

private theorem reads_existsBy (criteria : List (Option (Criterion Row))) :
    reading.Programs Eq
      (left.existsBy criteria) (right.existsBy criteria) :=
  (same.statement _).map_eq _

private theorem reads_save (entity : Entity) :
    reading.Programs Eq (left.save entity)
      (right.save entity) := by
  unfold Repository.save
  rw [same.granularity]
  cases schema.idOf entity with
  | none => exact (same.statement _).map_eq _
  | some id =>
      cases right.granularity with
      | atomicSave =>
          exact (same.statement _).map_eq _
      | statements =>
          refine (same.statement _).bind fun found result rows => ?_
          subst rows
          cases found with
          | none => exact (same.statement _).map_eq _
          | some row =>
              cases differs : schema.diff entity row with
              | none =>
                  simp only [differs]
                  exact .done rfl
              | some patch =>
                  simp only [differs]
                  exact (same.statement _).map_eq _

end Repositories

section Services

variable {Store Base Call Op : Type} {Reply : Call → Type} {Result : Op → Type}
  {Msg Req α β : Type}
  {reading : Reading Msg Store Call Reply α Req Base Op Result β}
  {validator : Validator}

section Catalog

variable {left : Repository movieSchema Call Reply Thrown}
  {right : Repository movieSchema Op Result Thrown}
  (same : ReadsRepository reading left right)
include same

private theorem reads_findOne (id : ℤ) :
    reading.Programs Eq
      (MoviesService.findOne left id) (MoviesService.findOne right id) := by
  refine (reads_findOneBy same _).bind fun found result movies => ?_
  subst movies
  cases found with
  | none => exact .fail _
  | some movie => exact .done rfl

private theorem reads_assertTitleIsFree (title : Option String)
    (releaseYear excludeId : Option ℤ) :
    reading.Programs Eq
      (MoviesService.assertTitleIsFree left title releaseYear excludeId)
      (MoviesService.assertTitleIsFree right title releaseYear excludeId) := by
  refine (reads_existsBy same _).bind fun found result taken => ?_
  subst taken
  cases found with
  | true => exact .fail _
  | false => exact .done rfl

theorem reads_movies (pattern : CatalogPatterns) (payload : Json) :
    reading.Programs Eq
      (Catalog.MoviesController.handle validator left pattern payload)
      (Catalog.MoviesController.handle validator right pattern payload) := by
  cases pattern with
  | FIND_ALL_MOVIES =>
      exact (reads_find same _ _).map_eq _
  | FIND_ONE_MOVIE =>
      exact (Reading.Programs.ofExcept fun dto => reads_findOne same _).map_eq _
  | CREATE_MOVIE =>
      refine (Reading.Programs.ofExcept fun dto => ?_).map_eq _
      exact (reads_assertTitleIsFree same _ _ _).bind fun _ _ _ =>
        reads_save same _
  | UPDATE_MOVIE =>
      refine (Reading.Programs.ofExcept fun dto => ?_).map_eq _
      refine (reads_findOne same dto.id).bind fun movie result movies => ?_
      subst movies
      dsimp only
      split
      · exact (reads_assertTitleIsFree same _ _ _).bind fun _ _ _ =>
          reads_save same _
      · exact reads_save same _
  | DELETE_MOVIE =>
      refine (Reading.Programs.ofExcept fun dto => ?_).map_eq _
      have removed : reading.Programs Eq (MoviesService.remove left dto.id)
          (MoviesService.remove right dto.id) := by
        refine (same.statement _).bind fun affected result counts => ?_
        subst counts
        split
        · exact .fail _
        · exact .done rfl
      exact removed.bind fun _ _ _ => .done rfl

end Catalog

section Orders

variable {left : Repository orderSchema Call Reply Thrown}
  {right : Repository orderSchema Op Result Thrown}
  (same : ReadsRepository reading left right)
include same

private theorem reads_findOneForUser (userId orderId : ℤ) :
    reading.Programs Eq
      (OrdersService.findOneForUser left userId orderId)
      (OrdersService.findOneForUser right userId orderId) := by
  refine (reads_findOneBy same _).bind fun found result orders => ?_
  subst orders
  cases found with
  | none => exact .fail _
  | some order => exact .done rfl

theorem reads_orders {arithmetic : Arithmetic}
    {catalog : CatalogClient Call Reply} {lookup : CatalogClient Op Result}
    (looks : ∀ payload, reading.Programs Eq
      (catalog payload) (lookup payload))
    (pattern : OrderPatterns) (payload : Json) :
    reading.Programs Eq
      (Orders.OrdersController.handle validator left arithmetic catalog pattern
        payload)
      (Orders.OrdersController.handle validator right arithmetic lookup pattern
        payload) := by
  cases pattern with
  | CREATE_ORDER =>
      refine (Reading.Programs.ofExcept fun dto => ?_).map_eq _
      refine (looks _).bind fun movie result movies => ?_
      subst movies
      exact reads_save same _
  | FIND_USER_ORDERS =>
      exact (Reading.Programs.ofExcept fun dto => reads_find same _ _).map_eq _
  | FIND_USER_ORDER =>
      exact (Reading.Programs.ofExcept fun dto =>
        reads_findOneForUser same _ _).map_eq _
  | CANCEL_USER_ORDER =>
      refine (Reading.Programs.ofExcept fun dto => ?_).map_eq _
      refine (reads_findOneForUser same _ _).bind fun order result orders => ?_
      subst orders
      split
      · exact .fail _
      · exact reads_save same _

end Orders

end Services

/-! ## What corresponds to what -/

/-- The calls of the catalog and the order service, with the lookup of a movie
as the only message. -/
inductive ReadsCall {validator : Validator} :
    SystemCall validator → BackendCall → Prop where
  | movies (statement : SqlCall MovieRow Movie MoviePatch) :
      ReadsCall (.movies statement) (.movies statement)
  | orders (statement : SqlCall OrderRow Order OrderPatch) :
      ReadsCall (.orders statement) (.orders statement)
  | lookup (payload : Json) :
      ReadsCall (.send (.catalog .FIND_ONE_MOVIE payload)) (.findOneMovie payload)

inductive ReadsReply {validator : Validator} :
    (call : SystemCall validator) → (op : BackendCall) → SystemReply call →
      BackendReply op → Prop where
  | movies (statement : SqlCall MovieRow Movie MoviePatch)
      (reply : SqlReply statement) :
      ReadsReply (.movies statement) (.movies statement) reply reply
  | orders (statement : SqlCall OrderRow Order OrderPatch)
      (reply : SqlReply statement) :
      ReadsReply (.orders statement) (.orders statement) reply reply
  | lookup (payload : Json) (movie : Movie) :
      ReadsReply (.send (.catalog .FIND_ONE_MOVIE payload))
        (.findOneMovie payload) (.movie movie) movie

inductive ReadsAnswer : SystemAnswer → Answer → Prop where
  | catalog (answer : CatalogAnswer) :
      ReadsAnswer (.catalog answer) (.catalog answer)
  | orders (answer : OrderAnswer) : ReadsAnswer (.orders answer) (.orders answer)

/-- The requests that the two services answer. -/
def backendMessage {validator : Validator} :
    SystemMessage validator → Option Message
  | .service (.catalog pattern payload) => some (.catalog pattern payload)
  | .service (.orders pattern payload) => some (.orders pattern payload)
  | _ => none

/-- The backend within the system. -/
def withinSystem (deployment : Deployment) :
    Reading (SystemMessage deployment.validator)
      (SystemStore deployment.validator) (SystemCall deployment.validator)
      SystemReply SystemAnswer Message Databases BackendCall BackendReply
      Answer where
  base store := store.databases
  request := backendMessage
  calls := ReadsCall
  replies := ReadsReply
  answers := ReadsAnswer

variable {deployment : Deployment}

private theorem reads_movieRepository (granularity : Granularity) :
    ReadsRepository (withinSystem deployment) (movies granularity)
      (Backend.movies granularity) where
  granularity := rfl
  statement statement := by
    refine .call (.movies statement) fun reply result replies => ?_
    cases replies
    exact .done rfl

private theorem reads_orderRepository (granularity : Granularity) :
    ReadsRepository (withinSystem deployment) (orders granularity)
      (Backend.orders granularity) where
  granularity := rfl
  statement statement := by
    refine .call (.orders statement) fun reply result replies => ?_
    cases replies
    exact .done rfl

private theorem reads_lookup (payload : Json) :
    (withinSystem deployment).Programs Eq (System.catalog payload)
      (Backend.catalog payload) := by
  refine .call (.lookup payload) fun reply result replies => ?_
  cases replies
  exact .done rfl

/-- The handlers make the same calls. -/
private theorem reads_handlers (message : SystemMessage deployment.validator)
    {request : Message} (isRequest : backendMessage message = some request) :
    (withinSystem deployment).Programs ReadsAnswer (handle deployment message)
      (Backend.handle deployment.validator deployment.arithmetic
        deployment.granularity request) := by
  cases message with
  | http request | start config => cases isRequest
  | service message =>
      cases message with
      | auth pattern payload => cases isRequest
      | catalog pattern payload =>
          cases isRequest
          refine (reads_movies (reads_movieRepository _) pattern payload).map
            fun answer other same => ?_
          subst same
          exact .catalog answer
      | orders pattern payload =>
          cases isRequest
          refine (reads_orders (reads_orderRepository _) reads_lookup pattern
            payload).map fun answer other same => ?_
          subst same
          exact .orders answer

/-! ## The other messages -/

/-- A call that leaves movies and orders alone, or a message. -/
def Elsewhere (deployment : Deployment)
    (call : SystemCall deployment.validator) : Prop :=
  remote call = none → ∀ circumstances store,
    (exec deployment circumstances call store).2.databases = store.databases

private theorem elsewhere_users (statement : UserStatement) :
    Elsewhere deployment (.users statement) := fun _ _ _ => rfl

private theorem elsewhere_process : Elsewhere deployment .process := by
  intro _ circumstances store
  simp only [exec]
  split <;> rfl

private theorem elsewhere_sign (secret expiresIn : String) (payload : Json) :
    Elsewhere deployment (.sign secret expiresIn payload) := by
  intro _ circumstances store
  simp only [exec]
  split <;> rfl

theorem uses_elsewhere (message : SystemMessage deployment.validator)
    (other : backendMessage message = none) :
    (handle deployment message).Uses (Elsewhere deployment) := by
  have single : ∀ {call : SystemCall deployment.validator},
      Elsewhere deployment call →
        (Program.perform call : Program (SystemCall deployment.validator)
          SystemReply Thrown (SystemReply call)).Uses
            (Elsewhere deployment) :=
    fun elsewhere => ⟨elsewhere, fun _ => trivial⟩
  cases message with
  | http request =>
      apply uses_http
      · exact fun token _ _ _ => rfl
      · intro message isLocal
        cases isLocal
  | start config =>
      refine Program.Uses.bind (Program.Uses.bind ?_ fun _ =>
        single fun _ _ _ => rfl) fun _ => trivial
      apply AuthService.uses_ensureAdminAccount
      · exact fun parameters condition => single (elsewhere_users _)
      · exact fun password rounds => single fun _ _ _ => rfl
      · exact fun email passwordHash _ => single (elsewhere_users _)
  | service message =>
      cases message with
      | auth pattern payload =>
          refine ((single elsewhere_process).bind fun config => ?_).map _
          apply AuthController.uses_handle
          · exact fun parameters condition => single (elsewhere_users _)
          · exact fun password rounds => single fun _ _ _ => rfl
          · exact fun password passwordHash => single fun _ _ _ => rfl
          · exact fun secret expiresIn payload =>
              single (elsewhere_sign secret expiresIn payload)
          · exact fun _ email passwordHash _ => single (elsewhere_users _)
      | catalog | orders => cases other

/-! ## A lookup -/

/-- The statement that a lookup takes. -/
abbrev lookupStatement (id : ℤ) : SqlCall MovieRow Movie MoviePatch :=
  .matching [Criterion.integer (fun row => row.id.val) (some id)]

/-- What a lookup makes of the rows it finds. -/
def lookedUp (id : ℤ) (rows : List MovieRow) : Except Thrown Movie :=
  match rows.head? with
  | none => .error (notFoundException s!"Movie {id} not found")
  | some row => .ok row.hydrate

private theorem lookupMovie_eq {validator : Validator}
    {surroundings : Surroundings} {payload : Json} {dto : IdPayload}
    (valid : IdPayload.validate validator payload = .ok dto)
    (movies : Table MovieRow movieSchema.key) :
    Backend.lookupMovie validator surroundings payload movies =
      (execStatement movieSchema surroundings (lookupStatement dto.id)
        movies).1.bind (lookedUp dto.id) := by
  unfold Backend.lookupMovie
  simp only [Catalog.MoviesController.findOne, valid]
  change (Program.run _ (.call (lookupStatement dto.id) _) _ _).1 = _
  rw [Program.run]
  generalize execStatement movieSchema surroundings (lookupStatement dto.id)
    movies = executed
  obtain ⟨result, after⟩ := executed
  cases result with
  | error thrown => rfl
  | ok rows => cases rows <;> rfl

/-- The catalog does the same. -/
private theorem lookup_outcome {payload : Json} {dto : IdPayload}
    (valid : IdPayload.validate deployment.validator payload = .ok dto)
    {read : SystemCall deployment.validator}
    {next : SystemReply read → SystemProgram deployment}
    (handles : handle deployment (.service (.catalog .FIND_ONE_MOVIE payload)) =
      .call read next)
    (circumstances : Circumstances) (store : SystemStore deployment.validator) :
    (Program.resume next (exec deployment circumstances read store).1).outcome =
      some (((execStatement movieSchema circumstances.toSurroundings
        (lookupStatement dto.id) store.databases.movies).1.bind
          (lookedUp dto.id)).map fun movie => .catalog (.movie movie)) := by
  rw [handle_findOneMovie valid] at handles
  cases handles
  simp only [exec]
  generalize execStatement movieSchema circumstances.toSurroundings
    (lookupStatement dto.id) store.databases.movies = executed
  obtain ⟨result, after⟩ := executed
  cases result with
  | error thrown => rfl
  | ok rows => cases rows <;> rfl

private theorem results_movies
    (statement : SqlCall MovieRow Movie MoviePatch)
    (result : Except Thrown (SystemReply
      (.movies statement : SystemCall deployment.validator))) :
    (withinSystem deployment).Results (.movies statement) (.movies statement)
      result result := by
  cases result with
  | error thrown => rfl
  | ok reply => exact .movies statement reply

private theorem results_orders
    (statement : SqlCall OrderRow Order OrderPatch)
    (result : Except Thrown (SystemReply
      (.orders statement : SystemCall deployment.validator))) :
    (withinSystem deployment).Results (.orders statement) (.orders statement)
      result result := by
  cases result with
  | error thrown => rfl
  | ok reply => exact .orders statement reply

/-- The client of the order service makes of the answer of the catalog what
the lookup is for the backend. -/
private theorem results_lookup {surroundings : Surroundings}
    (connected : surroundings.transport = none) (payload : Json)
    (databases : Databases) {looked : Except Thrown Movie}
    (isLooked : Backend.lookupMovie deployment.validator surroundings payload
      databases.movies = looked) :
    (withinSystem deployment).Results
      (.send (.catalog .FIND_ONE_MOVIE payload)) (.findOneMovie payload)
      (receive (.send (.catalog .FIND_ONE_MOVIE payload))
        (looked.map fun movie => .catalog (.movie movie)))
      (Backend.exec deployment.validator surroundings (.findOneMovie payload)
        databases).1 := by
  have answers : (Backend.exec deployment.validator surroundings
      (.findOneMovie payload) databases).1 =
      looked.mapError fun thrown => .http (toHttpException .catalog
        (.sent (toRpcErrorPayload thrown))) := by
    simp only [Backend.exec, Backend.findOneMovie, connected, isLooked]
  rw [answers]
  cases looked with
  | error thrown => rfl
  | ok movie => exact .lookup payload movie

/-- A lookup while the transport works. -/
private def reaching (surroundings : Surroundings) : Surroundings :=
  { surroundings with transport := none }

theorem withinSystem_sound (deployment : Deployment) :
    (withinSystem deployment).Sound (system deployment)
      (backend deployment.validator deployment.arithmetic
        deployment.granularity) where
  handlers message request isRequest := reads_handlers message isRequest
  quiet message other :=
    (uses_elsewhere message other).mono fun call elsewhere => elsewhere
  performs := by
    intro call op circumstances store calls isLocal
    refine ⟨circumstances.toSurroundings, ?_⟩
    cases calls with
    | movies statement =>
        exact ⟨rfl, results_movies statement
          (exec deployment circumstances (.movies statement) store).1⟩
    | orders statement =>
        exact ⟨rfl, results_orders statement
          (exec deployment circumstances (.orders statement) store).1⟩
    | lookup payload => cases isLocal
  abandons := by
    intro call op message failure databases calls isRemote
    cases calls with
    | lookup payload =>
        exact ⟨⟨0, none, some failure.toRpcFailure⟩, rfl⟩
    | movies | orders => cases isRemote
  leaves := by
    intro call op message calls isRemote
    cases calls with
    | movies | orders => cases isRemote
    | lookup payload =>
        cases isRemote
        refine ⟨rfl, ?_⟩
        change (handle deployment (.service
          (.catalog .FIND_ONE_MOVIE payload))).Leaf _
        cases valid : IdPayload.validate deployment.validator payload with
        | error thrown =>
            rw [handle_refused (.catalog .FIND_ONE_MOVIE _) valid]
            trivial
        | ok dto =>
            rw [handle_findOneMovie valid]
            refine ⟨rfl, fun rows => ?_⟩
            cases rows <;> rfl
  refused := by
    intro call op message outcome databases calls isRemote ends
    cases calls with
    | movies | orders => cases isRemote
    | lookup payload =>
        cases isRemote
        refine ⟨calm 0, rfl, ?_⟩
        change (handle deployment (.service
          (.catalog .FIND_ONE_MOVIE payload))).outcome = some outcome at ends
        cases valid : IdPayload.validate deployment.validator payload with
        | ok dto =>
            rw [handle_findOneMovie valid] at ends
            cases ends
        | error thrown =>
            rw [handle_refused (.catalog .FIND_ONE_MOVIE _) valid] at ends
            cases ends
            have looked : Backend.lookupMovie deployment.validator (calm 0)
                payload databases.movies = .error thrown := by
              unfold Backend.lookupMovie
              simp only [Catalog.MoviesController.findOne, valid]
              rfl
            exact results_lookup rfl payload databases looked
  reads := by
    intro call op message read next outcome circumstances store calls isRemote
      handles ends
    cases calls with
    | movies | orders => cases isRemote
    | lookup payload =>
        cases isRemote
        refine ⟨reaching circumstances.toSurroundings, rfl, ?_⟩
        cases valid : IdPayload.validate deployment.validator payload with
        | error thrown =>
            have refuses := handle_refused (.catalog .FIND_ONE_MOVIE _) valid
            rw [show handle deployment (.service
              (.catalog .FIND_ONE_MOVIE payload)) = _ from handles] at refuses
            cases refuses
        | ok dto =>
            have isOutcome := lookup_outcome valid handles circumstances store
            change (Program.resume next
              (exec deployment circumstances read store).1).outcome = _ at ends
            rw [ends] at isOutcome
            cases isOutcome
            exact results_lookup rfl payload store.databases
              (lookupMovie_eq valid store.databases.movies)

/-! ## Every run -/

section Runs

variable {store : SystemStore deployment.validator}
  {traffic later : SystemTraffic deployment}
  {admits : SystemTraffic deployment →
    SystemMessage deployment.validator → Prop}

/-- Whatever happens to the messages between the services, there is a run of
the backend alone that ends with the same movies and orders, has got exactly
the messages for the two services as its requests, and has answered each of
them like the system. -/
theorem system_refines_backend
    (runs : (system deployment).Runs admits (.start store) traffic) :
    ∃ pool place, (backend deployment.validator deployment.arithmetic
        deployment.granularity).Runs .any (.start store.databases) pool ∧
      pool.store = traffic.store.databases ∧
      Reading.Placed ((withinSystem deployment).Served traffic) place
        ((withinSystem deployment).Answers traffic) pool := by
  have sound := withinSystem_sound deployment
  obtain ⟨before, follows⟩ := Reading.Represents.onward sound
    (Network.Runs.refl _) runs fun _ => False
  obtain ⟨pool, place, reached, represents⟩ :=
    follows (Reading.represents_start store before)
  exact ⟨pool, place, reached, represents.store, represents.answers⟩

/-- A part of a run is a part of a run of the backend. -/
private theorem backend_between
    (reached : (system deployment).Runs admits (.start store) traffic)
    (onward : (system deployment).Runs admits traffic later) :
    ∃ pool next, (backend deployment.validator deployment.arithmetic
        deployment.granularity).Runs .any (.start store.databases) pool ∧
      (backend deployment.validator deployment.arithmetic
        deployment.granularity).Runs .any pool next ∧
      pool.store = traffic.store.databases ∧
      next.store = later.store.databases := by
  have sound := withinSystem_sound deployment
  obtain ⟨between, follows⟩ := Reading.Represents.onward sound reached onward
    fun _ => False
  obtain ⟨before, leads⟩ := Reading.Represents.onward sound
    (Network.Runs.refl _) reached between
  obtain ⟨pool, place, toPool, represents⟩ :=
    leads (Reading.represents_start store before)
  obtain ⟨next, place', toNext, represented⟩ := follows represents
  exact ⟨pool, next, toPool, toNext, represents.store, represented.store⟩

/-- Between any two moments every order stays, at most cancelled. -/
theorem orders_evolve
    (reached : (system deployment).Runs admits (.start store) traffic)
    (onward : (system deployment).Runs admits traffic later) :
    Evolves traffic.store.databases.orders later.store.databases.orders := by
  obtain ⟨pool, next, toPool, toNext, before, after⟩ :=
    backend_between reached onward
  have evolves := evolves_of_runs toPool toNext
  rwa [before, after] at evolves

/-- What the backend keeps over its runs, the whole system keeps: the movies
stay a catalogue that obeys the rules, ids of orders are never used twice, and
between any two moments every order stays, at most cancelled. -/
theorem movies_and_orders_kept
    (catalogue : Catalogue deployment.validator store.databases.movies)
    (fresh : store.databases.orders.Fresh)
    (reached : (system deployment).Runs admits (.start store) traffic)
    (onward : (system deployment).Runs admits traffic later) :
    (Catalogue deployment.validator later.store.databases.movies ∧
      ∀ row ∈ later.store.databases.movies.rows,
        ObeysRules deployment.validator row) ∧
    later.store.databases.orders.Fresh ∧
    Evolves traffic.store.databases.orders later.store.databases.orders := by
  obtain ⟨pool, next, toPool, toNext, _, after⟩ :=
    backend_between reached onward
  have movies := catalogue_of_runs catalogue (toPool.trans toNext)
  have orders := fresh_of_runs (toPool.trans toNext) fresh
  rw [after] at movies orders
  exact ⟨⟨movies, fun row member => obeysRules_of_valid
    (movies.valid row member)⟩, orders, orders_evolve reached onward⟩

end Runs

/-- An order through the gateway, whose lookup the backend does in one step. -/
theorem system_refines_backend_example :
    ∃ (traffic : SystemTraffic
        (sampleDeployment (.sample 7 "ripley@example.com" .USER)))
      (pool : Pool Message Databases BackendCall BackendReply Thrown Answer),
      traffic.jobs.length = 3 ∧
        pool.store.orders.rows.length = 2 ∧
        pool.store = traffic.store.databases ∧
        (backend .plain .exact .statements).Runs .any (.start sampleDatabases)
          pool := by
  let deployment := sampleDeployment (.sample 7 "ripley@example.com" .USER)
  let request : HttpRequest := {
    authorization := some "Bearer token"
    route := .createOrder (.obj [("movieId", .num 1), ("quantity", .num 2)]) }
  let moment : Circumstances := ⟨calm 1, 0, 0⟩
  let store : SystemStore deployment.validator := ⟨∅, sampleDatabases, []⟩
  have checked : (System.play (.start store : SystemTraffic deployment)
      [.arrive (.http request), .act 0 .deliver, .act 0 (.perform moment),
        .act 0 .send, .act 1 .deliver, .act 1 .send, .act 2 .deliver,
        .act 2 (.perform moment), .act 1 .answer,
        .act 1 (.perform moment), .act 0 .answer]).any (fun traffic =>
      decide (traffic.jobs.length = 3) &&
        decide (traffic.store.databases.orders.rows.length = 2)) = true := by
    decide +kernel
  obtain ⟨traffic, played, checked⟩ := (Option.any_eq_true _ _).mp checked
  obtain ⟨three, two⟩ := Bool.and_eq_true_iff.mp checked
  obtain ⟨pool, place, reached, same, _⟩ :=
    system_refines_backend (System.runs_of_play played)
  refine ⟨traffic, pool, of_decide_eq_true three, ?_, same, reached⟩
  rw [same]
  exact of_decide_eq_true two

/-- An administrator adds the first movie of an empty cinema, orders tickets for
it and cancels the order. -/
theorem movies_and_orders_kept_example :
    ∃ (traffic later : SystemTraffic
        (sampleDeployment (.sample 1 "ripley@example.com" .ADMIN)))
      (movie : MovieRow) (ordered kept : OrderRow),
      movie ∈ later.store.databases.movies.rows ∧ ObeysRules .plain movie ∧
        ordered ∈ traffic.store.databases.orders.rows ∧
        ordered.status = .CONFIRMED ∧
        kept ∈ later.store.databases.orders.rows ∧ ordered.Kept kept ∧
        kept.status = .CANCELLED ∧ later.store.databases.orders.Fresh := by
  let deployment := sampleDeployment (.sample 1 "ripley@example.com" .ADMIN)
  let request (route : Route) : HttpRequest := ⟨some "Bearer token", route⟩
  let moment : Circumstances := ⟨calm 1, 0, 0⟩
  let store : SystemStore deployment.validator := ⟨∅, ⟨∅, ∅⟩, []⟩
  have checked : ((System.play (.start store : SystemTraffic deployment)
      [.arrive (.http (request (.createMovie premierePayload))),
        .act 0 .deliver, .act 0 (.perform moment), .act 0 .send,
        .act 1 .deliver, .act 1 (.perform moment), .act 1 (.perform moment),
        .act 0 .answer,
        .arrive (.http (request (.createOrder
          (.obj [("movieId", .num 1), ("quantity", .num 2)])))),
        .act 2 .deliver, .act 2 (.perform moment), .act 2 .send,
        .act 3 .deliver, .act 3 .send, .act 4 .deliver,
        .act 4 (.perform moment), .act 3 .answer, .act 3 (.perform moment),
        .act 2 .answer]).any fun traffic =>
      (traffic.store.databases.orders.rows.any fun row =>
        row.status = .CONFIRMED) &&
      (System.play traffic
        [.arrive (.http (request (.cancelOrder (some 1)))), .act 5 .deliver,
          .act 5 (.perform moment), .act 5 .send, .act 6 .deliver,
          .act 6 (.perform moment), .act 6 (.perform moment),
          .act 6 (.perform moment), .act 5 .answer]).any fun later =>
        !later.store.databases.movies.rows.isEmpty &&
          later.store.databases.orders.rows.all fun row =>
            row.status = .CANCELLED) = true := by
    decide +kernel
  obtain ⟨traffic, played, checked⟩ := (Option.any_eq_true _ _).mp checked
  obtain ⟨confirmed, checked⟩ := Bool.and_eq_true_iff.mp checked
  obtain ⟨ordered, orderedMember, confirmed⟩ := List.any_eq_true.mp confirmed
  obtain ⟨later, playedOn, checked⟩ := (Option.any_eq_true _ _).mp checked
  obtain ⟨stored, cancelled⟩ := Bool.and_eq_true_iff.mp checked
  have catalogue : Catalogue deployment.validator store.databases.movies :=
    catalogue_empty
  have fresh : store.databases.orders.Fresh :=
    fun row member => absurd member List.not_mem_nil
  obtain ⟨⟨_, rules⟩, freshOn, evolves⟩ := movies_and_orders_kept catalogue
    fresh (System.runs_of_play played) (System.runs_of_play playedOn)
  obtain ⟨kept, keptMember, same⟩ := evolves ordered orderedMember
  obtain ⟨movie, member⟩ : ∃ movie, movie ∈
      later.store.databases.movies.rows := by
    apply List.exists_mem_of_ne_nil
    simpa using stored
  exact ⟨traffic, later, movie, ordered, kept, member, rules movie member,
    orderedMember, of_decide_eq_true confirmed, keptMember, same,
    of_decide_eq_true (List.all_eq_true.mp cancelled kept keptMember), freshOn⟩

end Cinema.System
