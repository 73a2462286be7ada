import Cinema.Surroundings
import Cinema.Orders.OrdersService
import Cinema.Interleaving.Timeline

/-!
# Catalog and order service together

The two databases, the statements issued to them, the lookup of a movie by
the order service, and the service that answers every message.
-/

namespace Cinema

open Interleaving Relational Shared Catalog Orders

/-- `catalog_db` and `order_db`. -/
structure Databases where
  movies : Table MovieRow movieSchema.key
  orders : Table OrderRow orderSchema.key

/-- One statement, or the lookup of a movie over RPC, which reads one row. -/
inductive BackendCall where
  | movies (statement : SqlCall MovieRow Movie MoviePatch)
  | orders (statement : SqlCall OrderRow Order OrderPatch)
  | findOneMovie (payload : Json)

abbrev BackendReply : BackendCall → Type
  | .movies statement => SqlReply statement
  | .orders statement => SqlReply statement
  | .findOneMovie _ => Movie

namespace Backend

section Handlers

variable {Call : Type} {Reply : Call → Type}

/-- The catalog answering a lookup alone. -/
def lookupMovie (validator : Validator) (surroundings : Surroundings)
    (payload : Json) (movies : Table MovieRow movieSchema.key) :
    Except Thrown Movie :=
  (Program.run (fun surroundings call table =>
      execStatement movieSchema surroundings call table)
    (MoviesController.findOne validator
      { granularity := .atomicSave, statement := Program.perform } payload)
    (fun _ => surroundings) movies).1

end Handlers

/-- What the order service sees of a lookup: the exception of its client. -/
def findOneMovie (validator : Validator) (surroundings : Surroundings)
    (payload : Json) (movies : Table MovieRow movieSchema.key) :
    Except Thrown Movie :=
  match surroundings.transport with
  | some failure => .error (.http (toHttpException .catalog failure))
  | none =>
      (lookupMovie validator surroundings payload movies).mapError
        fun thrown =>
          .http (toHttpException .catalog (.sent (toRpcErrorPayload thrown)))

/-- One call on the two databases. -/
def exec (validator : Validator) (surroundings : Surroundings) :
    (call : BackendCall) → Databases →
      Except Thrown (BackendReply call) × Databases
  | .movies statement, databases =>
      let (result, movies) :=
        execStatement movieSchema surroundings statement databases.movies
      (result, { databases with movies })
  | .orders statement, databases =>
      let (result, orders) :=
        execStatement orderSchema surroundings statement databases.orders
      (result, { databases with orders })
  | .findOneMovie payload, databases =>
      (findOneMovie validator surroundings payload databases.movies, databases)

/-! What one call does. -/

section Exec

variable {validator : Validator} {surroundings : Surroundings}

theorem exec_faulty_movies {thrown : Thrown}
    (fault : surroundings.fault = some thrown)
    (statement : SqlCall MovieRow Movie MoviePatch) (databases : Databases) :
    exec validator surroundings (.movies statement) databases =
      (.error thrown, databases) := by
  simp only [exec, execStatement, fault]

theorem exec_faulty_orders {thrown : Thrown}
    (fault : surroundings.fault = some thrown)
    (statement : SqlCall OrderRow Order OrderPatch) (databases : Databases) :
    exec validator surroundings (.orders statement) databases =
      (.error thrown, databases) := by
  simp only [exec, execStatement, fault]

theorem exec_movies (healthy : surroundings.fault = none)
    (statement : SqlCall MovieRow Movie MoviePatch) (databases : Databases) :
    exec validator surroundings (.movies statement) databases =
      ((movieSchema.exec surroundings.now statement databases.movies).1.mapError
          (queryFailed movieSchema statement),
        { databases with movies :=
            (movieSchema.exec surroundings.now statement
              databases.movies).2 }) := by
  simp only [exec, execStatement, healthy]

theorem exec_orders (healthy : surroundings.fault = none)
    (statement : SqlCall OrderRow Order OrderPatch) (databases : Databases) :
    exec validator surroundings (.orders statement) databases =
      ((orderSchema.exec surroundings.now statement databases.orders).1.mapError
          (queryFailed orderSchema statement),
        { databases with orders :=
            (orderSchema.exec surroundings.now statement
              databases.orders).2 }) := by
  simp only [exec, execStatement, healthy]

/-- A statement that is executed meets no failure and no error. -/
theorem exec_movies_eq_ok {statement : SqlCall MovieRow Movie MoviePatch}
    {databases : Databases} {reply : SqlReply statement}
    (executed : (exec validator surroundings (.movies statement) databases).1 =
      .ok reply) :
    (movieSchema.exec surroundings.now statement databases.movies).1 =
        .ok reply ∧
      (exec validator surroundings (.movies statement) databases).2 =
        { databases with movies :=
            (movieSchema.exec surroundings.now statement
              databases.movies).2 } := by
  cases fault : surroundings.fault with
  | some thrown =>
      rw [exec_faulty_movies fault] at executed
      cases executed
  | none =>
      rw [exec_movies fault] at executed ⊢
      cases result :
          (movieSchema.exec surroundings.now statement databases.movies).1 with
      | error error =>
          rw [result] at executed
          cases executed
      | ok answer =>
          rw [result] at executed
          cases executed
          exact ⟨rfl, rfl⟩

/-- A statement that fails leaves every row as it was. -/
theorem exec_movies_error {statement : SqlCall MovieRow Movie MoviePatch}
    {databases : Databases} {thrown : Thrown}
    (failed : (exec validator surroundings (.movies statement) databases).1 =
      .error thrown) :
    (exec validator surroundings (.movies statement) databases).2.movies.rows =
      databases.movies.rows := by
  cases fault : surroundings.fault with
  | some failure => rw [exec_faulty_movies fault]
  | none =>
      rw [exec_movies fault] at failed ⊢
      cases result :
          (movieSchema.exec surroundings.now statement databases.movies).1 with
      | ok reply =>
          rw [result] at failed
          cases failed
      | error error => exact movieSchema.exec_error_rows result

/-- A selection answers with rows of the table. -/
theorem exec_select_eq_ok {parameters : List Parameter}
    {condition : MovieRow → Bool} {databases : Databases}
    {rows : List MovieRow}
    (executed : (exec validator surroundings
      (.movies (.select parameters condition)) databases).1 = .ok rows) :
    rows = databases.movies.rows.filter condition := by
  obtain ⟨executed, _⟩ := exec_movies_eq_ok executed
  simp only [Schema.exec] at executed
  split at executed
  · cases executed
  · cases executed
    rfl

/-- The rows of a reply satisfy the condition of the selection. -/
def Selected : (call : BackendCall) → BackendReply call → Prop
  | .movies (.select _ condition), rows => ∀ row ∈ rows, condition row = true
  | _, _ => True

theorem selected_of_exec {call : BackendCall} {databases : Databases}
    {reply : BackendReply call}
    (executed : (exec validator surroundings call databases).1 = .ok reply) :
    Selected call reply := by
  cases call with
  | movies statement =>
      cases statement with
      | select parameters condition =>
          have rows := exec_select_eq_ok executed
          intro row member
          rw [rows] at member
          exact (List.mem_filter.mp member).2
      | _ => trivial
  | orders statement => trivial
  | findOneMovie payload => trivial

private theorem findOne_alone {payload : Json} {dto : IdPayload}
    (valid : IdPayload.validate validator payload = .ok dto) :
    MoviesController.findOne validator
        ({ granularity := .atomicSave, statement := Program.perform } :
          Repository movieSchema _ SqlReply Thrown) payload =
      .call (.matching [Criterion.integer movieSchema.key (some dto.id)])
        fun rows =>
          match rows.head? with
          | none => .fail (notFoundException s!"Movie {dto.id} not found")
          | some row => .done row.hydrate := by
  simp only [MoviesController.findOne, valid]
  refine congrArg (Program.call _) (funext fun rows => ?_)
  cases rows with
  | nil => rfl
  | cons row rest => rfl

/-- The lookup reads one row. -/
theorem lookupMovie_eq_ok {payload : Json}
    {movies : Table MovieRow movieSchema.key} {movie : Movie}
    (found : lookupMovie validator surroundings payload movies = .ok movie) :
    ∃ dto row, IdPayload.validate validator payload = .ok dto ∧
      movies.find? dto.id = some row ∧ movie = row.hydrate := by
  unfold lookupMovie at found
  cases valid : IdPayload.validate validator payload with
  | error thrown =>
      simp [MoviesController.findOne, valid, Program.run] at found
  | ok dto =>
      rw [findOne_alone valid, Program.run] at found
      cases fault : surroundings.fault with
      | some thrown => simp [execStatement, fault] at found
      | none =>
          rcases movieSchema.exec_matching surroundings.now
              [Criterion.integer movieSchema.key (some dto.id)] movies with
            selected | ⟨error, rejected⟩
          · simp only [execStatement, fault, selected, Except.mapError,
              head?_matching_key] at found
            cases read : movies.find? dto.id with
            | none => simp [read, Program.run] at found
            | some row =>
                simp only [read, Program.run, Except.ok.injEq] at found
                exact ⟨dto, row, rfl, read, found.symm⟩
          · simp [execStatement, fault, rejected, Except.mapError] at found

/-- A successful lookup answers with the row of the movie. -/
theorem findOneMovie_reads {payload : Json}
    {movies : Table MovieRow movieSchema.key} {movie : Movie}
    (found : findOneMovie validator surroundings payload movies = .ok movie) :
    ∃ dto row, IdPayload.validate validator payload = .ok dto ∧
      movies.find? dto.id = some row ∧ movie = row.hydrate := by
  unfold findOneMovie at found
  split at found
  · cases found
  · cases looked : lookupMovie validator surroundings payload movies with
    | error thrown => simp [looked, Except.mapError] at found
    | ok answer =>
        simp only [looked, Except.mapError, Except.ok.injEq] at found
        rw [← found]
        exact lookupMovie_eq_ok looked

theorem findOneMovie_eq_ok {id : ℤ} {movies : Table MovieRow movieSchema.key}
    {movie : Movie}
    (found : findOneMovie validator surroundings (idMessage id) movies =
      .ok movie) :
    ∃ row, movies.find? id = some row ∧ movie = row.hydrate := by
  obtain ⟨dto, row, valid, read, same⟩ := findOneMovie_reads found
  have sameId : id = dto.id := by
    simpa [idMessage, Json.get, Json.ownFields, Fields.get] using
      IdPayload.id_of_validate valid
  rw [← sameId] at read
  exact ⟨row, read, same⟩

end Exec

end Backend

/-- A message to one of the two services. -/
inductive Message where
  | catalog (pattern : CatalogPatterns) (payload : Json)
  | orders (pattern : OrderPatterns) (payload : Json)

inductive Answer where
  | catalog (answer : CatalogAnswer)
  | orders (answer : OrderAnswer)
  deriving DecidableEq

namespace Backend

def movies (granularity : Granularity) :
    Repository movieSchema BackendCall BackendReply Thrown where
  granularity := granularity
  statement call := .perform (BackendCall.movies call)

def orders (granularity : Granularity) :
    Repository orderSchema BackendCall BackendReply Thrown where
  granularity := granularity
  statement call := .perform (BackendCall.orders call)

/-- A lookup is one call here, which may fail on its way. -/
def catalog : CatalogClient BackendCall BackendReply :=
  fun payload => .perform (BackendCall.findOneMovie payload)

/-- What every message runs. -/
def handle (validator : Validator) (arithmetic : Arithmetic)
    (granularity : Granularity) :
    Message → Program BackendCall BackendReply Thrown Answer
  | .catalog pattern payload =>
      .catalog <$> MoviesController.handle validator (movies granularity)
        pattern payload
  | .orders pattern payload =>
      .orders <$> OrdersController.handle validator (orders granularity)
        arithmetic catalog pattern payload

/-- The pipe of the handler throws on the payload. -/
def Refuses (validator : Validator) : Message → Thrown → Prop
  | .catalog pattern payload =>
      MoviesController.Refuses validator pattern payload
  | .orders pattern payload =>
      OrdersController.Refuses validator pattern payload

theorem handle_refused {validator : Validator} {arithmetic : Arithmetic}
    {granularity : Granularity} (message : Message) {thrown : Thrown}
    (refused : Refuses validator message thrown) :
    handle validator arithmetic granularity message = .fail thrown := by
  cases message with
  | catalog pattern payload =>
      rw [handle, MoviesController.handle_refused refused]
      rfl
  | orders pattern payload =>
      rw [handle, OrdersController.handle_refused refused]
      rfl

end Backend

/-- The two services that keep movies and orders, with any number of requests under
way. -/
def backend (validator : Validator) (arithmetic : Arithmetic)
    (granularity : Granularity) :
    Service Message Databases Surroundings BackendCall BackendReply Thrown
      Answer where
  handler := Backend.handle validator arithmetic granularity
  exec := Backend.exec validator

/-! A small cinema, for examples. -/

def sampleMovie : MovieRow where
  id := ⟨1, by decide⟩
  title := ⟨"Alien", by decide, by decide⟩
  description := none
  releaseYear := ⟨1979, by decide⟩
  durationMinutes := ⟨117, by decide⟩
  ticketPrice := ⟨1250, by decide⟩
  createdAt := 0
  updatedAt := 0
  durationPositive := by decide
  priceNonneg := by decide

def sampleOrder : OrderRow where
  id := ⟨1, by decide⟩
  userId := ⟨7, by decide⟩
  movieId := ⟨1, by decide⟩
  movieTitle := ⟨"Alien", by decide, by decide⟩
  movieReleaseYear := ⟨1979, by decide⟩
  ticketPrice := ⟨1250, by decide⟩
  quantity := ⟨2, by decide⟩
  totalPrice := ⟨2500, by decide⟩
  status := .CONFIRMED
  createdAt := 0
  updatedAt := 0
  quantityPositive := by decide
  totalNonneg := by decide

def sampleDatabases : Databases where
  movies := ⟨[sampleMovie], 2, by decide⟩
  orders := ⟨[sampleOrder], 2, by decide⟩

def premierePayload : Json :=
  .obj [("title", .str " Alien "), ("releaseYear", .num 1979),
    ("durationMinutes", .num 117), ("ticketPrice", .num (25 / 2))]

def premiereMessage : Message := .catalog .CREATE_MOVIE premierePayload

def purchaseMessage (userId movieId quantity : ℤ) : Message :=
  .orders .CREATE_ORDER (.obj [("movieId", .num movieId),
    ("quantity", .num quantity), ("userId", .num userId)])

def cancelMessage (userId orderId : ℤ) : Message :=
  .orders .CANCEL_USER_ORDER
    (.obj [("userId", .num userId), ("orderId", .num orderId)])

/-- One call on databases that remember their past. -/
abbrev Backend.recordedExec (validator : Validator)
    (surroundings : Surroundings) (call : BackendCall)
    (timeline : Timeline Databases) :
    Except Thrown (BackendReply call) × Timeline Databases :=
  ((Backend.exec validator surroundings call timeline.now).1,
    timeline.push (Backend.exec validator surroundings call timeline.now).2)

end Cinema
