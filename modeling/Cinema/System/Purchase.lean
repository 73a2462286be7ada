import Cinema.System.Forwarding

/-!
# How a purchase proceeds

A purchase sends one message to the order service, whose handler looks the
movie up and then inserts one row.  Both waits may be given up at any moment;
what has been inserted for a request is read off the calls of the messages it
has sent.
-/

namespace Cinema.System

open Interleaving Relational Shared Catalog Orders Gateway

variable {deployment : Deployment}

/-! ## The handlers -/

theorem handle_createOrder {payload : Json} {dto : CreateOrderPayload}
    (valid : CreateOrderPayload.validate deployment.validator payload =
      .ok dto) :
    handle deployment (.service (.orders .CREATE_ORDER payload)) =
      .call (.send (.catalog .FIND_ONE_MOVIE (idMessage dto.movieId)))
        fun answer =>
          match answer with
          | .movie movie =>
              .call (.orders (.insert
                (OrdersService.newOrder deployment.arithmetic dto movie)))
                fun row => .done (.orders (.order (OrderRow.refresh
                  (OrdersService.newOrder deployment.arithmetic dto movie)
                  row)))
          | _ => .fail .other := by
  simp only [handle, handleOrders, Orders.OrdersController.handle,
    Orders.OrdersController.create, valid]
  refine congrArg (Program.call _) (funext fun answer => ?_)
  cases answer <;> rfl

theorem handle_findOneMovie {payload : Json} {dto : IdPayload}
    (valid : IdPayload.validate deployment.validator payload = .ok dto) :
    handle deployment (.service (.catalog .FIND_ONE_MOVIE payload)) =
      .call (.movies (.matching
        [Criterion.integer (fun row => row.id.val) (some dto.id)]))
        fun rows =>
          match rows.head? with
          | none => .fail (notFoundException s!"Movie {dto.id} not found")
          | some row => .done (.catalog (.movie row.hydrate)) := by
  simp only [handle, handleCatalog, Catalog.MoviesController.handle,
    Catalog.MoviesController.findOne, valid]
  refine congrArg (Program.call _) (funext fun rows => ?_)
  cases rows <;> rfl

/-! ## What is written for a request -/

/-- The row of `orders` that a call has written. -/
def writtenRow : SystemExchange deployment → Option OrderRow
  | ⟨.orders statement, .ok reply, _⟩ => statement.written reply
  | _ => none

def writtenRows (job : SystemJob deployment) : List OrderRow :=
  job.calls.filterMap writtenRow

/-- A call leaves only orders that were there, or that it has written. -/
theorem mem_exec_orders {circumstances : Circumstances}
    {call : SystemCall deployment.validator}
    {store : SystemStore deployment.validator} {row : OrderRow}
    (member : row ∈ (exec deployment circumstances call
      store).2.databases.orders.rows) :
    row ∈ store.databases.orders.rows ∨
      writtenRow (⟨call, (exec deployment circumstances call store).1,
        .performed circumstances⟩ : SystemExchange deployment) = some row := by
  cases call with
  | orders statement =>
      rcases mem_execStatement_rows member with old | ⟨reply, executed, written⟩
      · exact .inl old
      · refine .inr ?_
        have result : (exec deployment circumstances (.orders statement)
            store).1 = .ok reply := executed
        rw [result]
        exact written
  | process =>
      simp only [exec] at member
      split at member <;> exact .inl member
  | sign secret expiresIn payload =>
      simp only [exec] at member
      split at member <;> exact .inl member
  | verify token => exact .inl member
  | listen config => exact .inl member
  | users statement => exact .inl member
  | hash password rounds => exact .inl member
  | compare password passwordHash => exact .inl member
  | movies statement => exact .inl member
  | send message => exact .inl member

/-- What the messages that `index` has sent have written. -/
def rowsFor (traffic : SystemTraffic deployment) (index : Nat) :
    List OrderRow :=
  match traffic.jobs[index]? with
  | none => []
  | some job => job.sent.flatMap fun child =>
      match traffic.jobs[child]? with
      | none => []
      | some other => writtenRows other

/-- The row holds what the answer shows, the total as its column holds it. -/
def Shows (order : Order) (row : OrderRow) : Prop :=
  ∃ total, order = { row.hydrate with totalPrice := some total } ∧
    Numeric.write 12 2 total = .ok row.totalPrice

/-! ## How far a purchase has come -/

/-- What a client reads as a reply is what the service has answered. -/
theorem receive_eq_ok {message : ServiceMessage}
    {outcome : Except Thrown SystemAnswer} {reply : message.Answer}
    (received : receive (.send message : SystemCall deployment.validator)
      outcome = .ok reply) :
    ∃ answer, outcome = .ok answer ∧ answerOf message answer = some reply := by
  cases outcome with
  | error thrown => cases received
  | ok answer =>
      refine ⟨answer, rfl, ?_⟩
      simp only [receive] at received
      cases read : answerOf message answer with
      | none => simp [read] at received
      | some other =>
          simp only [read] at received
          cases received
          rfl

theorem answerOf_catalog {pattern : CatalogPatterns} {payload : Json}
    {answer : SystemAnswer} {reply : CatalogAnswer}
    (read : answerOf (.catalog pattern payload) answer = some reply) :
    answer = .catalog reply := by
  cases answer with
  | catalog answer =>
      cases read
      rfl
  | _ => cases read

/-- The message that looks the movie of an order up. -/
def lookupMessage (dto : CreateOrderPayload) : ServiceMessage :=
  .catalog .FIND_ONE_MOVIE (idMessage dto.movieId)

/-- Nothing is written before the answer; a written row is the answer. -/
inductive OrderStage (traffic : SystemTraffic deployment)
    (job : SystemJob deployment) : Prop where
  | unwritten (nothing : writtenRows job = [])
      (notOk : ∀ answer, job.outcome ≠ some (.ok answer))
  | written {dto movie row lookup other circumstances}
      (calls : job.calls =
        [⟨.send (lookupMessage dto), .ok (.movie movie), .answered lookup⟩,
          ⟨.orders (.insert
            (OrdersService.newOrder deployment.arithmetic dto movie)), .ok row,
            .performed circumstances⟩])
      (found : traffic.jobs[lookup]? = some other)
      (carries : other.message = .service (lookupMessage dto))
      (looked : other.outcome = some (.ok (.catalog (.movie movie))))
      (outcome : job.outcome = some (.ok (.orders (.order (OrderRow.refresh
        (OrdersService.newOrder deployment.arithmetic dto movie) row)))))

section OrderStage

variable {traffic : SystemTraffic deployment} {job : SystemJob deployment}

theorem order_stage (traced : (system deployment).Traced traffic job)
    {payload : Json}
    (isMessage : job.message = .service (.orders .CREATE_ORDER payload)) :
    OrderStage traffic job := by
  cases pending : job.program with
  | none =>
      obtain ⟨noCalls, _⟩ := traced.travels pending
      exact .unwritten (by simp [writtenRows, noCalls])
        (by simp [Job.outcome, pending])
  | some rest =>
      have outcome : job.outcome = rest.outcome := by
        simp [Job.outcome, pending]
      have reached := reached_handler traced isMessage pending
      cases valid :
          CreateOrderPayload.validate deployment.validator payload with
      | error thrown =>
          rw [handle_refused (.orders .CREATE_ORDER _) valid] at reached
          obtain ⟨noCalls, rfl⟩ := reached.of_fail
          exact .unwritten (by simp [writtenRows, noCalls]) (by simp [outcome])
      | ok dto =>
          rw [handle_createOrder valid] at reached
          rcases reached.of_call with
            ⟨noCalls, rfl⟩ | ⟨lookup, means, later, calls, afterLookup⟩
          · exact .unwritten (by simp [writtenRows, noCalls])
              (by simp [outcome])
          have meant := traced.meant ⟨_, lookup, means⟩ (by simp [calls])
          -- After a failed lookup the handler has nothing left to do.
          have ended : ∀ thrown, rest = .fail thrown → later = [] →
              OrderStage traffic job := by
            rintro thrown rfl rfl
            refine .unwritten ?_ (by simp [outcome])
            simp [writtenRows, calls, writtenRow]
          cases lookup with
          | error thrown =>
              obtain ⟨nothing, rfl⟩ := afterLookup.of_fail
              exact ended thrown rfl nothing
          | ok looked =>
              rw [Program.resume_ok] at afterLookup
              cases looked with
              | movies _ =>
                  obtain ⟨nothing, rfl⟩ := afterLookup.of_fail
                  exact ended .other rfl nothing
              | deleted _ =>
                  obtain ⟨nothing, rfl⟩ := afterLookup.of_fail
                  exact ended .other rfl nothing
              | movie movie =>
                  rcases afterLookup.of_call with
                    ⟨rfl, rfl⟩ | ⟨saved, how, onward, rfl, afterSave⟩
                  · refine .unwritten ?_ (by simp [outcome])
                    simp [writtenRows, calls, writtenRow]
                  cases saved with
                  | error thrown =>
                      obtain ⟨rfl, rfl⟩ := afterSave.of_fail
                      refine .unwritten ?_ (by simp [outcome])
                      simp [writtenRows, calls, writtenRow]
                  | ok row =>
                      obtain ⟨rfl, rfl⟩ := afterSave.of_done
                      obtain ⟨circumstances, rfl⟩ :=
                        (traced.meant ⟨_, .ok row, how⟩
                          (by simp [calls])).performed rfl
                      cases means with
                      | performed _ => cases meant
                      | abandoned child failure =>
                          obtain ⟨_, _, failed, _⟩ := meant
                          cases failed
                      | answered child =>
                          obtain ⟨carried, other, answer, isRemote, found,
                            carries, ends, received⟩ := meant
                          cases isRemote
                          obtain ⟨reply, rfl, read⟩ :=
                            receive_eq_ok received.symm
                          obtain rfl := answerOf_catalog read
                          exact .written calls found carries ends outcome

/-- A movie that was looked up is one as the catalog reads it. -/
theorem looked_movie (traced : (system deployment).Traced traffic job)
    {payload : Json} {movie : Movie}
    (isMessage : job.message = .service (.catalog .FIND_ONE_MOVIE payload))
    (looked : job.outcome = some (.ok (.catalog (.movie movie)))) :
    ∃ row : MovieRow, movie = row.hydrate := by
  obtain ⟨rest, reached, outcome⟩ := ended_handler traced isMessage looked
  cases valid : IdPayload.validate deployment.validator payload with
  | error thrown =>
      rw [handle_refused (.catalog .FIND_ONE_MOVIE _) valid] at reached
      obtain ⟨_, rfl⟩ := reached.of_fail
      cases outcome
  | ok dto =>
      rw [handle_findOneMovie valid] at reached
      rcases reached.of_call with
        ⟨_, rfl⟩ | ⟨selected, means, later, _, afterSelect⟩
      · cases outcome
      cases selected with
      | error thrown =>
          obtain ⟨_, rfl⟩ := afterSelect.of_fail
          cases outcome
      | ok rows =>
          rw [Program.resume_ok] at afterSelect
          cases head : rows.head? with
          | none =>
              simp only [head] at afterSelect
              obtain ⟨_, rfl⟩ := afterSelect.of_fail
              cases outcome
          | some row =>
              simp only [head] at afterSelect
              obtain ⟨_, rfl⟩ := afterSelect.of_done
              cases outcome
              exact ⟨row, rfl⟩

end OrderStage

/-! ## The row of an order -/

/-- An inserted order is stored as the database accepts it. -/
def storedOrders (deployment : Deployment) :
    Network.Record (SystemMessage deployment.validator)
      (SystemStore deployment.validator) Circumstances
      (SystemCall deployment.validator) SystemReply Thrown where
  allowed _ _ := True
  inv _ := True
  rely _ _ := True
  recorded _ _ call result _ :=
    match call, result with
    | .orders (.insert order), .ok row =>
        ∃ id now, OrderRow.build order id now = .ok row
    | _, _ => True

theorem storedOrders_sound :
    (storedOrders deployment).Sound (system deployment) where
  refl _ := trivial
  trans _ _ := trivial
  stable recorded _ := recorded
  handlers message := Program.uses_of_forall (fun _ => trivial) _
  performs {message call} circumstances store _ _ _ := by
    refine ⟨trivial, trivial, ?_⟩
    cases call with
    | orders statement =>
        cases statement with
        | insert order =>
            cases inserted : ((system deployment).exec circumstances
                (.orders (.insert order)) store).1 with
            | error thrown => simp [storedOrders]
            | ok row =>
                obtain ⟨executed, _⟩ := execStatement_eq_ok inserted
                rcases orderSchema.insertRow_cases circumstances.now order
                    store.databases.orders with
                  ⟨written, absent, built, _, equality⟩ |
                  ⟨error, after, equality, _⟩
                · simp only [Schema.exec, equality] at executed
                  cases executed
                  exact ⟨_, _, built⟩
                · simp only [Schema.exec, equality] at executed
                  cases executed
        | _ => trivial
    | _ => trivial

theorem shows_of_build {dto : CreateOrderPayload} {movie : MovieRow}
    {row : OrderRow} {id : ℤ} {now : Nat}
    (built : OrderRow.build
      (OrdersService.newOrder deployment.arithmetic dto movie.hydrate) id now =
        .ok row) :
    Shows (OrderRow.refresh
      (OrdersService.newOrder deployment.arithmetic dto movie.hydrate) row)
      row := by
  obtain ⟨rfl, userId, movieId, movieTitle, releaseYear,
    ⟨price, isPrice, priceWritten⟩, quantity, ⟨total, isTotal, totalWritten⟩,
    status, createdAt, updatedAt⟩ := OrderRow.build_eq_ok built
  refine ⟨total, ?_, totalWritten⟩
  cases isPrice
  have sameTotal := Option.some.inj isTotal
  have samePrice : movie.ticketPrice = row.ticketPrice := by
    rw [Numeric.write_read] at priceWritten
    exact Except.ok.inj priceWritten
  simp only [OrderRow.refresh, OrdersService.newOrder, OrderRow.hydrate,
    MovieRow.hydrate] at *
  rw [samePrice] at sameTotal
  simp [*]

end Cinema.System
