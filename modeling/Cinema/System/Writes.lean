import Cinema.Interleaving.Commitment
import Cinema.System.Refinement
import Cinema.System.Snapshots

/-!
# Writes take effect at one moment

A successful write has changed one table in one step, while its request was
there: the row it is answered with was inserted, deleted or cancelled by this
step, and nothing else changed with it.  Changes of movies are left out: two of
them that overlap can undo each other.
-/

namespace Cinema.System

open Interleaving Relational Shared Auth Catalog Orders Gateway
open Backend (ownedCriteria)

variable {deployment : Deployment}

/-! ## What a write does -/

/-- From `before` to `after` the write takes effect that a request of the user
is answered for. -/
inductive Effect (before : SystemStore deployment.validator) :
    Route → Option AuthUser → GatewayAnswer →
      SystemStore deployment.validator → Prop where
  | register {body sent dto salt now row absent}
      (passed : validationPipe deployment.validator
        (RegisterDto.properties deployment.mapping) body = .ok sent)
      (isDto : dto = RegisterDto.ofInstance sent)
      (confirmed : dto.password = dto.confirmPassword)
      (isFree : ¬ userSchema.Conflicted before.users row)
      (isWritten : UserRow.build
        (User.create dto.email
          (deployment.bcrypt.hash dto.password BCRYPT_SALT_ROUNDS salt) .USER)
        before.users.nextId now = .ok row) :
      Effect before (.register body) none
        (.auth (.user (AuthService.toPublicUser row.hydrate)))
        { before with users := (before.users.append row absent).advance }
  | createMovie {user body sent now row absent}
      (passed : validationPipe deployment.validator CreateMovieDto.properties
        body = .ok sent)
      (isFree : ¬ movieSchema.Conflicted before.databases.movies row)
      (isWritten : MovieRow.build (Movie.create (.ofInstance sent))
        before.databases.movies.nextId now = .ok row) :
      Effect before (.createMovie body) (some user)
        (.catalog (.movie
          (MovieRow.refresh (Movie.create (.ofInstance sent)) row)))
        { before with databases := { before.databases with
            movies := (before.databases.movies.append row absent).advance } }
  | removeMovie {user value id} (parsed : parseIntPipe value = .ok id)
      (isThere : before.databases.movies.Has id) :
      Effect before (.removeMovie value) (some user) .noContent
        { before with databases := { before.databases with
            movies := before.databases.movies.erase id } }
  | createOrder {user : AuthUser} {body sent order} {row : OrderRow} {absent}
      (passed : validationPipe deployment.validator CreateOrderDto.properties
        body = .ok sent)
      (owner : row.userId.val = user.id)
      (isMovie : row.movieId.val = sent.int (positiveInt "movieId"))
      (quantity : row.quantity.val = sent.int CreateOrderDto.quantityProperty)
      (status : row.status = .CONFIRMED) (shows : Shows order row) :
      Effect before (.createOrder body) (some user) (.orders (.order order))
        { before with databases := { before.databases with
            orders := (before.databases.orders.append row absent).advance } }
  | cancelOrder {user : AuthUser} {value id updatedAt orders}
      {row : OrderRow} (parsed : parseIntPipe value = .ok id)
      (isThere : row ∈ before.databases.orders.rows) (isId : row.id.val = id)
      (owner : row.userId.val = user.id)
      (isCancelled : CancellationOf row before.databases.orders orders) :
      Effect before (.cancelOrder value) (some user)
        (.orders (.order { cancelled row with updatedAt := some updatedAt }))
        { before with databases := { before.databases with orders } }

/-- The routes that write, but for the change of a movie. -/
def isWrite : Route → Bool
  | .register _ | .createMovie _ | .removeMovie _ | .createOrder _
  | .cancelOrder _ => true
  | _ => false

/-! ## Statements that write -/

section Statements

theorem execStatement_insert {Row Entity Patch : Type}
    {schema : Schema Row Entity Patch} {surroundings : Surroundings}
    {entity : Entity} {table : Table Row schema.key} {row : Row}
    (executed : (execStatement schema surroundings (.insert entity) table).1 =
      .ok row) :
    ∃ absent, schema.build entity table.nextId surroundings.now = .ok row ∧
      ¬ schema.Conflicted table row ∧
      (execStatement schema surroundings (.insert entity) table).2 =
        (table.append row absent).advance := by
  obtain ⟨inserts, after⟩ := execStatement_eq_ok executed
  rw [after]
  simp only [Schema.exec] at inserts ⊢
  rcases schema.insertRow_cases surroundings.now entity table with
    ⟨written, absent, built, unique, same⟩ | ⟨error, rest, same, _⟩
  · rw [same] at inserts ⊢
    cases inserts
    exact ⟨absent, built, unique, rfl⟩
  · rw [same] at inserts
    cases inserts

theorem execStatement_delete {Row Entity Patch : Type}
    {schema : Schema Row Entity Patch} {surroundings : Surroundings} {id : ℤ}
    {table : Table Row schema.key} {count : Nat}
    (executed : (execStatement schema surroundings
      (.delete id : SqlCall Row Entity Patch) table).1 = .ok count) :
    (execStatement schema surroundings
        (.delete id : SqlCall Row Entity Patch) table).2 = table.erase id ∧
      count = if table.Has id then 1 else 0 := by
  obtain ⟨deletes, after⟩ := execStatement_eq_ok executed
  rw [after]
  exact schema.exec_delete_eq_ok deletes

end Statements

/-! ## The handlers -/

section Handlers

variable {payload : Json}

theorem handle_newMovie {dto : CreateMovieDto deployment.validator}
    (valid : CreateMovieDto.validate deployment.validator payload = .ok dto) :
    handle deployment (.service (.catalog .CREATE_MOVIE payload)) =
      .call (.movies (.matching
          (Backend.pairCriteria dto.title dto.releaseYear none))) fun others =>
        if others.isEmpty then
          .call (.movies (.insert (Movie.create dto))) fun row =>
            .done (.catalog
              (.movie (MovieRow.refresh (Movie.create dto) row)))
        else .fail (Backend.newTitleTaken dto) := by
  simp only [handle, handleCatalog, Catalog.MoviesController.handle,
    Catalog.MoviesController.create, valid]
  refine congrArg (Program.call _) (funext fun others => ?_)
  cases others <;> rfl

theorem handle_deletion {dto : IdPayload}
    (valid : IdPayload.validate deployment.validator payload = .ok dto) :
    handle deployment (.service (.catalog .DELETE_MOVIE payload)) =
      .call (.movies (.delete dto.id)) fun affected =>
        if affected = 0 then
          .fail (notFoundException s!"Movie {dto.id} not found")
        else .done (.catalog (.deleted dto.id)) := by
  simp only [handle, handleCatalog, Catalog.MoviesController.handle,
    Catalog.MoviesController.remove, valid]
  refine congrArg (Program.call _) (funext fun affected => ?_)
  by_cases nothing : affected = 0
  · simp [Program.bind, nothing]
  · simp [Program.bind, nothing]

variable (deployment) in
/-- The rest of a cancellation that has read the order. -/
def savingCancelled (row : OrderRow) : SystemProgram deployment :=
  .orders <$> (.order <$> (orders deployment.granularity).save (cancelled row))

theorem handle_cancellation {dto : UserOrderPayload}
    (valid : UserOrderPayload.validate deployment.validator payload =
      .ok dto) :
    handle deployment (.service (.orders .CANCEL_USER_ORDER payload)) =
      .call (.orders (.matching (ownedCriteria dto))) fun rows =>
        match rows.head? with
        | none => .fail (notFoundException s!"Order {dto.orderId} not found")
        | some row =>
            if row.status = .CANCELLED then
              .fail (conflictException
                s!"Order {dto.orderId} is already cancelled")
            else savingCancelled deployment row := by
  simp only [handle, handleOrders, Orders.OrdersController.handle,
    Orders.OrdersController.cancel, valid]
  refine congrArg (Program.call _) (funext fun rows => ?_)
  cases rows with
  | nil => rfl
  | cons row rest =>
      by_cases already : row.status = .CANCELLED
      · simp [Program.bind, orderSchema, OrderRow.hydrate, already]
      · simp [Program.bind, orderSchema, OrderRow.hydrate, already]
        rfl

theorem savingCancelled_atomic (atomic : deployment.granularity = .atomicSave)
    (row : OrderRow) :
    savingCancelled deployment row =
      .call (.orders (.save row.id.val (cancelled row))) fun written =>
        .done (.orders (.order
          (written.elim (cancelled row) (OrderRow.refresh (cancelled row))))) := by
  simp only [savingCancelled, atomic]
  rfl

theorem savingCancelled_statements
    (statements : deployment.granularity = .statements) (row : OrderRow) :
    savingCancelled deployment row =
      .call (.orders (.reread row.id.val)) fun reread =>
        match reread with
        | none =>
            .call (.orders (.reinsert row.id.val (cancelled row)))
              fun written => .done (.orders (.order
                (OrderRow.refresh (cancelled row) written)))
        | some current =>
            match OrderRow.diff (cancelled row) current with
            | none => .done (.orders (.order (cancelled row)))
            | some patch =>
                .call (.orders (.update row.id.val patch)) fun written =>
                  .done (.orders (.order (written.elim (cancelled row)
                    (OrderRow.refresh (cancelled row))))) := by
  simp only [savingCancelled, statements]
  refine congrArg (Program.call _) (funext fun reread => ?_)
  cases reread with
  | none => rfl
  | some current =>
      cases differs : orderSchema.diff (cancelled row) current with
      | none =>
          have noPatch : OrderRow.diff (cancelled row) current = none := differs
          simp [Program.bind, differs, noPatch]
      | some patch =>
          have hasPatch : OrderRow.diff (cancelled row) current = some patch :=
            differs
          simp [Program.bind, differs, hasPatch]
          rfl

end Handlers

/-! ## The step of a write -/

private theorem public_of_build {email passwordHash : String} {id : ℤ}
    {now : Nat} {row : UserRow}
    (built : UserRow.build (User.create email passwordHash .USER) id now =
      .ok row) :
    AuthService.toPublicUser
        (UserRow.refresh (User.create email passwordHash .USER) row) =
      AuthService.toPublicUser row.hydrate := by
  obtain ⟨_, hasEmail, _, role, _, _⟩ := UserRow.build_eq_ok built
  simp only [User.create] at hasEmail role
  simp [AuthService.toPublicUser, UserRow.refresh, User.create, UserRow.hydrate,
    hasEmail, role]

/-- However the order has changed since it was read, the one that is answered
is the one in the table, cancelled. -/
private theorem answered_cancelled {read current : OrderRow}
    (terms : read.SameTerms current) {change : Option OrderRow}
    (cancelling : Cancelling current change) :
    ∃ updatedAt, change.elim (cancelled read)
        (OrderRow.refresh (cancelled read)) =
      { cancelled current with updatedAt := some updatedAt } := by
  cases written : change with
  | none =>
      exact ⟨read.updatedAt, by
        simp [cancelled, OrderRow.hydrate, terms.id, terms.userId,
          terms.movieId, terms.movieTitle, terms.movieReleaseYear,
          terms.ticketPrice, terms.quantity, terms.totalPrice,
          terms.createdAt]⟩
  | some row =>
      have isId := cancelling.id written
      exact ⟨row.updatedAt, by
        simp [cancelled, OrderRow.refresh, OrderRow.hydrate, isId,
          terms.userId, terms.movieId, terms.movieTitle,
          terms.movieReleaseYear, terms.ticketPrice, terms.quantity,
          terms.totalPrice, terms.createdAt]⟩

/-- A step of the run makes the change.  It is a call that the job `index` has
performed, and `root` was there and not finished. -/
def WrittenAt (earlier traffic : SystemTraffic deployment) (index root : Nat)
    (changes : SystemStore deployment.validator →
      SystemStore deployment.validator → Prop) : Prop :=
  ∃ front circumstances exchange moment next,
    (system deployment).PerformedAt anyClients earlier traffic index front
        circumstances exchange moment next ∧
      Network.Underway moment root ∧ changes moment.store next.store

private theorem written_at {earlier traffic : SystemTraffic deployment}
    {index : Nat} {front : List (SystemExchange deployment)}
    {circumstances : Circumstances} {exchange : SystemExchange deployment}
    {moment next : SystemTraffic deployment}
    {changes : SystemStore deployment.validator →
      SystemStore deployment.validator → Prop}
    (performed : (system deployment).PerformedAt anyClients earlier traffic
      index front circumstances exchange moment next)
    (changed : changes moment.store next.store) :
    WrittenAt earlier traffic index index changes :=
  ⟨front, circumstances, exchange, moment, next, performed, performed.underway,
    changed⟩

section Steps

variable {store : SystemStore deployment.validator}
  {earlier traffic : SystemTraffic deployment} {index : Nat}
  {job : SystemJob deployment} {answer : SystemAnswer}

variable
  (began : (system deployment).Runs anyClients (.start store) earlier)
  (runs : (system deployment).Runs anyClients earlier traffic)
  (new : earlier.jobs.length ≤ index)
  (found : traffic.jobs[index]? = some job)
include began runs new found

/-- A job that succeeds and was at a local call got its answer at a moment of
the run. -/
theorem answered_at {call : SystemCall deployment.validator}
    {next : SystemReply call → SystemProgram deployment}
    {rest : SystemProgram deployment}
    {front history : List (SystemExchange deployment)}
    (calls : job.calls = front ++ history) (isLocal : remote call = none)
    (reached : Program.Reaches (.call call next) history rest)
    (ends : rest.outcome = some (.ok answer)) :
    ∃ reply circumstances later moment after,
      job.calls =
          front ++ [⟨call, .ok reply, .performed circumstances⟩] ++ later ∧
        Program.Reaches (next reply) later rest ∧
        (system deployment).PerformedAt anyClients earlier traffic index front
          circumstances ⟨call, .ok reply, .performed circumstances⟩ moment
          after ∧
        (exec deployment circumstances call moment.store).1 = .ok reply ∧
        after.store = (exec deployment circumstances call moment.store).2 := by
  have traced := Network.Runs.traced Network.traced_start (began.trans runs)
    job (List.mem_of_getElem? found)
  obtain ⟨reply, circumstances, later, calls, onward⟩ :=
    traced.answered calls isLocal reached ends
  obtain ⟨moment, after, performed⟩ := runs.performedAt_new new found
    (calls.trans (List.append_assoc _ _ _)) rfl
  exact ⟨reply, circumstances, later, moment, after, calls, onward, performed,
    performed.result.symm, performed.store⟩

/-! ## The services -/

variable (deployment) in
/-- From `before` to `after` takes effect what `message` is answered for. -/
def Writes (route : Route) (user : Option AuthUser) (message : ServiceMessage)
    (answer : SystemAnswer)
    (before after : SystemStore deployment.validator) : Prop :=
  ∃ reply, passOn message (.ok answer) = .ok (.http reply) ∧
    Effect before route user reply after

theorem writes_register {body : Json}
    {sent : Instance deployment.validator
      (RegisterDto.properties deployment.mapping)}
    (passed : validationPipe deployment.validator
      (RegisterDto.properties deployment.mapping) body = .ok sent)
    (isMessage : job.message =
      .service (.auth .REGISTER (.obj sent.fields)))
    (ends : job.outcome = some (.ok answer)) :
    WrittenAt earlier traffic index index
      (Writes deployment (.register body) none
        (.auth .REGISTER (.obj sent.fields)) answer) := by
  have traced := Network.Runs.traced Network.traced_start (began.trans runs)
    job (List.mem_of_getElem? found)
  obtain ⟨rest, reached, ended⟩ := ended_handler traced isMessage ends
  obtain ⟨dto, valid, isDto⟩ := (decides_register sent).accepted rfl
  rw [handle_register valid] at reached
  obtain ⟨config, _, _, calls, onward⟩ :=
    traced.answered (List.nil_append _).symm rfl reached ended
  unfold registering at onward
  by_cases differ : dto.password ≠ dto.confirmPassword
  · rw [if_pos differ] at onward
    obtain ⟨_, rfl⟩ := onward.of_fail
    cases ended
  rw [if_neg differ] at onward
  obtain ⟨rows, _, _, calls, selected⟩ :=
    traced.answered calls rfl onward ended
  cases rows with
  | cons row rows =>
      obtain ⟨_, rfl⟩ := selected.of_fail
      cases ended
  | nil =>
      obtain ⟨passwordHash, salting, _, _, _, calls, hashed, _, isHash, _⟩ :=
        answered_at began runs new found calls rfl selected ended
      obtain ⟨row, _, _, moment, after, _, inserted, performed, executed,
        stored⟩ := answered_at began runs new found calls rfl hashed ended
      obtain ⟨_, rfl⟩ := inserted.of_done
      cases ended
      cases isHash
      obtain ⟨absent, built, isFree, same⟩ := execStatement_insert executed
      apply written_at performed
      rw [stored]
      simp only [exec, same]
      refine ⟨_, rfl, ?_⟩
      rw [public_of_build built]
      exact .register passed isDto (not_not.mp differ) isFree built

theorem writes_createMovie {user : AuthUser} {body : Json}
    {sent : Instance deployment.validator CreateMovieDto.properties}
    (passed : validationPipe deployment.validator CreateMovieDto.properties
      body = .ok sent)
    (isMessage : job.message =
      .service (.catalog .CREATE_MOVIE (.obj sent.fields)))
    (ends : job.outcome = some (.ok answer)) :
    WrittenAt earlier traffic index index
      (Writes deployment (.createMovie body) (some user)
        (.catalog .CREATE_MOVIE (.obj sent.fields)) answer) := by
  have traced := Network.Runs.traced Network.traced_start (began.trans runs)
    job (List.mem_of_getElem? found)
  obtain ⟨rest, reached, ended⟩ := ended_handler traced isMessage ends
  obtain ⟨dto, valid, rfl⟩ := (decides_createMovie sent).accepted rfl
  rw [handle_newMovie valid] at reached
  obtain ⟨others, _, _, calls, onward⟩ :=
    traced.answered (List.nil_append _).symm rfl reached ended
  cases others with
  | cons other others =>
      obtain ⟨_, rfl⟩ := onward.of_fail
      cases ended
  | nil =>
      obtain ⟨row, _, _, moment, after, _, inserted, performed, executed,
        stored⟩ := answered_at began runs new found calls rfl onward ended
      obtain ⟨_, rfl⟩ := inserted.of_done
      cases ended
      obtain ⟨absent, built, isFree, same⟩ := execStatement_insert executed
      apply written_at performed
      rw [stored]
      simp only [exec, same]
      exact ⟨_, rfl, .createMovie passed isFree built⟩

theorem writes_removeMovie {user : AuthUser} {value : Option ℚ} {id : ℤ}
    (parsed : parseIntPipe value = .ok id)
    (isMessage : job.message =
      .service (.catalog .DELETE_MOVIE (.obj [("id", .num id)])))
    (ends : job.outcome = some (.ok answer)) :
    WrittenAt earlier traffic index index
      (Writes deployment (.removeMovie value) (some user)
        (.catalog .DELETE_MOVIE (.obj [("id", .num id)])) answer) := by
  have traced := Network.Runs.traced Network.traced_start (began.trans runs)
    job (List.mem_of_getElem? found)
  obtain ⟨rest, reached, ended⟩ := ended_handler traced isMessage ends
  have decides := @decides_id deployment.validator id
  by_cases silent : idMessages [("id", id)] = []
  · obtain ⟨dto, valid, rfl⟩ := decides.accepted silent
    rw [handle_deletion valid] at reached
    obtain ⟨affected, _, _, moment, after, _, deleted, performed, executed,
      stored⟩ := answered_at began runs new found (List.nil_append _).symm rfl
        reached ended
    obtain ⟨same, count⟩ := execStatement_delete executed
    apply written_at performed
    rw [stored]
    simp only [exec, same]
    by_cases isThere : moment.store.databases.movies.Has dto.id
    · rw [if_pos isThere] at count
      subst count
      obtain ⟨_, rfl⟩ := deleted.of_done
      cases ended
      exact ⟨_, rfl, .removeMovie parsed isThere⟩
    · rw [if_neg isThere] at count
      subst count
      obtain ⟨_, rfl⟩ := deleted.of_fail
      cases ended
  · exact (not_refused began runs found ends (.inl ⟨_, rfl⟩) isMessage
      (handle_refused (.catalog .DELETE_MOVIE _) (decides.refused silent))).elim

omit new in
/-- The movie that an order is given is the one it asks for. -/
private theorem looked_up {dto : CreateOrderPayload} {movie : Movie}
    {means : Means Circumstances ClientFailure}
    (made : (⟨.send (lookupMessage dto), .ok (.movie movie), means⟩ :
      SystemExchange deployment) ∈ job.calls) :
    ∃ row : MovieRow, row.id.val = dto.movieId ∧ movie = row.hydrate := by
  have meant := (Network.Runs.traced Network.traced_start (began.trans runs)
    job (List.mem_of_getElem? found)).meant _ made
  cases means with
  | performed circumstances => cases meant
  | abandoned child failure =>
      obtain ⟨_, _, failed, _⟩ := meant
      cases failed
  | answered child =>
      obtain ⟨carried, other, outcome, isRemote, otherFound, carries, ends,
        received⟩ := meant
      cases isRemote
      obtain ⟨reply, rfl, read⟩ := receive_eq_ok received.symm
      obtain rfl := answerOf_catalog read
      obtain ⟨moment, _, _, _, seen⟩ := sees_movie (.refl _)
        (began.trans runs) (Nat.zero_le _) otherFound ends (.inl ⟨_, rfl⟩)
        carries
      rcases seen with ⟨row, _, isId, same⟩ | ⟨_, thrown, failed⟩
      · cases same
        exact ⟨row, isId, rfl⟩
      · cases failed

theorem writes_createOrder {user : AuthUser} {body : Json}
    {sent : Instance deployment.validator CreateOrderDto.properties}
    (passed : validationPipe deployment.validator CreateOrderDto.properties
      body = .ok sent)
    (isMessage : job.message = .service (.orders .CREATE_ORDER
      (.obj (sent.fields.override "userId" (.num user.id)))))
    (ends : job.outcome = some (.ok answer)) :
    WrittenAt earlier traffic index index
      (Writes deployment (.createOrder body) (some user) (.orders .CREATE_ORDER
        (.obj (sent.fields.override "userId" (.num user.id)))) answer) := by
  have traced := Network.Runs.traced Network.traced_start (began.trans runs)
    job (List.mem_of_getElem? found)
  have decides := decides_createOrder sent user.id
  by_cases silent : idMessages [("userId", user.id)] = []
  · obtain ⟨dto, valid, isUser, isMovie, isQuantity⟩ := decides.accepted silent
    obtain ⟨rest, reached, ended⟩ := ended_handler traced isMessage ends
    rw [handle_createOrder valid] at reached
    obtain ⟨looked, means, later, calls, onward⟩ := reached.answered ended
    cases looked with
    | movies _ | deleted _ =>
        obtain ⟨_, rfl⟩ := onward.of_fail
        cases ended
    | movie movie =>
        obtain ⟨movieRow, isRow, rfl⟩ := looked_up began runs found
          (by rw [calls]; exact List.mem_cons_self)
        obtain ⟨row, circumstances, _, moment, after, _, inserted, performed,
          executed, stored⟩ :=
          answered_at began runs new found
            (calls.trans List.singleton_append.symm) rfl onward ended
        obtain ⟨_, rfl⟩ := inserted.of_done
        cases ended
        obtain ⟨absent, built, _, same⟩ := execStatement_insert executed
        apply written_at performed
        rw [stored]
        simp only [exec, same]
        obtain ⟨_, owner, ofMovie, _, _, _, quantity, _, status, _, _⟩ :=
          OrderRow.build_eq_ok built
        simp only [OrdersService.newOrder, MovieRow.hydrate, Option.some.injEq]
          at owner ofMovie quantity status
        refine ⟨_, rfl, .createOrder passed ?_ ?_ ?_ status
          (shows_of_build built)⟩
        · exact owner.symm.trans isUser
        · rw [← ofMovie, isRow, isMovie]
        · exact quantity.symm.trans isQuantity
  · exact (not_refused began runs found ends (.inl ⟨_, rfl⟩) isMessage
      (handle_refused (.orders .CREATE_ORDER _) (decides.refused silent))).elim

omit runs found in
/-- A call that was made before has its moment too, and the orders have stayed
since. -/
private theorem seen_before {front middle : List (SystemExchange deployment)}
    {call : SystemCall deployment.validator}
    {result : Except Thrown (SystemReply call)} {before here : Circumstances}
    {exchange : SystemExchange deployment}
    {moment after : SystemTraffic deployment}
    (performed : (system deployment).PerformedAt anyClients earlier traffic
      index (front ++ ⟨call, result, .performed before⟩ :: middle) here
      exchange moment after) :
    ∃ past : SystemTraffic deployment,
      (exec deployment before call past.store).1 = result ∧
        Evolves past.store.databases.orders
          moment.store.databases.orders := by
  obtain ⟨waiting, waitingFound, calls⟩ := performed.past
  obtain ⟨past, _, earlierOne⟩ :=
    performed.before.performedAt_new new waitingFound calls rfl
  exact ⟨past, earlierOne.result.symm,
    orders_evolve (began.trans earlierOne.before) earlierOne.onward⟩

omit runs found in
/-- An order that was read before is still there, at most cancelled. -/
private theorem read_before {dto : UserOrderPayload} {rows : List OrderRow}
    {read : OrderRow} {selecting here : Circumstances}
    {middle : List (SystemExchange deployment)}
    {exchange : SystemExchange deployment}
    {moment after : SystemTraffic deployment}
    (performed : (system deployment).PerformedAt anyClients earlier traffic
      index (⟨.orders (.matching (ownedCriteria dto)), .ok rows,
        .performed selecting⟩ :: middle) here exchange moment after)
    (member : read ∈ rows) :
    ∃ current ∈ moment.store.databases.orders.rows, read.Kept current ∧
      current.id.val = dto.orderId ∧ current.userId.val = dto.userId ∧
      moment.store.databases.orders.find? read.id.val = some current := by
  obtain ⟨past, selected, evolves⟩ :=
    @seen_before _ _ _ _ _ began new [] _ _ _ _ _ _ _ _ performed
  have isRows := (selects_orders (ownedCriteria dto)).found selected
  subst isRows
  obtain ⟨isThere, isId, owner⟩ := mem_owned.mp member
  obtain ⟨current, isCurrent, kept⟩ := evolves read isThere
  have sameId : current.id.val = read.id.val :=
    (congrArg Ranged.val kept.terms.id).symm
  have sameOwner : current.userId.val = read.userId.val :=
    (congrArg Ranged.val kept.terms.userId).symm
  exact ⟨current, isCurrent, kept, sameId.trans isId, sameOwner.trans owner,
    Table.find?_eq_some.mpr ⟨isCurrent, sameId⟩⟩

omit runs found in
private theorem reread_before {front middle : List (SystemExchange deployment)}
    {id : ℤ} {current stored : OrderRow} {rereading here : Circumstances}
    {exchange : SystemExchange deployment}
    {moment after : SystemTraffic deployment}
    (performed : (system deployment).PerformedAt anyClients earlier traffic
      index (front ++ ⟨.orders (.reread id), .ok (some current),
        .performed rereading⟩ :: middle) here exchange moment after)
    (isStored : moment.store.databases.orders.find? id = some stored) :
    current.Kept stored := by
  obtain ⟨past, reread, evolves⟩ := seen_before began new performed
  obtain ⟨result, _⟩ := execStatement_eq_ok reread
  simp only [Schema.exec] at result
  obtain ⟨member, isId⟩ := Table.find?_eq_some.mp (Except.ok.inj result)
  obtain ⟨kept, keptFound, same⟩ := evolves.find member
  have sameId : current.id.val = id := isId
  rw [sameId, isStored] at keptFound
  cases keptFound
  exact same

omit began runs new found in
private theorem reply_of_exec {here : Circumstances}
    {statement : SqlCall OrderRow Order OrderPatch}
    {reply expected : SqlReply statement}
    {moment : SystemStore deployment.validator} {after : OrderTable}
    (executed : (exec deployment here (.orders statement) moment).1 = .ok reply)
    (executes : orderSchema.exec here.now statement moment.databases.orders =
      (.ok expected, after)) : expected = reply := by
  obtain ⟨result, _⟩ := execStatement_eq_ok executed
  rw [executes] at result
  exact Except.ok.inj result

omit began runs new found in
/-- A statement that cancels the order as it is now ends a cancellation. -/
private theorem cancels_at {user : AuthUser} {value : Option ℚ} {id : ℤ}
    (parsed : parseIntPipe value = .ok id)
    {front : List (SystemExchange deployment)} {here : Circumstances}
    {statement : SqlCall OrderRow Order OrderPatch}
    {reply : SqlReply statement}
    {moment after : SystemTraffic deployment}
    (performed : (system deployment).PerformedAt anyClients earlier traffic
      index front here ⟨.orders statement, .ok reply, .performed here⟩ moment
      after)
    {read current : OrderRow} {change : Option OrderRow}
    (isThere : current ∈ moment.store.databases.orders.rows)
    (kept : read.Kept current) (isId : current.id.val = id)
    (owner : current.userId.val = user.id)
    (cancelling : Cancelling current change)
    (executes : orderSchema.exec here.now statement
        moment.store.databases.orders =
      (.ok reply, applied change moment.store.databases.orders)) :
    WrittenAt earlier traffic index index
      (Writes deployment (.cancelOrder value) (some user)
        (.orders .CANCEL_USER_ORDER
          (.obj [("userId", .num user.id), ("orderId", .num id)]))
        (.orders (.order (change.elim (cancelled read)
          (OrderRow.refresh (cancelled read)))))) := by
  have executed : (execStatement orderSchema here.toSurroundings statement
      moment.store.databases.orders).1 = .ok reply := performed.result.symm
  obtain ⟨_, same⟩ := execStatement_eq_ok executed
  rw [executes] at same
  have stored : after.store =
    (exec deployment here (.orders statement) moment.store).2 :=
      performed.store
  obtain ⟨updatedAt, shape⟩ := answered_cancelled kept.terms cancelling
  apply written_at performed
  refine ⟨_, rfl, ?_⟩
  rw [stored, shape]
  simp only [exec, same]
  exact .cancelOrder parsed isThere isId owner ⟨change, cancelling, rfl⟩

/-- The save of an order that was read before it was cancelled. -/
private theorem writes_saving {user : AuthUser} {value : Option ℚ}
    {dto : UserOrderPayload} (parsed : parseIntPipe value = .ok dto.orderId)
    (isUser : dto.userId = user.id) {rows : List OrderRow}
    {selecting : Circumstances} {history : List (SystemExchange deployment)}
    (calls : job.calls = [⟨.orders (.matching (ownedCriteria dto)), .ok rows,
      .performed selecting⟩] ++ history)
    {read : OrderRow} (member : read ∈ rows) {rest : SystemProgram deployment}
    (reached : Program.Reaches (savingCancelled deployment read) history rest)
    (ended : rest.outcome = some (.ok answer)) :
    WrittenAt earlier traffic index index
      (Writes deployment (.cancelOrder value) (some user)
        (.orders .CANCEL_USER_ORDER (.obj [("userId", .num user.id),
          ("orderId", .num dto.orderId)])) answer) := by
  cases granularity : deployment.granularity with
  | atomicSave =>
      rw [savingCancelled_atomic granularity] at reached
      obtain ⟨written, here, _, moment, after, _, saved, performed, executed,
        _⟩ := answered_at began runs new found calls rfl reached ended
      obtain ⟨_, rfl⟩ := saved.of_done
      cases ended
      obtain ⟨current, isThere, kept, isId, owner, currentFound⟩ :=
        read_before began new performed member
      obtain ⟨change, cancelling, executes⟩ :=
        exec_save_cancelled kept.terms here.now
      have saves := executes _ currentFound
      obtain rfl := reply_of_exec executed saves
      exact cancels_at parsed performed isThere kept isId (owner.trans isUser)
        cancelling saves
  | statements =>
      rw [savingCancelled_statements granularity] at reached
      obtain ⟨reread, here, _, moment, after, calls, onward, performed,
        executed, _⟩ :=
        answered_at began runs new found calls rfl reached ended
      obtain ⟨current, isThere, kept, isId, owner, currentFound⟩ :=
        read_before began new performed member
      have rereads : orderSchema.exec here.now (.reread read.id.val)
          moment.store.databases.orders =
        (.ok (some current), moment.store.databases.orders) := by
        simp only [Schema.exec, currentFound]
      obtain rfl := reply_of_exec executed rereads
      cases differs : OrderRow.diff (cancelled read) current with
      | none =>
          simp only [differs] at onward
          obtain ⟨_, rfl⟩ := onward.of_done
          cases ended
          have cancelling : Cancelling current none :=
            diff_cancelled_none differs
          exact cancels_at parsed performed isThere kept isId
            (owner.trans isUser) cancelling rereads
      | some patch =>
          simp only [differs] at onward
          obtain ⟨written, later, _, next, _, _, updated, updating, executed,
            _⟩ := answered_at began runs new found calls rfl onward ended
          obtain ⟨_, rfl⟩ := updated.of_done
          cases ended
          obtain ⟨stored, isStored, keptOn, isId, owner, storedFound⟩ :=
            read_before began new updating member
          obtain ⟨patched, sets⟩ := diff_cancelled kept.terms differs
          have setsNow : patch.status.getD stored.status = .CANCELLED := by
            have since : current.Kept stored :=
              @reread_before _ _ _ _ _ began new [_] [] _ _ _ _ _ _ _ _
                updating storedFound
            rcases patched.status with leaves | cancels
            · rcases since.status with same | done
              · rw [same]
                exact sets
              · simp [leaves, done]
            · simp [cancels]
          obtain ⟨change, cancelling, executes⟩ :=
            exec_update_cancelled _ patched setsNow later.now
          have updates := executes _ storedFound
          obtain rfl := reply_of_exec executed updates
          exact cancels_at parsed updating isStored keptOn isId
            (owner.trans isUser) cancelling updates

theorem writes_cancelOrder {user : AuthUser} {value : Option ℚ} {id : ℤ}
    (parsed : parseIntPipe value = .ok id)
    (isMessage : job.message = .service (.orders .CANCEL_USER_ORDER
      (.obj [("userId", .num user.id), ("orderId", .num id)])))
    (ends : job.outcome = some (.ok answer)) :
    WrittenAt earlier traffic index index
      (Writes deployment (.cancelOrder value) (some user)
        (.orders .CANCEL_USER_ORDER
          (.obj [("userId", .num user.id), ("orderId", .num id)])) answer) := by
  have traced := Network.Runs.traced Network.traced_start (began.trans runs)
    job (List.mem_of_getElem? found)
  obtain ⟨rest, reached, ended⟩ := ended_handler traced isMessage ends
  have decides := @decides_order deployment.validator user.id id
  by_cases silent : idMessages [("orderId", id), ("userId", user.id)] = []
  · obtain ⟨dto, valid, isUser, rfl⟩ := decides.accepted silent
    rw [handle_cancellation valid] at reached
    obtain ⟨rows, selecting, later, calls, onward⟩ :=
      traced.answered (List.nil_append _).symm rfl reached ended
    cases first : rows.head? with
    | none =>
        simp only [first] at onward
        obtain ⟨_, rfl⟩ := onward.of_fail
        cases ended
    | some read =>
        simp only [first] at onward
        by_cases already : read.status = .CANCELLED
        · rw [if_pos already] at onward
          obtain ⟨_, rfl⟩ := onward.of_fail
          cases ended
        · rw [if_neg already] at onward
          exact writes_saving began runs new found parsed isUser calls
            (List.mem_of_head? first) onward ended
  · exact (not_refused began runs found ends (.inl ⟨_, rfl⟩) isMessage
      (handle_refused (.orders .CANCEL_USER_ORDER _)
        (decides.refused silent))).elim

end Steps

/-! ## Requests -/

section Requests

variable {store : SystemStore deployment.validator}
  {earlier traffic : SystemTraffic deployment} {index : Nat}
  {job : SystemJob deployment} {request : HttpRequest}

theorem effect_of_write
    (began : (system deployment).Runs anyClients (.start store) earlier)
    (runs : (system deployment).Runs anyClients earlier traffic)
    (new : earlier.jobs.length ≤ index)
    (found : traffic.jobs[index]? = some job)
    (isRequest : job.message = .http request)
    (writes : isWrite request.route = true) {answer : GatewayAnswer}
    (succeeds : job.outcome = some (.ok (.http answer))) :
    ∃ user child, Identified job request user ∧ job.sent = [child] ∧
      WrittenAt earlier traffic child index fun before after =>
        Effect before request.route user answer after := by
  obtain ⟨user, message, child, other, given, identified, forwards, childFound,
    isMessage, given_ends, passed, sent, newChild, present⟩ :=
    asked began runs new found isRequest succeeds (.inl ⟨_, rfl⟩)
  refine ⟨user, child, identified, sent, ?_⟩
  cases given with
  | error thrown => cases passed
  | ok told =>
      have lifted : WrittenAt earlier traffic child child
          (Writes deployment request.route user message told) →
          WrittenAt earlier traffic child index fun before after =>
            Effect before request.route user answer after := by
        rintro ⟨front, circumstances, exchange, moment, after, performed,
          underway, reply, same, effect⟩
        rw [← passed] at same
        cases same
        exact ⟨front, circumstances, exchange, moment, after, performed,
          present moment performed.before performed.onward underway, effect⟩
      apply lifted
      obtain ⟨authorization, route⟩ := request
      cases forwards with
      | register valid =>
          exact writes_register began runs newChild childFound valid isMessage
            given_ends
      | createMovie isAdmin valid =>
          exact writes_createMovie began runs newChild childFound valid
            isMessage given_ends
      | removeMovie isAdmin parsed =>
          exact writes_removeMovie began runs newChild childFound parsed
            isMessage given_ends
      | createOrder valid =>
          exact writes_createOrder began runs newChild childFound valid
            isMessage given_ends
      | cancelOrder parsed =>
          exact writes_cancelOrder began runs newChild childFound parsed
            isMessage given_ends
      | _ => cases writes

/-- Every successful write takes effect in one step while its request is there,
and after everything that has happened before the request came: a call of the
one message that this request, and no other, has sent.  In this step the row
that the request is answered with is inserted, deleted or cancelled, from what
the gateway has read in the request, and nothing else changes; an order that
another request has cancelled since it was read just stays as it is. -/
theorem writes_take_effect
    (began : (system deployment).Runs anyClients (.start store) earlier)
    (runs : (system deployment).Runs anyClients earlier traffic)
    (new : earlier.jobs.length ≤ index)
    (found : traffic.jobs[index]? = some job)
    (isRequest : job.message = .http request)
    (writes : isWrite request.route = true) {answer : GatewayAnswer}
    (succeeds : job.outcome = some (.ok (.http answer))) :
    ∃ user child, Identified job request user ∧ job.sent = [child] ∧
      (∀ (position : Nat) (other : SystemJob deployment),
        traffic.jobs[position]? = some other → child ∈ other.sent →
          position = index) ∧
      WrittenAt earlier traffic child index fun before after =>
        Effect before request.route user answer after := by
  obtain ⟨user, child, identified, sent, written⟩ :=
    effect_of_write began runs new found isRequest writes succeeds
  refine ⟨user, child, identified, sent, ?_, written⟩
  intro position other otherFound otherSent
  have once : Network.SentOnce traffic :=
    Network.Runs.sentOnce (began.trans runs)
  exact once position index other job child otherFound found otherSent
    (by simp [sent])

end Requests

/-- What the request of a job that has been answered is, and its answer. -/
def answerGiven (job : SystemJob deployment) :
    Option (HttpRequest × GatewayAnswer) :=
  match job.message, job.outcome with
  | .http request, some (.ok (.http answer)) => some (request, answer)
  | _, _ => none

theorem answerGiven_eq_some {job : SystemJob deployment}
    {request : HttpRequest} {answer : GatewayAnswer}
    (given : answerGiven job = some (request, answer)) :
    job.message = .http request ∧ job.outcome = some (.ok (.http answer)) := by
  unfold answerGiven at given
  split at given
  · rename_i isRequest ends
    cases given
    exact ⟨isRequest, ends⟩
  · cases given

/-- An order is cancelled. -/
theorem writes_take_effect_example :
    ∃ (moment next : SystemTraffic
        (sampleDeployment (.sample 7 "ripley@example.com" .USER)))
      (route : Route) (user : Option AuthUser) (answer : GatewayAnswer),
      (system _).Steps anyClients moment next ∧
        isWrite route = true ∧
        Effect moment.store route user answer next.store := by
  let deployment := sampleDeployment (.sample 7 "ripley@example.com" .USER)
  let moment : Circumstances := ⟨calm 1, 0, 0⟩
  let store : SystemStore deployment.validator := ⟨∅, sampleDatabases, []⟩
  have checked : (System.play (.start store : SystemTraffic deployment)
      [.arrive (.http ⟨some "Bearer token", .cancelOrder (some 1)⟩),
        .act 0 .deliver, .act 0 (.perform moment), .act 0 .send,
        .act 1 .deliver, .act 1 (.perform moment), .act 1 (.perform moment),
        .act 1 (.perform moment), .act 0 .answer]).any
      (fun traffic => (traffic.jobs[0]?).any fun job =>
        (answerGiven job).any fun given => isWrite given.1.route) = true := by
    decide +kernel
  obtain ⟨traffic, played, checked⟩ := (Option.any_eq_true _ _).mp checked
  obtain ⟨job, found, checked⟩ := (Option.any_eq_true _ _).mp checked
  obtain ⟨⟨request, answer⟩, given, writes⟩ :=
    (Option.any_eq_true _ _).mp checked
  obtain ⟨isRequest, succeeds⟩ := answerGiven_eq_some given
  obtain ⟨user, child, _, _, _, _, _, _, before, after, performed, _,
    effect⟩ :=
    writes_take_effect (.refl _) (System.runs_of_play played) (Nat.zero_le 0)
      found isRequest writes succeeds
  exact ⟨before, after, request.route, user, answer, performed.step, writes,
    effect⟩

end Cinema.System
