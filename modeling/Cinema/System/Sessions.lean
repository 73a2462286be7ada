import Cinema.System.Writes

/-!
# What a user has been shown stays

An order that an answer has shown is there for every request that comes after
this answer: its owner is shown it again, with the same terms, at most
cancelled in the meantime.  So users read their own writes, and what they read
never goes back.
-/

namespace Cinema.System

open Interleaving Relational Shared Catalog Orders Gateway

variable {deployment : Deployment}

/-! ## Shown orders -/

/-- The same order, as it is shown later.  A total that has just been computed
is compared as the column holds it. -/
structure Continued (older newer : Order) : Prop where
  id : newer.id = older.id
  userId : newer.userId = older.userId
  movieId : newer.movieId = older.movieId
  movieTitle : newer.movieTitle = older.movieTitle
  movieReleaseYear : newer.movieReleaseYear = older.movieReleaseYear
  ticketPrice : newer.ticketPrice = older.ticketPrice
  quantity : newer.quantity = older.quantity
  totalPrice : newer.totalPrice.map (Numeric.write 12 2) =
    older.totalPrice.map (Numeric.write 12 2)
  createdAt : newer.createdAt = older.createdAt
  status : newer.status = older.status ∨ newer.status = some .CANCELLED

theorem Continued.refl (order : Order) : Continued order order :=
  ⟨rfl, rfl, rfl, rfl, rfl, rfl, rfl, rfl, rfl, .inl rfl⟩

theorem Continued.trans {first second third : Order}
    (left : Continued first second) (right : Continued second third) :
    Continued first third where
  id := right.id.trans left.id
  userId := right.userId.trans left.userId
  movieId := right.movieId.trans left.movieId
  movieTitle := right.movieTitle.trans left.movieTitle
  movieReleaseYear := right.movieReleaseYear.trans left.movieReleaseYear
  ticketPrice := right.ticketPrice.trans left.ticketPrice
  quantity := right.quantity.trans left.quantity
  totalPrice := right.totalPrice.trans left.totalPrice
  createdAt := right.createdAt.trans left.createdAt
  status := by
    rcases right.status with same | cancelled
    · rw [same]
      exact left.status
    · exact .inr cancelled

/-- A stored order that is kept is shown as the same order. -/
theorem continued_of_kept {row later : OrderRow} (kept : row.Kept later) :
    Continued row.hydrate later.hydrate := by
  have terms := kept.terms
  constructor
  · simp [OrderRow.hydrate, terms.id]
  · simp [OrderRow.hydrate, terms.userId]
  · simp [OrderRow.hydrate, terms.movieId]
  · simp [OrderRow.hydrate, terms.movieTitle]
  · simp [OrderRow.hydrate, terms.movieReleaseYear]
  · simp [OrderRow.hydrate, terms.ticketPrice]
  · simp [OrderRow.hydrate, terms.quantity]
  · simp [OrderRow.hydrate, terms.totalPrice]
  · simp [OrderRow.hydrate, terms.createdAt]
  · rcases kept.status with same | cancelled
    · simp [OrderRow.hydrate, same]
    · simp [OrderRow.hydrate, cancelled]

/-- A new order is shown before the column has taken its total. -/
theorem continued_of_shows {order : Order} {row : OrderRow}
    (shows : Shows order row) : Continued order row.hydrate := by
  obtain ⟨total, rfl, written⟩ := shows
  refine ⟨rfl, rfl, rfl, rfl, rfl, rfl, rfl, ?_, rfl, .inl rfl⟩
  simp [OrderRow.hydrate, written, Numeric.write_read]

/-- The orders that an answer shows. -/
def shownOrders : GatewayAnswer → List Order
  | .orders (.orders orders) => orders
  | .orders (.order order) => [order]
  | _ => []

/-! ## Shown orders are stored -/

section Stored

variable {store : SystemStore deployment.validator}
  {earlier traffic : SystemTraffic deployment} {index : Nat}
  {job : SystemJob deployment} {request : HttpRequest}
  {answer : GatewayAnswer} {order : Order}

/-- The table holds the order that was shown. -/
def Holds (store : SystemStore deployment.validator) (order : Order) : Prop :=
  ∃ row ∈ store.databases.orders.rows, Continued order row.hydrate

theorem Holds.onward
    (began : (system deployment).Runs anyClients (.start store) earlier)
    (runs : (system deployment).Runs anyClients earlier traffic)
    (holds : Holds earlier.store order) : Holds traffic.store order := by
  obtain ⟨row, member, continued⟩ := holds
  obtain ⟨later, isThere, kept⟩ := orders_evolve began runs row member
  exact ⟨later, isThere, continued.trans (continued_of_kept kept)⟩

/-- The row with the id of the order is this order. -/
theorem Holds.continued {store : SystemStore deployment.validator}
    (holds : Holds store order) {row : OrderRow}
    (member : row ∈ store.databases.orders.rows)
    (isId : order.id = some row.id.val) : Continued order row.hydrate := by
  obtain ⟨other, isThere, continued⟩ := holds
  have sameId : some other.id.val = some row.id.val := by
    rw [← isId]
    exact continued.id
  rw [OrderTable.eq_of_id member isThere (Option.some.inj sameId).symm]
  exact continued

/-- What a reading request shows is in the table. -/
private theorem holds_of_sees {user : Option AuthUser} {route : Route}
    {store : SystemStore deployment.validator}
    (sees : Sees store route user (.ok answer))
    (shown : order ∈ shownOrders answer) : Holds store order := by
  cases sees with
  | movies | movie | profile => cases shown
  | orders same sorted =>
      obtain ⟨row, listed, rfl⟩ := List.mem_map.mp shown
      exact ⟨row, (List.mem_filter.mp (same.subset listed)).1, .refl _⟩
  | order parsed present isId owned =>
      obtain rfl := List.mem_singleton.mp shown
      exact ⟨_, present, .refl _⟩

/-- What a writing request shows is in the table right after it. -/
private theorem holds_of_effect {user : Option AuthUser} {route : Route}
    {before after : SystemStore deployment.validator}
    (effect : Effect before route user answer after)
    (shown : order ∈ shownOrders answer) : Holds after order := by
  cases effect with
  | register | createMovie | removeMovie => cases shown
  | createOrder passed owner isMovie quantity status shows =>
      obtain rfl := List.mem_singleton.mp shown
      exact ⟨_, List.mem_append_right _ (List.mem_singleton.mpr rfl),
        continued_of_shows shows⟩
  | @cancelOrder user value id updatedAt orders row parsed isThere isId owner
      isCancelled =>
      obtain rfl := List.mem_singleton.mp shown
      obtain ⟨written, found, kept, status⟩ := isCancelled.find isThere
      refine ⟨written, (Table.find?_eq_some.mp found).1, ?_⟩
      have continued := continued_of_kept kept
      refine { continued with status := .inr ?_ }
      simp [OrderRow.hydrate, status]

/-- Every order that an answer has shown is stored. -/
theorem holds_of_shown
    (runs : (system deployment).Runs anyClients (.start store) traffic)
    (found : traffic.jobs[index]? = some job)
    (isRequest : job.message = .http request)
    (succeeds : job.outcome = some (.ok (.http answer)))
    (shown : order ∈ shownOrders answer) : Holds traffic.store order := by
  by_cases reads : isRead request.route = true
  · obtain ⟨user, _, moment, before, onward, _, sees⟩ :=
      answer_seen (.refl _) runs (Nat.zero_le _) found isRequest reads
        succeeds
    exact (holds_of_sees sees shown).onward before onward
  by_cases writes : isWrite request.route = true
  · obtain ⟨user, _, _, _, _, _, _, moment, next, performed, _, effect⟩ :=
      effect_of_write (.refl _) runs (Nat.zero_le _) found isRequest writes
        succeeds
    exact (holds_of_effect effect shown).onward
      (performed.before.step performed.step) performed.after
  · have traced := Network.Runs.traced Network.traced_start runs job
      (List.mem_of_getElem? found)
    obtain ⟨user, message, _, reply, _, forwards, _, _, _, passed⟩ :=
      answered_of_ok traced isRequest succeeds
    obtain ⟨authorization, route⟩ := request
    cases forwards with
    | login =>
        cases reply with
        | auth given =>
            cases passed
            cases shown
        | _ => cases passed
    | updateMovie =>
        cases reply with
        | catalog given =>
            cases passed
            cases shown
        | _ => cases passed
    | register | createMovie | removeMovie | createOrder | cancelOrder =>
        exact absurd rfl writes
    | me | findAllMovies | findOneMovie | findAllOrders | findOneOrder =>
        exact absurd rfl reads

end Stored

/-! ## Sessions -/

/-- The routes that show a user's own orders, but for the one that makes a new
one. -/
def showsOwn : Route → Bool
  | .findAllOrders | .findOneOrder _ | .cancelOrder _ => true
  | _ => false

/-- The route, taken by the owner of the order, asks for it. -/
def AsksFor (order : Order) (user : AuthUser) (route : Route) : Prop :=
  order.userId = some user.id ∧
    match route with
    | .findAllOrders => True
    | .findOneOrder value | .cancelOrder value =>
        ∃ id, parseIntPipe value = .ok id ∧ order.id = some id
    | _ => False

section Sessions

variable {order : Order} {route : Route} {user : Option AuthUser}
  {later : GatewayAnswer}

private theorem shown_in {store : SystemStore deployment.validator}
    (own : showsOwn route = true) (holds : Holds store order)
    (sees : Sees store route user (.ok later)) :
    ∃ owner, user = some owner ∧ (AsksFor order owner route →
      ∃ newer ∈ shownOrders later, Continued order newer) := by
  cases sees with
  | movies | movie | profile => cases own
  | @orders user rows same sorted =>
      refine ⟨user, rfl, fun asks => ?_⟩
      obtain ⟨row, isThere, continued⟩ := holds
      have owned : some row.userId.val = some user.id := by
        rw [← asks.1]
        exact continued.userId
      refine ⟨row.hydrate, List.mem_map_of_mem (same.mem_iff.mpr ?_), continued⟩
      exact List.mem_filter.mpr ⟨isThere, by simpa using owned⟩
  | @order user value id row parsed present isId owned =>
      refine ⟨user, rfl, fun asks => ?_⟩
      obtain ⟨_, other, otherParsed, isOrder⟩ := asks
      rw [parsed] at otherParsed
      cases otherParsed
      refine ⟨_, List.mem_singleton.mpr rfl, holds.continued present ?_⟩
      rw [isOrder, isId]

private theorem missing_in {store : SystemStore deployment.validator}
    (own : showsOwn route = true) (holds : Holds store order)
    (sees : Sees store route user (.error 404)) :
    ∃ owner, user = some owner ∧ ¬ AsksFor order owner route := by
  cases sees with
  | noMovie | noProfile => cases own
  | @noOrder user value id parsed absent =>
      refine ⟨user, rfl, ?_⟩
      rintro ⟨isOwner, other, otherParsed, isOrder⟩
      rw [parsed] at otherParsed
      cases otherParsed
      obtain ⟨row, isThere, continued⟩ := holds
      have isId : some row.id.val = some id := by
        rw [← isOrder]
        exact continued.id
      have owned : some row.userId.val = some user.id := by
        rw [← isOwner]
        exact continued.userId
      exact absent row isThere (Option.some.inj isId) (Option.some.inj owned)

private theorem cancelled_in {before after : SystemStore deployment.validator}
    (own : showsOwn route = true) (holds : Holds before order)
    (effect : Effect before route user later after) :
    ∃ owner, user = some owner ∧ (AsksFor order owner route →
      ∃ newer ∈ shownOrders later, Continued order newer) := by
  cases effect with
  | register | createMovie | removeMovie | createOrder => cases own
  | @cancelOrder user value id updatedAt orders row parsed isThere isId owner
      isCancelled =>
      refine ⟨user, rfl, fun asks => ?_⟩
      obtain ⟨_, other, otherParsed, isOrder⟩ := asks
      rw [parsed] at otherParsed
      cases otherParsed
      have continued : Continued order row.hydrate :=
        holds.continued isThere (by rw [isOrder, isId])
      refine ⟨_, List.mem_singleton.mpr rfl, ?_⟩
      exact { continued with status := .inr rfl }

variable {store : SystemStore deployment.validator}
  {earlier traffic : SystemTraffic deployment}

/-- An order that has been shown is shown again: what a later request of its
owner lists, returns or cancels is the same order, at most cancelled since.
And where nothing fails but the statements themselves, no later request of its
owner to read it finds it missing. -/
theorem shown_orders_stay
    (began : (system deployment).Runs anyClients (.start store) earlier)
    (runs : (system deployment).Runs anyClients earlier traffic)
    {position : Nat} {first : SystemJob deployment}
    (firstFound : earlier.jobs[position]? = some first) {request : HttpRequest}
    (isFirst : first.message = .http request) {answer : GatewayAnswer}
    (succeeds : first.outcome = some (.ok (.http answer))) {order : Order}
    (shown : order ∈ shownOrders answer) {index : Nat}
    (new : earlier.jobs.length ≤ index) {second : SystemJob deployment}
    (secondFound : traffic.jobs[index]? = some second) {other : HttpRequest}
    (isSecond : second.message = .http other)
    (own : showsOwn other.route = true) :
    (∀ later, second.outcome = some (.ok (.http later)) →
      ∃ user, Identified second other (some user) ∧
        (AsksFor order user other.route →
          ∃ newer ∈ shownOrders later, Continued order newer)) ∧
      (isRead other.route = true →
        Network.Undisturbed (fun circumstances : Circumstances =>
          Sane circumstances.toSurroundings) traffic →
        ∀ body, second.outcome.map httpAnswer = some (.error (404, body)) →
          ∃ user, Identified second other (some user) ∧
            ¬ AsksFor order user other.route) := by
  have holds : Holds earlier.store order :=
    holds_of_shown began firstFound isFirst succeeds shown
  constructor
  · intro later answered
    by_cases reads : isRead other.route = true
    · obtain ⟨user, identified, moment, before, _, _, sees⟩ :=
        answer_seen began runs new secondFound isSecond reads answered
      obtain ⟨owner, rfl, showsIt⟩ :=
        shown_in own (holds.onward began before) sees
      exact ⟨owner, identified, showsIt⟩
    · have writes : isWrite other.route = true := by
        cases isRoute : other.route <;> simp_all [showsOwn, isRead, isWrite]
      obtain ⟨user, _, identified, _, _, _, _, moment, next, performed, _,
        effect⟩ :=
        effect_of_write began runs new secondFound isSecond writes answered
      obtain ⟨owner, rfl, showsIt⟩ :=
        cancelled_in own (holds.onward began performed.before) effect
      exact ⟨owner, identified, showsIt⟩
  · intro reads undisturbed body missing
    obtain ⟨user, identified, moment, before, _, _, sees⟩ :=
      missing_seen began runs new secondFound isSecond reads undisturbed missing
    obtain ⟨owner, rfl, notIt⟩ :=
      missing_in own (holds.onward began before) sees
    exact ⟨owner, identified, notIt⟩

end Sessions

/-- Every token that was accepted names the user. -/
private def namesOnly (id : ℤ) (exchange : SystemExchange deployment) : Bool :=
  match exchange with
  | ⟨.verify _, .ok (some claims), _⟩ =>
      (AuthUser.ofPayload claims).all fun user => user.id = id
  | _ => true

private theorem id_of_namesOnly {id : ℤ} {job : SystemJob deployment}
    (names : job.calls.all (namesOnly id)) {request : HttpRequest}
    {user : AuthUser} (identified : Identified job request (some user)) :
    user.id = id := by
  obtain ⟨token, claims, circumstances, _, made, isUser⟩ := identified
  have named := List.all_eq_true.mp names _ made
  simp only [namesOnly, isUser, Option.all_some] at named
  exact of_decide_eq_true named

private def lists : Route → Bool
  | .findAllOrders => true
  | _ => false

private theorem eq_of_lists {route : Route} (isListing : lists route) :
    route = .findAllOrders := by
  cases route with
  | findAllOrders => rfl
  | _ => cases isListing

/-- A buyer finds the new order in the list. -/
theorem shown_orders_stay_example :
    ∃ (traffic : SystemTraffic
        (sampleDeployment (.sample 7 "ripley@example.com" .USER)))
      (job : SystemJob _) (later : GatewayAnswer) (order newer : Order),
      traffic.jobs[3]? = some job ∧
        job.outcome = some (.ok (.http later)) ∧
        order.userId = some 7 ∧ newer ∈ shownOrders later ∧
        Continued order newer := by
  let deployment := sampleDeployment (.sample 7 "ripley@example.com" .USER)
  let moment : Circumstances := ⟨calm 1, 0, 0⟩
  let store : SystemStore deployment.validator := ⟨∅, sampleDatabases, []⟩
  let purchase : HttpRequest := {
    authorization := some "Bearer token"
    route := .createOrder (.obj [("movieId", .num 1), ("quantity", .num 2)]) }
  let listing : HttpRequest := ⟨some "Bearer token", .findAllOrders⟩
  have checked : (System.play (.start store : SystemTraffic deployment)
      [.arrive (.http purchase), .act 0 .deliver, .act 0 (.perform moment),
        .act 0 .send, .act 1 .deliver, .act 1 .send, .act 2 .deliver,
        .act 2 (.perform moment), .act 1 .answer,
        .act 1 (.perform moment), .act 0 .answer]).any (fun earlier =>
      decide (earlier.jobs.length = 3) &&
      ((earlier.jobs[0]?).any fun job => (answerGiven job).any fun given =>
        (shownOrders given.2).any fun order => order.userId = some 7) &&
      (System.play earlier
        [.arrive (.http listing), .act 3 .deliver, .act 3 (.perform moment),
          .act 3 .send, .act 4 .deliver, .act 4 (.perform moment),
          .act 3 .answer]).any fun traffic =>
        (traffic.jobs[3]?).any fun job =>
          job.calls.all (namesOnly 7) &&
            (answerGiven job).any fun given => lists given.1.route) = true := by
    decide +kernel
  obtain ⟨earlier, began, checked⟩ := (Option.any_eq_true _ _).mp checked
  simp only [Bool.and_eq_true] at checked
  obtain ⟨⟨isLength, bought⟩, checked⟩ := checked
  obtain ⟨first, firstFound, bought⟩ := (Option.any_eq_true _ _).mp bought
  obtain ⟨⟨request, answer⟩, given, bought⟩ :=
    (Option.any_eq_true _ _).mp bought
  obtain ⟨order, shown, owner⟩ := List.any_eq_true.mp bought
  obtain ⟨isFirst, succeeds⟩ := answerGiven_eq_some given
  obtain ⟨traffic, runs, checked⟩ := (Option.any_eq_true _ _).mp checked
  obtain ⟨second, secondFound, checked⟩ := (Option.any_eq_true _ _).mp checked
  obtain ⟨names, checked⟩ := Bool.and_eq_true_iff.mp checked
  obtain ⟨⟨other, later⟩, answered, isListing⟩ :=
    (Option.any_eq_true _ _).mp checked
  obtain ⟨isSecond, answered⟩ := answerGiven_eq_some answered
  have isRoute := eq_of_lists isListing
  have isOwner : order.userId = some 7 := of_decide_eq_true owner
  obtain ⟨stays, _⟩ := shown_orders_stay (System.runs_of_play began)
    (System.runs_of_play runs) firstFound isFirst succeeds shown
    (le_of_eq (of_decide_eq_true isLength)) secondFound isSecond
    (by rw [isRoute]; rfl)
  obtain ⟨user, identified, showsIt⟩ := stays later answered
  have asks : AsksFor order user other.route := by
    rw [isRoute]
    exact ⟨by rw [isOwner, id_of_namesOnly names identified], trivial⟩
  obtain ⟨newer, isShown, continued⟩ := showsIt asks
  exact ⟨traffic, second, later, order, newer, secondFound, answered, isOwner,
    isShown, continued⟩

end Cinema.System
