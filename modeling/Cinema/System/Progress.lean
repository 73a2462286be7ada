import Cinema.Interleaving.Progress
import Cinema.System.Forwarding

/-!
# Every request is answered

What the handlers cost, and what follows for the whole system: a bounded
amount of work for every request, and no state in which an unanswered request
is stuck, whatever other messages have got lost.
-/

namespace Cinema.System

open Interleaving Relational Shared Text Auth Catalog Orders Gateway

variable {deployment : Deployment}

/-- The steps that the handler of a message causes, those of the messages it
sends included. -/
def worth {validator : Validator} : SystemMessage validator → Nat
  | .http _ => 9
  | .start _ => 4
  | .service (.auth _ _) => 4
  | .service (.catalog .FIND_ONE_MOVIE _) => 1
  | .service (.catalog _ _) => 4
  | .service (.orders _ _) => 5

theorem worth_service {validator : Validator} (message : ServiceMessage) :
    worth (.service message : SystemMessage validator) ≤ 5 := by
  cases message with
  | catalog pattern payload => cases pattern <;> simp [worth]
  | auth | orders => simp [worth]

/-! ## What the services cost -/

section Services

variable {Call : Type} {Reply : Call → Type} {price : Call → Nat}
  {validator : Validator} {mapping : CaseMapping}

section Catalog

variable {movies : Repository movieSchema Call Reply Thrown}
  (unit : movies.UnitCost price)
include unit

private theorem spends_findOne (id : ℤ) :
    (MoviesService.findOne movies id).Spends price 1 := by
  change Program.Spends price (_ >>= _) (1 + 0)
  refine (Repository.spends_findOneBy unit _).bind fun movie => ?_
  cases movie <;> trivial

private theorem spends_assertTitleIsFree (title : Option String)
    (releaseYear excludeId : Option ℤ) :
    (MoviesService.assertTitleIsFree movies title releaseYear
      excludeId).Spends price 1 := by
  change Program.Spends price (_ >>= _) (1 + 0)
  refine (Repository.spends_existsBy unit _).bind fun found => ?_
  cases found <;> trivial

private theorem spends_create (dto : CreateMovieDto validator) :
    (MoviesService.create movies dto).Spends price 2 := by
  change Program.Spends price (_ >>= _) (1 + 1)
  exact (spends_assertTitleIsFree unit _ _ _).bind fun _ =>
    Repository.spends_save_new unit rfl

private theorem spends_update (id : ℤ) (changes : UpdateMovieDto validator) :
    (MoviesService.update movies id changes).Spends price 4 := by
  change Program.Spends price (_ >>= _) (1 + 3)
  refine (spends_findOne unit id).bind fun movie => ?_
  dsimp only
  split
  · change Program.Spends price (_ >>= _) (1 + 2)
    exact (spends_assertTitleIsFree unit _ _ _).bind fun _ =>
      Repository.spends_save unit _
  · exact (Repository.spends_save unit _).mono (by omega)

private theorem spends_remove (id : ℤ) :
    (MoviesService.remove movies id).Spends price 1 := by
  change Program.Spends price (_ >>= _) (1 + 0)
  refine Program.Spends.bind (unit _) fun affected => ?_
  split <;> trivial

private theorem spends_lookup (payload : Json) :
    (Catalog.MoviesController.handle validator movies .FIND_ONE_MOVIE
      payload).Spends price 1 :=
  (Program.spends_ofExcept_bind fun _ => spends_findOne unit _).map _

private theorem spends_movies (pattern : CatalogPatterns) (payload : Json) :
    (Catalog.MoviesController.handle validator movies pattern payload).Spends
      price 4 := by
  cases pattern with
  | FIND_ALL_MOVIES =>
      exact ((Repository.spends_find unit _ _).map _).mono (by omega)
  | FIND_ONE_MOVIE => exact (spends_lookup unit payload).mono (by omega)
  | CREATE_MOVIE =>
      exact ((Program.spends_ofExcept_bind fun dto =>
        spends_create unit dto).map _).mono (by omega)
  | UPDATE_MOVIE =>
      exact (Program.spends_ofExcept_bind fun dto =>
        spends_update unit _ _).map _
  | DELETE_MOVIE =>
      refine ((Program.spends_ofExcept_bind fun dto => ?_).map _).mono
        (Nat.le_add_left 1 3)
      change Program.Spends price (_ >>= _) (1 + 0)
      exact (spends_remove unit _).bind fun _ => trivial

end Catalog

section Orders

variable {orders : Repository orderSchema Call Reply Thrown}
  {arithmetic : Arithmetic} {catalog : CatalogClient Call Reply}
  (unit : orders.UnitCost price)
include unit

private theorem spends_findOneForUser (userId orderId : ℤ) :
    (OrdersService.findOneForUser orders userId orderId).Spends price 1 := by
  change Program.Spends price (_ >>= _) (1 + 0)
  refine (Repository.spends_findOneBy unit _).bind fun order => ?_
  cases order <;> trivial

private theorem spends_cancel (userId orderId : ℤ) :
    (OrdersService.cancel orders userId orderId).Spends price 3 := by
  change Program.Spends price (_ >>= _) (1 + 2)
  refine (spends_findOneForUser unit userId orderId).bind fun order => ?_
  split
  · trivial
  · exact Repository.spends_save unit _

private theorem spends_orders
    (lookup : ∀ payload, (catalog payload).Spends price 4)
    (pattern : OrderPatterns) (payload : Json) :
    (Orders.OrdersController.handle validator orders arithmetic catalog pattern
      payload).Spends price 5 := by
  cases pattern with
  | CREATE_ORDER =>
      refine (Program.spends_ofExcept_bind fun dto => ?_).map _
      change Program.Spends price (_ >>= _) (4 + 1)
      exact (lookup _).bind fun movie => Repository.spends_save_new unit rfl
  | FIND_USER_ORDERS =>
      exact ((Program.spends_ofExcept_bind fun dto =>
        Repository.spends_find unit _ _).map _).mono (by omega)
  | FIND_USER_ORDER =>
      exact ((Program.spends_ofExcept_bind fun dto =>
        spends_findOneForUser unit _ _).map _).mono (by omega)
  | CANCEL_USER_ORDER =>
      exact ((Program.spends_ofExcept_bind fun dto =>
        spends_cancel unit _ _).map _).mono (by omega)

end Orders

section Auth

variable {users : Repository userSchema Call Reply Thrown}
  {crypto : Crypto Call Reply} {config : AuthEnv validator}
  (unit : users.UnitCost price)
  (hashes : ∀ password rounds, (crypto.hash password rounds).Spends price 1)
include unit

section Hashing

include hashes

private theorem spends_createUser (email password : String) (role : Role) :
    (AuthService.createUser users crypto email password role).Spends
      price 2 := by
  change Program.Spends price (_ >>= _) (1 + 1)
  exact (hashes _ _).bind fun passwordHash =>
    (Repository.spends_save_new unit rfl).map _

private theorem spends_register (dto : RegisterDto validator mapping) :
    (AuthService.register users crypto dto).Spends price 3 := by
  unfold AuthService.register
  split
  · trivial
  · change Program.Spends price (_ >>= _) (1 + 2)
    refine (Repository.spends_existsBy unit _).bind fun found => ?_
    split
    · trivial
    · exact spends_createUser unit hashes _ _ _

private theorem spends_ensureAdminAccount :
    (AuthService.ensureAdminAccount users crypto config mapping).Spends
      price 3 := by
  unfold AuthService.ensureAdminAccount
  split
  · trivial
  · change Program.Spends price (_ >>= _) (1 + 2)
    refine (Repository.spends_existsBy unit _).bind fun found => ?_
    split
    · trivial
    · exact (spends_createUser unit hashes _ _ _).map _

end Hashing

private theorem spends_login
    (compares : ∀ password passwordHash,
      (crypto.compare password passwordHash).Spends price 1)
    (signs : ∀ secret expiresIn payload,
      (crypto.signAsync secret expiresIn payload).Spends price 1)
    (dto : LoginDto validator mapping) :
    (AuthService.login users crypto config dto).Spends price 3 := by
  change Program.Spends price (_ >>= _) (1 + 2)
  refine Program.Spends.bind (unit _) fun rows => ?_
  cases rows with
  | nil => trivial
  | cons row rest =>
      change Program.Spends price (_ >>= _) (1 + 1)
      refine (compares _ _).bind fun passwordMatches => ?_
      split
      · trivial
      · exact (signs _ _ _).map _

end Auth

end Services

/-! ## What the messages cost -/

section Messages

variable (deployment)

/-- The price of a call. -/
abbrev price : SystemCall deployment.validator → Nat :=
  (system deployment).price worth

variable {deployment}

private theorem spends_local {call : SystemCall deployment.validator}
    (isLocal : remote call = none) :
    (.perform call : Program (SystemCall deployment.validator) SystemReply
      Thrown _).Spends (price deployment) 1 :=
  Program.spends_perform (Network.price_local isLocal).le

private theorem spends_send {message : ServiceMessage} {budget : Nat}
    (enough : worth (.service message : SystemMessage deployment.validator) + 3
      ≤ budget) :
    (.perform (.send message) : Program (SystemCall deployment.validator)
      SystemReply Thrown _).Spends (price deployment) budget :=
  Program.spends_perform ((Network.price_remote rfl).trans_le enough)

private theorem spends_auth (pattern : AuthPatterns) (payload : Json) :
    (handleAuth deployment pattern payload).Spends (price deployment) 4 := by
  change Program.Spends _ (_ >>= _) (1 + 3)
  refine (spends_local rfl).bind fun config => ?_
  have unit : (users deployment.granularity).UnitCost (price deployment) :=
    fun statement => spends_local rfl
  cases pattern with
  | REGISTER =>
      exact (Program.spends_ofExcept_bind fun dto =>
        spends_register unit (fun _ _ => spends_local rfl) dto).map _
  | LOGIN =>
      exact (Program.spends_ofExcept_bind fun dto =>
        spends_login unit (fun _ _ => spends_local rfl)
          (fun _ _ _ => spends_local rfl) dto).map _
  | GET_PROFILE =>
      refine ((Program.spends_ofExcept_bind fun dto => ?_).map _).mono
        (Nat.le_add_left 1 2)
      change Program.Spends _ (_ >>= _) (1 + 0)
      refine (Repository.spends_findOneBy unit _).bind fun user => ?_
      cases user <;> trivial

private theorem spends_start (config : AuthEnv deployment.validator) :
    (handleStart deployment config).Spends (price deployment) 4 := by
  have unit : (users deployment.granularity).UnitCost (price deployment) :=
    fun statement => spends_local rfl
  change Program.Spends _ (_ >>= _) (3 + 1)
  exact (spends_ensureAdminAccount unit fun _ _ => spends_local rfl).bind
    fun _ => spends_local rfl

/-- A request verifies a token and sends a message at most. -/
private theorem spends_http (request : HttpRequest) :
    (handle deployment (.http request)).Spends (price deployment) 9 := by
  have asked : ∀ {user program}, Asks deployment request.route user program →
      program.Spends (price deployment) 8 := by
    intro user program asks
    cases asks with
    | fail thrown => trivial
    | @send message forwards =>
        exact (spends_send (Nat.add_le_add_right (worth_service message) 3)).map _
  have guarded : Guarded deployment request
      (handle deployment (.http request)) := guarded_handle request
  generalize handle deployment (.http request) = program at guarded ⊢
  cases guarded with
  | free asks => exact (asked asks).mono (by omega)
  | @verified token next isToken rejected accepted =>
      change Program.Spends _ (.perform _ >>= next) (1 + 8)
      refine (spends_local rfl).bind fun claims => ?_
      cases claims with
      | none =>
          obtain ⟨thrown, fails⟩ := rejected
          rw [fails]
          trivial
      | some claims =>
          rcases accepted claims with ⟨thrown, fails⟩ | ⟨user, _, asks⟩
          · rw [fails]
            trivial
          · exact asked asks

/-- What a message is worth covers what its handler costs. -/
theorem spends_handle (message : SystemMessage deployment.validator) :
    (handle deployment message).Spends (price deployment) (worth message) := by
  cases message with
  | http request => exact spends_http request
  | start config =>
      change Program.Spends _ (_ >>= _) (4 + 0)
      exact (spends_start config).bind fun _ => trivial
  | service message =>
      cases message with
      | auth pattern payload => exact (spends_auth pattern payload).map _
      | catalog pattern payload =>
          have unit : (movies deployment.granularity).UnitCost
              (price deployment) := fun statement => spends_local rfl
          cases pattern with
          | FIND_ONE_MOVIE => exact (spends_lookup unit payload).map _
          | _ => exact (spends_movies unit _ payload).map _
      | orders pattern payload =>
          have unit : (orders deployment.granularity).UnitCost
              (price deployment) := fun statement => spends_local rfl
          refine (spends_orders unit (fun payload => ?_) pattern payload).map _
          change Program.Spends _ (_ >>= _) (4 + 0)
          refine (spends_send (Nat.le_refl 4)).bind fun answer => ?_
          cases answer <;> trivial

def tariff (deployment : Deployment) : (system deployment).Tariff where
  worth := worth
  handlers := spends_handle

theorem worth_le {validator : Validator} (message : SystemMessage validator) :
    worth message ≤ 9 := by
  cases message with
  | http | start => simp [worth]
  | service message => exact (worth_service message).trans (by omega)

end Messages

/-! ## Schedules -/

section Schedules

variable {store : SystemStore deployment.validator}
  {traffic later : SystemTraffic deployment}
  {moves : List (Network.Move (SystemMessage deployment.validator)
    Circumstances ClientFailure)}

/-- Ten steps for a message: its delivery, and what it is worth at most. -/
private theorem bill_le
    (moves : List (Network.Move (SystemMessage deployment.validator)
      Circumstances ClientFailure)) :
    (moves.map (tariff deployment).bill).sum ≤
      10 * moves.countP Network.Move.isArrival := by
  induction moves with
  | nil => exact Nat.le_refl _
  | cons move moves ih =>
      cases move with
      | arrive message =>
          have cheap : (tariff deployment).worth message ≤ 9 := worth_le message
          simp only [List.map_cons, List.sum_cons, List.countP_cons,
            Network.Tariff.bill, Network.Move.isArrival, if_true]
          omega
      | act index action =>
          simp only [List.map_cons, List.sum_cons, List.countP_cons,
            Network.Tariff.bill, Network.Move.isArrival, Bool.false_eq_true,
            if_false]
          omega

/-- Ten steps at most for every message, whoever takes them and however the
calls turn out.  From every state on, messages may get lost with all that is
done for them: where the losses leave no job a step to take, every other
message has been answered; and the services get there in what is left of those
steps. -/
theorem every_message_is_answered
    (played : System.play (.start store) moves = some traffic) :
    moves.countP Network.Move.isAct ≤
        10 * moves.countP Network.Move.isArrival ∧
      ∀ lost : Nat → Prop,
        ((system deployment).Stuck lost traffic →
          Network.Settled lost traffic) ∧
        ∃ count later, (system deployment).Withstands lost count traffic later ∧
          moves.countP Network.Move.isAct + count ≤
            10 * moves.countP Network.Move.isArrival ∧
          Network.Settled lost later := by
  have runs := System.runs_of_play played
  have traced := Network.Runs.traced Network.traced_start runs
  have ordered := Network.Runs.ordered runs (Network.ordered_start store)
  have started : (tariff deployment).Owing (.start store) 0 :=
    Network.Tariff.owing_start store
  obtain ⟨rest, owing, paid⟩ := started.play played
  have bounded := bill_le moves
  have someone : Nonempty Circumstances := ⟨⟨calm 0, 0, 0⟩⟩
  have somehow : Nonempty ClientFailure := ⟨.timeout⟩
  refine ⟨by omega, fun lost => ⟨?_, ?_⟩⟩
  · intro stuck
    exact stuck.settled ordered traced
  · obtain ⟨count, later, withstands, short, settled⟩ :=
      owing.completes ordered traced
    exact ⟨count, later, withstands, by omega, settled⟩

end Schedules

/-- The lookup for an order gets lost on its way to the catalog: the request is
answered in the end. -/
theorem every_message_is_answered_example :
    ∃ (traffic later : SystemTraffic
        (sampleDeployment (.sample 7 "ripley@example.com" .USER))) (count : Nat),
      traffic.jobs.length = 3 ∧
        (∃ job, traffic.jobs[0]? = some job ∧ job.outcome = none) ∧
        (system _).Withstands (fun index => index = 2) count traffic later ∧
        count ≤ 5 ∧
        ∀ job, later.jobs[0]? = some job → job.outcome.isSome = true := by
  let deployment := sampleDeployment (.sample 7 "ripley@example.com" .USER)
  let request : HttpRequest := {
    authorization := some "Bearer token"
    route := .createOrder (.obj [("movieId", .num 1), ("quantity", .num 2)]) }
  let moment : Circumstances := ⟨calm 1, 0, 0⟩
  let store : SystemStore deployment.validator := ⟨∅, sampleDatabases, []⟩
  have checked : (System.play (.start store : SystemTraffic deployment)
      [.arrive (.http request), .act 0 .deliver, .act 0 (.perform moment),
        .act 0 .send, .act 1 .deliver, .act 1 .send]).any (fun traffic =>
      decide (traffic.jobs.length = 3) &&
        (traffic.jobs[0]?).any fun job => job.outcome.isNone) = true := by
    decide +kernel
  obtain ⟨traffic, played, checked⟩ := (Option.any_eq_true _ _).mp checked
  obtain ⟨three, waits⟩ := Bool.and_eq_true_iff.mp checked
  obtain ⟨job, found, pending⟩ := (Option.any_eq_true _ _).mp waits
  obtain ⟨_, withLosses⟩ := every_message_is_answered played
  obtain ⟨_, count, later, withstands, short, settled⟩ :=
    withLosses fun index => index = 2
  have few : 5 + count ≤ 10 := short
  exact ⟨traffic, later, count, of_decide_eq_true three,
    ⟨job, found, Option.isNone_iff_eq_none.mp pending⟩, withstands,
    by omega, fun job found => settled 0 job found (by simp)⟩

end Cinema.System
