import Cinema.System.Contract

/-!
# Two validations of one request

What the gateway forwards has passed its own pipe and then meets the pipe of a
service.  The two pipes can only disagree on what the gateway has added: the
ids of the path and of the token, which it has checked to be integers and
which the service wants to be positive.
-/

namespace Cinema.System

open Interleaving Shared Text Auth Catalog Orders Gateway

/-! ## Payloads -/

/-- What a service has against a list of named ids. -/
def idMessages (ids : List (String × ℤ)) : List String :=
  (ids.filter fun id => id.2 ≤ 0).map fun id => Rule.isPositive.message id.1

theorem idMessages_eq_nil {ids : List (String × ℤ)} :
    idMessages ids = [] ↔ ∀ id ∈ ids, 0 < id.2 := by
  simp [idMessages, List.filter_eq_nil_iff]

theorem idMessages_append (ids more : List (String × ℤ)) :
    idMessages (ids ++ more) = idMessages ids ++ idMessages more := by
  simp [idMessages]

section Payloads

variable {validator : Validator}

theorem violations_positiveInt (name : String) (id : ℤ) :
    (positiveInt name).violations validator (some (.num id)) =
      idMessages [(name, id)] := by
  by_cases positive : 0 < id
  · have accepted : ¬ id ≤ 0 := by omega
    simp [Property.violations, positiveInt, Rule.check, idMessages, positive,
      accepted]
  · have refused : id ≤ 0 := by omega
    simp [Property.violations, positiveInt, Rule.check, idMessages, refused]

theorem validationPipe_of_messages {properties : List Property}
    {payload : Json} {messages : List String}
    (calm : validationThrows properties (transformed properties payload) =
      false)
    (same : validationMessages validator properties
      (transformed properties payload) = messages) (refused : messages ≠ []) :
    validationPipe validator properties payload =
      .error (badRequestMessages messages) := by
  subst same
  rw [validationPipe, calm, if_neg Bool.false_ne_true, dif_neg refused]

/-- A message that carries nothing but an id. -/
theorem messages_id (name : String) (id : ℤ) (own : name ∉ inheritedKeys) :
    validationMessages validator [positiveInt name]
        (transformed [positiveInt name] (.obj [(name, .num id)])) =
      idMessages [(name, id)] := by
  have plain : transformed [positiveInt name] (.obj [(name, .num id)]) =
      [(name, .num id)] := by
    apply transformed_plain
    · simp [positiveInt]
    · simpa using own
  have isName : (positiveInt name).name = name := rfl
  rw [plain, validationMessages]
  simp [isName, Fields.get, violations_positiveInt]

/-- A message that carries an order and its owner. -/
theorem messages_ids (userId orderId : ℤ) :
    validationMessages validator UserOrderPayload.properties
        (transformed UserOrderPayload.properties
          (.obj [("userId", .num userId), ("orderId", .num orderId)])) =
      idMessages [("orderId", orderId), ("userId", userId)] := by
  have plain : transformed UserOrderPayload.properties
      (.obj [("userId", .num userId), ("orderId", .num orderId)]) =
        [("userId", .num userId), ("orderId", .num orderId)] := by
    apply transformed_plain
    · simp [UserOrderPayload.properties, UserIdPayload.properties, positiveInt]
    · simp [inheritedKeys]
  have names : ∀ name, (positiveInt name).name = name := fun _ => rfl
  have each : idMessages [("orderId", orderId), ("userId", userId)] =
      idMessages [("orderId", orderId)] ++ idMessages [("userId", userId)] :=
    idMessages_append [_] [_]
  rw [plain, validationMessages, each]
  simp [UserOrderPayload.properties, UserIdPayload.properties, names,
    Fields.get, violations_positiveInt]

/-- A message that carries the changes of a movie, which have passed the pipe
of the gateway. -/
theorem messages_changes
    (sent : Instance validator UpdateMovieDto.properties) (id : ℤ) :
    transformed UpdateMoviePayload.properties
        (.obj [("id", .num id), ("changes", .obj sent.fields)]) =
        [("id", .num id), ("changes", .obj sent.fields)] ∧
      validationThrows UpdateMoviePayload.properties
        [("id", .num id), ("changes", .obj sent.fields)] = false ∧
      validationMessages validator UpdateMoviePayload.properties
        (transformed UpdateMoviePayload.properties
          (.obj [("id", .num id), ("changes", .obj sent.fields)])) =
      idMessages [("id", id)] := by
  have plain : transformed UpdateMoviePayload.properties
      (.obj [("id", .num id), ("changes", .obj sent.fields)]) =
        [("id", .num id), ("changes", .obj sent.fields)] := by
    apply transformed_plain
    · simp [UpdateMoviePayload.properties, UpdateMoviePayload.changesProperty,
        IdPayload.properties, positiveInt]
    · simp [inheritedKeys]
  have again := transformed_transformed UpdateMoviePayload.settling sent.payload
  have nested : nestedMessages validator UpdateMovieDto.properties "changes" ""
      "changes" (.obj sent.fields) = [] := by
    rw [nestedMessages, Instance.fields, again, sent.silent]
    rfl
  have changes : UpdateMoviePayload.changesProperty.violations validator
      (some (.obj sent.fields)) = [] := by
    refine Property.violations_eq_nil.mpr (.inr ⟨?_, nested⟩)
    intro rule listed
    rw [List.mem_singleton.mp listed]
    rfl
  have isName : (positiveInt "id").name = "id" := rfl
  have isChanges : UpdateMoviePayload.changesProperty.name = "changes" := rfl
  refine ⟨plain, ?_, ?_⟩
  · simp [validationThrows, UpdateMoviePayload.properties,
      IdPayload.properties, isChanges, Fields.get, positiveInt_throws,
      Property.throws_of_silent changes]
  · rw [plain, validationMessages]
    simp [UpdateMoviePayload.properties, IdPayload.properties, isName,
      isChanges, Fields.get, violations_positiveInt, changes]

/-- A message that carries the body of an order, which has passed the pipe of
the gateway, with its owner over it. -/
theorem messages_override
    (sent : Instance validator CreateOrderDto.properties) (userId : ℤ) :
    transformed CreateOrderPayload.properties
        (.obj (sent.fields.override "userId" (.num userId))) =
        sent.fields.override "userId" (.num userId) ∧
      validationMessages validator CreateOrderPayload.properties
        (transformed CreateOrderPayload.properties
          (.obj (sent.fields.override "userId" (.num userId)))) =
      idMessages [("userId", userId)] := by
  have known : ∀ field ∈ sent.fields.override "userId" (.num userId),
      ∃ property ∈ CreateOrderPayload.properties, property.name = field.1 := by
    intro field member
    rcases List.mem_append.mp member with old | new
    · obtain ⟨property, listed, isName⟩ :=
        sent.field_known (List.mem_filter.mp old).1
      exact ⟨property, List.mem_cons_of_mem _ listed, isName⟩
    · rw [List.mem_singleton.mp new]
      exact ⟨positiveInt "userId", List.mem_cons_self, rfl⟩
  have plain : transformed CreateOrderPayload.properties
      (.obj (sent.fields.override "userId" (.num userId))) =
        sent.fields.override "userId" (.num userId) := by
    apply transformed_plain
    · simp [CreateOrderPayload.properties, CreateOrderDto.properties,
        CreateOrderDto.quantityProperty, positiveInt]
    · have own : ∀ property ∈ CreateOrderPayload.properties,
          property.name ∉ inheritedKeys := by decide
      intro field member
      obtain ⟨property, listed, isName⟩ := known field member
      rw [← isName]
      exact own property listed
  have rest : CreateOrderDto.properties.flatMap (fun property =>
      property.violations validator
        ((sent.fields.override "userId" (.num userId)).get property.name)) =
      [] := by
    have other : ∀ property ∈ CreateOrderDto.properties,
        property.name ≠ "userId" := by decide
    refine List.flatMap_eq_nil_iff.mpr fun property listed => ?_
    rw [Fields.get_override_of_ne _ _ (other property listed)]
    exact sent.violations_get listed
  have unknown : (sent.fields.override "userId" (.num userId)).filter
      (fun field => !CreateOrderPayload.properties.any
        fun property => property.name = field.1) = [] := by
    rw [List.filter_eq_nil_iff]
    intro field member
    obtain ⟨property, listed, isName⟩ := known field member
    simp only [Bool.not_eq_true', List.any_eq_false, not_forall]
    exact ⟨property, listed, by simpa using isName⟩
  have isName : (positiveInt "userId").name = "userId" := rfl
  refine ⟨plain, ?_⟩
  rw [plain, validationMessages, unknown, CreateOrderPayload.properties,
    List.flatMap_cons, rest, isName, Fields.get_override,
    violations_positiveInt, List.map_nil, List.nil_append, List.append_nil]

end Payloads

/-! ## What a service makes of them -/

/-- A payload is refused because of its ids, or gives a value as expected. -/
structure Decides {α : Type} (ids : List (String × ℤ)) (expected : α → Prop)
    (result : Except Thrown α) : Prop where
  accepted : idMessages ids = [] → ∃ value, result = .ok value ∧ expected value
  refused : idMessages ids ≠ [] →
    result = .error (badRequestMessages (idMessages ids))

section Decides

variable {validator : Validator} {mapping : CaseMapping}

theorem decides_of_messages {α : Type} {properties : List Property}
    {payload : Json} {ids : List (String × ℤ)} {expected : α → Prop}
    {build : Instance validator properties → α}
    (calm : validationThrows properties (transformed properties payload) =
      false)
    (same : validationMessages validator properties
      (transformed properties payload) = idMessages ids)
    (reads : ∀ accepted, accepted.payload = payload →
      expected (build accepted)) :
    Decides ids expected
      ((validationPipe validator properties payload).map build) where
  accepted silent := by
    rw [validationPipe_of_silent (same.trans silent)]
    exact ⟨_, rfl, reads _ rfl⟩
  refused bad := by
    rw [validationPipe_of_messages calm same bad]
    rfl

theorem Decides.checks {α : Type} {ids : List (String × ℤ)}
    {expected : α → Prop} {result : Except Thrown α}
    (decides : Decides ids expected result) {thrown : Thrown}
    (refusal : result.map (fun _ => ()) = .error thrown) :
    ∃ id ∈ ids, id.2 ≤ 0 := by
  by_contra good
  push Not at good
  obtain ⟨value, passed, _⟩ := decides.accepted (idMessages_eq_nil.mpr good)
  rw [passed] at refusal
  cases refusal

private theorem int_of_payload {properties : List Property}
    {accepted : Instance validator properties} {name : String} {id : ℤ}
    (listed : Instance.Listed properties (positiveInt name))
    (isId : accepted.payload.get name = some (.num id)) :
    accepted.int (positiveInt name) = id := by
  have same := accepted.payload_int (positiveInt name) listed rfl rfl
    (by simp [positiveInt])
  have isName : (positiveInt name).name = name := rfl
  rw [isName, isId] at same
  have equal : (id : ℚ) = (accepted.int (positiveInt name) : ℤ) := by
    simpa using same
  exact_mod_cast equal.symm

theorem decides_id (id : ℤ) :
    Decides [("id", id)] (fun dto => dto.id = id)
      (IdPayload.validate validator (.obj [("id", .num id)])) :=
  decides_of_messages (IdPayload.calm.validationThrows _)
    (messages_id "id" id (by decide)) fun accepted same =>
      int_of_payload ⟨rfl, by decide⟩ (by rw [same]; rfl)

theorem decides_userId (userId : ℤ) :
    Decides [("userId", userId)] (fun dto => dto.userId = userId)
      (UserIdPayload.validate validator (.obj [("userId", .num userId)])) :=
  decides_of_messages (UserIdPayload.calm.validationThrows _)
    (messages_id "userId" userId (by decide)) fun accepted same =>
      int_of_payload ⟨rfl, by decide⟩ (by rw [same]; rfl)

theorem decides_order (userId orderId : ℤ) :
    Decides [("orderId", orderId), ("userId", userId)]
      (fun dto => dto.userId = userId ∧ dto.orderId = orderId)
      (UserOrderPayload.validate validator
        (.obj [("userId", .num userId), ("orderId", .num orderId)])) :=
  decides_of_messages (UserOrderPayload.calm.validationThrows _)
    (messages_ids userId orderId) fun accepted same =>
      ⟨int_of_payload ⟨rfl, by decide⟩ (by rw [same]; rfl),
        int_of_payload ⟨rfl, by decide⟩ (by rw [same]; rfl)⟩

/-- The owner is the one the gateway has put in, the rest is what it has
read. -/
theorem decides_createOrder
    (sent : Instance validator CreateOrderDto.properties) (userId : ℤ) :
    Decides [("userId", userId)]
      (fun dto => dto.userId = userId ∧
        dto.movieId = sent.int (positiveInt "movieId") ∧
        dto.quantity = sent.int CreateOrderDto.quantityProperty)
      (CreateOrderPayload.validate validator
        (.obj (sent.fields.override "userId" (.num userId)))) := by
  obtain ⟨plain, messages⟩ := messages_override sent userId
  have calm := CreateOrderPayload.calm.validationThrows
  refine decides_of_messages (calm _) messages fun accepted same => ?_
  have fields : accepted.fields =
      sent.fields.override "userId" (.num userId) := by
    rw [Instance.fields, same, plain]
  refine ⟨?_, ?_, ?_⟩
  · simp [Instance.int, Instance.get, fields, positiveInt, Fields.get_override,
      Json.toInt]
  · simp only [Instance.int, Instance.get, fields]
    rw [Fields.get_override_of_ne _ _ (by decide)]
  · simp only [Instance.int, Instance.get, fields]
    rw [Fields.get_override_of_ne _ _ (by decide)]

private theorem updateMovie_congr
    {accepted again : Instance validator UpdateMovieDto.properties}
    (same : accepted.fields = again.fields) :
    UpdateMovieDto.ofInstance accepted = .ofInstance again := by
  simp only [UpdateMovieDto.ofInstance, Supplied.of, Instance.text,
    Instance.int, Instance.number, Instance.get, same]

/-- The changes are read from an object that has passed once. -/
private theorem changesOf_sent
    (sent : Instance validator UpdateMovieDto.properties) {value : Option Json}
    (isObject : value = some (.obj sent.fields))
    (silent : value.elim []
      (UpdateMoviePayload.changesProperty.nested validator) = []) :
    UpdateMoviePayload.changesOf value silent = .ofInstance sent := by
  subst isObject
  apply updateMovie_congr
  exact transformed_transformed UpdateMoviePayload.settling sent.payload

theorem decides_updateMovie
    (sent : Instance validator UpdateMovieDto.properties) (id : ℤ) :
    Decides [("id", id)]
      (fun dto => dto.id = id ∧ dto.changes = .ofInstance sent)
      (UpdateMoviePayload.validate validator
        (.obj [("id", .num id), ("changes", .obj sent.fields)])) := by
  obtain ⟨plain, calm, messages⟩ := messages_changes sent id
  rw [← plain] at calm
  refine decides_of_messages calm messages fun accepted same => ?_
  refine ⟨int_of_payload ⟨rfl, by decide⟩ (by rw [same]; rfl), ?_⟩
  have isChanges : accepted.get UpdateMoviePayload.changesProperty =
      some (.obj sent.fields) := by
    rw [Instance.get, Instance.fields, same, plain]
    rfl
  exact changesOf_sent sent isChanges _

/-- A body that is sent on as it is passes once more. -/
theorem decides_again {α : Type} {properties : List Property}
    {build : Instance validator properties → α}
    (settling : Settling properties)
    (congr : ∀ {accepted again : Instance validator properties},
      accepted.fields = again.fields → build accepted = build again)
    (sent : Instance validator properties) :
    Decides [] (fun dto => dto = build sent)
      ((validationPipe validator properties (.obj sent.fields)).map build) := by
  have settled := transformed_transformed settling sent.payload
  have silent : validationMessages validator properties
      (transformed properties (.obj sent.fields)) = [] := by
    rw [Instance.fields, settled]
    exact sent.silent
  refine decides_of_messages (throws_of_silent silent) silent
    fun accepted same => congr ?_
  rw [Instance.fields, same, Instance.fields, settled]

private theorem settling_createMovie : Settling CreateMovieDto.properties := by
  have trims : ∀ value, trimValue (trimValue value) = trimValue value := by
    intro value
    cases value with
    | str text => exact congrArg Json.str (Cinema.Text.trimmed_trim text)
    | null | bool | num | arr | obj => rfl
  intro property listed value
  simp only [CreateMovieDto.properties, List.mem_cons, List.not_mem_nil,
    or_false] at listed
  rcases listed with rfl | rfl | rfl | rfl | rfl
  · exact trims value
  · exact trims value
  · rfl
  · rfl
  · rfl

theorem decides_createMovie
    (sent : Instance validator CreateMovieDto.properties) :
    Decides [] (fun dto => dto = .ofInstance sent)
      (CreateMovieDto.validate validator (.obj sent.fields)) := by
  refine decides_again settling_createMovie (fun same => ?_) sent
  simp only [CreateMovieDto.ofInstance, Supplied.of, Instance.text,
    Instance.int, Instance.number, Instance.get, same]

theorem decides_register
    (sent : Instance validator (RegisterDto.properties mapping)) :
    Decides [] (fun dto => dto = .ofInstance sent)
      (RegisterDto.validate validator mapping (.obj sent.fields)) := by
  refine decides_again RegisterDto.settling (fun same => ?_) sent
  simp only [RegisterDto.ofInstance, Instance.text, Instance.get, same]

private theorem settling_login : Settling (LoginDto.properties mapping) := by
  intro property member value
  simp only [LoginDto.properties, List.mem_cons, List.not_mem_nil,
    or_false] at member
  rcases member with rfl | rfl
  · exact RegisterDto.settling (RegisterDto.emailProperty mapping)
      List.mem_cons_self value
  · rfl

theorem decides_login
    (sent : Instance validator (LoginDto.properties mapping)) :
    Decides [] (fun dto => dto = .ofInstance sent)
      (LoginDto.validate validator mapping (.obj sent.fields)) := by
  refine decides_again settling_login (fun same => ?_) sent
  simp only [LoginDto.ofInstance, Instance.text, Instance.get, same]

end Decides

/-! ## What the gateway adds -/

/-- The id in the path of a request, under the name it has in the message. -/
def pathId (name : String) (value : Option ℚ) : List (String × ℤ) :=
  match parseIntPipe value with
  | .ok id => [(name, id)]
  | .error _ => []

/-- The ids that the gateway adds, in the order in which the service looks at
them. -/
def addedIds : Route → Option AuthUser → List (String × ℤ)
  | .me, some user => [("userId", user.id)]
  | .findOneMovie value, _ => pathId "id" value
  | .updateMovie value _, _ => pathId "id" value
  | .removeMovie value, _ => pathId "id" value
  | .createOrder _, some user => [("userId", user.id)]
  | .findAllOrders, some user => [("userId", user.id)]
  | .findOneOrder value, some user =>
      pathId "orderId" value ++ [("userId", user.id)]
  | .cancelOrder value, some user =>
      pathId "orderId" value ++ [("userId", user.id)]
  | _, _ => []

/-- A service reads from its message what the gateway has read from the
request, unless it refuses one of the added ids. -/
inductive Agrees (validator : Validator) (mapping : CaseMapping) :
    Route → Option AuthUser → ServiceMessage → Prop where
  | register {body sent payload}
      (passed : validationPipe validator (RegisterDto.properties mapping) body =
        .ok sent)
      (reads : Decides [] (fun dto => dto = .ofInstance sent)
        (RegisterDto.validate validator mapping payload)) :
      Agrees validator mapping (.register body) none (.auth .REGISTER payload)
  | login {body sent payload}
      (passed : validationPipe validator (LoginDto.properties mapping) body =
        .ok sent)
      (reads : Decides [] (fun dto => dto = .ofInstance sent)
        (LoginDto.validate validator mapping payload)) :
      Agrees validator mapping (.login body) none (.auth .LOGIN payload)
  | me {user : AuthUser} {payload}
      (reads : Decides [("userId", user.id)] (fun dto => dto.userId = user.id)
        (UserIdPayload.validate validator payload)) :
      Agrees validator mapping .me (some user) (.auth .GET_PROFILE payload)
  | findAllMovies {payload} :
      Agrees validator mapping .findAllMovies none
        (.catalog .FIND_ALL_MOVIES payload)
  | findOneMovie {value id payload} (parsed : parseIntPipe value = .ok id)
      (reads : Decides [("id", id)] (fun dto => dto.id = id)
        (IdPayload.validate validator payload)) :
      Agrees validator mapping (.findOneMovie value) none
        (.catalog .FIND_ONE_MOVIE payload)
  | createMovie {user body sent payload}
      (passed : validationPipe validator CreateMovieDto.properties body =
        .ok sent)
      (reads : Decides [] (fun dto => dto = .ofInstance sent)
        (CreateMovieDto.validate validator payload)) :
      Agrees validator mapping (.createMovie body) (some user)
        (.catalog .CREATE_MOVIE payload)
  | updateMovie {user value id body sent payload}
      (parsed : parseIntPipe value = .ok id)
      (passed : validationPipe validator UpdateMovieDto.properties body =
        .ok sent)
      (reads : Decides [("id", id)]
        (fun dto => dto.id = id ∧ dto.changes = .ofInstance sent)
        (UpdateMoviePayload.validate validator payload)) :
      Agrees validator mapping (.updateMovie value body) (some user)
        (.catalog .UPDATE_MOVIE payload)
  | removeMovie {user value id payload} (parsed : parseIntPipe value = .ok id)
      (reads : Decides [("id", id)] (fun dto => dto.id = id)
        (IdPayload.validate validator payload)) :
      Agrees validator mapping (.removeMovie value) (some user)
        (.catalog .DELETE_MOVIE payload)
  | createOrder {user : AuthUser} {body sent payload}
      (passed : validationPipe validator CreateOrderDto.properties body =
        .ok sent)
      (reads : Decides [("userId", user.id)]
        (fun dto => dto.userId = user.id ∧
          dto.movieId = sent.int (positiveInt "movieId") ∧
          dto.quantity = sent.int CreateOrderDto.quantityProperty)
        (CreateOrderPayload.validate validator payload)) :
      Agrees validator mapping (.createOrder body) (some user)
        (.orders .CREATE_ORDER payload)
  | findAllOrders {user : AuthUser} {payload}
      (reads : Decides [("userId", user.id)] (fun dto => dto.userId = user.id)
        (UserIdPayload.validate validator payload)) :
      Agrees validator mapping .findAllOrders (some user)
        (.orders .FIND_USER_ORDERS payload)
  | findOneOrder {user : AuthUser} {value id payload}
      (parsed : parseIntPipe value = .ok id)
      (reads : Decides [("orderId", id), ("userId", user.id)]
        (fun dto => dto.userId = user.id ∧ dto.orderId = id)
        (UserOrderPayload.validate validator payload)) :
      Agrees validator mapping (.findOneOrder value) (some user)
        (.orders .FIND_USER_ORDER payload)
  | cancelOrder {user : AuthUser} {value id payload}
      (parsed : parseIntPipe value = .ok id)
      (reads : Decides [("orderId", id), ("userId", user.id)]
        (fun dto => dto.userId = user.id ∧ dto.orderId = id)
        (UserOrderPayload.validate validator payload)) :
      Agrees validator mapping (.cancelOrder value) (some user)
        (.orders .CANCEL_USER_ORDER payload)

/-- What a service can still refuse: an id that is not positive, or passwords
that differ. -/
inductive Faulty (validator : Validator) (mapping : CaseMapping) :
    Route → Option AuthUser → Prop where
  | id {route user name id} (added : (name, id) ∈ addedIds route user)
      (notPositive : id ≤ 0) : Faulty validator mapping route user
  | passwords {body sent user}
      (passed : validationPipe validator (RegisterDto.properties mapping) body =
        .ok sent)
      (differ : sent.text RegisterDto.passwordProperty ≠
        sent.text RegisterDto.confirmPasswordProperty) :
      Faulty validator mapping (.register body) user

section Agrees

variable {validator : Validator} {mapping : CaseMapping} {route : Route}
  {user : Option AuthUser} {message : ServiceMessage}

theorem agrees_of_forwards
    (forwards : Forwards validator mapping route user message) :
    Agrees validator mapping route user message := by
  cases forwards with
  | register valid => exact .register valid (decides_register _)
  | login valid => exact .login valid (decides_login _)
  | me => exact .me (decides_userId _)
  | findAllMovies => exact .findAllMovies
  | findOneMovie parsed => exact .findOneMovie parsed (decides_id _)
  | createMovie isAdmin valid => exact .createMovie valid (decides_createMovie _)
  | updateMovie isAdmin parsed valid =>
      exact .updateMovie parsed valid (decides_updateMovie _ _)
  | removeMovie isAdmin parsed => exact .removeMovie parsed (decides_id _)
  | createOrder valid => exact .createOrder valid (decides_createOrder _ _)
  | findAllOrders => exact .findAllOrders (decides_userId _)
  | findOneOrder parsed => exact .findOneOrder parsed (decides_order _ _)
  | cancelOrder parsed => exact .cancelOrder parsed (decides_order _ _)

/-- A service that refuses a message has found one of these faults. -/
theorem Agrees.faulty (agrees : Agrees validator mapping route user message)
    {thrown : Thrown}
    (refusal : checks validator mapping message = .error thrown) :
    Faulty validator mapping route user := by
  have added : ∀ {α : Type} {expected : α → Prop} {result : Except Thrown α},
      Decides (addedIds route user) expected result →
      result.map (fun _ => ()) = .error thrown →
      Faulty validator mapping route user := by
    intro α expected result decides refusal
    obtain ⟨⟨name, id⟩, member, notPositive⟩ := decides.checks refusal
    exact .id member notPositive
  cases agrees with
  | @register body sent payload passed reads =>
      obtain ⟨dto, valid, rfl⟩ := reads.accepted rfl
      simp only [checks, valid, Except.bind] at refusal
      split at refusal
      · rename_i differ
        exact .passwords passed differ
      · cases refusal
  | login passed reads => exact added reads refusal
  | me reads => exact added reads refusal
  | findAllMovies => cases refusal
  | findOneMovie parsed reads =>
      exact added (by simpa [addedIds, pathId, parsed] using reads) refusal
  | createMovie passed reads => exact added reads refusal
  | updateMovie parsed passed reads =>
      exact added (by simpa [addedIds, pathId, parsed] using reads) refusal
  | removeMovie parsed reads =>
      exact added (by simpa [addedIds, pathId, parsed] using reads) refusal
  | createOrder passed reads => exact added reads refusal
  | findAllOrders reads => exact added reads refusal
  | findOneOrder parsed reads =>
      exact added (by simpa [addedIds, pathId, parsed] using reads) refusal
  | cancelOrder parsed reads =>
      exact added (by simpa [addedIds, pathId, parsed] using reads) refusal

end Agrees

/-! ## Every run -/

section Runs

variable {deployment : Deployment} {store : SystemStore deployment.validator}
  {traffic : SystemTraffic deployment}

/-- A status other than the one of an internal error is one of an exception. -/
theorem ownStatus_of_answered {job : SystemJob deployment} {status : ℚ}
    {body : Json}
    (answered : job.outcome.map httpAnswer = some (.error (status, body)))
    (notInternal : status ≠ 500) :
    ∃ thrown, job.outcome = some (.error thrown) ∧
      ownStatus thrown = status := by
  obtain ⟨outcome, ends, answers⟩ := Option.map_eq_some_iff.mp answered
  cases outcome with
  | ok answer => cases answers
  | error thrown =>
      refine ⟨thrown, ends, ?_⟩
      cases thrown with
      | http exception =>
          have same : (exception.status, exception.response) = (status, body) :=
            Except.error.inj answers
          exact congrArg Prod.fst same
      | rpc | queryFailed | other =>
          exact absurd (congrArg Prod.fst (Except.error.inj answers)).symm
            notInternal

/-- What the gateway forwards a service reads as the gateway has read it: it
refuses a message because of the ids that the gateway has added, and otherwise
gets the very data that has passed the pipe of the gateway.  A request that
was forwarded is answered as a bad request only if one of these ids is not
positive, or if two passwords differ, as long as no statement fails with an
error of its own. -/
theorem second_pipe_agrees
    (runs : (system deployment).Runs anyClients (.start store) traffic) :
    (∀ job ∈ traffic.jobs, ∀ request, job.message = .http request →
      ∀ child ∈ job.sent, ∀ message, traffic.Carries child (.service message) →
        ∃ user, Identified job request user ∧
          Agrees deployment.validator deployment.mapping request.route user
            message) ∧
      (Network.Undisturbed (fun circumstances : Circumstances =>
          Sane circumstances.toSurroundings) traffic →
        ∀ job ∈ traffic.jobs, ∀ request body, job.message = .http request →
          job.sent ≠ [] →
          job.outcome.map httpAnswer = some (.error (400, body)) →
            ∃ user, Identified job request user ∧
              Faulty deployment.validator deployment.mapping request.route
                user) := by
  have traced := Network.Runs.traced Network.traced_start runs
  constructor
  · intro job member request isRequest child sent message carries
    obtain ⟨user, identified, forwards⟩ :=
      forwards_of_sent (traced job member) isRequest sent carries
    exact ⟨user, identified, agrees_of_forwards forwards⟩
  · intro undisturbed job member request body isRequest forwarded answered
    have confined := Network.Runs.confined (confines deployment)
      (fun _ => trivial) runs undisturbed
    obtain ⟨thrown, failed, bad⟩ := ownStatus_of_answered answered (by norm_num)
    cases http_stage (traced job member) isRequest with
    | unsent nothing notOk => exact absurd nothing forwarded
    | waiting identified forwards sent carries pending =>
        rw [pending] at failed
        cases failed
    | @abandoned user message child failure identified forwards sent carries
        gone =>
        rw [gone] at failed
        cases failed
        exact absurd bad
          (ownStatus_gaveUp_ne (by norm_num [clientStatuses]) _ _)
    | @answered user message child other outcome identified forwards sent found
        carries ends passedOn =>
        rw [passedOn] at failed
        refine ⟨user, identified, ?_⟩
        cases outcome with
        | ok answer =>
            simp only [passOn] at failed
            split at failed
            · cases failed
            · cases failed
              exact absurd bad
                (ownStatus_gaveUp_ne (by norm_num [clientStatuses]) _ _)
        | error reported =>
            cases failed
            have tells := confined.outcome (List.mem_of_getElem? found) ends
            rw [carries] at tells
            rw [ownStatus_relayed (Tells.reports tells).notRpc] at bad
            exact (agrees_of_forwards forwards).faulty (Tells.bad tells bad)

end Runs

/-- The message `index` asks the catalog for one movie. -/
private def looksUp {deployment : Deployment}
    (traffic : SystemTraffic deployment) (index : Nat) : Bool :=
  traffic.jobs[index]?.any fun job =>
    match job.message with
    | .service (.catalog .FIND_ONE_MOVIE _) => true
    | _ => false

private theorem carries_of_looksUp {deployment : Deployment}
    {traffic : SystemTraffic deployment} {index : Nat}
    (looking : looksUp traffic index = true) :
    ∃ payload,
      traffic.Carries index (.service (.catalog .FIND_ONE_MOVIE payload)) := by
  obtain ⟨job, found, isLookup⟩ := (Option.any_eq_true _ _).mp looking
  split at isLookup
  · rename_i payload isMessage
    exact ⟨payload, job, found, isMessage⟩
  · cases isLookup

/-- The pipe of a path takes zero for an id, and the catalog does not. -/
theorem second_pipe_agrees_example :
    ∃ (traffic : SystemTraffic
        (sampleDeployment (.sample 7 "ripley@example.com" .USER)))
      (job : SystemJob _) (request : HttpRequest) (body payload : Json),
      job ∈ traffic.jobs ∧ job.message = .http request ∧
        job.outcome.map httpAnswer = some (.error (400, body)) ∧
        (∃ user, Agrees .plain .ascii request.route user
          (.catalog .FIND_ONE_MOVIE payload)) ∧
        ∃ user, Faulty .plain .ascii request.route user := by
  let deployment := sampleDeployment (.sample 7 "ripley@example.com" .USER)
  let store : SystemStore deployment.validator := ⟨∅, sampleDatabases, []⟩
  let request : HttpRequest := ⟨none, .findOneMovie (some 0)⟩
  have checked : (System.play (.start store : SystemTraffic deployment)
      [.arrive (.http request), .act 0 .deliver, .act 0 .send,
        .act 1 .deliver, .act 0 .answer]).any
      (fun traffic => (traffic.jobs.all fun job => job.calls.all undisturbed) &&
        looksUp traffic 1 && traffic.jobs.any fun job => job.sent = [1] &&
          (errorOf job).any fun answer => answer.2.1 = 400) = true := by
    decide +kernel
  obtain ⟨traffic, played, checked⟩ := (Option.any_eq_true _ _).mp checked
  obtain ⟨checked, failed⟩ := Bool.and_eq_true_iff.mp checked
  obtain ⟨calls, looking⟩ := Bool.and_eq_true_iff.mp checked
  obtain ⟨payload, carries⟩ := carries_of_looksUp looking
  obtain ⟨job, member, failed⟩ := List.any_eq_true.mp failed
  obtain ⟨forwarded, failed⟩ := Bool.and_eq_true_iff.mp failed
  have sent : job.sent = [1] := of_decide_eq_true forwarded
  obtain ⟨⟨asked, status, body⟩, isError, isStatus⟩ :=
    (Option.any_eq_true _ _).mp failed
  obtain rfl : status = 400 := of_decide_eq_true isStatus
  obtain ⟨isRequest, answered⟩ := errorOf_eq_some isError
  obtain ⟨agrees, refused⟩ := second_pipe_agrees (System.runs_of_play played)
  obtain ⟨reader, _, read⟩ :=
    agrees job member asked isRequest 1 (by simp [sent]) _ carries
  obtain ⟨user, _, faulty⟩ := refused (undisturbed_of_calls calls) job member
    asked body isRequest (by simp [sent]) answered
  exact ⟨traffic, job, asked, body, payload, member, isRequest, answered,
    ⟨reader, read⟩, user, faulty⟩

end Cinema.System
