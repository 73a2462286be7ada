import Cinema.Shared.Exceptions

/-!
# The error contract

Every error crosses the wire as `{ statusCode, message, error }`.  A payload
that a client has accepted and a service throws again comes out unchanged, over
any number of services; the guard on both ends inspects less than the shape it
promises.
-/

namespace Cinema.Shared

/-! ## Over any number of services -/

/-- A service throws what its client has thrown for `payload`. -/
def hop (payload : Json) (service : Services) : Json :=
  toRpcErrorPayload (.http (toHttpException service (.sent payload)))

/-- The status of a thrown value that is not an `RpcException`. -/
def ownStatus : Thrown → ℚ
  | .http exception => exception.status
  | .queryFailed code _ => if code = PG_UNIQUE_VIOLATION then 409 else 500
  | _ => 500

theorem coalesce_ne_null {value : Option Json} {fallback : Json}
    (notNull : fallback ≠ .null) : Json.coalesce value fallback ≠ .null := by
  unfold Json.coalesce
  split
  · exact notNull
  · exact notNull
  · rename_i value isNotNull
    intro isNull
    exact isNotNull isNull

theorem coalesce_of_ne_null {value fallback : Json} (notNull : value ≠ .null) :
    Json.coalesce (some value) fallback = value := by
  cases value with
  | null => exact absurd rfl notNull
  | _ => rfl

section Payload

variable (statusCode : ℚ) (message error : Json)

@[simp] theorem get_statusCode :
    (rpcErrorPayload statusCode message error).get "statusCode" =
      some (.num statusCode) := rfl

@[simp] theorem get_message :
    (rpcErrorPayload statusCode message error).get "message" =
      some message := rfl

@[simp] theorem get_error :
    (rpcErrorPayload statusCode message error).get "error" = some error := rfl

theorem toHttpException_rpcErrorPayload (service : Services) :
    (toHttpException service
        (.sent (rpcErrorPayload statusCode message error))).status =
        statusCode ∧
      (toHttpException service
        (.sent (rpcErrorPayload statusCode message error))).response =
        rpcErrorPayload statusCode message error :=
  ⟨rfl, rfl⟩

variable {message error}

theorem hop_rpcErrorPayload (hasMessage : message ≠ .null)
    (hasError : error ≠ .null) (service : Services) :
    hop (rpcErrorPayload statusCode message error) service =
      rpcErrorPayload statusCode message error := by
  obtain ⟨status, response⟩ :=
    toHttpException_rpcErrorPayload statusCode message error service
  simp only [hop, toRpcErrorPayload, response, status]
  change rpcErrorPayload _ (Json.coalesce (some message) _)
    (Json.coalesce (some error) _) = _
  rw [coalesce_of_ne_null hasMessage, coalesce_of_ne_null hasError]

end Payload

/-- What is thrown is reported with its own status, a message and an error. -/
theorem toRpcErrorPayload_eq {thrown : Thrown}
    (notRpc : ∀ error message, thrown ≠ .rpc error message) :
    ∃ message error, message ≠ .null ∧ error ≠ .null ∧
      toRpcErrorPayload thrown =
        rpcErrorPayload (ownStatus thrown) message error := by
  cases thrown with
  | http exception =>
      simp only [toRpcErrorPayload, ownStatus]
      split
      · exact ⟨_, _, by simp, by simp, rfl⟩
      · exact ⟨_, _, coalesce_ne_null (by simp), coalesce_ne_null (by simp),
          rfl⟩
  | rpc error message => exact absurd rfl (notRpc error message)
  | queryFailed code parameters =>
      simp only [toRpcErrorPayload, ownStatus]
      split
      · exact ⟨_, _, by simp, by simp, rfl⟩
      · exact ⟨_, _, by simp, by simp, rfl⟩
  | other => exact ⟨_, _, by simp, by simp, rfl⟩

theorem foldl_hop {payload : Json}
    (fixed : ∀ service, hop payload service = payload)
    (services : List Services) : services.foldl hop payload = payload := by
  induction services with
  | nil => rfl
  | cons service services induction =>
      rw [List.foldl_cons, fixed service]
      exact induction

/-- An error that has been thrown through any number of services arrives as it
was sent, and the last client throws it with the status and the body of the
first payload. -/
theorem error_survives {thrown : Thrown}
    (notRpc : ∀ error message, thrown ≠ .rpc error message)
    (services : List Services) (last : Services) :
    services.foldl hop (toRpcErrorPayload thrown) =
        toRpcErrorPayload thrown ∧
      (toHttpException last
        (.sent (services.foldl hop (toRpcErrorPayload thrown)))).response =
        toRpcErrorPayload thrown ∧
      statusCodeOf (toRpcErrorPayload thrown) = some (toHttpException last
        (.sent (services.foldl hop (toRpcErrorPayload thrown)))).status ∧
      (toHttpException last
        (.sent (services.foldl hop (toRpcErrorPayload thrown)))).status =
        ownStatus thrown := by
  obtain ⟨message, error, hasMessage, hasError, payload⟩ :=
    toRpcErrorPayload_eq notRpc
  have arrives : services.foldl hop (toRpcErrorPayload thrown) =
      toRpcErrorPayload thrown := by
    apply foldl_hop
    rw [payload]
    exact hop_rpcErrorPayload _ hasMessage hasError
  obtain ⟨status, response⟩ :=
    toHttpException_rpcErrorPayload (ownStatus thrown) message error last
  rw [arrives, payload, status, response]
  exact ⟨rfl, rfl, statusCodeOf_rpcErrorPayload _ _ _, rfl⟩

/-- A missing movie, reported through the order service. -/
theorem error_survives_example :
    (toHttpException .order (.sent ([Services.catalog].foldl hop
      (toRpcErrorPayload (notFoundException "Movie 42 not found"))))).status =
      404 := by
  have notRpc : ∀ error message,
      notFoundException "Movie 42 not found" ≠ .rpc error message := by
    simp [notFoundException]
  exact (error_survives notRpc [.catalog] .order).2.2.2

/-! ## The shape -/

/-- A string or a list of strings. -/
def IsMessage : Json → Prop
  | .str _ => True
  | .arr items => ∀ item ∈ items, ∃ text, item = .str text
  | _ => False

/-- `RpcErrorPayload` -/
structure RpcErrorPayload (value : Json) : Prop where
  statusCode : ∃ status, value.get "statusCode" = some (.num status)
  message : ∃ message, value.get "message" = some message ∧ IsMessage message
  error : ∃ error, value.get "error" = some (.str error)

/-- The fields of a response that the normaliser copies have the right types,
where they are given. -/
def WellTyped (body : Json) : Prop :=
  (∀ message, body.get "message" = some message → message ≠ .null →
    IsMessage message) ∧
  ∀ error, body.get "error" = some error → error ≠ .null →
    ∃ text, error = .str text

/-- An object with a numeric status and a message of any kind. -/
def LooksLikePayload (value : Json) : Prop :=
  ∃ fields, value = .obj fields ∧
    (∃ status, value.get "statusCode" = some (.num status)) ∧
    ∃ message, value.get "message" = some message

/-- The message is a string or a list of strings, the error a string. -/
def Complete (value : Json) : Prop :=
  (∃ message, value.get "message" = some message ∧ IsMessage message) ∧
    ∃ text, value.get "error" = some (.str text)

/-- What is thrown gives the normaliser well-typed fields. -/
def Thrown.Presentable : Thrown → Prop
  | .http exception =>
      (∃ response, exception.response = .str response) ∨
        WellTyped exception.response
  | .rpc error _ => LooksLikePayload error → Complete error
  | _ => True

theorem rpcErrorPayload_shape {statusCode : ℚ} {message error : Json} :
    RpcErrorPayload (rpcErrorPayload statusCode message error) ↔
      IsMessage message ∧ ∃ text, error = .str text := by
  constructor
  · intro shape
    obtain ⟨text, isText, isMessage⟩ := shape.message
    obtain ⟨name, isError⟩ := shape.error
    cases isText
    cases isError
    exact ⟨isMessage, name, rfl⟩
  · rintro ⟨isMessage, text, rfl⟩
    exact ⟨⟨statusCode, rfl⟩, ⟨message, rfl, isMessage⟩, text, rfl⟩

/-- A field that falls back on a good value is good if it is when given. -/
theorem coalesce_iff (good : Json → Prop) {value : Option Json}
    {fallback : Json} (fallbackGood : good fallback) :
    good (Json.coalesce value fallback) ↔
      ∀ given, value = some given → given ≠ .null → good given := by
  cases value with
  | none => simp [Json.coalesce, fallbackGood]
  | some given =>
      by_cases isNull : given = .null
      · subst isNull
        simp [Json.coalesce, fallbackGood]
      · rw [coalesce_of_ne_null isNull]
        simp [isNull]

/-- The guard accepts what looks like a payload, whatever the message is and
with or without an error. -/
theorem isRpcErrorPayload_iff {value : Json} :
    isRpcErrorPayload value = true ↔ LooksLikePayload value := by
  constructor
  · intro accepted
    cases value with
    | obj fields =>
        obtain ⟨isNumber, hasMessage⟩ := Bool.and_eq_true_iff.mp accepted
        refine ⟨fields, rfl, ?_, Option.isSome_iff_exists.mp hasMessage⟩
        split at isNumber
        · rename_i status isStatus
          exact ⟨status, isStatus⟩
        · cases isNumber
    | _ => cases accepted
  · rintro ⟨fields, rfl, ⟨status, isStatus⟩, message, isMessage⟩
    simp only [Json.get, Json.ownFields] at isStatus isMessage
    simp [isRpcErrorPayload, isStatus, isMessage]

theorem shape_iff_complete {value : Json} (looks : LooksLikePayload value) :
    RpcErrorPayload value ↔ Complete value := by
  obtain ⟨fields, _, hasStatus, _⟩ := looks
  constructor
  · intro shape
    exact ⟨shape.message, shape.error⟩
  · intro complete
    exact ⟨hasStatus, complete.1, complete.2⟩

/-- What the normaliser returns has the shape if what was thrown is
well typed, and only then. -/
theorem shape_iff_presentable (thrown : Thrown) :
    RpcErrorPayload (toRpcErrorPayload thrown) ↔ thrown.Presentable := by
  cases thrown with
  | http exception =>
      obtain ⟨status, response, message, name⟩ := exception
      have copied : ∀ body : Json,
          RpcErrorPayload (rpcErrorPayload status
            (Json.coalesce (body.get "message") (.str message))
            (Json.coalesce (body.get "error") (.str name))) ↔
            WellTyped body := by
        intro body
        rw [rpcErrorPayload_shape]
        exact and_congr (coalesce_iff IsMessage trivial)
          (coalesce_iff (fun error => ∃ text, error = .str text) ⟨name, rfl⟩)
      cases response with
      | str response =>
          refine iff_of_true ?_ (.inl ⟨response, rfl⟩)
          exact rpcErrorPayload_shape.mpr ⟨trivial, name, rfl⟩
      | _ =>
          simp only [toRpcErrorPayload, Thrown.Presentable, copied]
          simp
  | rpc error message =>
      cases accepted : isRpcErrorPayload error with
      | true =>
          have looks := isRpcErrorPayload_iff.mp accepted
          simp only [toRpcErrorPayload, Thrown.Presentable, accepted, if_true]
          rw [shape_iff_complete looks]
          simp [looks]
      | false =>
          have plain : ¬ LooksLikePayload error := by
            intro looks
            rw [isRpcErrorPayload_iff.mpr looks] at accepted
            cases accepted
          simp only [toRpcErrorPayload, Thrown.Presentable, accepted]
          refine iff_of_true ?_ fun looks => absurd looks plain
          apply rpcErrorPayload_shape.mpr
          refine ⟨?_, _, rfl⟩
          split <;> trivial
  | queryFailed code parameters =>
      refine iff_of_true ?_ trivial
      simp only [toRpcErrorPayload]
      split <;> exact rpcErrorPayload_shape.mpr ⟨trivial, _, rfl⟩
  | other =>
      exact iff_of_true (rpcErrorPayload_shape.mpr ⟨trivial, _, rfl⟩) trivial

/-- The three fields are defined in the body that a client throws. -/
def RelaysAll (service : Services) (payload : Json) : Prop :=
  ∀ name ∈ ["statusCode", "message", "error"],
    ((toHttpException service (.sent payload)).response.get name).isSome

theorem response_of_accepted {payload : Json}
    (looks : LooksLikePayload payload) (service : Services) :
    (toHttpException service (.sent payload)).response =
      .obj (definedFields [("statusCode", payload.get "statusCode"),
        ("message", payload.get "message"),
        ("error", payload.get "error")]) := by
  have accepted := isRpcErrorPayload_iff.mpr looks
  obtain ⟨fields, _, ⟨status, isStatus⟩, _⟩ := looks
  simp [toHttpException, accepted, isStatus]

theorem relaysAll_iff {payload : Json} (looks : LooksLikePayload payload)
    (service : Services) :
    RelaysAll service payload ↔ (payload.get "error").isSome := by
  have relays := response_of_accepted looks service
  obtain ⟨fields, _, ⟨status, isStatus⟩, message, isMessage⟩ := looks
  simp only [RelaysAll, relays, isStatus, isMessage]
  cases payload.get "error" with
  | none => simp [definedFields, Json.get, Json.ownFields, Fields.get]
  | some error => simp [definedFields, Json.get, Json.ownFields, Fields.get]

/-- The normaliser returns the shape for what is well typed, and only for that.
The guard accepts values of another shape: those that look like a payload and
are not complete; and what a client relays of an accepted value has its three
fields unless the value looks like a payload without an error. -/
theorem one_shape (thrown : Thrown) (value : Json) (service : Services) :
    (RpcErrorPayload (toRpcErrorPayload thrown) ↔ thrown.Presentable) ∧
      ((isRpcErrorPayload value = true → RpcErrorPayload value) ↔
        ¬ LooksLikePayload value ∨ Complete value) ∧
      ((isRpcErrorPayload value = true → RelaysAll service value) ↔
        ¬ LooksLikePayload value ∨ (value.get "error").isSome) := by
  rw [isRpcErrorPayload_iff]
  refine ⟨shape_iff_presentable thrown, ?_, ?_⟩
  · by_cases looks : LooksLikePayload value
    · simp [looks, shape_iff_complete looks]
    · simp [looks]
  · by_cases looks : LooksLikePayload value
    · simp [looks, relaysAll_iff looks]
    · simp [looks]

/-- An `RpcException` without an error name is passed on as it is. -/
theorem shape_broken :
    ¬ ((∀ thrown, RpcErrorPayload (toRpcErrorPayload thrown)) ∧
      (∀ value, isRpcErrorPayload value = true → RpcErrorPayload value) ∧
      ∀ value service, isRpcErrorPayload value = true →
        RelaysAll service value) := by
  rintro ⟨normalised, _, _⟩
  have shape := normalised (.rpc
    (.obj [("statusCode", .num 409), ("message", .str "Taken")]) "Taken")
  obtain ⟨error, isError⟩ := shape.error
  have missing : (toRpcErrorPayload (.rpc
      (.obj [("statusCode", .num 409), ("message", .str "Taken")])
      "Taken")).get "error" = none := by decide
  rw [missing] at isError
  cases isError

end Cinema.Shared
