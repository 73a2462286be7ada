import Cinema.Shared.ErrorContract
import Cinema.System

/-!
# What the gateway forwards

A request passes its guards and pipes and then sends at most one message.
`Forwards` lists the messages by route; `HttpStage` says how far a request has
come and what it goes back to.
-/

namespace Cinema.System

open Interleaving Shared Text Auth Catalog Orders Gateway

variable {deployment : Deployment}

/-- The message of a route, for the user the guard has attached. -/
inductive Forwards (validator : Validator) (mapping : CaseMapping) :
    Route → Option AuthUser → ServiceMessage → Prop where
  | register {body dto}
      (valid : validationPipe validator (RegisterDto.properties mapping) body =
        .ok dto) :
      Forwards validator mapping (.register body) none
        (.auth .REGISTER (.obj dto.fields))
  | login {body dto}
      (valid : validationPipe validator (LoginDto.properties mapping) body =
        .ok dto) :
      Forwards validator mapping (.login body) none
        (.auth .LOGIN (.obj dto.fields))
  | me {user} :
      Forwards validator mapping .me (some user)
        (.auth .GET_PROFILE (.obj [("userId", .num user.id)]))
  | findAllMovies :
      Forwards validator mapping .findAllMovies none
        (.catalog .FIND_ALL_MOVIES (.obj []))
  | findOneMovie {value id} (parsed : parseIntPipe value = .ok id) :
      Forwards validator mapping (.findOneMovie value) none
        (.catalog .FIND_ONE_MOVIE (.obj [("id", .num id)]))
  | createMovie {user body dto} (isAdmin : user.role = .ADMIN)
      (valid : validationPipe validator CreateMovieDto.properties body =
        .ok dto) :
      Forwards validator mapping (.createMovie body) (some user)
        (.catalog .CREATE_MOVIE (.obj dto.fields))
  | updateMovie {user value id body changes} (isAdmin : user.role = .ADMIN)
      (parsed : parseIntPipe value = .ok id)
      (valid : validationPipe validator UpdateMovieDto.properties body =
        .ok changes) :
      Forwards validator mapping (.updateMovie value body) (some user)
        (.catalog .UPDATE_MOVIE
          (.obj [("id", .num id), ("changes", .obj changes.fields)]))
  | removeMovie {user value id} (isAdmin : user.role = .ADMIN)
      (parsed : parseIntPipe value = .ok id) :
      Forwards validator mapping (.removeMovie value) (some user)
        (.catalog .DELETE_MOVIE (.obj [("id", .num id)]))
  | createOrder {user body dto}
      (valid : validationPipe validator CreateOrderDto.properties body =
        .ok dto) :
      Forwards validator mapping (.createOrder body) (some user)
        (.orders .CREATE_ORDER
          (.obj (dto.fields.override "userId" (.num user.id))))
  | findAllOrders {user} :
      Forwards validator mapping .findAllOrders (some user)
        (.orders .FIND_USER_ORDERS (.obj [("userId", .num user.id)]))
  | findOneOrder {user value id} (parsed : parseIntPipe value = .ok id) :
      Forwards validator mapping (.findOneOrder value) (some user)
        (.orders .FIND_USER_ORDER
          (.obj [("userId", .num user.id), ("orderId", .num id)]))
  | cancelOrder {user value id} (parsed : parseIntPipe value = .ok id) :
      Forwards validator mapping (.cancelOrder value) (some user)
        (.orders .CANCEL_USER_ORDER
          (.obj [("userId", .num user.id), ("orderId", .num id)]))

/-- What the gateway answers when a service has answered. -/
def answerWith : (message : ServiceMessage) → message.Answer → GatewayAnswer
  | .auth _ _, answer => .auth answer
  | .catalog .DELETE_MOVIE _, _ => .noContent
  | .catalog _ _, answer => .catalog answer
  | .orders _ _, answer => .orders answer

section Programs

variable (deployment)

abbrev SystemProgram : Type :=
  Program (SystemCall deployment.validator) SystemReply Thrown SystemAnswer

/-- The pipes have refused, or one message is sent and its answer passed on. -/
inductive Asks (route : Route) (user : Option AuthUser) :
    SystemProgram deployment → Prop where
  | fail (thrown : Thrown) : Asks route user (.fail thrown)
  | send {message}
      (forwards : Forwards deployment.validator deployment.mapping route user
        message) :
      Asks route user (.call (.send message) fun answer =>
        .done (.http (answerWith message answer)))

/-- The route is open, or its token is verified first. -/
inductive Guarded (request : HttpRequest) : SystemProgram deployment → Prop
    where
  | free {program} (asks : Asks deployment request.route none program) :
      Guarded request program
  | verified {token next}
      (isToken : extractBearerToken request.authorization = some token)
      (rejected : ∃ thrown, next none = .fail thrown)
      (accepted : ∀ claims, (∃ thrown, next (some claims) = .fail thrown) ∨
        ∃ user, AuthUser.ofPayload claims = some user ∧
          Asks deployment request.route (some user) (next (some claims))) :
      Guarded request (.call (.verify token) next)

end Programs

/-- A pipe refuses or hands its value on. -/
private theorem asks_ofExcept {route : Route} {user : Option AuthUser}
    {α : Type} {result : Except Thrown α}
    {rest : α → Program (SystemCall deployment.validator) SystemReply Thrown
      GatewayAnswer}
    (asks : ∀ value, result = .ok value →
      Asks deployment route user (.http <$> rest value)) :
    Asks deployment route user (.http <$> (.ofExcept result >>= rest)) := by
  cases result with
  | error thrown => exact .fail thrown
  | ok value => exact asks value rfl

/-- A route behind the token guard. -/
private theorem guarded_bind {request : HttpRequest}
    {rest : AuthUser → Program (SystemCall deployment.validator) SystemReply
      Thrown GatewayAnswer}
    (asks : ∀ user,
      Asks deployment request.route (some user) (.http <$> rest user)) :
    Guarded deployment request
      (.http <$> (jwtAuthGuard clients request.authorization >>= rest)) := by
  unfold jwtAuthGuard
  cases isToken : extractBearerToken request.authorization with
  | none => exact .free (.fail _)
  | some token =>
      refine .verified isToken ⟨_, rfl⟩ fun claims => ?_
      cases isUser : AuthUser.ofPayload claims with
      | none =>
          refine .inl ⟨unauthorizedException "Invalid token payload", ?_⟩
          simp [isUser, Program.bind]
      | some user =>
          refine .inr ⟨user, rfl, ?_⟩
          have asked := asks user
          simp only [Program.bind, isUser]
          exact asked

private theorem rolesGuard_admin {user : AuthUser}
    (passed : rolesGuard [.ADMIN] user = .ok ()) : user.role = .ADMIN := by
  simpa [rolesGuard] using passed

/-- Every request is guarded and sends at most one message. -/
theorem guarded_handle (request : HttpRequest) :
    Guarded deployment request (handle deployment (.http request)) := by
  obtain ⟨authorization, route⟩ := request
  cases route with
  | register body =>
      exact .free (asks_ofExcept fun dto valid => .send (.register valid))
  | login body =>
      exact .free (asks_ofExcept fun dto valid => .send (.login valid))
  | me => exact guarded_bind fun user => .send .me
  | findAllMovies => exact .free (.send .findAllMovies)
  | findOneMovie value =>
      exact .free (asks_ofExcept fun id parsed => .send (.findOneMovie parsed))
  | createMovie body =>
      exact guarded_bind fun user => asks_ofExcept fun _ passed =>
        asks_ofExcept fun dto valid =>
          .send (.createMovie (rolesGuard_admin passed) valid)
  | updateMovie value body =>
      exact guarded_bind fun user => asks_ofExcept fun _ passed =>
        asks_ofExcept fun id parsed => asks_ofExcept fun changes valid =>
          .send (.updateMovie (rolesGuard_admin passed) parsed valid)
  | removeMovie value =>
      exact guarded_bind fun user => asks_ofExcept fun _ passed =>
        asks_ofExcept fun id parsed =>
          .send (.removeMovie (rolesGuard_admin passed) parsed)
  | createOrder body =>
      exact guarded_bind fun user =>
        asks_ofExcept fun dto valid => .send (.createOrder valid)
  | findAllOrders => exact guarded_bind fun user => .send .findAllOrders
  | findOneOrder value =>
      exact guarded_bind fun user =>
        asks_ofExcept fun id parsed => .send (.findOneOrder parsed)
  | cancelOrder value =>
      exact guarded_bind fun user =>
        asks_ofExcept fun id parsed => .send (.cancelOrder parsed)

/-- A request verifies a token and sends messages, and nothing else. -/
theorem uses_http {allowed : SystemCall deployment.validator → Prop}
    (verifies : ∀ token, allowed (.verify token))
    (sends : ∀ message, allowed (.send message)) (request : HttpRequest) :
    (handle deployment (.http request)).Uses allowed := by
  have asked : ∀ {user program}, Asks deployment request.route user program →
      program.Uses allowed := by
    intro user program asks
    cases asks with
    | fail thrown => trivial
    | send forwards => exact ⟨sends _, fun _ => trivial⟩
  have guarded : Guarded deployment request
      (handle deployment (.http request)) := guarded_handle request
  generalize handle deployment (.http request) = program at guarded ⊢
  cases guarded with
  | free asks => exact asked asks
  | verified isToken rejected accepted =>
      refine ⟨verifies _, fun claims => ?_⟩
      cases claims with
      | none =>
          obtain ⟨thrown, fails⟩ := rejected
          rw [fails]
          trivial
      | some claims =>
          rcases accepted claims with ⟨thrown, fails⟩ | ⟨user, _, asks⟩
          · rw [fails]
            trivial
          · exact asked asks

/-- The catalog makes statements on the movies, and nothing else. -/
theorem uses_catalog {allowed : SystemCall deployment.validator → Prop}
    (statements : ∀ statement, allowed (.movies statement))
    (pattern : CatalogPatterns) (payload : Json) :
    (handle deployment (.service (.catalog pattern payload))).Uses allowed := by
  apply Program.Uses.map
  apply Catalog.MoviesController.uses_handle
  intro statement
  exact ⟨statements statement, fun _ => trivial⟩

/-- The order service makes statements on the orders and looks movies up. -/
theorem uses_orders {allowed : SystemCall deployment.validator → Prop}
    (statements : ∀ statement, allowed (.orders statement))
    (lookups : ∀ payload, allowed (.send (.catalog .FIND_ONE_MOVIE payload)))
    (pattern : OrderPatterns) (payload : Json) :
    (handle deployment (.service (.orders pattern payload))).Uses allowed := by
  apply Program.Uses.map
  apply Orders.OrdersController.uses_handle
  · intro statement
    exact ⟨statements statement, fun _ => trivial⟩
  · intro id
    refine ⟨lookups id, fun answer => ?_⟩
    cases answer <;> trivial

/-! The other way round: a request that passes its guards and pipes. -/

section Passing

variable {request : HttpRequest} {message : ServiceMessage}

/-- The message is sent, and its answer passed on. -/
def forwarded (message : ServiceMessage) : SystemProgram deployment :=
  .call (.send message) fun answer => .done (.http (answerWith message answer))

theorem handle_open
    (forwards : Forwards deployment.validator deployment.mapping request.route
      none message) :
    handle deployment (.http request) = forwarded message := by
  obtain ⟨authorization, route⟩ := request
  cases forwards with
  | register valid =>
      simp only [handle, Gateway.handle, Gateway.AuthController.register, valid]
      rfl
  | login valid =>
      simp only [handle, Gateway.handle, Gateway.AuthController.login, valid]
      rfl
  | findAllMovies => rfl
  | findOneMovie parsed =>
      simp only [handle, Gateway.handle, Gateway.MoviesController.findOne,
        parsed]
      rfl

/-- Behind the token guard, for the user of a verified token. -/
private theorem handle_behind {user : AuthUser} {token : String}
    (isToken : extractBearerToken request.authorization = some token)
    {rest : AuthUser → Program (SystemCall deployment.validator) SystemReply
      Thrown GatewayAnswer}
    (passes : .http <$> rest user = forwarded message) :
    ∃ next, (.http <$> (jwtAuthGuard clients request.authorization >>= rest) :
        SystemProgram deployment) = .call (.verify token) next ∧
      ∀ claims, AuthUser.ofPayload claims = some user →
        next (some claims) = forwarded message := by
  unfold jwtAuthGuard
  rw [isToken]
  refine ⟨_, rfl, ?_⟩
  intro claims isUser
  rw [← passes]
  simp only [Program.bind, isUser]
  rfl

theorem handle_guarded {user : AuthUser} {token : String}
    (forwards : Forwards deployment.validator deployment.mapping request.route
      (some user) message)
    (isToken : extractBearerToken request.authorization = some token) :
    ∃ next, handle deployment (.http request) = .call (.verify token) next ∧
      ∀ claims, AuthUser.ofPayload claims = some user →
        next (some claims) = forwarded message := by
  obtain ⟨authorization, route⟩ := request
  cases forwards with
  | me => exact handle_behind isToken rfl
  | findAllOrders => exact handle_behind isToken rfl
  | createMovie isAdmin valid =>
      apply handle_behind isToken
      simp only [rolesGuard, isAdmin, valid]
      rfl
  | updateMovie isAdmin parsed valid =>
      apply handle_behind isToken
      simp only [rolesGuard, isAdmin, parsed, valid]
      rfl
  | removeMovie isAdmin parsed =>
      apply handle_behind isToken
      simp only [rolesGuard, isAdmin, parsed]
      rfl
  | createOrder valid =>
      apply handle_behind isToken
      simp only [valid]
      rfl
  | findOneOrder parsed =>
      apply handle_behind isToken
      simp only [parsed]
      rfl
  | cancelOrder parsed =>
      apply handle_behind isToken
      simp only [parsed]
      rfl

end Passing

/-! ## How far a request has come -/

/-- What a service refuses, its client throws with the same status. -/
theorem relayed_statusCode {thrown : Thrown}
    (notRpc : ∀ error message, thrown ≠ .rpc error message)
    (service : Services) :
    (relayed service thrown).statusCode = thrown.statusCode := by
  obtain ⟨message, error, _, _, payload⟩ := toRpcErrorPayload_eq notRpc
  rw [relayed, statusCode_http, Thrown.statusCode, payload,
    statusCodeOf_rpcErrorPayload,
    (toHttpException_rpcErrorPayload _ message error service).1]

/-- What becomes of the outcome of a service. -/
def passOn (message : ServiceMessage) :
    Except Thrown SystemAnswer → Except Thrown SystemAnswer
  | .ok answer =>
      match answerOf message answer with
      | some reply => .ok (.http (answerWith message reply))
      | none => .error (gaveUp message.service .other)
  | .error thrown => .error (relayed message.service thrown)

section Stages

variable (traffic : SystemTraffic deployment) (job : SystemJob deployment)
  (request : HttpRequest)

/-- The user of a request is the one its verified token names. -/
def Identified : Option AuthUser → Prop
  | none => True
  | some user => ∃ token claims circumstances,
      extractBearerToken request.authorization = some token ∧
        (⟨.verify token, .ok (some claims), .performed circumstances⟩ :
          SystemExchange deployment) ∈ job.calls ∧
        AuthUser.ofPayload claims = some user

inductive HttpStage : Prop where
  | unsent (nothing : job.sent = [])
      (notOk : ∀ answer, job.outcome ≠ some (.ok answer))
  | waiting {user message child} (identified : Identified job request user)
      (forwards : Forwards deployment.validator deployment.mapping
        request.route user message)
      (sent : job.sent = [child])
      (carries : traffic.Carries child (.service message))
      (pending : job.outcome = none)
  | answered {user message child other outcome}
      (identified : Identified job request user)
      (forwards : Forwards deployment.validator deployment.mapping
        request.route user message)
      (sent : job.sent = [child])
      (found : traffic.jobs[child]? = some other)
      (carries : other.message = .service message)
      (ends : other.outcome = some outcome)
      (passedOn : job.outcome = some (passOn message outcome))
  | abandoned {user message child failure}
      (identified : Identified job request user)
      (forwards : Forwards deployment.validator deployment.mapping
        request.route user message)
      (sent : job.sent = child.toList)
      (carries : ∀ index, child = some index →
        traffic.Carries index (.service message))
      (failed : job.outcome = some (.error (gaveUp message.service failure)))

end Stages

section Stage

variable {traffic : SystemTraffic deployment} {job : SystemJob deployment}
  {request : HttpRequest}

/-- The calls of a job that has been delivered lead to what is left of it. -/
theorem reached_handler (traced : (system deployment).Traced traffic job)
    {message : SystemMessage deployment.validator}
    (isMessage : job.message = message) {rest : SystemProgram deployment}
    (pending : job.program = some rest) :
    Program.Reaches (handle deployment message) job.calls rest := by
  rw [← isMessage]
  exact traced.reached rest pending

theorem ended_handler (traced : (system deployment).Traced traffic job)
    {message : SystemMessage deployment.validator}
    (isMessage : job.message = message) {outcome : Except Thrown SystemAnswer}
    (settled : job.outcome = some outcome) :
    ∃ rest, Program.Reaches (handle deployment message) job.calls rest ∧
      rest.outcome = some outcome := by
  obtain ⟨rest, pending, ends⟩ := Job.outcome_eq_some.mp settled
  exact ⟨rest, reached_handler traced isMessage pending, ends⟩

private theorem outcome_received (message : ServiceMessage)
    (outcome : Except Thrown SystemAnswer) :
    (@Program.resume (SystemCall deployment.validator) SystemReply Thrown
        SystemAnswer (.send message)
        (fun answer => .done (.http (answerWith message answer)))
        (receive (.send message) outcome)).outcome =
      some (passOn message outcome) := by
  cases outcome with
  | error thrown => rfl
  | ok answer =>
      simp only [receive, passOn]
      cases answerOf message answer <;> rfl

/-- From the point on where the guards have been passed. -/
private theorem asks_stage (traced : (system deployment).Traced traffic job)
    {user : Option AuthUser} (identified : Identified job request user)
    {program rest : SystemProgram deployment}
    (asks : Asks deployment request.route user program)
    {before later : List (SystemExchange deployment)}
    (calls : job.calls = before ++ later)
    (silent : before.filterMap (fun exchange => exchange.means.child) = [])
    (pending : job.program = some rest)
    (reached : Program.Reaches program later rest) :
    HttpStage traffic job request := by
  have outcome : job.outcome = rest.outcome := by
    simp [Job.outcome, pending]
  cases asks with
  | fail thrown =>
      obtain ⟨rfl, rfl⟩ := reached.of_fail
      have idle := traced.awaits_nothing fun call next other => by
        rw [pending] at other
        cases other
      refine .unsent ?_ (by simp [outcome])
      simp [Job.sent, calls, silent, idle]
  | @send message forwards =>
      rcases reached.of_call with
        ⟨rfl, rfl⟩ | ⟨result, means, onward, rfl, resumed⟩
      · cases awaits : job.awaiting with
        | none =>
            refine .unsent ?_ (by simp [outcome])
            simp [Job.sent, calls, silent, awaits]
        | some child =>
            obtain ⟨carried, isRemote, carries⟩ := traced.carries awaits pending
            cases isRemote
            refine .waiting identified forwards ?_ carries (by simp [outcome])
            simp [Job.sent, calls, silent, awaits]
      · have ended : onward = [] ∧
            rest = .resume (fun answer =>
              .done (.http (answerWith message answer))) result := by
          cases result with
          | ok reply => exact resumed.of_done
          | error thrown => exact resumed.of_fail
        obtain ⟨rfl, rfl⟩ := ended
        have idle := traced.awaits_nothing fun call next other => by
          rw [pending] at other
          cases result <;> cases other
        have sent : job.sent = means.child.toList := by
          cases isChild : means.child with
          | none => simp [Job.sent, calls, silent, idle, isChild]
          | some child => simp [Job.sent, calls, silent, idle, isChild]
        have meant := traced.meant ⟨.send message, result, means⟩
          (by simp [calls])
        cases means with
        | performed circumstances => cases meant
        | answered child =>
            obtain ⟨carried, other, answer, isRemote, found, carries, ends,
              received⟩ := meant
            cases isRemote
            change result = receive (.send message) answer at received
            subst received
            refine .answered identified forwards sent found carries ends ?_
            rw [outcome, outcome_received]
        | abandoned child failure =>
            obtain ⟨carried, isRemote, failed, carries⟩ := meant
            cases isRemote
            change result = .error (gaveUp message.service failure) at failed
            subst failed
            exact .abandoned identified forwards sent carries outcome

theorem http_stage (traced : (system deployment).Traced traffic job)
    (isRequest : job.message = .http request) :
    HttpStage traffic job request := by
  cases pending : job.program with
  | none =>
      obtain ⟨noCalls, noChild⟩ := traced.travels pending
      refine .unsent (by simp [Job.sent, noCalls, noChild]) ?_
      simp [Job.outcome, pending]
  | some rest =>
      have reached := reached_handler traced isRequest pending
      have guarded : Guarded deployment request
          (handle deployment (.http request)) := guarded_handle request
      have anonymous : Identified job request none := trivial
      generalize handle deployment (.http request) = program at reached guarded
      cases guarded with
      | free asks =>
          exact asks_stage traced anonymous asks (List.nil_append _).symm
            rfl pending reached
      | @verified token next isToken rejected accepted =>
          rcases reached.of_call with
            ⟨noCalls, rfl⟩ | ⟨result, means, later, calls, reached⟩
          · have idle := traced.awaits_nothing fun call next other => by
              rw [pending] at other
              cases other
              rfl
            refine .unsent (by simp [Job.sent, noCalls, idle]) ?_
            simp [Job.outcome, pending]
          · obtain ⟨circumstances, rfl⟩ : ∃ circumstances,
                means = .performed circumstances :=
              (traced.meant ⟨.verify token, result, means⟩
                (by simp [calls])).performed rfl
            have silent : [(⟨.verify token, result, .performed circumstances⟩ :
                SystemExchange deployment)].filterMap
                  (fun exchange => exchange.means.child) = [] := rfl
            have failed : ∀ thrown, Program.Reaches
                (.fail thrown : SystemProgram deployment) later rest →
                HttpStage traffic job request := fun thrown reached =>
              asks_stage traced anonymous (.fail thrown) (by simpa using calls)
                silent pending reached
            cases result with
            | error thrown => exact failed thrown reached
            | ok verified =>
                rw [Program.resume_ok] at reached
                cases verified with
                | none =>
                    obtain ⟨thrown, fails⟩ := rejected
                    rw [fails] at reached
                    exact failed thrown reached
                | some claims =>
                    rcases accepted claims with
                      ⟨thrown, fails⟩ | ⟨user, isUser, asks⟩
                    · rw [fails] at reached
                      exact failed thrown reached
                    · have identified : Identified job request (some user) :=
                        ⟨token, claims, circumstances, isToken, by simp [calls],
                          isUser⟩
                      exact asks_stage traced identified asks
                        (by simpa using calls) silent pending reached

/-- A message that a request has sent is the one of its route. -/
theorem forwards_of_sent (traced : (system deployment).Traced traffic job)
    (isRequest : job.message = .http request) {index : Nat}
    (sent : index ∈ job.sent) {message : ServiceMessage}
    (carries : traffic.Carries index (.service message)) :
    ∃ user, Identified job request user ∧
      Forwards deployment.validator deployment.mapping request.route user
        message := by
  obtain ⟨child, found, isMessage⟩ := carries
  have same : ∀ {other : ServiceMessage},
      traffic.Carries index (.service other) → other = message := by
    rintro other ⟨carrier, carrierFound, isOther⟩
    rw [found] at carrierFound
    cases carrierFound
    rw [isMessage] at isOther
    cases isOther
    rfl
  cases http_stage traced isRequest with
  | unsent nothing notOk =>
      rw [nothing] at sent
      cases sent
  | waiting identified forwards only carries pending =>
      rw [only] at sent
      obtain rfl := List.mem_singleton.mp sent
      obtain rfl := same carries
      exact ⟨_, identified, forwards⟩
  | answered identified forwards only otherFound carries ends passedOn =>
      rw [only] at sent
      obtain rfl := List.mem_singleton.mp sent
      obtain rfl := same ⟨_, otherFound, carries⟩
      exact ⟨_, identified, forwards⟩
  | abandoned identified forwards only carries failed =>
      rw [only] at sent
      obtain rfl := same (carries index (Option.mem_toList.mp sent))
      exact ⟨_, identified, forwards⟩

/-- A request that succeeds has passed on what a service has answered. -/
theorem answered_of_ok (traced : (system deployment).Traced traffic job)
    (isRequest : job.message = .http request) {answer : SystemAnswer}
    (succeeds : job.outcome = some (.ok answer)) :
    ∃ user message other reply, Identified job request user ∧
      Forwards deployment.validator deployment.mapping request.route user
          message ∧
        other ∈ traffic.jobs ∧ other.message = .service message ∧
        other.outcome = some (.ok reply) ∧
        passOn message (.ok reply) = .ok answer := by
  cases http_stage traced isRequest with
  | unsent nothing notOk => exact absurd succeeds (notOk answer)
  | waiting identified forwards sent carries pending =>
      rw [pending] at succeeds
      cases succeeds
  | abandoned identified forwards sent carries failed =>
      rw [failed] at succeeds
      cases succeeds
  | @answered user message child other outcome identified forwards sent found
      carries ends passedOn =>
      rw [passedOn] at succeeds
      cases outcome with
      | error thrown => cases succeeds
      | ok reply =>
          exact ⟨user, message, other, reply, identified, forwards,
            List.mem_of_getElem? found, carries, ends,
            Option.some.inj succeeds⟩

end Stage

end Cinema.System
