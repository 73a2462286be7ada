import Cinema.System.Authority
import Cinema.System.Sessions

/-!
# A login stands for one account

The token that a login is answered with acts for the account under the address
of the login.  Whoever uses it is shown this account and its orders; and every
answer that has ever shown a profile under this address or id shows the same
profile.
-/

namespace Cinema.System

open Interleaving Relational Shared Auth Catalog Orders Gateway

variable {deployment : Deployment}

/-- The profile that an answer shows. -/
def shownProfile : GatewayAnswer → Option PublicUser
  | .auth (.user user) => some user
  | _ => none

/-- The routes that act for the user of a token. -/
def actsForUser : Route → Bool
  | .register _ | .login _ | .findAllMovies | .findOneMovie _ => false
  | _ => true

/-- What an answer shows of an account: a stored profile, the user's own unless
it has just been made, and the user's own orders. -/
structure Attributed (users : UserTable) (route : Route)
    (user : Option AuthUser) (answer : GatewayAnswer) : Prop where
  profile : ∀ profile, shownProfile answer = some profile →
    ∃ row ∈ users.rows, profile = AuthService.toPublicUser row.hydrate ∧
      (actsForUser route = true →
        ∃ known, user = some known ∧ row.id.val = known.id)
  orders : ∀ order ∈ shownOrders answer,
    ∃ known, user = some known ∧ order.userId = some known.id

/-! ## What answers show -/

section Shown

variable {store before after : SystemStore deployment.validator}
  {route : Route} {user : Option AuthUser} {answer : GatewayAnswer}

private theorem attributed_of_sees (sees : Sees store route user (.ok answer)) :
    Attributed store.users route user answer := by
  cases sees with
  | movies | movie => exact ⟨fun _ shown => (by cases shown), by simp [shownOrders]⟩
  | @profile user row present isId =>
      constructor
      · intro profile shown
        cases shown
        exact ⟨row, present, rfl, fun _ => ⟨user, rfl, isId⟩⟩
      · simp [shownOrders]
  | @orders user rows same sorted =>
      constructor
      · intro profile shown
        cases shown
      · intro order shown
        obtain ⟨row, listed, rfl⟩ := List.mem_map.mp shown
        have owned := (List.mem_filter.mp (same.subset listed)).2
        refine ⟨user, rfl, ?_⟩
        exact congrArg some (of_decide_eq_true owned)
  | @order user value id row parsed present isId owned =>
      constructor
      · intro profile shown
        cases shown
      · intro order shown
        obtain rfl := List.mem_singleton.mp shown
        exact ⟨user, rfl, congrArg some owned⟩

private theorem attributed_of_effect
    (effect : Effect before route user answer after) :
    Attributed after.users route user answer := by
  cases effect with
  | @register body sent dto salt now row absent passed isDto confirmed isFree
      isWritten =>
      constructor
      · intro profile shown
        cases shown
        exact ⟨row, List.mem_append_right _ (List.mem_singleton.mpr rfl), rfl,
          fun acts => (by cases acts)⟩
      · simp [shownOrders]
  | createMovie | removeMovie =>
      exact ⟨fun _ shown => (by cases shown), by simp [shownOrders]⟩
  | @createOrder user body sent order row absent passed owner isMovie quantity
      status shows =>
      constructor
      · intro profile shown
        cases shown
      · intro other shown
        obtain rfl := List.mem_singleton.mp shown
        refine ⟨user, rfl, ?_⟩
        have same := (continued_of_shows shows).userId
        rw [← same, ← owner]
        rfl
  | @cancelOrder user value id updatedAt orders row parsed isThere isId owner
      isCancelled =>
      constructor
      · intro profile shown
        cases shown
      · intro order shown
        obtain rfl := List.mem_singleton.mp shown
        exact ⟨user, rfl, congrArg some owner⟩

end Shown

section Runs

variable {store : SystemStore deployment.validator}
  {traffic : SystemTraffic deployment}

section Answered

variable
  (initial : Accounts deployment.mapping store.users)
  (runs : (system deployment).Runs anyClients (.start store) traffic)
include initial runs

omit runs in
private theorem Attributed.onward {moment : SystemTraffic deployment}
    {route : Route} {user : Option AuthUser} {answer : GatewayAnswer}
    (attributed : Attributed moment.store.users route user answer)
    (before : (system deployment).Runs anyClients (.start store) moment)
    (onward : (system deployment).Runs anyClients moment traffic) :
    Attributed traffic.store.users route user answer where
  profile profile shown := by
    obtain ⟨row, present, same, owned⟩ := attributed.profile profile shown
    exact ⟨row, account_stays initial before onward present, same, owned⟩
  orders := attributed.orders

/-- Every successful answer is attributed to the user of its request. -/
theorem attributed_answers {index : Nat} {job : SystemJob deployment}
    (found : traffic.jobs[index]? = some job) {request : HttpRequest}
    (isRequest : job.message = .http request) {answer : GatewayAnswer}
    (succeeds : job.outcome = some (.ok (.http answer))) :
    ∃ user, Identified job request user ∧
      Attributed traffic.store.users request.route user answer := by
  by_cases reads : isRead request.route = true
  · obtain ⟨user, identified, moment, before, onward, _, sees⟩ :=
      answer_seen (.refl _) runs (Nat.zero_le _) found isRequest reads
        succeeds
    exact ⟨user, identified,
      (attributed_of_sees sees).onward initial before onward⟩
  by_cases writes : isWrite request.route = true
  · obtain ⟨user, _, identified, _, _, _, _, moment, next, performed, _,
      effect⟩ :=
      effect_of_write (.refl _) runs (Nat.zero_le _) found isRequest writes
        succeeds
    exact ⟨user, identified, (attributed_of_effect effect).onward initial
      (performed.before.step performed.step) performed.after⟩
  · have traced := Network.Runs.traced Network.traced_start runs job
      (List.mem_of_getElem? found)
    obtain ⟨user, message, other, reply, identified, forwards, member,
      isMessage, ends, passed⟩ := answered_of_ok traced isRequest succeeds
    have silent : shownProfile answer = none → shownOrders answer = [] →
        Attributed traffic.store.users request.route user answer := by
      intro noProfile noOrders
      constructor
      · intro profile shown
        rw [noProfile] at shown
        cases shown
      · rw [noOrders]
        simp
    refine ⟨user, identified, ?_⟩
    obtain ⟨authorization, route⟩ := request
    cases forwards with
    | login =>
        have otherTraced := Network.Runs.traced Network.traced_start runs other
          member
        obtain ⟨_, _, _, _, accessToken, _, _, _, _, _, _, rfl⟩ :=
          login_answered otherTraced isMessage ends
        cases passed
        exact silent rfl rfl
    | updateMovie =>
        cases reply with
        | catalog given =>
            cases passed
            exact silent rfl rfl
        | _ => cases passed
    | register | createMovie | removeMovie | createOrder | cancelOrder =>
        exact absurd rfl writes
    | me | findAllMovies | findOneMovie | findAllOrders | findOneOrder =>
        exact absurd rfl reads

/-- A request with the token of a login acts for the account of the login. -/
private theorem user_of_login (faithful : Jwt.Faithful deployment.jwt)
    {index : Nat} {job : SystemJob deployment}
    (found : traffic.jobs[index]? = some job) {request : HttpRequest}
    {known : AuthUser} (identified : Identified job request (some known))
    {token secret expiresIn : String} {issuedAt : Nat} {row : UserRow}
    (isToken : extractBearerToken request.authorization = some token)
    (signed : deployment.jwt.sign secret expiresIn issuedAt
      (JwtPayload.ofUser row.hydrateSelected) = some token) :
    known.id = row.id.val := by
  obtain ⟨presented, claims, circumstances, isPresented, made, isUser⟩ :=
    identified
  rw [isToken] at isPresented
  cases isPresented
  have verified : deployment.jwt.verify deployment.JWT_SECRET circumstances.now
      token = some claims :=
    recorded_of_mem initial runs (List.mem_of_getElem? found) made
  exact (user_of_token faithful signed verified isUser).1

/-- A login that has been answered: its address, the account under it, and how
its token was signed. -/
private theorem login_account {index : Nat} {job : SystemJob deployment}
    (found : traffic.jobs[index]? = some job) {authorization : Option String}
    {body : Json} (isLogin : job.message = .http ⟨authorization, .login body⟩)
    {token : AccessToken}
    (succeeds : job.outcome = some (.ok (.http (.auth (.token token))))) :
    ∃ sent row secret expiresIn issuedAt,
      validationPipe deployment.validator
          (LoginDto.properties deployment.mapping) body = .ok sent ∧
        row ∈ traffic.store.users.rows ∧
        row.email.val = (LoginDto.ofInstance sent).email ∧
        deployment.jwt.sign secret expiresIn issuedAt
          (JwtPayload.ofUser row.hydrateSelected) = some token.accessToken := by
  have traced := Network.Runs.traced Network.traced_start runs job
    (List.mem_of_getElem? found)
  obtain ⟨user, message, other, reply, _, forwards, member, isMessage, ends,
    passed⟩ := answered_of_ok traced isLogin succeeds
  cases forwards with | @login _ sent valid =>
  obtain ⟨dto, row, config, issuedAt, accessToken, again, present, isEmail, _,
    _, signed, rfl⟩ := authenticated_account initial runs member isMessage ends
  obtain ⟨same, isValid, isDto⟩ := (decides_login sent).accepted rfl
  rw [isValid] at again
  cases again
  cases passed
  refine ⟨sent, row, config.JWT_SECRET, config.JWT_EXPIRES_IN, issuedAt, valid,
    present, ?_, signed⟩
  rw [isEmail, isDto]

end Answered

/-- What a login stands for: one account under its address.  Whatever has been
answered to a request with its token, the profile shown is the one of the
account, and every order belongs to it; and whoever has been shown a profile
under this address or with this id, right after the registration or later, has
been shown the same one. -/
theorem logins_stand_for_accounts (faithful : Jwt.Faithful deployment.jwt)
    (initial : Accounts deployment.mapping store.users)
    (runs : (system deployment).Runs anyClients (.start store) traffic)
    {login : Nat} {job : SystemJob deployment}
    (found : traffic.jobs[login]? = some job) {authorization : Option String}
    {body : Json} (isLogin : job.message = .http ⟨authorization, .login body⟩)
    {token : AccessToken}
    (succeeds : job.outcome = some (.ok (.http (.auth (.token token))))) :
    ∃ sent row,
      validationPipe deployment.validator
          (LoginDto.properties deployment.mapping) body = .ok sent ∧
        row ∈ traffic.store.users.rows ∧
        row.email.val = (LoginDto.ofInstance sent).email ∧
        ∀ (index : Nat) (other : SystemJob deployment) (request : HttpRequest)
          (answer : GatewayAnswer),
          traffic.jobs[index]? = some other → other.message = .http request →
          other.outcome = some (.ok (.http answer)) →
          (extractBearerToken request.authorization = some token.accessToken →
            actsForUser request.route = true →
              (∀ profile, shownProfile answer = some profile →
                profile = AuthService.toPublicUser row.hydrate) ∧
              ∀ order ∈ shownOrders answer, order.userId = some row.id.val) ∧
          ∀ profile, shownProfile answer = some profile →
            profile.id = some row.id.val ∨
              profile.email = some row.email.val →
              profile = AuthService.toPublicUser row.hydrate := by
  obtain ⟨sent, row, secret, expiresIn, issuedAt, valid, present, isEmail,
    signed⟩ := login_account initial runs found isLogin succeeds
  refine ⟨sent, row, valid, present, isEmail, ?_⟩
  intro index other request answer otherFound isRequest answered
  obtain ⟨user, identified, attributed⟩ :=
    attributed_answers initial runs otherFound isRequest answered
  have named : ∀ known, user = some known →
      extractBearerToken request.authorization = some token.accessToken →
        known.id = row.id.val := by
    intro known same isToken
    subst same
    exact user_of_login initial runs faithful otherFound identified isToken
      signed
  constructor
  · intro isToken acts
    constructor
    · intro profile shown
      obtain ⟨account, isThere, rfl, owned⟩ := attributed.profile profile shown
      obtain ⟨owner, isUser, isId⟩ := owned acts
      have same : account = row := by
        apply Table.eq_of_key isThere present
        exact isId.trans (named owner isUser isToken)
      rw [same]
    · intro order shown
      obtain ⟨owner, isUser, isOwner⟩ := attributed.orders order shown
      rw [isOwner, named owner isUser isToken]
  · intro profile shown same
    obtain ⟨account, isThere, rfl, _⟩ := attributed.profile profile shown
    have isRow : account = row := by
      rcases same with sameId | sameEmail
      · exact Table.eq_of_key isThere present (Option.some.inj sameId)
      · exact (initial.of_runs runs).eq_of_email isThere present
          (Option.some.inj sameEmail)
    rw [isRow]

end Runs

/-- The profile that a job has been answered with. -/
private def profileGiven (job : SystemJob deployment) : Option PublicUser :=
  (answerGiven job).bind fun given => shownProfile given.2

private theorem of_profileGiven {job : SystemJob deployment}
    {profile : PublicUser} (given : profileGiven job = some profile) :
    ∃ request answer, job.message = .http request ∧
      job.outcome = some (.ok (.http answer)) ∧
      shownProfile answer = some profile := by
  obtain ⟨⟨request, answer⟩, isAnswer, shown⟩ := Option.bind_eq_some_iff.mp given
  obtain ⟨isRequest, succeeds⟩ := answerGiven_eq_some isAnswer
  exact ⟨request, answer, isRequest, succeeds, shown⟩

private def loggedIn (job : SystemJob deployment) : Option AccessToken :=
  match job.message, job.outcome with
  | .http ⟨_, .login _⟩, some (.ok (.http (.auth (.token token)))) => some token
  | _, _ => none

private theorem of_loggedIn {job : SystemJob deployment} {token : AccessToken}
    (given : loggedIn job = some token) :
    ∃ authorization body, job.message = .http ⟨authorization, .login body⟩ ∧
      job.outcome = some (.ok (.http (.auth (.token token)))) := by
  unfold loggedIn at given
  split at given
  · rename_i authorization body other isLogin succeeds
    cases given
    exact ⟨authorization, body, isLogin, succeeds⟩
  · cases given

private def bears (token : String) (job : SystemJob deployment) : Bool :=
  match job.message with
  | .http request =>
      extractBearerToken request.authorization = some token &&
        actsForUser request.route
  | _ => false

private theorem of_bears {token : String} {job : SystemJob deployment}
    (isBearer : bears token job = true) {request : HttpRequest}
    (isRequest : job.message = .http request) :
    extractBearerToken request.authorization = some token ∧
      actsForUser request.route = true := by
  simp only [bears, isRequest, Bool.and_eq_true, decide_eq_true_eq] at isBearer
  exact isBearer

/-- A user registers, logs in and asks for the profile. -/
theorem logins_stand_for_accounts_example :
    ∃ (traffic : SystemTraffic
        (sampleDeployment (.sample 1 "ripley@example.com" .USER)))
      (registration request : SystemJob _) (profile : PublicUser) (row : UserRow),
      traffic.jobs[0]? = some registration ∧ traffic.jobs[4]? = some request ∧
        profileGiven registration = some profile ∧
        profileGiven request = some profile ∧
        profile = AuthService.toPublicUser row.hydrate := by
  let deployment := sampleDeployment (.sample 1 "ripley@example.com" .USER)
  let moment : Circumstances := ⟨calm 1, 0, 0⟩
  have checked : (System.play
      (.start ⟨∅, sampleDatabases, [sampleEnv none (by simp)]⟩ :
        SystemTraffic deployment)
      [.arrive (.http ⟨none, .register (.obj [("email", .str "Ripley@example.com"),
          ("password", .str "nostromo"),
          ("confirmPassword", .str "nostromo")])⟩),
        .act 0 .deliver, .act 0 .send, .act 1 .deliver,
        .act 1 (.perform moment), .act 1 (.perform moment),
        .act 1 (.perform moment), .act 1 (.perform moment), .act 0 .answer,
        .arrive (.http ⟨none, .login
          (LoginDto.body "ripley@EXAMPLE.com" "nostromo")⟩),
        .act 2 .deliver, .act 2 .send, .act 3 .deliver,
        .act 3 (.perform moment), .act 3 (.perform moment),
        .act 3 (.perform moment), .act 3 (.perform moment), .act 2 .answer,
        .arrive (.http ⟨some "Bearer token", .me⟩), .act 4 .deliver,
        .act 4 (.perform moment), .act 4 .send, .act 5 .deliver,
        .act 5 (.perform moment), .act 5 (.perform moment),
        .act 4 .answer]).any (fun traffic =>
      (traffic.jobs[0]?).any (fun job => (profileGiven job).any fun profile =>
        profile.id = some 1) &&
      (traffic.jobs[2]?).any (fun job => (loggedIn job).any fun token =>
        token.accessToken = "token") &&
      (traffic.jobs[4]?).any fun job => bears "token" job &&
        (profileGiven job).any fun profile => profile.id = some 1) = true := by
    decide +kernel
  obtain ⟨traffic, played, checked⟩ := (Option.any_eq_true _ _).mp checked
  simp only [Bool.and_eq_true] at checked
  obtain ⟨⟨registered, loggingIn⟩, asking⟩ := checked
  obtain ⟨registration, registrationFound, registered⟩ :=
    (Option.any_eq_true _ _).mp registered
  obtain ⟨profile, isProfile, isFirst⟩ := (Option.any_eq_true _ _).mp registered
  obtain ⟨login, loginFound, loggingIn⟩ :=
    (Option.any_eq_true _ _).mp loggingIn
  obtain ⟨token, isGiven, isToken⟩ := (Option.any_eq_true _ _).mp loggingIn
  obtain ⟨request, requestFound, asking⟩ := (Option.any_eq_true _ _).mp asking
  obtain ⟨isBearer, asking⟩ := Bool.and_eq_true_iff.mp asking
  obtain ⟨other, isOther, isSecond⟩ := (Option.any_eq_true _ _).mp asking
  obtain ⟨authorization, body, isLogin, succeeds⟩ := of_loggedIn isGiven
  obtain ⟨sent, row, _, _, _, stands⟩ :=
    logins_stand_for_accounts (Jwt.faithful_sample _ _ _) accounts_empty
      (System.runs_of_play played) loginFound isLogin succeeds
  obtain ⟨first, firstAnswer, isFirstRequest, firstEnds, firstShown⟩ :=
    of_profileGiven isProfile
  obtain ⟨second, secondAnswer, isSecondRequest, secondEnds, secondShown⟩ :=
    of_profileGiven isOther
  obtain ⟨bearsToken, acts⟩ := of_bears isBearer isSecondRequest
  have sameToken : extractBearerToken second.authorization =
      some token.accessToken := by
    rw [bearsToken, of_decide_eq_true isToken]
  have own : other = AuthService.toPublicUser row.hydrate :=
    ((stands 4 request second secondAnswer requestFound isSecondRequest
      secondEnds).1 sameToken acts).1 other secondShown
  have isId : some row.id.val = some 1 := by
    rw [← of_decide_eq_true isSecond, own]
    rfl
  have same : profile = AuthService.toPublicUser row.hydrate := by
    apply (stands 0 registration first firstAnswer registrationFound
      isFirstRequest firstEnds).2 profile firstShown
    left
    rw [isId]
    exact of_decide_eq_true isFirst
  refine ⟨traffic, registration, request, profile, row, registrationFound,
    requestFound, isProfile, ?_, same⟩
  rw [isOther, own, same]

end Cinema.System
