import Cinema.Interleaving.Progress

/-!
# The moment of a call

The history of a job says what its calls have come to.  This module says when:
every performed call has its moment in the run, and while it was performed the
job was not finished, nor was any job that later read its answer.
-/

namespace Cinema.Interleaving

namespace Network

variable {Msg Store Env Failure Call : Type} {Reply : Call → Type}
  {Err α : Type} {network : Network Msg Store Env Failure Call Reply Err α}
  {admits : Traffic Msg Store Env Failure Call Reply Err α → Msg → Prop}
  {traffic later : Traffic Msg Store Env Failure Call Reply Err α}

/-- The job at `index` is there and not finished. -/
def Underway (traffic : Traffic Msg Store Env Failure Call Reply Err α)
    (index : Nat) : Prop :=
  ∃ job : Job Msg Env Failure Call Reply Err α,
    traffic.jobs[index]? = some job ∧ job.outcome = none

variable (network admits) in
/-- On the way from `traffic` to `later` the job at `index`, which had made the
calls `front`, has performed one more in `moment`; right after it the traffic
is `next`. -/
structure PerformedAt
    (traffic later : Traffic Msg Store Env Failure Call Reply Err α)
    (index : Nat) (front : List (Exchange Env Failure Call Reply Err))
    (env : Env) (exchange : Exchange Env Failure Call Reply Err)
    (moment next : Traffic Msg Store Env Failure Call Reply Err α) :
    Prop where
  before : network.Runs admits traffic moment
  step : network.Steps admits moment next
  after : network.Runs admits next later
  underway : Underway moment index
  past : ∃ job : Job Msg Env Failure Call Reply Err α,
    moment.jobs[index]? = some job ∧ job.calls = front
  /-- The step is the call of this job. -/
  own : ∃ job : Job Msg Env Failure Call Reply Err α,
    next.jobs[index]? = some job ∧ job.calls = front ++ [exchange]
  result : exchange.result = (network.exec env exchange.call moment.store).1
  store : next.store = (network.exec env exchange.call moment.store).2

section PerformedAt

variable {index : Nat} {front back : List (Exchange Env Failure Call Reply Err)}
  {env : Env} {exchange : Exchange Env Failure Call Reply Err}
  {moment next : Traffic Msg Store Env Failure Call Reply Err α}

theorem PerformedAt.onward
    (performed : PerformedAt network admits traffic later index front env
      exchange moment next) : network.Runs admits moment later :=
  ((Runs.refl moment).step performed.step).trans performed.after

theorem PerformedAt.extend
    {last : Traffic Msg Store Env Failure Call Reply Err α}
    (performed : PerformedAt network admits traffic later index front env
      exchange moment next)
    (step : network.Steps admits later last) :
    PerformedAt network admits traffic last index front env exchange moment
      next :=
  { performed with after := performed.after.step step }

private theorem append_eq_middle {β : Type} {calls front back : List β}
    {last element : β} (same : calls ++ [last] = front ++ element :: back) :
    (∃ rest, calls = front ++ element :: rest) ∨
      calls = front ∧ last = element := by
  rcases List.eq_nil_or_concat back with rfl | ⟨rest, other, rfl⟩
  · right
    have both := List.append_inj' same rfl
    exact ⟨both.1, List.singleton_inj.mp both.2⟩
  · left
    have split : calls ++ [last] = (front ++ element :: rest) ++ [other] := by
      simpa using same
    exact ⟨rest, (List.append_inj' split rfl).1⟩

/-- A call that a step adds to the history of a job is the one it performs. -/
private theorem Steps.performs (step : network.Steps admits traffic later)
    {job : Job Msg Env Failure Call Reply Err α}
    (found : later.jobs[index]? = some job)
    (calls : job.calls = front ++ exchange :: back)
    (performed : exchange.means = .performed env) :
    (∃ (old : Job Msg Env Failure Call Reply Err α) (rest : List _),
        traffic.jobs[index]? = some old ∧
          old.calls = front ++ exchange :: rest) ∨
      PerformedAt network admits traffic later index front env exchange traffic
        later := by
  have idle : (∃ message, job = .travelling message) → False := by
    rintro ⟨message, rfl⟩
    exact List.append_ne_nil_of_right_ne_nil front (by simp) calls.symm
  have whole := step
  cases step with
  | arrive message admitted =>
      by_cases inside : index < traffic.jobs.length
      · rw [List.getElem?_append_left inside] at found
        exact .inl ⟨job, back, found, calls⟩
      · rw [List.getElem?_append_right (Nat.le_of_not_lt inside)] at found
        exact (idle
          ⟨message, List.mem_singleton.mp (List.mem_of_getElem? found)⟩).elim
  | @advance acting after store spawned position actingFound taken =>
      rcases getElem?_advance taken found with old | ⟨rfl, rfl⟩ | isTravelling
      · exact .inl ⟨job, back, old, calls⟩
      · have unsettled := taken.unsettled
        cases taken with
        | deliver | send => exact .inl ⟨acting, back, actingFound, calls⟩
        | perform other call continuation pending isLocal =>
            rcases append_eq_middle calls with ⟨rest, early⟩ | ⟨early, same⟩
            · exact .inl ⟨acting, rest, actingFound, early⟩
            · cases same
              cases performed
              exact .inr ⟨.refl _, whole, .refl _,
                ⟨acting, actingFound, unsettled⟩, ⟨acting, actingFound, early⟩,
                ⟨_, found, by rw [← early]⟩, rfl, rfl⟩
        | answer | abandon =>
            rcases append_eq_middle calls with ⟨rest, early⟩ | ⟨early, same⟩
            · exact .inl ⟨acting, rest, actingFound, early⟩
            · rw [← same] at performed
              cases performed
      · exact (idle isTravelling).elim

/-- Every call that a run has added to the history of a job was performed at
some moment of the run, after the calls before it. -/
theorem Runs.performedAt (runs : network.Runs admits traffic later)
    {job : Job Msg Env Failure Call Reply Err α}
    (found : later.jobs[index]? = some job)
    (calls : job.calls = front ++ exchange :: back)
    (performed : exchange.means = .performed env)
    (new : ∀ old : Job Msg Env Failure Call Reply Err α,
      traffic.jobs[index]? = some old → old.calls.length ≤ front.length) :
    ∃ moment next, PerformedAt network admits traffic later index front env
      exchange moment next := by
  induction runs generalizing job back with
  | refl =>
      have short := new job found
      rw [calls, List.length_append, List.length_cons] at short
      omega
  | @tail middle last runs step induction =>
      rcases step.performs found calls performed with
        ⟨old, rest, oldFound, oldCalls⟩ | here
      · obtain ⟨moment, next, earlier⟩ := induction oldFound oldCalls
        exact ⟨moment, next, earlier.extend step⟩
      · exact ⟨middle, last, { here with before := runs }⟩

end PerformedAt

section Since

variable {store : Store}
  {earlier : Traffic Msg Store Env Failure Call Reply Err α} {index : Nat}
  {job : Job Msg Env Failure Call Reply Err α}
  {front : List (Exchange Env Failure Call Reply Err)}
  (began : network.Runs admits (.start store) earlier)
  (runs : network.Runs admits earlier later)
  (new : earlier.jobs.length ≤ index)
  (found : later.jobs[index]? = some job)
include runs new found

/-- Every call of a job that was not there yet has its moment. -/
theorem Runs.performedAt_new {env : Env}
    {exchange : Exchange Env Failure Call Reply Err}
    {back : List (Exchange Env Failure Call Reply Err)}
    (calls : job.calls = front ++ exchange :: back)
    (performed : exchange.means = .performed env) :
    ∃ moment next, PerformedAt network admits earlier later index front env
      exchange moment next := by
  apply runs.performedAt found calls performed
  intro old oldFound
  rw [List.getElem?_eq_none new] at oldFound
  cases oldFound

include began in
/-- A new job whose last call is local has ended with what follows from the
result of this call at some moment; `front` holds the calls before. -/
theorem Runs.decided_at {call : Call}
    {next : Reply call → Program Call Reply Err α}
    {rest : Program Call Reply Err α}
    {history : List (Exchange Env Failure Call Reply Err)}
    (calls : job.calls = front ++ history)
    (isLocal : network.remote call = none)
    (reached : Program.Reaches (.call call next) history rest)
    (final : ∀ reply, (next reply).outcome.isSome = true)
    {outcome : Except Err α} (ends : rest.outcome = some outcome) :
    ∃ env result moment after,
      (⟨call, result, .performed env⟩ : Exchange Env Failure Call Reply Err) ∈
          job.calls ∧
        PerformedAt network admits earlier later index front env
          ⟨call, result, .performed env⟩ moment after ∧
        (Program.resume next result).outcome = some outcome := by
  have traced := Runs.traced traced_start (began.trans runs) job
    (List.mem_of_getElem? found)
  have decided : ∃ result env back,
      job.calls = front ++ ⟨call, result, .performed env⟩ :: back ∧
      (Program.resume next result).outcome = some outcome := by
    rcases traced.settled calls isLocal reached ends with
      ⟨error, env, made, rfl⟩ | ⟨reply, env, since, made, onward⟩
    · exact ⟨.error error, env, [], made, rfl⟩
    · refine ⟨.ok reply, env, since, by simpa using made, ?_⟩
      have ended := final reply
      cases isNext : next reply with
      | done value =>
          rw [isNext] at onward
          obtain ⟨rfl, rfl⟩ := onward.of_done
          simpa [isNext] using ends
      | fail error =>
          rw [isNext] at onward
          obtain ⟨rfl, rfl⟩ := onward.of_fail
          simpa [isNext] using ends
      | call other continuation =>
          rw [isNext] at ended
          cases ended
  obtain ⟨result, env, back, made, follows⟩ := decided
  obtain ⟨moment, after, performed⟩ := runs.performedAt_new new found made rfl
  exact ⟨env, result, moment, after, by simp [made], performed, follows⟩

end Since

/-- As long as a message has no answer, the job that is going to read the
answer is not finished either. -/
theorem Underway.sender {store : Store}
    {moment : Traffic Msg Store Env Failure Call Reply Err α}
    (runs : network.Runs admits (.start store) moment)
    (onward : network.Runs admits moment later) {index sender : Nat}
    (underway : Underway moment index)
    {job : Job Msg Env Failure Call Reply Err α}
    (found : later.jobs[sender]? = some job)
    {exchange : Exchange Env Failure Call Reply Err}
    (made : exchange ∈ job.calls) (answered : exchange.means = .answered index) :
    Underway moment sender := by
  obtain ⟨child, childFound, pending⟩ := underway
  have sent : index ∈ job.sent :=
    List.mem_append_left _ (List.mem_filterMap.mpr
      ⟨exchange, made, by rw [answered]; rfl⟩)
  have ordered := Runs.ordered (runs.trans onward) (ordered_start store)
  have early : sender < moment.jobs.length :=
    Nat.lt_trans (ordered sender job index found sent)
      (List.getElem?_eq_some_iff.mp childFound).1
  have waitingFound := List.getElem?_eq_getElem early
  refine ⟨moment.jobs[sender], waitingFound, ?_⟩
  cases ends : moment.jobs[sender].outcome with
  | none => rfl
  | some outcome =>
      -- A finished sender had read the answer before it was given.
      have same := onward.extends.settled waitingFound (by rw [ends]; rfl)
      rw [found] at same
      cases same
      have meant := (Runs.traced traced_start runs _
        (List.mem_of_getElem? waitingFound)).meant exchange made
      unfold Meant at meant
      rw [answered] at meant
      obtain ⟨message, other, given, _, otherFound, _, otherEnds, _⟩ := meant
      rw [childFound] at otherFound
      cases otherFound
      rw [pending] at otherEnds
      cases otherEnds

end Network

end Cinema.Interleaving
