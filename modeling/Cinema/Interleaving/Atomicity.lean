import Cinema.Interleaving.Pool
import Cinema.Interleaving.Remote

/-!
# Remote calls at one moment

Where every remote call goes to a handler that reads once, services that call
each other do nothing that one service could not do whose calls take one step:
the call takes place when the other service reads.  Whether its answer is used
is only known later, so the two are compared for every guess about which calls
will be answered.
-/

namespace Cinema.Interleaving

variable {Msg Store Env Failure Call : Type} {Reply : Call → Type}
  {Err α : Type} {Req Base Place Op : Type} {Result : Op → Type} {β : Type}

/-- A handler that has no remote call and one local call at most. -/
def Program.Leaf (isLocal : Call → Prop) : Program Call Reply Err α → Prop
  | .done _ => True
  | .fail _ => True
  | .call request next => isLocal request ∧
      ∀ reply, (next reply).outcome.isSome = true

/-- How some of the messages of a network are the requests of one service. -/
structure Reading (Msg Store Call : Type) (Reply : Call → Type) (α : Type)
    (Req Base Op : Type) (Result : Op → Type) (β : Type) where
  /-- What the service keeps. -/
  base : Store → Base
  request : Msg → Option Req
  calls : Call → Op → Prop
  replies : (call : Call) → (op : Op) → Reply call → Result op → Prop
  answers : α → β → Prop

namespace Reading

section Relations

variable (reading : Reading Msg Store Call Reply α Req Base Op Result β)

def Results (call : Call) (op : Op) :
    Except Err (Reply call) → Except Err (Result op) → Prop
  | .ok reply, .ok result => reading.replies call op reply result
  | .error error, .error other => error = other
  | _, _ => False

def Outcomes : Except Err α → Except Err β → Prop
  | .ok answer, .ok other => reading.answers answer other
  | .error error, .error other => error = other
  | _, _ => False

/-- Programs that make the same calls, with related results. -/
inductive Programs {γ δ : Type} (related : γ → δ → Prop) :
    Program Call Reply Err γ → Program Op Result Err δ → Prop where
  | done {answer : γ} {other : δ} (answers : related answer other) :
      Programs related (.done answer) (.done other)
  | fail (error : Err) : Programs related (.fail error) (.fail error)
  | call {call : Call} {op : Op} {next : Reply call → Program Call Reply Err γ}
      {onward : Result op → Program Op Result Err δ}
      (calls : reading.calls call op)
      (rest : ∀ reply result, reading.replies call op reply result →
        Programs related (next reply) (onward result)) :
      Programs related (.call call next) (.call op onward)

/-- The service does in one step what the network does for a call. -/
structure Sound (network : Network Msg Store Env Failure Call Reply Err α)
    (service : Service Req Base Place Op Result Err β) : Prop where
  handlers : ∀ message request, reading.request message = some request →
    reading.Programs reading.answers (network.handler message)
      (service.handler request)
  /-- Other messages leave alone what the service keeps. -/
  quiet : ∀ message, reading.request message = none →
    (network.handler message).Uses fun call => network.remote call = none →
      ∀ env store, reading.base (network.exec env call store).2 =
        reading.base store
  performs : ∀ {call op} env store, reading.calls call op →
    network.remote call = none → ∃ place,
      (service.exec place op (reading.base store)).2 =
          reading.base (network.exec env call store).2 ∧
        reading.Results call op (network.exec env call store).1
          (service.exec place op (reading.base store)).1
  abandons : ∀ {call op message} failure base, reading.calls call op →
    network.remote call = some message → ∃ place,
      service.exec place op base = (.error (network.abandon call failure), base)
  /-- A remote call is answered by a request that reads once at most. -/
  leaves : ∀ {call op message}, reading.calls call op →
    network.remote call = some message →
      (reading.request message).isSome = true ∧
        (network.handler message).Leaf (fun call => network.remote call = none)
  refused : ∀ {call op message outcome} base, reading.calls call op →
    network.remote call = some message →
    (network.handler message).outcome = some outcome → ∃ place,
      (service.exec place op base).2 = base ∧
        reading.Results call op (network.receive call outcome)
          (service.exec place op base).1
  reads : ∀ {call op message read next outcome} env store,
    reading.calls call op → network.remote call = some message →
    network.handler message = .call read next →
    (Program.resume next (network.exec env read store).1).outcome =
      some outcome → ∃ place,
      (service.exec place op (reading.base store)).2 = reading.base store ∧
        reading.Results call op (network.receive call outcome)
          (service.exec place op (reading.base store)).1

end Relations

section Programs

variable {reading : Reading Msg Store Call Reply α Req Base Op Result β}
  {γ δ : Type} {related : γ → δ → Prop}

theorem Programs.resume {call : Call} {op : Op}
    {next : Reply call → Program Call Reply Err γ}
    {onward : Result op → Program Op Result Err δ}
    (rest : ∀ reply result, reading.replies call op reply result →
      reading.Programs related (next reply) (onward result))
    {result : Except Err (Reply call)} {other : Except Err (Result op)}
    (results : reading.Results call op result other) :
    reading.Programs related (.resume next result) (.resume onward other) := by
  cases result with
  | ok reply =>
      cases other with
      | ok value => exact rest reply value results
      | error failure => cases results
  | error error =>
      cases other with
      | ok value => cases results
      | error failure =>
          obtain rfl : error = failure := results
          exact .fail error

theorem Programs.outcome {program : Program Call Reply Err α}
    {other : Program Op Result Err β}
    (programs : reading.Programs reading.answers program other)
    {outcome : Except Err α} (ends : program.outcome = some outcome) :
    ∃ answer, other.outcome = some answer ∧
      reading.Outcomes outcome answer := by
  cases programs with
  | done answers =>
      cases ends
      exact ⟨_, rfl, answers⟩
  | fail error =>
      cases ends
      exact ⟨_, rfl, rfl⟩
  | call calls rest => cases ends

theorem Programs.of_call {call : Call}
    {next : Reply call → Program Call Reply Err γ}
    {other : Program Op Result Err δ}
    (programs : reading.Programs related (.call call next) other) :
    ∃ op onward, other = .call op onward ∧ reading.calls call op ∧
      ∀ reply result, reading.replies call op reply result →
        reading.Programs related (next reply) (onward result) := by
  cases programs with
  | call calls rest => exact ⟨_, _, rfl, calls, rest⟩

theorem Programs.bind {ε ζ : Type} {later : ε → ζ → Prop}
    {program : Program Call Reply Err γ} {other : Program Op Result Err δ}
    {next : γ → Program Call Reply Err ε} {onward : δ → Program Op Result Err ζ}
    (first : reading.Programs related program other)
    (rest : ∀ value result, related value result →
      reading.Programs later (next value) (onward result)) :
    reading.Programs later (program >>= next) (other >>= onward) := by
  induction first with
  | done answers => exact rest _ _ answers
  | fail error => exact .fail error
  | call calls _ induction =>
      exact .call calls fun reply result replies =>
        induction reply result replies

theorem Programs.map {ε ζ : Type} {later : ε → ζ → Prop}
    {program : Program Call Reply Err γ} {other : Program Op Result Err δ}
    {f : γ → ε} {g : δ → ζ} (first : reading.Programs related program other)
    (rest : ∀ value result, related value result →
      later (f value) (g result)) :
    reading.Programs later (f <$> program) (g <$> other) :=
  first.bind fun value result values => .done (rest value result values)

theorem Programs.map_eq {ε : Type} {program : Program Call Reply Err γ}
    {other : Program Op Result Err γ} (f : γ → ε)
    (same : reading.Programs Eq program other) :
    reading.Programs Eq (f <$> program) (f <$> other) :=
  same.map fun _ _ values => congrArg f values

theorem Programs.ofExcept {ζ ε ι : Type} {later : ε → ζ → Prop}
    {result : Except Err ι} {next : ι → Program Call Reply Err ε}
    {onward : ι → Program Op Result Err ζ}
    (rest : ∀ value, reading.Programs later (next value) (onward value)) :
    reading.Programs later (.ofExcept result >>= next)
      (.ofExcept result >>= onward) := by
  cases result with
  | ok value => exact rest value
  | error error => exact .fail error

end Programs

end Reading

/-! ## Callers and what they call -/

namespace Network

variable {network : Network Msg Store Env Failure Call Reply Err α}
  {admits : Traffic Msg Store Env Failure Call Reply Err α → Msg → Prop}
  {traffic later : Traffic Msg Store Env Failure Call Reply Err α}

/-- A message is waited for by one job at most. -/
def OneCaller (traffic : Traffic Msg Store Env Failure Call Reply Err α) :
    Prop :=
  ∀ (first second child : Nat)
    (job other : Job Msg Env Failure Call Reply Err α),
    traffic.jobs[first]? = some job → traffic.jobs[second]? = some other →
      job.awaiting = some child → other.awaiting = some child →
        first = second

/-- What a job waits for has been sent. -/
theorem Traced.awaits_inside {job : Job Msg Env Failure Call Reply Err α}
    (traced : network.Traced traffic job) {child : Nat}
    (waits : job.awaiting = some child) : child < traffic.jobs.length := by
  obtain ⟨call, next, message, _, _, other, found, _⟩ :=
    traced.waits child waits
  exact (List.getElem?_eq_some_iff.mp found).1

theorem Steps.oneCaller (unique : OneCaller traffic)
    (traced : ∀ job ∈ traffic.jobs, network.Traced traffic job)
    (step : network.Steps admits traffic later) : OneCaller later := by
  -- Who waits after the step waited before, or has just sent the last message.
  obtain ⟨sender, waited⟩ : ∃ sender : Nat, ∀ (index child : Nat)
      (job : Job Msg Env Failure Call Reply Err α),
      later.jobs[index]? = some job → job.awaiting = some child →
        (∃ old : Job Msg Env Failure Call Reply Err α,
          traffic.jobs[index]? = some old ∧ old.awaiting = some child) ∨
        child = traffic.jobs.length ∧ index = sender := by
    cases step with
    | arrive message admitted =>
        refine ⟨0, fun index child job found waits => ?_⟩
        by_cases inside : index < traffic.jobs.length
        · rw [List.getElem?_append_left inside] at found
          exact .inl ⟨job, found, waits⟩
        · rw [List.getElem?_append_right (Nat.le_of_not_lt inside)] at found
          obtain rfl := List.mem_singleton.mp (List.mem_of_getElem? found)
          cases waits
    | @advance acting after store spawned position actingFound taken =>
        refine ⟨position, fun index child job found waits => ?_⟩
        rcases getElem?_advance taken found with
          old | ⟨rfl, rfl⟩ | ⟨message, rfl⟩
        · exact .inl ⟨job, old, waits⟩
        · cases taken with
          | send =>
              cases waits
              exact .inr ⟨rfl, rfl⟩
          | deliver | perform => exact .inl ⟨acting, actingFound, waits⟩
          | answer | abandon => cases waits
        · cases waits
  have inside : ∀ {index child : Nat}
      {old : Job Msg Env Failure Call Reply Err α},
      traffic.jobs[index]? = some old → old.awaiting = some child →
        child < traffic.jobs.length := by
    intro index child old found waits
    exact (traced old (List.mem_of_getElem? found)).awaits_inside waits
  intro first second child job other firstFound secondFound waits otherWaits
  rcases waited first child job firstFound waits with
    ⟨old, oldFound, oldWaits⟩ | ⟨last, isSender⟩
  · rcases waited second child other secondFound otherWaits with
      ⟨older, olderFound, olderWaits⟩ | ⟨last, _⟩
    · exact unique first second child old older oldFound olderFound oldWaits
        olderWaits
    · exact absurd (inside oldFound oldWaits) (by omega)
  · rcases waited second child other secondFound otherWaits with
      ⟨older, olderFound, olderWaits⟩ | ⟨_, isSenderToo⟩
    · exact absurd (inside olderFound olderWaits) (by omega)
    · rw [isSender, isSenderToo]

theorem oneCaller_start (store : Store) :
    OneCaller (.start store : Traffic Msg Store Env Failure Call Reply Err α) :=
  fun first second child job other found => by cases found

theorem Runs.oneCaller {store : Store}
    (runs : network.Runs admits (.start store) traffic) : OneCaller traffic := by
  induction runs with
  | refl => exact oneCaller_start store
  | tail runs step induction =>
      exact step.oneCaller induction (Runs.traced traced_start runs)

/-- A handler that reads once at most has not begun, is about to read, or has
ended. -/
theorem Traced.leaf {job : Job Msg Env Failure Call Reply Err α}
    (traced : network.Traced traffic job)
    (leaf : (network.handler job.message).Leaf
      fun call => network.remote call = none)
    {program : Program Call Reply Err α} (pending : job.program = some program)
    (unsettled : program.outcome = none) :
    program = network.handler job.message ∧
      ∃ read next, program = .call read next ∧ network.remote read = none := by
  have reached := traced.reached program pending
  generalize network.handler job.message = handler at leaf reached ⊢
  cases handler with
  | done answer =>
      obtain ⟨_, rfl⟩ := reached.of_done
      cases unsettled
  | fail error =>
      obtain ⟨_, rfl⟩ := reached.of_fail
      cases unsettled
  | call read next =>
      rcases reached.of_call with ⟨_, rfl⟩ | ⟨result, means, rest, _, onward⟩
      · exact ⟨rfl, read, next, rfl, leaf.1⟩
      · exfalso
        cases result with
        | error error =>
            obtain ⟨_, rfl⟩ := onward.of_fail
            cases unsettled
        | ok reply =>
            have ended := leaf.2 reply
            rw [Program.resume_ok] at onward
            generalize next reply = onwards at ended onward
            cases onwards with
            | done answer =>
                obtain ⟨_, rfl⟩ := onward.of_done
                cases unsettled
            | fail error =>
                obtain ⟨_, rfl⟩ := onward.of_fail
                cases unsettled
            | call call next => cases ended

end Network

/-! ## Threads for jobs -/

namespace Reading

/-- Every job that is `served` has a thread of its own, and there are no other
threads. -/
structure Placed (served : Nat → Prop) (place : Nat → Nat)
    (fits : Nat → Thread Req Base Op Result Err β → Prop)
    (pool : Pool Req Base Op Result Err β) : Prop where
  found : ∀ index, served index → ∃ thread,
    pool.threads[place index]? = some thread ∧ fits index thread
  injective : ∀ first second, served first → served second →
    place first = place second → first = second
  onto : ∀ position, position < pool.threads.length →
    ∃ index, served index ∧ place index = position

section Placed

variable {served : Nat → Prop} {place : Nat → Nat}
  {fits better : Nat → Thread Req Base Op Result Err β → Prop}
  {service : Service Req Base Place Op Result Err β}
  {pool : Pool Req Base Op Result Err β}

theorem placed_start {base : Base} (nothing : ∀ index, ¬ served index) :
    Placed served place fits (.start base : Pool Req Base Op Result Err β) where
  found index isServed := absurd isServed (nothing index)
  injective first _ isServed := absurd isServed (nothing first)
  onto position inside := absurd inside (Nat.not_lt_zero position)

theorem Placed.mono (placed : Placed served place fits pool)
    (improves : ∀ index thread, served index → fits index thread →
      better index thread) : Placed served place better pool where
  found index isServed := by
    obtain ⟨thread, found, fitting⟩ := placed.found index isServed
    exact ⟨thread, found, improves index thread isServed fitting⟩
  injective := placed.injective
  onto := placed.onto

theorem Placed.perform (placed : Placed served place fits pool) {index : Nat}
    (isServed : served index) {thread : Thread Req Base Op Result Err β}
    (found : pool.threads[place index]? = some thread) (env : Place) (op : Op)
    (onward : Result op → Program Op Result Err β)
    (acts : better index { thread with
      program := .resume onward (service.exec env op pool.store).1 })
    (others : ∀ other idle, served other → other ≠ index → fits other idle →
      better other idle) :
    Placed served place better
      (pool.perform service (place index) thread env op onward) where
  found other otherServed := by
    have inside : place index < pool.threads.length :=
      (List.getElem?_eq_some_iff.mp found).1
    by_cases same : other = index
    · subst same
      exact ⟨_, List.getElem?_set_self inside, acts⟩
    · obtain ⟨idle, idleFound, fitting⟩ := placed.found other otherServed
      have apart : place index ≠ place other := fun together =>
        same (placed.injective index other isServed otherServed together).symm
      exact ⟨idle, (List.getElem?_set_ne apart).trans idleFound,
        others other idle otherServed same fitting⟩
  injective := placed.injective
  onto position inside := placed.onto position (by
    simpa [Pool.perform] using inside)

theorem Placed.arrive (placed : Placed served place fits pool) {last : Nat}
    (isNew : ¬ served last) (request : Req)
    (arrives : fits last ⟨request, pool.store, service.handler request⟩) :
    Placed (fun index => served index ∨ index = last)
      (Function.update place last pool.threads.length) fits
      (pool.arrive service request) := by
  have updated : ∀ {index}, served index →
      Function.update place last pool.threads.length index = place index := by
    intro index isServed
    apply Function.update_of_ne
    rintro rfl
    exact isNew isServed
  have inside : ∀ {index}, served index → place index < pool.threads.length := by
    intro index isServed
    obtain ⟨thread, found, _⟩ := placed.found index isServed
    exact (List.getElem?_eq_some_iff.mp found).1
  refine ⟨?_, ?_, ?_⟩
  · rintro index (isServed | rfl)
    · obtain ⟨thread, found, fitting⟩ := placed.found index isServed
      rw [updated isServed]
      exact ⟨thread, (List.getElem?_append_left (inside isServed)).trans found,
        fitting⟩
    · rw [Function.update_self]
      exact ⟨_, List.getElem?_concat_length, arrives⟩
  · rintro first second (firstServed | rfl) (secondServed | rfl) together
    · rw [updated firstServed, updated secondServed] at together
      exact placed.injective first second firstServed secondServed together
    · rw [updated firstServed, Function.update_self] at together
      exact absurd (inside firstServed) (by omega)
    · rw [updated secondServed, Function.update_self] at together
      exact absurd (inside secondServed) (by omega)
    · rfl
  · intro position bound
    by_cases old : position < pool.threads.length
    · obtain ⟨index, isServed, same⟩ := placed.onto position old
      exact ⟨index, .inl isServed, (updated isServed).trans same⟩
    · refine ⟨last, .inr rfl, ?_⟩
      rw [Function.update_self]
      simp only [Pool.arrive, List.length_append, List.length_singleton] at bound
      omega

end Placed

/-! ## Threads and jobs at the same point -/

/-- What a job waits for has ended. -/
def Ready (traffic : Traffic Msg Store Env Failure Call Reply Err α)
    (job : Job Msg Env Failure Call Reply Err α) : Prop :=
  ∃ child other, job.awaiting = some child ∧
    traffic.jobs[child]? = some other ∧ other.outcome.isSome = true

theorem not_ready {traffic : Traffic Msg Store Env Failure Call Reply Err α}
    {job : Job Msg Env Failure Call Reply Err α}
    (idle : job.awaiting = none) : ¬ Ready traffic job := by
  rintro ⟨child, other, waits, _⟩
  rw [idle] at waits
  cases waits

section Fits

variable (reading : Reading Msg Store Call Reply α Req Base Op Result β)
  (network : Network Msg Store Env Failure Call Reply Err α)
  (service : Service Req Base Place Op Result Err β)

/-- A thread is where its job is, or has made the call whose answer the job
waits for.  The latter holds of the jobs that are `ahead`, from the moment on
where the answer is there. -/
inductive Matches (ahead : Prop)
    (traffic : Traffic Msg Store Env Failure Call Reply Err α)
    (job : Job Msg Env Failure Call Reply Err α)
    (thread : Thread Req Base Op Result Err β) : Prop where
  | travelling (idle : job.program = none)
      (starts : thread.program = service.handler thread.request)
  | beside {program} (pending : job.program = some program)
      (programs : reading.Programs reading.answers program thread.program)
      (unready : ahead → ¬ Ready traffic job)
  | ahead {call child other outcome} {next : Reply call → _} (isAhead : ahead)
      (pending : job.program = some (.call call next))
      (waits : job.awaiting = some child)
      (found : traffic.jobs[child]? = some other)
      (ends : other.outcome = some outcome)
      (programs : reading.Programs reading.answers
        (.resume next (network.receive call outcome)) thread.program)

/-- The job at a place is a request to the service. -/
def Served (traffic : Traffic Msg Store Env Failure Call Reply Err α)
    (index : Nat) : Prop :=
  ∃ job, traffic.jobs[index]? = some job ∧
    (reading.request job.message).isSome = true

def Fits (ahead : Nat → Prop)
    (traffic : Traffic Msg Store Env Failure Call Reply Err α) (index : Nat)
    (thread : Thread Req Base Op Result Err β) : Prop :=
  ∃ job, traffic.jobs[index]? = some job ∧
    reading.request job.message = some thread.request ∧
    reading.Matches network service (ahead index) traffic job thread

/-- The service has been through the same as the network. -/
structure Represents (ahead : Nat → Prop) (place : Nat → Nat)
    (traffic : Traffic Msg Store Env Failure Call Reply Err α)
    (pool : Pool Req Base Op Result Err β) : Prop where
  store : pool.store = reading.base traffic.store
  placed : Placed (reading.Served traffic) place
    (reading.Fits network service ahead traffic) pool

end Fits

section Steps

variable {reading : Reading Msg Store Call Reply α Req Base Op Result β}
  {network : Network Msg Store Env Failure Call Reply Err α}
  {service : Service Req Base Place Op Result Err β}
  {traffic : Traffic Msg Store Env Failure Call Reply Err α}
  {job after : Job Msg Env Failure Call Reply Err α} {store : Store}
  {spawned : List (Job Msg Env Failure Call Reply Err α)}

/-- When a message that is called has been answered, the service can do the
call. -/
private theorem Sound.settles (sound : reading.Sound network service)
    (traced : network.Traced traffic job)
    (step : network.JobStep traffic job after store spawned)
    {call : Call} {op : Op} (calls : reading.calls call op)
    (isRemote : network.remote call = some job.message)
    {outcome : Except Err α} (ends : after.outcome = some outcome) :
    ∃ env, (service.exec env op (reading.base traffic.store)).2 =
        reading.base traffic.store ∧
      reading.Results call op (network.receive call outcome)
        (service.exec env op (reading.base traffic.store)).1 := by
  obtain ⟨_, leaf⟩ := sound.leaves calls isRemote
  -- Such a message does not send any itself.
  have reads : ∀ {request next},
      job.program = some (.call request next) →
        network.handler job.message = .call request next ∧
          network.remote request = none := by
    intro request next pending
    obtain ⟨same, read, continuation, isRead, isLocal⟩ :=
      traced.leaf leaf pending rfl
    cases isRead
    exact ⟨same.symm, isLocal⟩
  cases step with
  | deliver travels => exact sound.refused _ calls isRemote (by
      simpa [Job.outcome] using ends)
  | perform env read next pending isLocal =>
      exact sound.reads env traffic.store calls isRemote (reads pending).1 (by
        simpa [Job.outcome] using ends)
  | send request next message pending requestRemote unsent =>
      rw [(reads pending).2] at requestRemote
      cases requestRemote
  | answer request next child other answer pending waits childFound answered =>
      obtain ⟨message, requestRemote, _⟩ := traced.carries waits pending
      rw [(reads pending).2] at requestRemote
      cases requestRemote
  | abandon request next message failure pending requestRemote =>
      rw [(reads pending).2] at requestRemote
      cases requestRemote

variable {before ahead : Nat → Prop} {place : Nat → Nat}
  {pool : Pool Req Base Op Result Err β} {position : Nat}

/-- What is between two steps: one job has acted, and its messages have not
been sent yet. -/
abbrev acted (traffic : Traffic Msg Store Env Failure Call Reply Err α)
    (store : Store) (position : Nat)
    (after : Job Msg Env Failure Call Reply Err α) :
    Traffic Msg Store Env Failure Call Reply Err α :=
  ⟨store, traffic.jobs.set position after⟩

private theorem getElem?_acted {index : Nat} (apart : index ≠ position) :
    (acted traffic store position after).jobs[index]? = traffic.jobs[index]? :=
  List.getElem?_set_ne (Ne.symm apart)

/-- A thread still matches its job when another one has acted, unless the job
waited for that one. -/
private theorem Matches.onward {isAhead : Prop}
    {other : Job Msg Env Failure Call Reply Err α}
    {thread : Thread Req Base Op Result Err β}
    (found : traffic.jobs[position]? = some job)
    (step : network.JobStep traffic job after store spawned)
    (matched : reading.Matches network service isAhead traffic other thread)
    (elsewhere : isAhead → other.awaiting = some position →
      after.outcome = none) :
    reading.Matches network service isAhead (acted traffic store position after)
      other thread := by
  cases matched with
  | travelling idle starts => exact .travelling idle starts
  | beside pending programs unready =>
      refine .beside pending programs fun isAhead ready => ?_
      obtain ⟨child, called, waits, calledFound, ends⟩ := ready
      by_cases same : child = position
      · subst same
        have inside := (List.getElem?_eq_some_iff.mp found).1
        rw [List.getElem?_set_self inside] at calledFound
        cases calledFound
        rw [elsewhere isAhead waits] at ends
        cases ends
      · rw [getElem?_acted same] at calledFound
        exact unready isAhead ⟨child, called, waits, calledFound, ends⟩
  | @ahead call child called outcome next isAhead pending waits calledFound ends
      programs =>
      have apart : child ≠ position := by
        rintro rfl
        rw [found] at calledFound
        cases calledFound
        rw [step.unsettled] at ends
        cases ends
      exact .ahead isAhead pending waits
        ((getElem?_acted apart).trans calledFound) ends programs

/-- A job acts, and the one that waits for it catches up. -/
private theorem Placed.catchUp (sound : reading.Sound network service)
    (traced : ∀ job ∈ traffic.jobs, network.Traced traffic job)
    (unique : Network.OneCaller traffic)
    (found : traffic.jobs[position]? = some job)
    (step : network.JobStep traffic job after store spawned)
    (guesses : ∀ index, index ≠ position → (before index ↔ ahead index))
    (represents : reading.Represents network service before place traffic
      pool) :
    ∃ next, service.Runs .any pool next ∧
      next.store = reading.base traffic.store ∧
      Placed (reading.Served traffic) place (fun index thread =>
        if index = position then
          reading.Fits network service before traffic index thread
        else reading.Fits network service ahead
          (acted traffic store position after) index thread) next := by
  have kept : ∀ index thread, index ≠ position →
      reading.Fits network service before traffic index thread →
      (∀ other, traffic.jobs[index]? = some other → ahead index →
        other.awaiting = some position → after.outcome = none) →
      reading.Fits network service ahead (acted traffic store position after)
        index thread := by
    intro index thread apart fits elsewhere
    obtain ⟨other, otherFound, isRequest, matched⟩ := fits
    rw [propext (guesses index apart)] at matched
    exact ⟨other, (getElem?_acted apart).trans otherFound, isRequest,
      matched.onward found step (elsewhere other otherFound)⟩
  by_cases called : ∃ caller other, caller ≠ position ∧
      traffic.jobs[caller]? = some other ∧ reading.Served traffic caller ∧
      ahead caller ∧ other.awaiting = some position ∧
      after.outcome.isSome = true
  · obtain ⟨caller, other, apart, otherFound, isServed, isAhead, waits, ends⟩ :=
      called
    obtain ⟨outcome, ends⟩ := Option.isSome_iff_exists.mp ends
    obtain ⟨thread, threadFound, other', otherFound', isRequest, matched⟩ :=
      represents.placed.found caller isServed
    rw [otherFound] at otherFound'
    cases otherFound'
    have otherTraced := traced other (List.mem_of_getElem? otherFound)
    obtain ⟨call, next, message, pending, isRemote, carrier, carrierFound,
      carries⟩ := otherTraced.waits position waits
    rw [found] at carrierFound
    cases carrierFound
    subst carries
    cases matched with
    | travelling idle starts =>
        rw [pending] at idle
        cases idle
    | ahead _ otherPending otherWaits childFound childEnds _ =>
        rw [waits] at otherWaits
        cases otherWaits
        rw [found] at childFound
        cases childFound
        rw [step.unsettled] at childEnds
        cases childEnds
    | beside otherPending programs unready =>
        rw [pending] at otherPending
        cases otherPending
        obtain ⟨op, onward, isCall, calls, rest⟩ := programs.of_call
        obtain ⟨env, same, results⟩ := sound.settles
          (traced job (List.mem_of_getElem? found)) step calls isRemote ends
        have storeSame : (service.exec env op pool.store).2 =
            reading.base traffic.store := by
          rw [represents.store, same]
        refine ⟨pool.perform service (place caller) thread env op onward,
          (Service.Runs.refl pool).step
            (.perform _ thread env op onward threadFound isCall trivial),
          storeSame, ?_⟩
        refine represents.placed.perform isServed threadFound env op onward
          ?_ ?_
        · rw [if_neg apart]
          refine ⟨other, (getElem?_acted apart).trans otherFound, isRequest,
            .ahead isAhead pending waits (List.getElem?_set_self
              (List.getElem?_eq_some_iff.mp found).1) ends ?_⟩
          rw [represents.store]
          exact Programs.resume rest results
        · intro index idle indexServed notCaller fits
          split
          · exact fits
          · rename_i elsewhere
            apply kept index idle elsewhere fits
            intro waiter waiterFound _ waiterWaits
            exact absurd (unique index caller position waiter other waiterFound
              otherFound waiterWaits waits) notCaller
  · refine ⟨pool, .refl pool, represents.store, represents.placed.mono ?_⟩
    intro index thread isServed fits
    split
    · exact fits
    · rename_i apart
      apply kept index thread apart fits
      intro other otherFound isAhead waits
      cases ends : after.outcome with
      | none => rfl
      | some outcome =>
          exact absurd ⟨index, other, apart, otherFound, isServed, isAhead,
            waits, by simp [ends]⟩ called

/-- All threads match, that of the acting job as before its step. -/
private abbrev Mixed (reading : Reading Msg Store Call Reply α Req Base Op
      Result β) (network : Network Msg Store Env Failure Call Reply Err α)
    (service : Service Req Base Place Op Result Err β)
    (before ahead : Nat → Prop)
    (traffic : Traffic Msg Store Env Failure Call Reply Err α) (store : Store)
    (position : Nat) (after : Job Msg Env Failure Call Reply Err α)
    (index : Nat) (thread : Thread Req Base Op Result Err β) : Prop :=
  if index = position then
    reading.Fits network service before traffic index thread
  else reading.Fits network service ahead (acted traffic store position after)
    index thread

/-- The acting job is no request, or its thread has nothing to do. -/
private theorem Placed.stays
    (placed : Placed (reading.Served traffic) place
      (reading.Mixed network service before ahead traffic store position after)
      pool)
    (own : ∀ thread, reading.Fits network service before traffic position
      thread → reading.Fits network service ahead
        (acted traffic store position after) position thread) :
    Placed (reading.Served traffic) place
      (reading.Fits network service ahead (acted traffic store position after))
      pool := by
  refine placed.mono fun index thread _ fits => ?_
  by_cases same : index = position
  · subst same
    rw [Mixed, if_pos rfl] at fits
    exact own thread fits
  · rw [Mixed, if_neg same] at fits
    exact fits

/-- The thread of the acting job makes its call. -/
private theorem Placed.moves
    (placed : Placed (reading.Served traffic) place
      (reading.Mixed network service before ahead traffic store position after)
      pool) (isServed : reading.Served traffic position)
    (own : ∀ thread, reading.Fits network service before traffic position
      thread → ∃ env op onward, thread.program = .call op onward ∧
        (service.exec env op pool.store).2 = reading.base store ∧
        reading.Fits network service ahead
          (acted traffic store position after) position { thread with
            program := .resume onward (service.exec env op pool.store).1 }) :
    ∃ next, service.Runs .any pool next ∧ next.store = reading.base store ∧
      Placed (reading.Served traffic) place
        (reading.Fits network service ahead
          (acted traffic store position after)) next := by
  obtain ⟨thread, threadFound, fits⟩ := placed.found position isServed
  rw [Mixed, if_pos rfl] at fits
  obtain ⟨env, op, onward, isCall, stored, acts⟩ := own thread fits
  refine ⟨pool.perform service (place position) thread env op onward,
    (Service.Runs.refl pool).step
      (.perform _ thread env op onward threadFound isCall trivial),
    stored, ?_⟩
  apply placed.perform isServed threadFound env op onward acts
  intro index idle _ apart fits
  rw [Mixed, if_neg apart] at fits
  exact fits

/-- Messages that are no requests leave alone what the service keeps. -/
private theorem Sound.quietly (sound : reading.Sound network service)
    (traced : network.Traced traffic job)
    (step : network.JobStep traffic job after store spawned)
    (other : reading.request job.message = none) :
    reading.base store = reading.base traffic.store := by
  cases step with
  | perform env call next pending isLocal =>
      exact ((traced.reached _ pending).uses
        (sound.quiet _ other)).1.1 isLocal env traffic.store
  | deliver | send | answer | abandon => rfl

private theorem served_acted
    (found : traffic.jobs[position]? = some job)
    (step : network.JobStep traffic job after store spawned) :
    reading.Served traffic =
      reading.Served (acted traffic store position after) := by
  have inside := (List.getElem?_eq_some_iff.mp found).1
  funext index
  by_cases same : index = position
  · subst same
    simp only [Served, found, List.getElem?_set_self inside,
      Option.some.injEq, exists_eq_left', step.continues.message]
  · simp only [Served, List.getElem?_set_ne (Ne.symm same)]

/-- For every guess after a step there is one before it, from which the thread
of the acting job can follow. -/
private theorem exists_guess (sound : reading.Sound network service)
    (traced : network.Traced traffic job)
    (found : traffic.jobs[position]? = some job)
    (step : network.JobStep traffic job after store spawned)
    (ahead : Nat → Prop) :
    ∃ before : Nat → Prop,
      (∀ index, index ≠ position → (before index ↔ ahead index)) ∧
      ∀ {place : Nat → Nat} {pool : Pool Req Base Op Result Err β},
        pool.store = reading.base traffic.store →
        Placed (reading.Served traffic) place
          (reading.Mixed network service before ahead traffic store position
            after) pool →
        ∃ next, service.Runs .any pool next ∧
          next.store = reading.base store ∧
          Placed (reading.Served traffic) place
            (reading.Fits network service ahead
              (acted traffic store position after)) next := by
  have inside : position < traffic.jobs.length :=
    (List.getElem?_eq_some_iff.mp found).1
  have present : (acted traffic store position after).jobs[position]? =
      some after := List.getElem?_set_self inside
  have own : ∀ {before : Nat → Prop} {thread},
      reading.Fits network service before traffic position thread →
        reading.request job.message = some thread.request ∧
        reading.Matches network service (before position) traffic job
          thread := by
    rintro before thread ⟨other, otherFound, isRequest, matched⟩
    rw [found] at otherFound
    cases otherFound
    exact ⟨isRequest, matched⟩
  cases isRequest : reading.request job.message with
  | none =>
      refine ⟨ahead, fun _ _ => Iff.rfl, fun {place pool} same placed => ?_⟩
      refine ⟨pool, .refl pool, ?_, placed.stays fun thread fits => ?_⟩
      · rw [same, sound.quietly traced step isRequest]
      · rw [isRequest] at own
        cases (own fits).1
  | some request =>
      have isServed : reading.Served traffic position :=
        ⟨job, found, by simp [isRequest]⟩
      cases step with
      | deliver travels =>
          refine ⟨ahead, fun _ _ => Iff.rfl, fun {place pool} same placed => ?_⟩
          refine ⟨pool, .refl pool, same, placed.stays fun thread fits => ?_⟩
          obtain ⟨isThread, matched⟩ := own fits
          cases matched with
          | travelling idle starts =>
              refine ⟨_, present, isThread, .beside rfl ?_ fun _ =>
                not_ready (traced.travels travels).2⟩
              rw [starts]
              exact sound.handlers _ _ isThread
          | beside pending =>
              rw [travels] at pending
              cases pending
          | ahead _ pending =>
              rw [travels] at pending
              cases pending
      | perform env call next pending isLocal =>
          have idle : job.awaiting = none := traced.awaits_nothing
            fun other continuation same => by
              rw [pending] at same
              cases same
              exact isLocal
          refine ⟨ahead, fun _ _ => Iff.rfl, fun {place pool} same placed => ?_⟩
          refine placed.moves isServed fun thread fits => ?_
          obtain ⟨isThread, matched⟩ := own fits
          cases matched with
          | travelling travels =>
              rw [pending] at travels
              cases travels
          | ahead _ _ waits =>
              rw [idle] at waits
              cases waits
          | beside otherPending programs unready =>
              rw [pending] at otherPending
              cases otherPending
              obtain ⟨op, onward, isCall, calls, rest⟩ := programs.of_call
              obtain ⟨moment, stored, results⟩ :=
                sound.performs env traffic.store calls isLocal
              rw [same]
              exact ⟨moment, op, onward, isCall, stored, _, present, isThread,
                .beside rfl (.resume rest results) fun _ => not_ready idle⟩
      | send call next message pending isRemote unsent =>
          refine ⟨ahead, fun _ _ => Iff.rfl, fun {place pool} same placed => ?_⟩
          refine ⟨pool, .refl pool, same, placed.stays fun thread fits => ?_⟩
          obtain ⟨isThread, matched⟩ := own fits
          cases matched with
          | travelling travels =>
              rw [pending] at travels
              cases travels
          | ahead _ _ waits =>
              rw [unsent] at waits
              cases waits
          | beside otherPending programs unready =>
              refine ⟨_, present, isThread, .beside otherPending programs ?_⟩
              rintro _ ⟨child, other, waits, childFound, _⟩
              cases waits
              simp at childFound
      | answer call next child other outcome pending waits childFound ends =>
          -- The call that is answered has taken place before.
          refine ⟨fun index => index = position ∨ ahead index,
            fun index apart => or_iff_right apart,
            fun {place pool} same placed => ?_⟩
          refine ⟨pool, .refl pool, same, placed.stays fun thread fits => ?_⟩
          obtain ⟨isThread, matched⟩ := own fits
          cases matched with
          | travelling travels =>
              rw [pending] at travels
              cases travels
          | beside _ _ unready =>
              exact absurd ⟨child, other, waits, childFound, by simp [ends]⟩
                (unready (.inl rfl))
          | ahead _ otherPending otherWaits otherFound otherEnds programs =>
              rw [pending] at otherPending
              cases otherPending
              rw [waits] at otherWaits
              cases otherWaits
              rw [childFound] at otherFound
              cases otherFound
              rw [ends] at otherEnds
              cases otherEnds
              exact ⟨_, present, isThread,
                .beside rfl programs fun _ => not_ready rfl⟩
      | abandon call next message failure pending isRemote =>
          -- The call that is given up takes place, and fails, now.
          refine ⟨fun index => index ≠ position ∧ ahead index,
            fun index apart => and_iff_right apart,
            fun {place pool} same placed => ?_⟩
          refine placed.moves isServed fun thread fits => ?_
          obtain ⟨isThread, matched⟩ := own fits
          cases matched with
          | travelling travels =>
              rw [pending] at travels
              cases travels
          | ahead isAhead => exact absurd rfl isAhead.1
          | beside otherPending programs unready =>
              rw [pending] at otherPending
              cases otherPending
              obtain ⟨op, onward, isCall, calls, rest⟩ := programs.of_call
              obtain ⟨moment, fails⟩ :=
                sound.abandons failure pool.store calls isRemote
              refine ⟨moment, op, onward, isCall, by rw [fails, same], _,
                present, isThread, .beside rfl ?_ fun _ => not_ready rfl⟩
              rw [fails]
              exact .fail _

private theorem Placed.sends
    {jobs : List (Job Msg Env Failure Call Reply Err α)}
    (placed : Placed (reading.Served ⟨store, jobs⟩) place
      (reading.Fits network service ahead ⟨store, jobs⟩) pool)
    (same : pool.store = reading.base store) (message : Msg) :
    ∃ next place', service.Runs .any pool next ∧
      reading.Represents network service ahead place'
        ⟨store, jobs ++ [.travelling message]⟩ next := by
  let sent : Traffic Msg Store Env Failure Call Reply Err α :=
    ⟨store, jobs ++ [.travelling message]⟩
  have last : sent.jobs[jobs.length]? = some (.travelling message) :=
    List.getElem?_concat_length
  have old : ∀ {index : Nat} {job : Job Msg Env Failure Call Reply Err α},
      jobs[index]? = some job → sent.jobs[index]? = some job := by
    intro index job found
    rw [← found]
    exact List.getElem?_append_left (List.getElem?_eq_some_iff.mp found).1
  have cases_of : ∀ {index : Nat} {job : Job Msg Env Failure Call Reply Err α},
      sent.jobs[index]? = some job → jobs[index]? = some job ∨
        index = jobs.length ∧ job = .travelling message := by
    intro index job found
    by_cases inside : index < jobs.length
    · exact .inl ((List.getElem?_append_left inside).symm.trans found)
    · have bound := (List.getElem?_eq_some_iff.mp found).1
      simp only [sent, List.length_append, List.length_singleton] at bound
      obtain rfl : index = jobs.length := by omega
      rw [last] at found
      cases found
      exact .inr ⟨rfl, rfl⟩
  have kept : ∀ index thread,
      reading.Fits network service ahead ⟨store, jobs⟩ index thread →
        reading.Fits network service ahead sent index thread := by
    rintro index thread ⟨job, found, isRequest, matched⟩
    refine ⟨job, old found, isRequest, ?_⟩
    cases matched with
    | travelling idle starts => exact .travelling idle starts
    | beside pending programs unready =>
        refine .beside pending programs fun isAhead ready => ?_
        obtain ⟨child, other, waits, otherFound, ends⟩ := ready
        rcases cases_of otherFound with childFound | ⟨_, rfl⟩
        · exact unready isAhead ⟨child, other, waits, childFound, ends⟩
        · cases ends
    | ahead isAhead pending waits childFound ends programs =>
        exact .ahead isAhead pending waits (old childFound) ends programs
  cases isRequest : reading.request message with
  | none =>
      have unserved : reading.Served sent = reading.Served ⟨store, jobs⟩ := by
        funext index
        apply propext
        constructor
        · rintro ⟨job, found, isSome⟩
          rcases cases_of found with before | ⟨_, rfl⟩
          · exact ⟨job, before, isSome⟩
          · simp [Job.travelling, isRequest] at isSome
        · rintro ⟨job, found, isSome⟩
          exact ⟨job, old found, isSome⟩
      refine ⟨pool, place, .refl pool, same, ?_⟩
      rw [unserved]
      exact placed.mono fun index thread _ => kept index thread
  | some request =>
      have serves : reading.Served sent = fun index =>
          reading.Served ⟨store, jobs⟩ index ∨ index = jobs.length := by
        funext index
        apply propext
        constructor
        · rintro ⟨job, found, isSome⟩
          rcases cases_of found with before | ⟨isLast, rfl⟩
          · exact .inl ⟨job, before, isSome⟩
          · exact .inr isLast
        · rintro (⟨job, found, isSome⟩ | rfl)
          · exact ⟨job, old found, isSome⟩
          · exact ⟨_, last, by simp [Job.travelling, isRequest]⟩
      have isNew : ¬ reading.Served ⟨store, jobs⟩ jobs.length := by
        rintro ⟨job, found, _⟩
        simp at found
      refine ⟨pool.arrive service request,
        Function.update place jobs.length pool.threads.length,
        (Service.Runs.refl pool).step (.arrive request trivial), same, ?_⟩
      rw [serves]
      refine (placed.mono fun index thread _ => kept index thread).arrive isNew
        request ?_
      exact ⟨_, last, isRequest, .travelling rfl rfl⟩

/-- One step, backwards in the guesses and forwards in the requests. -/
private theorem represents_step
    {admits : Traffic Msg Store Env Failure Call Reply Err α → Msg → Prop}
    {initial : Store} {later : Traffic Msg Store Env Failure Call Reply Err α}
    (sound : reading.Sound network service)
    (runs : network.Runs admits (.start initial) traffic)
    (step : network.Steps admits traffic later) (ahead : Nat → Prop) :
    ∃ before : Nat → Prop, ∀ {place : Nat → Nat}
      {pool : Pool Req Base Op Result Err β},
      reading.Represents network service before place traffic pool →
        ∃ next place', service.Runs .any pool next ∧
          reading.Represents network service ahead place' later next := by
  cases step with
  | arrive message admitted =>
      exact ⟨ahead, fun represents =>
        represents.placed.sends represents.store message⟩
  | @advance job after store spawned position found step =>
      have traced := Network.Runs.traced Network.traced_start runs
      have unique := Network.Runs.oneCaller runs
      obtain ⟨before, guesses, follows⟩ := exists_guess sound
        (traced job (List.mem_of_getElem? found)) found step ahead
      refine ⟨before, fun {place pool} represents => ?_⟩
      obtain ⟨middle, toMiddle, middleStore, mixed⟩ :=
        Placed.catchUp sound traced unique found step guesses represents
      obtain ⟨next, toNext, nextStore, placed⟩ := follows middleStore mixed
      rw [served_acted found step] at placed
      have arrived := toMiddle.trans toNext
      cases step with
      | send call continuation message pending isRemote unsent =>
          obtain ⟨last, place', toLast, represents⟩ :=
            placed.sends nextStore message
          exact ⟨last, place', arrived.trans toLast, represents⟩
      | deliver | perform | answer | abandon =>
          refine ⟨next, place, arrived, nextStore, ?_⟩
          rw [List.append_nil]
          exact placed

/-- What a run of the network does, a run of the service does too, for every
guess about which of the pending calls will be answered. -/
theorem Represents.onward
    {admits : Traffic Msg Store Env Failure Call Reply Err α → Msg → Prop}
    {initial : Store} {later : Traffic Msg Store Env Failure Call Reply Err α}
    (sound : reading.Sound network service)
    (reached : network.Runs admits (.start initial) traffic)
    (runs : network.Runs admits traffic later) (ahead : Nat → Prop) :
    ∃ before : Nat → Prop, ∀ {place : Nat → Nat}
      {pool : Pool Req Base Op Result Err β},
      reading.Represents network service before place traffic pool →
        ∃ next place', service.Runs .any pool next ∧
          reading.Represents network service ahead place' later next := by
  induction runs generalizing ahead with
  | refl =>
      exact ⟨ahead, fun {place pool} represents =>
        ⟨pool, place, .refl pool, represents⟩⟩
  | @tail middle last runs step induction =>
      obtain ⟨between, takes⟩ := represents_step sound (reached.trans runs) step ahead
      obtain ⟨before, follows⟩ := induction between
      refine ⟨before, fun represents => ?_⟩
      obtain ⟨next, place', toNext, represented⟩ := follows represents
      obtain ⟨final, place'', toFinal, representsLast⟩ := takes represented
      exact ⟨final, place'', toNext.trans toFinal, representsLast⟩

theorem represents_start (initial : Store) (ahead : Nat → Prop) :
    reading.Represents network service ahead id
      (.start initial : Traffic Msg Store Env Failure Call Reply Err α)
      (.start (reading.base initial)) where
  store := rfl
  placed := placed_start fun index served => by
    obtain ⟨job, found, _⟩ := served
    cases found

/-- A job that has ended has the answer of its thread. -/
def Answers (reading : Reading Msg Store Call Reply α Req Base Op Result β)
    (traffic : Traffic Msg Store Env Failure Call Reply Err α) (index : Nat)
    (thread : Thread Req Base Op Result Err β) : Prop :=
  ∃ job, traffic.jobs[index]? = some job ∧
    reading.request job.message = some thread.request ∧
    ∀ outcome, job.outcome = some outcome → ∃ answer,
      thread.program.outcome = some answer ∧ reading.Outcomes outcome answer

theorem Represents.answers
    (represents : reading.Represents network service (fun _ => False) place
      traffic pool) :
    Placed (reading.Served traffic) place (reading.Answers traffic) pool := by
  refine represents.placed.mono fun index thread _ fits => ?_
  obtain ⟨job, found, isRequest, matched⟩ := fits
  refine ⟨job, found, isRequest, fun outcome ends => ?_⟩
  obtain ⟨program, pending, ends⟩ := Job.outcome_eq_some.mp ends
  cases matched with
  | travelling idle starts =>
      rw [pending] at idle
      cases idle
  | ahead isAhead => exact isAhead.elim
  | beside otherPending programs =>
      rw [pending] at otherPending
      cases otherPending
      exact programs.outcome ends

end Steps

end Reading

end Cinema.Interleaving
