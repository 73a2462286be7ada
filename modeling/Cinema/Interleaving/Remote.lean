import Cinema.Interleaving.Program
import Mathlib.Logic.Relation
import Mathlib.Data.List.Basic

/-!
# Services that call each other

A handler makes local calls, which are performed at once, and remote calls,
which send a message to another service and wait for its answer.  A message
may travel arbitrarily long, the caller may give up at any moment, and an
answer that comes after that is ignored.
-/

namespace Cinema.Interleaving

/-- What the services do: which calls are remote and what message they send,
how the caller reads an answer, and what it is told when it gives up. -/
structure Network (Msg Store Env Failure Call : Type) (Reply : Call → Type)
    (Err α : Type) where
  handler : Msg → Program Call Reply Err α
  exec : Env → (call : Call) → Store → Except Err (Reply call) × Store
  remote : Call → Option Msg
  receive : (call : Call) → Except Err α → Except Err (Reply call)
  abandon : Call → Failure → Err

/-- How a call came to its result: performed on the spot, answered by the
message `child`, or given up after sending `child` or before. -/
inductive Means (Env Failure : Type) where
  | performed (env : Env)
  | answered (child : Nat)
  | abandoned (child : Option Nat) (failure : Failure)

def Means.child {Env Failure : Type} : Means Env Failure → Option Nat
  | .performed _ => none
  | .answered child => some child
  | .abandoned child _ => child

/-- A call that a handler has made. -/
structure Exchange (Env Failure Call : Type) (Reply : Call → Type)
    (Err : Type) where
  call : Call
  result : Except Err (Reply call)
  means : Means Env Failure

/-- A message and what has become of it.  `program` is what its handler has
left to do, `none` while the message travels; `awaiting` is the message whose
answer the handler waits for; `calls` are the calls it has made. -/
structure Job (Msg Env Failure Call : Type) (Reply : Call → Type)
    (Err α : Type) where
  message : Msg
  program : Option (Program Call Reply Err α)
  awaiting : Option Nat
  calls : List (Exchange Env Failure Call Reply Err)

structure Traffic (Msg Store Env Failure Call : Type) (Reply : Call → Type)
    (Err α : Type) where
  store : Store
  jobs : List (Job Msg Env Failure Call Reply Err α)

variable {Msg Store Env Failure Call : Type} {Reply : Call → Type}
  {Err α : Type}

namespace Job

def travelling (message : Msg) : Job Msg Env Failure Call Reply Err α :=
  ⟨message, none, none, []⟩

def outcome (job : Job Msg Env Failure Call Reply Err α) :
    Option (Except Err α) :=
  job.program.bind Program.outcome

/-- All messages the handler has sent. -/
def sent (job : Job Msg Env Failure Call Reply Err α) : List Nat :=
  job.calls.filterMap (fun exchange => exchange.means.child) ++
    job.awaiting.toList

theorem outcome_eq_some {job : Job Msg Env Failure Call Reply Err α}
    {outcome : Except Err α} :
    job.outcome = some outcome ↔
      ∃ program, job.program = some program ∧
        program.outcome = some outcome := by
  simp [Job.outcome, Option.bind_eq_some_iff]

/-- `later` is the same job at a later time. -/
structure Continues (job later : Job Msg Env Failure Call Reply Err α) :
    Prop where
  message : later.message = job.message
  calls : job.calls <+: later.calls
  sent : job.sent <+: later.sent
  settled : job.outcome.isSome = true → later = job

theorem Continues.refl (job : Job Msg Env Failure Call Reply Err α) :
    job.Continues job :=
  ⟨rfl, List.prefix_rfl, List.prefix_rfl, fun _ => rfl⟩

theorem Continues.trans {first second third : Job Msg Env Failure Call Reply Err α}
    (early : first.Continues second) (late : second.Continues third) :
    first.Continues third where
  message := late.message.trans early.message
  calls := early.calls.trans late.calls
  sent := early.sent.trans late.sent
  settled ends := by
    obtain rfl := early.settled ends
    exact late.settled ends

end Job

/-! ## What a program has been through -/

namespace Program

/-- `Reaches program history rest`: what is left of `program` after the calls
of `history`. -/
inductive Reaches (program : Program Call Reply Err α) :
    List (Exchange Env Failure Call Reply Err) →
      Program Call Reply Err α → Prop where
  | start : Reaches program [] program
  | next {history call} {next : Reply call → Program Call Reply Err α}
      (reached : Reaches program history (.call call next))
      (result : Except Err (Reply call)) (means : Means Env Failure) :
      Reaches program (history ++ [⟨call, result, means⟩])
        (.resume next result)

variable {history : List (Exchange Env Failure Call Reply Err)}
  {program rest : Program Call Reply Err α}

theorem Reaches.of_call {call : Call}
    {next : Reply call → Program Call Reply Err α}
    (reached : Reaches (.call call next) history rest) :
    (history = [] ∧ rest = .call call next) ∨
      ∃ result means later, history = ⟨call, result, means⟩ :: later ∧
        Reaches (.resume next result) later rest := by
  induction reached with
  | start => exact .inl ⟨rfl, rfl⟩
  | @next history pending continuation _ result means induction =>
      rcases induction with ⟨rfl, same⟩ | ⟨first, how, later, rfl, onward⟩
      · cases same
        exact .inr ⟨result, means, [], rfl, .start⟩
      · exact .inr ⟨first, how, later ++ [⟨pending, result, means⟩], rfl,
          onward.next result means⟩

theorem Reaches.of_done {value : α}
    (reached : Reaches (.done value) history rest) :
    history = [] ∧ rest = .done value := by
  induction reached with
  | start => exact ⟨rfl, rfl⟩
  | next reached result means induction => cases induction.2

theorem Reaches.of_fail {error : Err}
    (reached : Reaches (.fail error : Program Call Reply Err α) history rest) :
    history = [] ∧ rest = .fail error := by
  induction reached with
  | start => exact ⟨rfl, rfl⟩
  | next reached result means induction => cases induction.2

/-- A program that has ended failed at its first call or went on from it. -/
theorem Reaches.settled {call : Call}
    {next : Reply call → Program Call Reply Err α} {outcome : Except Err α}
    (reached : Reaches (.call call next) history rest)
    (ends : rest.outcome = some outcome) :
    (∃ error means, history = [⟨call, .error error, means⟩] ∧
        outcome = .error error) ∨
      ∃ reply means later, history = ⟨call, .ok reply, means⟩ :: later ∧
        Reaches (next reply) later rest := by
  rcases reached.of_call with ⟨_, rfl⟩ | ⟨result, means, later, rfl, onward⟩
  · cases ends
  · cases result with
    | ok reply => exact .inr ⟨reply, means, later, rfl, onward⟩
    | error error =>
        obtain ⟨rfl, rfl⟩ := onward.of_fail
        cases ends
        exact .inl ⟨error, means, rfl, rfl⟩

/-- A pending call is the first one, or the first one has been answered. -/
theorem Reaches.pending {call other : Call}
    {next : Reply call → Program Call Reply Err α}
    {onward : Reply other → Program Call Reply Err α}
    (reached : Reaches (.call call next) history (.call other onward)) :
    (history = [] ∧ Program.call other onward = .call call next) ∨
      ∃ reply means later, history = ⟨call, .ok reply, means⟩ :: later ∧
        Reaches (next reply) later (.call other onward) := by
  rcases reached.of_call with first | ⟨result, means, later, rfl, resumed⟩
  · exact .inl first
  · cases result with
    | ok reply => exact .inr ⟨reply, means, later, rfl, resumed⟩
    | error error => cases resumed.of_fail.2

/-- A program that ends well has got an answer to its first call. -/
theorem Reaches.answered {call : Call}
    {next : Reply call → Program Call Reply Err α} {value : α}
    (reached : Reaches (.call call next) history rest)
    (succeeds : rest.outcome = some (.ok value)) :
    ∃ reply means later, history = ⟨call, .ok reply, means⟩ :: later ∧
      Reaches (next reply) later rest := by
  rcases reached.settled succeeds with ⟨_, _, _, failed⟩ | went
  · cases failed
  · exact went

/-- A call in the history is the first one, or the first one was answered. -/
theorem Reaches.mem_of_call {call : Call}
    {next : Reply call → Program Call Reply Err α}
    {exchange : Exchange Env Failure Call Reply Err}
    (reached : Reaches (.call call next) history rest)
    (made : exchange ∈ history) :
    exchange.call = call ∨ ∃ reply means later,
      history = ⟨call, .ok reply, means⟩ :: later ∧
        Reaches (next reply) later rest ∧ exchange ∈ later := by
  rcases reached.of_call with ⟨rfl, _⟩ | ⟨result, means, later, rfl, onward⟩
  · cases made
  · rcases List.mem_cons.mp made with rfl | since
    · exact .inl rfl
    · cases result with
      | ok reply => exact .inr ⟨reply, means, later, rfl, onward, since⟩
      | error error =>
          obtain ⟨rfl, _⟩ := onward.of_fail
          cases since

/-- What holds of every call a program can make holds of those it made and of
those to come. -/
theorem Reaches.uses {allowed : Call → Prop}
    (reached : Reaches program history rest) (uses : program.Uses allowed) :
    rest.Uses allowed ∧ ∀ exchange ∈ history, allowed exchange.call := by
  induction reached with
  | start => exact ⟨uses, by simp⟩
  | @next history call continuation reached result means induction =>
      obtain ⟨remaining, made⟩ := induction
      constructor
      · cases result with
        | ok reply => exact remaining.2 reply
        | error error => trivial
      · intro exchange member
        rcases List.mem_append.mp member with old | new
        · exact made exchange old
        · rw [List.mem_singleton.mp new]
          exact remaining.1

end Program

namespace Traffic

def start (store : Store) : Traffic Msg Store Env Failure Call Reply Err α :=
  ⟨store, []⟩

/-- The message `index` is `message`. -/
def Carries (traffic : Traffic Msg Store Env Failure Call Reply Err α)
    (index : Nat) (message : Msg) : Prop :=
  ∃ job : Job Msg Env Failure Call Reply Err α,
    traffic.jobs[index]? = some job ∧ job.message = message

/-- Every message is still there, and what is answered stays as it is. -/
def Extends (before after : Traffic Msg Store Env Failure Call Reply Err α) :
    Prop :=
  ∀ (index : Nat) (job : Job Msg Env Failure Call Reply Err α),
    before.jobs[index]? = some job →
      ∃ later : Job Msg Env Failure Call Reply Err α,
        after.jobs[index]? = some later ∧ job.Continues later

theorem Extends.refl
    (traffic : Traffic Msg Store Env Failure Call Reply Err α) :
    traffic.Extends traffic :=
  fun _ job found => ⟨job, found, .refl job⟩

theorem Extends.trans
    {first second third : Traffic Msg Store Env Failure Call Reply Err α}
    (early : first.Extends second) (late : second.Extends third) :
    first.Extends third := by
  intro index job found
  obtain ⟨middle, middleFound, toMiddle⟩ := early index job found
  obtain ⟨last, lastFound, toLast⟩ := late index middle middleFound
  exact ⟨last, lastFound, toMiddle.trans toLast⟩

theorem Extends.carries
    {before after : Traffic Msg Store Env Failure Call Reply Err α}
    (onward : before.Extends after) {index : Nat} {message : Msg}
    (carries : before.Carries index message) :
    after.Carries index message := by
  obtain ⟨job, found, isMessage⟩ := carries
  obtain ⟨later, laterFound, continues⟩ := onward index job found
  exact ⟨later, laterFound, continues.message.trans isMessage⟩

theorem Extends.settled
    {before after : Traffic Msg Store Env Failure Call Reply Err α}
    (onward : before.Extends after) {index : Nat}
    {job : Job Msg Env Failure Call Reply Err α}
    (found : before.jobs[index]? = some job)
    (settled : job.outcome.isSome = true) :
    after.jobs[index]? = some job := by
  obtain ⟨later, laterFound, continues⟩ := onward index job found
  rw [laterFound, continues.settled settled]

end Traffic

namespace Network

section Steps

variable (network : Network Msg Store Env Failure Call Reply Err α)

/-- One step of one job: the job after it, the store after it, and the
messages it sends. -/
inductive JobStep (traffic : Traffic Msg Store Env Failure Call Reply Err α)
    (job : Job Msg Env Failure Call Reply Err α) :
    Job Msg Env Failure Call Reply Err α → Store →
      List (Job Msg Env Failure Call Reply Err α) → Prop where
  | deliver (travels : job.program = none) :
      JobStep traffic job
        { job with program := some (network.handler job.message) }
        traffic.store []
  | perform (env : Env) (call : Call)
      (next : Reply call → Program Call Reply Err α)
      (pending : job.program = some (.call call next))
      (isLocal : network.remote call = none) :
      JobStep traffic job
        { job with
          program :=
            some (.resume next (network.exec env call traffic.store).1)
          calls := job.calls ++
            [⟨call, (network.exec env call traffic.store).1,
              .performed env⟩] }
        (network.exec env call traffic.store).2 []
  | send (call : Call) (next : Reply call → Program Call Reply Err α)
      (message : Msg) (pending : job.program = some (.call call next))
      (isRemote : network.remote call = some message)
      (unsent : job.awaiting = none) :
      JobStep traffic job { job with awaiting := some traffic.jobs.length }
        traffic.store [.travelling message]
  | answer (call : Call) (next : Reply call → Program Call Reply Err α)
      (child : Nat) (other : Job Msg Env Failure Call Reply Err α)
      (outcome : Except Err α) (pending : job.program = some (.call call next))
      (waits : job.awaiting = some child)
      (childFound : traffic.jobs[child]? = some other)
      (answered : other.outcome = some outcome) :
      JobStep traffic job
        { job with
          program := some (.resume next (network.receive call outcome))
          awaiting := none
          calls := job.calls ++
            [⟨call, network.receive call outcome, .answered child⟩] }
        traffic.store []
  | abandon (call : Call) (next : Reply call → Program Call Reply Err α)
      (message : Msg) (failure : Failure)
      (pending : job.program = some (.call call next))
      (isRemote : network.remote call = some message) :
      JobStep traffic job
        { job with
          program := some (.fail (network.abandon call failure))
          awaiting := none
          calls := job.calls ++
            [⟨call, .error (network.abandon call failure),
              .abandoned job.awaiting failure⟩] }
        traffic.store []

variable (admits : Traffic Msg Store Env Failure Call Reply Err α → Msg → Prop)

/-- One step of the services: a client sends a message it is able to send, or
one job takes a step. -/
inductive Steps :
    Traffic Msg Store Env Failure Call Reply Err α →
      Traffic Msg Store Env Failure Call Reply Err α → Prop where
  | arrive {traffic} (message : Msg) (admitted : admits traffic message) :
      Steps traffic
        { traffic with jobs := traffic.jobs ++ [.travelling message] }
  | advance {traffic job after store spawned} (index : Nat)
      (found : traffic.jobs[index]? = some job)
      (step : network.JobStep traffic job after store spawned) :
      Steps traffic ⟨store, traffic.jobs.set index after ++ spawned⟩

def Runs :
    Traffic Msg Store Env Failure Call Reply Err α →
      Traffic Msg Store Env Failure Call Reply Err α → Prop :=
  Relation.ReflTransGen (network.Steps admits)

end Steps

variable {network : Network Msg Store Env Failure Call Reply Err α}
  {admits : Traffic Msg Store Env Failure Call Reply Err α → Msg → Prop}
  {traffic later : Traffic Msg Store Env Failure Call Reply Err α}

section JobStep

variable {job after : Job Msg Env Failure Call Reply Err α} {store : Store}
  {spawned : List (Job Msg Env Failure Call Reply Err α)}

theorem JobStep.unsettled
    (step : network.JobStep traffic job after store spawned) :
    job.outcome = none := by
  cases step with
  | deliver travels => simp [Job.outcome, travels]
  | perform env call next pending isLocal => simp [Job.outcome, pending]
  | send call next message pending isRemote unsent =>
      simp [Job.outcome, pending]
  | answer call next child other outcome pending waits childFound answered =>
      simp [Job.outcome, pending]
  | abandon call next message failure pending isRemote =>
      simp [Job.outcome, pending]

theorem JobStep.continues
    (step : network.JobStep traffic job after store spawned) :
    job.Continues after := by
  have unsettled : job.outcome.isSome = true → after = job := by
    rw [step.unsettled]
    simp
  cases step with
  | deliver => exact ⟨rfl, List.prefix_rfl, List.prefix_rfl, unsettled⟩
  | perform =>
      refine ⟨rfl, List.prefix_append _ _, ?_, unsettled⟩
      simp [Job.sent, Means.child]
  | send call next message pending isRemote unsent =>
      refine ⟨rfl, List.prefix_rfl, ?_, unsettled⟩
      simp [Job.sent, unsent]
  | answer call next child other outcome pending waits =>
      refine ⟨rfl, List.prefix_append _ _, ?_, unsettled⟩
      simp [Job.sent, Means.child, waits]
  | abandon =>
      refine ⟨rfl, List.prefix_append _ _, ?_, unsettled⟩
      cases awaits : job.awaiting with
      | none => simp [Job.sent, Means.child, awaits]
      | some child => simp [Job.sent, Means.child, awaits]

/-- A job that appears in a step is a message that travels. -/
theorem JobStep.travelling
    (step : network.JobStep traffic job after store spawned)
    {other : Job Msg Env Failure Call Reply Err α} (member : other ∈ spawned) :
    ∃ message, other = .travelling message := by
  cases step with
  | send call next message pending isRemote unsent =>
      exact ⟨message, List.mem_singleton.mp member⟩
  | _ => cases member

end JobStep

theorem Steps.extends (step : network.Steps admits traffic later) :
    traffic.Extends later := by
  intro index job found
  have inside : index < traffic.jobs.length :=
    (List.getElem?_eq_some_iff.mp found).1
  cases step with
  | arrive message admitted =>
      refine ⟨job, ?_, .refl job⟩
      rw [← found]
      exact List.getElem?_append_left inside
  | @advance acting after store spawned position actingFound step =>
      have kept : (traffic.jobs.set position after ++ spawned)[index]? =
          (traffic.jobs.set position after)[index]? :=
        List.getElem?_append_left (by simpa using inside)
      by_cases same : position = index
      · subst same
        rw [found] at actingFound
        cases actingFound
        refine ⟨after, ?_, step.continues⟩
        rw [kept]
        exact List.getElem?_set_self inside
      · refine ⟨job, ?_, .refl job⟩
        rw [kept, List.getElem?_set_ne same]
        exact found

theorem Runs.extends (runs : network.Runs admits traffic later) :
    traffic.Extends later := by
  induction runs with
  | refl => exact .refl _
  | tail _ step induction => exact induction.trans step.extends

theorem Runs.refl (traffic : Traffic Msg Store Env Failure Call Reply Err α) :
    network.Runs admits traffic traffic := Relation.ReflTransGen.refl

theorem Runs.step {last : Traffic Msg Store Env Failure Call Reply Err α}
    (runs : network.Runs admits traffic later)
    (step : network.Steps admits later last) :
    network.Runs admits traffic last := Relation.ReflTransGen.tail runs step

theorem Runs.trans {last : Traffic Msg Store Env Failure Call Reply Err α}
    (first : network.Runs admits traffic later)
    (second : network.Runs admits later last) :
    network.Runs admits traffic last :=
  Relation.ReflTransGen.trans first second

theorem Runs.preserves
    (property : Traffic Msg Store Env Failure Call Reply Err α → Prop)
    (step : ∀ {before after}, property before →
      network.Steps admits before after → property after)
    (runs : network.Runs admits traffic later) (initial : property traffic) :
    property later := by
  induction runs with
  | refl => exact initial
  | tail _ last induction => exact step induction last

/-- A job after a step is an old one, the one that acted, or a message that
has just been sent. -/
theorem mem_advance {index : Nat}
    {job after : Job Msg Env Failure Call Reply Err α} {store : Store}
    {spawned : List (Job Msg Env Failure Call Reply Err α)}
    (step : network.JobStep traffic job after store spawned)
    {other : Job Msg Env Failure Call Reply Err α}
    (member : other ∈ traffic.jobs.set index after ++ spawned) :
    other ∈ traffic.jobs ∨ other = after ∨
      ∃ message, other = .travelling message := by
  rcases List.mem_append.mp member with old | new
  · rcases List.mem_or_eq_of_mem_set old with kept | acted
    · exact .inl kept
    · exact .inr (.inl acted)
  · exact .inr (.inr (step.travelling new))

theorem getElem?_advance {index : Nat}
    {job after : Job Msg Env Failure Call Reply Err α} {store : Store}
    {spawned : List (Job Msg Env Failure Call Reply Err α)}
    (step : network.JobStep traffic job after store spawned) {position : Nat}
    {other : Job Msg Env Failure Call Reply Err α}
    (found : (traffic.jobs.set index after ++ spawned)[position]? =
      some other) :
    traffic.jobs[position]? = some other ∨
      (position = index ∧ other = after) ∨
      ∃ message, other = .travelling message := by
  by_cases inside : position < (traffic.jobs.set index after).length
  · rw [List.getElem?_append_left inside, List.getElem?_set] at found
    split at found
    · rename_i same
      split at found
      · exact .inr (.inl ⟨same.symm, (Option.some.inj found).symm⟩)
      · cases found
    · exact .inl found
  · rw [List.getElem?_append_right (Nat.le_of_not_lt inside)] at found
    exact .inr (.inr (step.travelling (List.mem_of_getElem? found)))

/-! ## The history of a job -/

section Traced

variable (network)

/-- What the result of a call goes back to. -/
def Meant (traffic : Traffic Msg Store Env Failure Call Reply Err α)
    (exchange : Exchange Env Failure Call Reply Err) : Prop :=
  match exchange.means with
  | .performed _ => network.remote exchange.call = none
  | .answered child => ∃ message other outcome,
      network.remote exchange.call = some message ∧
        traffic.jobs[child]? = some other ∧ other.message = message ∧
        other.outcome = some outcome ∧
        exchange.result = network.receive exchange.call outcome
  | .abandoned child failure => ∃ message,
      network.remote exchange.call = some message ∧
        exchange.result = .error (network.abandon exchange.call failure) ∧
        ∀ index, child = some index → traffic.Carries index message

/-- Where a job is in its handler, and what it has sent for its calls. -/
structure Traced (traffic : Traffic Msg Store Env Failure Call Reply Err α)
    (job : Job Msg Env Failure Call Reply Err α) : Prop where
  travels : job.program = none → job.calls = [] ∧ job.awaiting = none
  reached : ∀ rest, job.program = some rest →
    Program.Reaches (network.handler job.message) job.calls rest
  meant : ∀ exchange ∈ job.calls, network.Meant traffic exchange
  waits : ∀ child, job.awaiting = some child → ∃ call next message,
    job.program = some (.call call next) ∧
      network.remote call = some message ∧ traffic.Carries child message

end Traced

theorem Meant.onward {exchange : Exchange Env Failure Call Reply Err}
    (onward : traffic.Extends later)
    (meant : network.Meant traffic exchange) :
    network.Meant later exchange := by
  unfold Meant at meant ⊢
  split
  · rename_i env isMeans
    simpa only [isMeans] using meant
  · rename_i child isMeans
    simp only [isMeans] at meant
    obtain ⟨message, other, outcome, isRemote, found, isMessage, answered,
      received⟩ := meant
    have settled : other.outcome.isSome = true := by simp [answered]
    exact ⟨message, other, outcome, isRemote, onward.settled found settled,
      isMessage, answered, received⟩
  · rename_i child failure isMeans
    simp only [isMeans] at meant
    obtain ⟨message, isRemote, failed, carried⟩ := meant
    exact ⟨message, isRemote, failed, fun index isChild =>
      onward.carries (carried index isChild)⟩

theorem Traced.onward {job : Job Msg Env Failure Call Reply Err α}
    (onward : traffic.Extends later) (traced : network.Traced traffic job) :
    network.Traced later job where
  travels := traced.travels
  reached := traced.reached
  meant exchange member := (traced.meant exchange member).onward onward
  waits child awaits := by
    obtain ⟨call, next, message, pending, isRemote, carried⟩ :=
      traced.waits child awaits
    exact ⟨call, next, message, pending, isRemote, onward.carries carried⟩

theorem traced_travelling (message : Msg) :
    network.Traced traffic (.travelling message) where
  travels _ := ⟨rfl, rfl⟩
  reached rest pending := by cases pending
  meant exchange member := by cases member
  waits child awaits := by cases awaits

/-- The message a handler waits for carries its pending call. -/
theorem Traced.carries {job : Job Msg Env Failure Call Reply Err α}
    (traced : network.Traced traffic job) {child : Nat}
    (awaits : job.awaiting = some child) {call : Call}
    {next : Reply call → Program Call Reply Err α}
    (pending : job.program = some (.call call next)) :
    ∃ message, network.remote call = some message ∧
      traffic.Carries child message := by
  obtain ⟨other, continuation, message, otherPending, isRemote, carried⟩ :=
    traced.waits child awaits
  rw [pending] at otherPending
  cases otherPending
  exact ⟨message, isRemote, carried⟩

/-- Before a local call, and after the end, a handler waits for nothing. -/
theorem Traced.awaits_nothing {job : Job Msg Env Failure Call Reply Err α}
    (traced : network.Traced traffic job)
    (idle : ∀ call next, job.program = some (.call call next) →
      network.remote call = none) :
    job.awaiting = none := by
  cases awaits : job.awaiting with
  | none => rfl
  | some child =>
      obtain ⟨call, next, message, pending, isRemote, _⟩ :=
        traced.waits child awaits
      rw [idle call next pending] at isRemote
      cases isRemote

/-- The result of a local call comes from performing it. -/
theorem Meant.performed {exchange : Exchange Env Failure Call Reply Err}
    (meant : network.Meant traffic exchange)
    (isLocal : network.remote exchange.call = none) :
    ∃ env, exchange.means = .performed env := by
  unfold Meant at meant
  split at meant
  · rename_i env isMeans
    exact ⟨env, isMeans⟩
  · obtain ⟨message, other, outcome, isRemote, _⟩ := meant
    rw [isLocal] at isRemote
    cases isRemote
  · obtain ⟨message, isRemote, _⟩ := meant
    rw [isLocal] at isRemote
    cases isRemote

/-- A job that acts continues its history. -/
private theorem Traced.acts {job after : Job Msg Env Failure Call Reply Err α}
    {store : Store} {spawned : List (Job Msg Env Failure Call Reply Err α)}
    (traced : network.Traced traffic job)
    (step : network.JobStep traffic job after store spawned)
    (onward : traffic.Extends later)
    (appears : later.jobs[traffic.jobs.length]? = spawned.head?) :
    network.Traced later after := by
  have old := traced.onward onward
  have grows : ∀ {exchange}, network.Meant later exchange →
      ∀ other ∈ job.calls ++ [exchange], network.Meant later other := by
    intro exchange meant other member
    rcases List.mem_append.mp member with early | new
    · exact old.meant other early
    · rw [List.mem_singleton.mp new]
      exact meant
  cases step with
  | deliver travels =>
      obtain ⟨noCalls, noChild⟩ := traced.travels travels
      refine ⟨by simp, ?_, old.meant, ?_⟩
      · intro rest pending
        cases pending
        rw [noCalls]
        exact .start
      · intro child awaits
        rw [noChild] at awaits
        cases awaits
  | perform env call next pending isLocal =>
      refine ⟨by simp, ?_, grows isLocal, ?_⟩
      · intro rest same
        cases same
        exact (traced.reached _ pending).next _ _
      · intro child awaits
        obtain ⟨message, isRemote, _⟩ := traced.carries awaits pending
        rw [isLocal] at isRemote
        cases isRemote
  | send call next message pending isRemote unsent =>
      refine ⟨?_, traced.reached, old.meant, ?_⟩
      · intro travels
        rw [pending] at travels
        cases travels
      · intro child awaits
        cases awaits
        exact ⟨call, next, message, pending, isRemote, _, appears, rfl⟩
  | answer call next child other outcome pending waits childFound answered =>
      obtain ⟨message, isRemote, carrier, carrierFound, isMessage⟩ :=
        traced.carries waits pending
      rw [childFound] at carrierFound
      cases carrierFound
      have settled : other.outcome.isSome = true := by simp [answered]
      refine ⟨by simp, ?_, grows ?_, by simp⟩
      · intro rest same
        cases same
        exact (traced.reached _ pending).next _ _
      · exact ⟨message, other, outcome, isRemote,
          onward.settled childFound settled, isMessage, answered, rfl⟩
  | abandon call next message failure pending isRemote =>
      refine ⟨by simp, ?_, grows ?_, by simp⟩
      · intro rest same
        cases same
        exact (traced.reached _ pending).next _ _
      · refine ⟨message, isRemote, rfl, ?_⟩
        intro index awaits
        obtain ⟨carried, isCarried, carries⟩ := traced.carries awaits pending
        rw [isRemote] at isCarried
        cases isCarried
        exact onward.carries carries

/-- Every job of a run is where its calls have brought it. -/
theorem Runs.traced
    (initial : ∀ job ∈ traffic.jobs, network.Traced traffic job)
    (runs : network.Runs admits traffic later) :
    ∀ job ∈ later.jobs, network.Traced later job := by
  refine runs.preserves
    (fun traffic => ∀ job ∈ traffic.jobs, network.Traced traffic job) ?_
    initial
  intro before next traced step
  have onward := step.extends
  cases step with
  | arrive message admitted =>
      intro job member
      rcases List.mem_append.mp member with old | new
      · exact (traced job old).onward onward
      · rw [List.mem_singleton.mp new]
        exact traced_travelling message
  | @advance acting after store spawned position found taken =>
      have acted := (traced acting (List.mem_of_getElem? found)).acts taken
        onward (by
          rw [List.getElem?_append_right (by simp), List.head?_eq_getElem?]
          simp)
      intro job member
      rcases mem_advance taken member with old | rfl | ⟨message, rfl⟩
      · exact (traced job old).onward onward
      · exact acted
      · exact traced_travelling message

theorem traced_start {store : Store} :
    ∀ job ∈ (Traffic.start store :
      Traffic Msg Store Env Failure Call Reply Err α).jobs,
      network.Traced (.start store) job := by
  intro job member
  cases member

/-- A message that a job has sent carries one of its calls, which is pending
or answered or given up. -/
theorem Traced.mem_sent {job : Job Msg Env Failure Call Reply Err α}
    (traced : network.Traced traffic job) {child : Nat}
    (sent : child ∈ job.sent) :
    ∃ call message, network.remote call = some message ∧
      traffic.Carries child message ∧
      ((∃ exchange ∈ job.calls, exchange.call = call ∧
          exchange.means.child = some child) ∨
        ∃ next, job.program = some (.call call next)) := by
  rcases List.mem_append.mp sent with made | awaits
  · obtain ⟨exchange, member, isChild⟩ := List.mem_filterMap.mp made
    have meant := traced.meant exchange member
    unfold Meant at meant
    split at meant
    · rename_i env isMeans
      rw [isMeans] at isChild
      cases isChild
    · rename_i index isMeans
      obtain ⟨message, other, outcome, isRemote, found, isMessage, _⟩ := meant
      rw [isMeans] at isChild
      cases isChild
      exact ⟨exchange.call, message, isRemote, ⟨other, found, isMessage⟩,
        .inl ⟨exchange, member, rfl, by rw [isMeans]; rfl⟩⟩
    · rename_i index failure isMeans
      obtain ⟨message, isRemote, _, carried⟩ := meant
      rw [isMeans] at isChild
      exact ⟨exchange.call, message, isRemote, carried child isChild,
        .inl ⟨exchange, member, rfl, by rw [isMeans]; exact isChild⟩⟩
  · obtain ⟨call, next, message, pending, isRemote, carried⟩ :=
      traced.waits child (Option.mem_toList.mp awaits)
    exact ⟨call, message, isRemote, carried, .inr ⟨next, pending⟩⟩

/-! ## How a job has ended -/

section Ended

variable {job : Job Msg Env Failure Call Reply Err α} {call : Call}
  {next : Reply call → Program Call Reply Err α}
  {rest : Program Call Reply Err α}
  {front history : List (Exchange Env Failure Call Reply Err)}

/-- A job that has ended and was at a local call failed there or went on from
it; `front` holds the calls before. -/
theorem Traced.settled (traced : network.Traced traffic job)
    (calls : job.calls = front ++ history)
    (isLocal : network.remote call = none) {outcome : Except Err α}
    (reached : Program.Reaches (.call call next) history rest)
    (ends : rest.outcome = some outcome) :
    (∃ error env,
        job.calls = front ++ [⟨call, .error error, .performed env⟩] ∧
          outcome = .error error) ∨
      ∃ reply env later,
        job.calls = front ++ [⟨call, .ok reply, .performed env⟩] ++ later ∧
          Program.Reaches (next reply) later rest := by
  rcases reached.settled ends with
    ⟨error, means, rfl, failed⟩ | ⟨reply, means, later, rfl, onward⟩
  · have meant := traced.meant ⟨call, .error error, means⟩ (by simp [calls])
    obtain ⟨env, rfl⟩ := meant.performed isLocal
    exact .inl ⟨error, env, calls, failed⟩
  · have meant := traced.meant ⟨call, .ok reply, means⟩ (by simp [calls])
    obtain ⟨env, rfl⟩ := meant.performed isLocal
    refine .inr ⟨reply, env, later, ?_, onward⟩
    rw [calls, List.append_assoc, List.singleton_append]

/-- A job that has ended well got an answer to the local call it was at. -/
theorem Traced.answered (traced : network.Traced traffic job)
    (calls : job.calls = front ++ history)
    (isLocal : network.remote call = none) {value : α}
    (reached : Program.Reaches (.call call next) history rest)
    (succeeds : rest.outcome = some (.ok value)) :
    ∃ reply env later,
      job.calls = front ++ [⟨call, .ok reply, .performed env⟩] ++ later ∧
        Program.Reaches (next reply) later rest := by
  rcases traced.settled calls isLocal reached succeeds with
    ⟨_, _, _, failed⟩ | went
  · cases failed
  · exact went

end Ended

/-! ## What is recorded about the store -/

/-- An invariant of the store, how it develops, and what the result of a
performed call says about the store from then on. -/
structure Record (Msg Store Env Call : Type) (Reply : Call → Type)
    (Err : Type) where
  allowed : Msg → Call → Prop
  inv : Store → Prop
  rely : Store → Store → Prop
  recorded : Msg → Env → (call : Call) → Except Err (Reply call) → Store → Prop

variable {record : Record Msg Store Env Call Reply Err}

structure Record.Sound (record : Record Msg Store Env Call Reply Err)
    (network : Network Msg Store Env Failure Call Reply Err α) : Prop where
  refl : ∀ store, record.rely store store
  trans : ∀ {first second third}, record.rely first second →
    record.rely second third → record.rely first third
  stable : ∀ {message env call result before after},
    record.recorded message env call result before →
      record.rely before after →
        record.recorded message env call result after
  handlers : ∀ message,
    (network.handler message).Uses (record.allowed message)
  performs : ∀ {message call} env store, record.allowed message call →
    network.remote call = none → record.inv store →
      record.inv (network.exec env call store).2 ∧
        record.rely store (network.exec env call store).2 ∧
        record.recorded message env call (network.exec env call store).1
          (network.exec env call store).2

/-- The store keeps the invariant, and every result that a message from
`first` on has got keeps its meaning. -/
structure Record.Holds (record : Record Msg Store Env Call Reply Err)
    (first : Nat) (traffic : Traffic Msg Store Env Failure Call Reply Err α) :
    Prop where
  inv : record.inv traffic.store
  recorded : ∀ (index : Nat) (job : Job Msg Env Failure Call Reply Err α),
    first ≤ index → traffic.jobs[index]? = some job →
      ∀ call result env, (⟨call, result, .performed env⟩ :
        Exchange Env Failure Call Reply Err) ∈ job.calls →
          record.recorded job.message env call result traffic.store

theorem Traced.allowed (sound : record.Sound network)
    {job : Job Msg Env Failure Call Reply Err α}
    (traced : network.Traced traffic job) {call : Call}
    {next : Reply call → Program Call Reply Err α}
    (pending : job.program = some (.call call next)) :
    record.allowed job.message call :=
  ((traced.reached _ pending).uses (sound.handlers job.message)).1.1

/-- Every call that a job has made is one its message allows. -/
theorem Traced.allowed_call (sound : record.Sound network)
    {job : Job Msg Env Failure Call Reply Err α}
    (traced : network.Traced traffic job)
    {exchange : Exchange Env Failure Call Reply Err}
    (made : exchange ∈ job.calls) :
    record.allowed job.message exchange.call := by
  cases pending : job.program with
  | none =>
      rw [(traced.travels pending).1] at made
      cases made
  | some rest =>
      exact ((traced.reached rest pending).uses
        (sound.handlers job.message)).2 exchange made

theorem Record.Holds.step (sound : record.Sound network) {first : Nat}
    (traced : ∀ job ∈ traffic.jobs, network.Traced traffic job)
    (holds : record.Holds first traffic)
    (step : network.Steps admits traffic later) :
    record.Holds first later ∧ record.rely traffic.store later.store := by
  have travelling : ∀ {job : Job Msg Env Failure Call Reply Err α}
      {call result env}, (∃ message, job = .travelling message) →
        (⟨call, result, .performed env⟩ :
          Exchange Env Failure Call Reply Err) ∉ job.calls := by
    rintro job call result env ⟨message, rfl⟩ made
    cases made
  cases step with
  | arrive message admitted =>
      refine ⟨⟨holds.inv, ?_⟩, sound.refl _⟩
      intro index job since found call result env made
      by_cases inside : index < traffic.jobs.length
      · rw [List.getElem?_append_left inside] at found
        exact holds.recorded index job since found call result env made
      · rw [List.getElem?_append_right (Nat.le_of_not_lt inside)] at found
        exact absurd made (travelling
          ⟨message, List.mem_singleton.mp (List.mem_of_getElem? found)⟩)
  | @advance acting after store spawned position found taken =>
      -- Only a performed call touches the store or adds to the record.
      have acted : record.inv store ∧ record.rely traffic.store store ∧
          (first ≤ position → ∀ call result env,
            (⟨call, result, .performed env⟩ :
              Exchange Env Failure Call Reply Err) ∈ after.calls →
              record.recorded acting.message env call result store) := by
        have old := fun since => holds.recorded position acting since found
        cases taken with
        | deliver travels => exact ⟨holds.inv, sound.refl _, old⟩
        | send call next message pending isRemote unsent =>
            exact ⟨holds.inv, sound.refl _, old⟩
        | perform env call next pending isLocal =>
            obtain ⟨inv, rely, recorded⟩ := sound.performs env traffic.store
              ((traced acting (List.mem_of_getElem? found)).allowed sound
                pending) isLocal holds.inv
            refine ⟨inv, rely, ?_⟩
            intro since other result env made
            rcases List.mem_append.mp made with early | new
            · exact sound.stable (old since other result env early) rely
            · cases List.mem_singleton.mp new
              exact recorded
        | answer call next child other outcome pending waits childFound
            answered =>
            refine ⟨holds.inv, sound.refl _, ?_⟩
            intro since other result env made
            rcases List.mem_append.mp made with early | new
            · exact old since other result env early
            · cases List.mem_singleton.mp new
        | abandon call next message failure pending isRemote =>
            refine ⟨holds.inv, sound.refl _, ?_⟩
            intro since other result env made
            rcases List.mem_append.mp made with early | new
            · exact old since other result env early
            · cases List.mem_singleton.mp new
      obtain ⟨inv, rely, recorded⟩ := acted
      refine ⟨⟨inv, ?_⟩, rely⟩
      intro index job since jobFound call result env made
      rcases getElem?_advance taken jobFound with
        early | ⟨rfl, rfl⟩ | isTravelling
      · exact sound.stable
          (holds.recorded index job since early call result env made) rely
      · rw [taken.continues.message]
        exact recorded since call result env made
      · exact absurd made (travelling isTravelling)

/-- The record of a run, of the messages it adds. -/
theorem Runs.holds (sound : record.Sound network)
    (traced : ∀ job ∈ traffic.jobs, network.Traced traffic job)
    (runs : network.Runs admits traffic later)
    (initial : record.inv traffic.store) :
    record.Holds traffic.jobs.length later ∧
      record.rely traffic.store later.store := by
  induction runs with
  | refl =>
      refine ⟨⟨initial, ?_⟩, sound.refl _⟩
      intro index job since found
      have inside := (List.getElem?_eq_some_iff.mp found).1
      exact absurd since (Nat.not_le_of_lt inside)
  | tail runs step induction =>
      obtain ⟨holds, rely⟩ := induction
      obtain ⟨next, onward⟩ := holds.step sound (Runs.traced traced runs) step
      exact ⟨next, sound.trans rely onward⟩

/-! ## A job that nobody disturbs -/

theorem steps_of_jobStep {front back : List (Job Msg Env Failure Call Reply Err α)}
    {job after : Job Msg Env Failure Call Reply Err α} {before store : Store}
    {spawned : List (Job Msg Env Failure Call Reply Err α)}
    (step : network.JobStep ⟨before, front ++ job :: back⟩ job after store
      spawned) :
    network.Steps admits ⟨before, front ++ job :: back⟩
      ⟨store, front ++ after :: back ++ spawned⟩ := by
  have found : (front ++ job :: back)[front.length]? = some job := by simp
  have advanced : network.Steps admits ⟨before, front ++ job :: back⟩
      ⟨store, (front ++ job :: back).set front.length after ++ spawned⟩ :=
    .advance front.length found step
  simpa using advanced

/-! ## Playing a schedule -/

/-- What a job can be told to do. -/
inductive Action (Env Failure : Type) where
  | deliver
  | perform (env : Env)
  | send
  | answer
  | abandon (failure : Failure)

inductive Move (Msg Env Failure : Type) where
  | arrive (message : Msg)
  | act (index : Nat) (action : Action Env Failure)

def act (network : Network Msg Store Env Failure Call Reply Err α)
    (traffic : Traffic Msg Store Env Failure Call Reply Err α)
    (job : Job Msg Env Failure Call Reply Err α)
    (action : Action Env Failure) :
    Option (Job Msg Env Failure Call Reply Err α × Store ×
      List (Job Msg Env Failure Call Reply Err α)) :=
  match job.program, action with
  | none, .deliver =>
      some ({ job with program := some (network.handler job.message) },
        traffic.store, [])
  | some (.call call next), .perform env =>
      match network.remote call with
      | some _ => none
      | none =>
          let (result, store) := network.exec env call traffic.store
          some ({ job with
              program := some (.resume next result)
              calls := job.calls ++ [⟨call, result, .performed env⟩] },
            store, [])
  | some (.call call _), .send =>
      match network.remote call, job.awaiting with
      | some message, none =>
          some ({ job with awaiting := some traffic.jobs.length },
            traffic.store, [.travelling message])
      | _, _ => none
  | some (.call call next), .answer =>
      match job.awaiting with
      | none => none
      | some child =>
          match (traffic.jobs[child]?).bind Job.outcome with
          | none => none
          | some outcome =>
              some ({ job with
                  program := some (.resume next (network.receive call outcome))
                  awaiting := none
                  calls := job.calls ++
                    [⟨call, network.receive call outcome,
                      .answered child⟩] }, traffic.store, [])
  | some (.call call _), .abandon failure =>
      match network.remote call with
      | some _ =>
          some ({ job with
              program := some (.fail (network.abandon call failure))
              awaiting := none
              calls := job.calls ++
                [⟨call, .error (network.abandon call failure),
                  .abandoned job.awaiting failure⟩] }, traffic.store, [])
      | none => none
  | _, _ => none

/-- Play one move; `permits` checks the messages of the clients. -/
def playMove (network : Network Msg Store Env Failure Call Reply Err α)
    (permits : Traffic Msg Store Env Failure Call Reply Err α → Msg → Bool)
    (traffic : Traffic Msg Store Env Failure Call Reply Err α) :
    Move Msg Env Failure →
      Option (Traffic Msg Store Env Failure Call Reply Err α)
  | .arrive message =>
      if permits traffic message then
        some { traffic with jobs := traffic.jobs ++ [.travelling message] }
      else none
  | .act index action =>
      match traffic.jobs[index]? with
      | none => none
      | some job =>
          (network.act traffic job action).map fun (after, store, spawned) =>
            ⟨store, traffic.jobs.set index after ++ spawned⟩

def play (network : Network Msg Store Env Failure Call Reply Err α)
    (permits : Traffic Msg Store Env Failure Call Reply Err α → Msg → Bool) :
    Traffic Msg Store Env Failure Call Reply Err α →
      List (Move Msg Env Failure) →
        Option (Traffic Msg Store Env Failure Call Reply Err α)
  | traffic, [] => some traffic
  | traffic, move :: moves =>
      (network.playMove permits traffic move).bind fun next =>
        network.play permits next moves

theorem jobStep_of_act {job after : Job Msg Env Failure Call Reply Err α}
    {store : Store} {spawned : List (Job Msg Env Failure Call Reply Err α)}
    {action : Action Env Failure}
    (acts : network.act traffic job action = some (after, store, spawned)) :
    network.JobStep traffic job after store spawned := by
  unfold act at acts
  split at acts
  · rename_i travels
    cases acts
    exact .deliver travels
  · rename_i call next env pending
    split at acts
    · cases acts
    · rename_i isLocal
      cases acts
      exact .perform env call next pending isLocal
  · rename_i call next pending
    split at acts
    · rename_i message isRemote unsent
      cases acts
      exact .send call next message pending isRemote unsent
    · cases acts
  · rename_i call next pending
    split at acts
    · cases acts
    · rename_i child waits
      split at acts
      · cases acts
      · rename_i outcome answered
        cases acts
        obtain ⟨other, found, answered⟩ := Option.bind_eq_some_iff.mp answered
        exact .answer call next child other outcome pending waits found
          answered
  · rename_i call next failure pending
    split at acts
    · rename_i message isRemote
      cases acts
      exact .abandon call next message failure pending isRemote
    · cases acts
  · cases acts

theorem act_of_jobStep {job after : Job Msg Env Failure Call Reply Err α}
    {store : Store} {spawned : List (Job Msg Env Failure Call Reply Err α)}
    (step : network.JobStep traffic job after store spawned) :
    ∃ action, network.act traffic job action = some (after, store, spawned) := by
  cases step with
  | deliver travels => exact ⟨.deliver, by simp [act, travels]⟩
  | perform env call next pending isLocal =>
      exact ⟨.perform env, by simp [act, pending, isLocal]⟩
  | send call next message pending isRemote unsent =>
      exact ⟨.send, by simp [act, pending, isRemote, unsent]⟩
  | answer call next child other outcome pending waits childFound answered =>
      exact ⟨.answer, by simp [act, pending, waits, childFound, answered]⟩
  | abandon call next message failure pending isRemote =>
      exact ⟨.abandon failure, by simp [act, pending, isRemote]⟩

theorem play_of_runs
    {permits : Traffic Msg Store Env Failure Call Reply Err α → Msg → Bool}
    (permitted : ∀ traffic message,
      admits traffic message → permits traffic message = true)
    (runs : network.Runs admits traffic later) :
    ∃ moves, network.play permits traffic moves = some later := by
  induction runs using Relation.ReflTransGen.head_induction_on with
  | refl => exact ⟨[], rfl⟩
  | @head before after step _ induction =>
      obtain ⟨moves, played⟩ := induction
      have moved : ∃ move, network.playMove permits before move = some after := by
        cases step with
        | arrive message admitted =>
            exact ⟨.arrive message,
              by simp [playMove, permitted before message admitted]⟩
        | advance index found taken =>
            obtain ⟨action, acts⟩ := act_of_jobStep taken
            exact ⟨.act index action, by simp [playMove, found, acts]⟩
      obtain ⟨move, moved⟩ := moved
      exact ⟨move :: moves, by simp [play, moved, played]⟩

theorem runs_of_play
    {permits : Traffic Msg Store Env Failure Call Reply Err α → Msg → Bool}
    (admitted : ∀ traffic message,
      permits traffic message = true → admits traffic message)
    {moves : List (Move Msg Env Failure)}
    (played : network.play permits traffic moves = some later) :
    network.Runs admits traffic later := by
  induction moves generalizing traffic with
  | nil =>
      cases played
      exact .refl _
  | cons move moves induction =>
      obtain ⟨next, first, rest⟩ := Option.bind_eq_some_iff.mp played
      refine Relation.ReflTransGen.head ?_ (induction rest)
      cases move with
      | arrive message =>
          simp only [playMove] at first
          split at first
          · rename_i permitted
            cases first
            exact .arrive message (admitted _ _ permitted)
          · cases first
      | act index action =>
          simp only [playMove] at first
          split at first
          · cases first
          · rename_i job found
            obtain ⟨⟨after, store, spawned⟩, acts, rfl⟩ :=
              Option.map_eq_some_iff.mp first
            exact .advance index found (jobStep_of_act acts)

end Network

end Cinema.Interleaving
