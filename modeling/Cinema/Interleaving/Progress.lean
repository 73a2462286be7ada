import Cinema.Interleaving.Remote
import Mathlib.Algebra.GroupWithZero.Nat
import Mathlib.Data.List.Forall2

/-!
# Every message is answered

A tariff bounds what the handler of a message can cost: its own calls, and the
messages it sends with all that their handlers cost.  Every step pays one unit
of what is still owed, so a schedule cannot go on for ever without new
messages.  And it cannot get stuck before the end, whatever messages get lost:
the last message that is not answered yet waits for nobody, or for one that is
lost, on which it gives up.
-/

namespace Cinema.Interleaving

variable {Msg Store Env Failure Call : Type} {Reply : Call → Type}
  {Err α : Type}

namespace Network

variable {network : Network Msg Store Env Failure Call Reply Err α}
  {admits : Traffic Msg Store Env Failure Call Reply Err α → Msg → Prop}
  {traffic later : Traffic Msg Store Env Failure Call Reply Err α}

/-- What a call costs when messages are worth `worth`: a local one is one
step; a remote one is sent, delivered, served and answered. -/
def price (network : Network Msg Store Env Failure Call Reply Err α)
    (worth : Msg → Nat) (call : Call) : Nat :=
  match network.remote call with
  | none => 1
  | some message => worth message + 3

theorem price_local {worth : Msg → Nat} {call : Call}
    (isLocal : network.remote call = none) :
    network.price worth call = 1 := by
  simp [price, isLocal]

theorem price_remote {worth : Msg → Nat} {call : Call} {message : Msg}
    (isRemote : network.remote call = some message) :
    network.price worth call = worth message + 3 := by
  simp [price, isRemote]

/-- Handlers spend at most what their messages are worth. -/
structure Tariff (network : Network Msg Store Env Failure Call Reply Err α)
    where
  worth : Msg → Nat
  handlers : ∀ message,
    (network.handler message).Spends (network.price worth) (worth message)

namespace Tariff

variable (tariff : network.Tariff)

/-- What a job can still cost. -/
inductive Owes (job : Job Msg Env Failure Call Reply Err α) : Nat → Prop where
  | travelling (travels : job.program = none) (idle : job.awaiting = none) :
      Owes job (tariff.worth job.message + 1)
  | running {program debt} (pending : job.program = some program)
      (idle : job.awaiting = none)
      (spends : program.Spends (network.price tariff.worth) debt) :
      Owes job debt
  | waiting {call next message child debt}
      (pending : job.program = some (.call call next))
      (isRemote : network.remote call = some message)
      (sent : job.awaiting = some child)
      (spends : ∀ reply,
        (next reply).Spends (network.price tariff.worth) debt) :
      Owes job (debt + 1)

/-- All jobs together can still cost `total`. -/
def Owing (traffic : Traffic Msg Store Env Failure Call Reply Err α)
    (total : Nat) : Prop :=
  ∃ debts, List.Forall₂ tariff.Owes traffic.jobs debts ∧ debts.sum ≤ total

variable {tariff} {job after : Job Msg Env Failure Call Reply Err α}
  {store : Store} {spawned : List (Job Msg Env Failure Call Reply Err α)}
  {debt total : Nat}

theorem owes_message (message : Msg) :
    tariff.Owes (.travelling message) (tariff.worth message + 1) :=
  .travelling rfl rfl

/-- A step pays one unit; what it spawns is paid for by the job. -/
theorem Owes.step (owes : tariff.Owes job debt)
    (step : network.JobStep traffic job after store spawned) :
    ∃ rest debts, tariff.Owes after rest ∧
      List.Forall₂ tariff.Owes spawned debts ∧
      rest + debts.sum + 1 ≤ debt := by
  cases step with
  | deliver travels =>
      cases owes with
      | travelling _ idle =>
          exact ⟨_, [], .running rfl idle (tariff.handlers job.message), .nil,
            Nat.le_refl _⟩
      | running pending | waiting pending =>
          rw [travels] at pending
          cases pending
  | perform env call next pending isLocal =>
      have local_price : network.price tariff.worth call = 1 :=
        price_local isLocal
      cases owes with
      | travelling travels =>
          rw [travels] at pending
          cases pending
      | running program idle spends =>
          rw [pending] at program
          cases program
          obtain ⟨enough, rest⟩ := spends
          rw [local_price] at enough rest
          refine ⟨debt - 1, [], .running rfl idle (.resume rest _), .nil, ?_⟩
          simp only [List.sum_nil]
          omega
      | waiting program isRemote sent spends =>
          rw [pending] at program
          cases program
          rw [isLocal] at isRemote
          cases isRemote
  | send call next message pending isRemote unsent =>
      have remote_price : network.price tariff.worth call =
          tariff.worth message + 3 :=
        price_remote isRemote
      cases owes with
      | travelling travels =>
          rw [travels] at pending
          cases pending
      | running program idle spends =>
          rw [pending] at program
          cases program
          obtain ⟨enough, rest⟩ := spends
          rw [remote_price] at enough rest
          refine ⟨_, [_], .waiting pending isRemote rfl rest,
            .cons (owes_message message) .nil, ?_⟩
          simp only [List.sum_cons, List.sum_nil]
          omega
      | waiting program isRemote sent spends =>
          rw [unsent] at sent
          cases sent
  | answer call next child other outcome pending waits childFound answered =>
      cases owes with
      | travelling travels =>
          rw [travels] at pending
          cases pending
      | running program idle spends =>
          rw [waits] at idle
          cases idle
      | waiting program isRemote sent spends =>
          rw [pending] at program
          cases program
          exact ⟨_, [], .running rfl rfl (.resume spends _), .nil,
            Nat.le_refl _⟩
  | abandon call next message failure pending isRemote =>
      have ended : tariff.Owes
          { job with
            program := some (.fail (network.abandon call failure))
            awaiting := none
            calls := job.calls ++
              [⟨call, .error (network.abandon call failure),
                .abandoned job.awaiting failure⟩] } 0 :=
        .running rfl rfl trivial
      refine ⟨0, [], ended, .nil, ?_⟩
      cases owes with
      | travelling => exact Nat.le_add_left _ _
      | running program idle spends =>
          rw [pending] at program
          cases program
          have enough := spends.1
          rw [price_remote isRemote] at enough
          simp only [List.sum_nil]
          omega
      | waiting => exact Nat.le_add_left _ _

/-- A list of debts in which one has changed. -/
private theorem forall₂_update {α : Type} {owes : α → Nat → Prop}
    {jobs : List α} {debts : List Nat} (all : List.Forall₂ owes jobs debts)
    {index : Nat} {job : α} (found : jobs[index]? = some job) :
    ∃ debt, owes job debt ∧ ∀ after rest, owes after rest →
      ∃ paid, List.Forall₂ owes (jobs.set index after) paid ∧
        paid.sum + debt = debts.sum + rest := by
  induction all generalizing index with
  | nil => cases found
  | @cons first debt jobs debts owesFirst others ih =>
      cases index with
      | zero =>
          cases found
          refine ⟨debt, owesFirst, fun after rest owesAfter => ?_⟩
          refine ⟨rest :: debts, .cons owesAfter others, ?_⟩
          simp only [List.sum_cons]
          omega
      | succ index =>
          obtain ⟨owed, owesJob, paying⟩ := ih found
          refine ⟨owed, owesJob, fun after rest owesAfter => ?_⟩
          obtain ⟨paid, owesPaid, balance⟩ := paying after rest owesAfter
          refine ⟨debt :: paid, .cons owesFirst owesPaid, ?_⟩
          simp only [List.sum_cons]
          omega

theorem owing_start (store : Store) : tariff.Owing (.start store) 0 :=
  ⟨[], .nil, Nat.le_refl _⟩

/-- A message adds what it is worth and its delivery. -/
theorem Owing.arrive (owing : tariff.Owing traffic total) (message : Msg) :
    tariff.Owing { traffic with jobs := traffic.jobs ++ [.travelling message] }
      (total + (tariff.worth message + 1)) := by
  obtain ⟨debts, owes, bounded⟩ := owing
  refine ⟨debts ++ [_], List.rel_append owes
    (.cons (owes_message message) .nil), ?_⟩
  simp only [List.sum_append, List.sum_cons, List.sum_nil]
  omega

/-- A step of a job pays one unit. -/
theorem Owing.advance (owing : tariff.Owing traffic total) {index : Nat}
    (found : traffic.jobs[index]? = some job)
    (step : network.JobStep traffic job after store spawned) :
    ∃ rest, tariff.Owing ⟨store, traffic.jobs.set index after ++ spawned⟩
        rest ∧ rest + 1 ≤ total := by
  obtain ⟨debts, owes, bounded⟩ := owing
  obtain ⟨debt, owesJob, paying⟩ := forall₂_update owes found
  obtain ⟨rest, new, owesAfter, owesNew, paid⟩ := owesJob.step step
  obtain ⟨debts', owes', balance⟩ := paying after rest owesAfter
  refine ⟨_, ⟨debts' ++ new, List.rel_append owes' owesNew,
    Nat.le_refl _⟩, ?_⟩
  rw [List.sum_append]
  omega

end Tariff

/-! ## Schedules -/

/-- A job takes a step. -/
def Move.isAct : Move Msg Env Failure → Bool
  | .arrive _ => false
  | .act _ _ => true

/-- A client sends a message. -/
def Move.isArrival : Move Msg Env Failure → Bool
  | .arrive _ => true
  | .act _ _ => false

/-- What a move adds to what the jobs can cost. -/
def Tariff.bill (tariff : network.Tariff) : Move Msg Env Failure → Nat
  | .arrive message => tariff.worth message + 1
  | .act _ _ => 0

section Play

variable {tariff : network.Tariff} {total : Nat}
  {permits : Traffic Msg Store Env Failure Call Reply Err α → Msg → Bool}

/-- The steps of a schedule are paid for by its messages. -/
theorem Tariff.Owing.play (owing : tariff.Owing traffic total)
    {moves : List (Move Msg Env Failure)}
    (played : network.play permits traffic moves = some later) :
    ∃ rest, tariff.Owing later rest ∧
      rest + moves.countP Move.isAct ≤ total + (moves.map tariff.bill).sum := by
  induction moves generalizing traffic total with
  | nil =>
      cases played
      exact ⟨total, owing, Nat.le_refl _⟩
  | cons move moves ih =>
      obtain ⟨next, first, onward⟩ := Option.bind_eq_some_iff.mp played
      cases move with
      | arrive message =>
          simp only [playMove] at first
          split at first
          · cases first
            obtain ⟨rest, owes, bounded⟩ := ih (owing.arrive message) onward
            refine ⟨rest, owes, ?_⟩
            simp only [List.countP_cons, List.map_cons, List.sum_cons, bill,
              Move.isAct, Bool.false_eq_true, if_false]
            omega
          · cases first
      | act index action =>
          simp only [playMove] at first
          split at first
          · cases first
          · rename_i job found
            obtain ⟨⟨after, store, spawned⟩, acts, rfl⟩ :=
              Option.map_eq_some_iff.mp first
            obtain ⟨left, owes, paid⟩ :=
              owing.advance found (jobStep_of_act acts)
            obtain ⟨rest, owes, bounded⟩ := ih owes onward
            refine ⟨rest, owes, ?_⟩
            simp only [List.countP_cons, List.map_cons, List.sum_cons, bill,
              Move.isAct, if_true]
            omega

end Play

/-! ## Nobody waits for ever -/

/-- What a job has sent has been sent after the job. -/
def Ordered (traffic : Traffic Msg Store Env Failure Call Reply Err α) :
    Prop :=
  ∀ (index : Nat) (job : Job Msg Env Failure Call Reply Err α) (child : Nat),
    traffic.jobs[index]? = some job → child ∈ job.sent → index < child

theorem Ordered.waits (ordered : Ordered traffic) {index child : Nat}
    {job : Job Msg Env Failure Call Reply Err α}
    (found : traffic.jobs[index]? = some job)
    (waits : job.awaiting = some child) : index < child :=
  ordered index job child found (by simp [Job.sent, waits])

/-- What a job can still do when the messages of `lost` are gone.  Nobody works
on them any more, and no answer to them arrives; who waits for one gives up as
time runs out, and nobody else gives up. -/
def Able (lost : Nat → Prop) (index : Nat)
    (job : Job Msg Env Failure Call Reply Err α) : Action Env Failure → Prop
  | .deliver | .perform _ | .send => ¬ lost index
  | .answer =>
      ¬ lost index ∧ ∀ child, job.awaiting = some child → ¬ lost child
  | .abandon _ =>
      ¬ lost index ∧ ∃ child, job.awaiting = some child ∧ lost child

/-- Every message that is not lost has been answered. -/
def Settled (lost : Nat → Prop)
    (traffic : Traffic Msg Store Env Failure Call Reply Err α) : Prop :=
  ∀ (index : Nat) (job : Job Msg Env Failure Call Reply Err α),
    traffic.jobs[index]? = some job → ¬ lost index →
      job.outcome.isSome = true

/-- A state in which the losses leave no job a step to take. -/
def Stuck (network : Network Msg Store Env Failure Call Reply Err α)
    (lost : Nat → Prop)
    (traffic : Traffic Msg Store Env Failure Call Reply Err α) : Prop :=
  ∀ (index : Nat) (job : Job Msg Env Failure Call Reply Err α)
    (action : Action Env Failure), traffic.jobs[index]? = some job →
      Able lost index job action → network.act traffic job action = none

/-- As many steps as the number says, all of them possible with the losses. -/
inductive Withstands (network : Network Msg Store Env Failure Call Reply Err α)
    (lost : Nat → Prop) :
    Nat → Traffic Msg Store Env Failure Call Reply Err α →
      Traffic Msg Store Env Failure Call Reply Err α → Prop where
  | none {before} : Withstands network lost 0 before before
  | act {before last count index job action after store spawned}
      (found : before.jobs[index]? = some job)
      (able : Able lost index job action)
      (acts : network.act before job action = some (after, store, spawned))
      (onward : Withstands network lost count
        ⟨store, before.jobs.set index after ++ spawned⟩ last) :
      Withstands network lost (count + 1) before last

theorem Withstands.runs {lost : Nat → Prop} {count : Nat}
    (withstands : network.Withstands lost count traffic later) :
    network.Runs admits traffic later := by
  induction withstands with
  | none => exact .refl _
  | act found able acts onward ih =>
      exact Relation.ReflTransGen.head
        (.advance _ found (jobStep_of_act acts)) ih

theorem ordered_start (store : Store) :
    Ordered (.start store : Traffic Msg Store Env Failure Call Reply Err α) :=
  fun index job child found => by cases found

/-- A step sends at most one message, which is the next one. -/
theorem JobStep.mem_sent {job after : Job Msg Env Failure Call Reply Err α}
    {store : Store} {spawned : List (Job Msg Env Failure Call Reply Err α)}
    (step : network.JobStep traffic job after store spawned) {child : Nat}
    (sent : child ∈ after.sent) :
    child ∈ job.sent ∨ child = traffic.jobs.length := by
  cases step with
  | deliver travels => exact .inl sent
  | perform env call next pending isLocal =>
      exact .inl (by simpa [Job.sent, Means.child] using sent)
  | send call next message pending isRemote unsent =>
      simpa [Job.sent, unsent] using sent
  | answer call next asked other outcome pending waits childFound answered =>
      exact .inl (by simpa [Job.sent, Means.child, waits] using sent)
  | abandon call next message failure pending isRemote =>
      refine .inl ?_
      cases waits : job.awaiting with
      | none => simpa [Job.sent, Means.child, waits] using sent
      | some asked => simpa [Job.sent, Means.child, waits] using sent

/-- What a job has sent after a step it had sent before, but for the next
message, which one job can have sent. -/
theorem Steps.sender (step : network.Steps admits traffic later) :
    ∃ position, ∀ (index : Nat) (job : Job Msg Env Failure Call Reply Err α)
      (child : Nat), later.jobs[index]? = some job → child ∈ job.sent →
        (∃ old : Job Msg Env Failure Call Reply Err α,
            traffic.jobs[index]? = some old ∧ child ∈ old.sent) ∨
          child = traffic.jobs.length ∧ index = position ∧
            index < traffic.jobs.length := by
  have idle : ∀ {job : Job Msg Env Failure Call Reply Err α} {child},
      (∃ message, job = .travelling message) → child ∉ job.sent := by
    rintro job child ⟨message, rfl⟩ sent
    cases sent
  cases step with
  | arrive message admitted =>
      refine ⟨0, fun index job child found sent => ?_⟩
      by_cases inside : index < traffic.jobs.length
      · rw [List.getElem?_append_left inside] at found
        exact .inl ⟨job, found, sent⟩
      · rw [List.getElem?_append_right (Nat.le_of_not_lt inside)] at found
        have isMessage := List.mem_singleton.mp (List.mem_of_getElem? found)
        exact absurd sent (idle ⟨message, isMessage⟩)
  | @advance acting after store spawned position actingFound step =>
      refine ⟨position, fun index job child found sent => ?_⟩
      rcases getElem?_advance step found with old | ⟨rfl, rfl⟩ | isTravelling
      · exact .inl ⟨job, old, sent⟩
      · rcases step.mem_sent sent with early | isNext
        · exact .inl ⟨acting, actingFound, early⟩
        · exact .inr
            ⟨isNext, rfl, (List.getElem?_eq_some_iff.mp actingFound).1⟩
      · exact absurd sent (idle isTravelling)

theorem Steps.ordered (ordered : Ordered traffic)
    (step : network.Steps admits traffic later) : Ordered later := by
  intro index job child found sent
  obtain ⟨position, senders⟩ := step.sender
  rcases senders index job child found sent with
    ⟨old, oldFound, early⟩ | ⟨rfl, _, inside⟩
  · exact ordered index old child oldFound early
  · exact inside

theorem Runs.ordered (runs : network.Runs admits traffic later)
    (ordered : Ordered traffic) : Ordered later :=
  runs.preserves Ordered (fun ordered step => step.ordered ordered) ordered

/-- As long as a message is neither lost nor answered, some job can take a
step: the job itself, or one further down the messages it waits for. -/
theorem exists_step [Nonempty Env] [Nonempty Failure] {lost : Nat → Prop}
    (ordered : Ordered traffic)
    (traced : ∀ job ∈ traffic.jobs, network.Traced traffic job) {index : Nat}
    {job : Job Msg Env Failure Call Reply Err α}
    (found : traffic.jobs[index]? = some job) (kept : ¬ lost index)
    (pending : job.outcome = none) :
    ∃ (position : Nat) (acting : Job Msg Env Failure Call Reply Err α)
      (action : Action Env Failure),
      traffic.jobs[position]? = some acting ∧ Able lost position acting action ∧
        (network.act traffic acting action).isSome = true := by
  have inside := (List.getElem?_eq_some_iff.mp found).1
  induction remaining : traffic.jobs.length - index using Nat.strongRecOn
    generalizing index job with
  | ind remaining ih =>
  obtain ⟨env⟩ := ‹Nonempty Env›
  obtain ⟨failure⟩ := ‹Nonempty Failure›
  cases program : job.program with
  | none =>
      exact ⟨index, job, .deliver, found, kept, by simp [act, program]⟩
  | some rest =>
      cases rest with
      | done value => simp [Job.outcome, program] at pending
      | fail error => simp [Job.outcome, program] at pending
      | call call next =>
          cases isRemote : network.remote call with
          | none =>
              exact ⟨index, job, .perform env, found, kept, by
                simp [act, program, isRemote]⟩
          | some message =>
              cases waits : job.awaiting with
              | none =>
                  exact ⟨index, job, .send, found, kept, by
                    simp [act, program, isRemote, waits]⟩
              | some child =>
                  by_cases gone : lost child
                  · exact ⟨index, job, .abandon failure, found,
                      ⟨kept, child, waits, gone⟩, by
                        simp [act, program, isRemote]⟩
                  have isJob := traced job (List.mem_of_getElem? found)
                  obtain ⟨_, _, other, childFound, _⟩ :=
                    isJob.carries waits program
                  have later := ordered.waits found waits
                  have present := (List.getElem?_eq_some_iff.mp childFound).1
                  cases answered : other.outcome with
                  | none =>
                      exact ih (traffic.jobs.length - child) (by omega)
                        childFound gone answered present rfl
                  | some outcome =>
                      refine ⟨index, job, .answer, found, ⟨kept, ?_⟩, by
                        simp [act, program, waits, childFound, answered]⟩
                      intro other awaits
                      rw [waits] at awaits
                      cases awaits
                      exact gone

/-- Nothing is left to do only where everything has been answered that is not
lost. -/
theorem Stuck.settled [Nonempty Env] [Nonempty Failure] {lost : Nat → Prop}
    (stuck : network.Stuck lost traffic) (ordered : Ordered traffic)
    (traced : ∀ job ∈ traffic.jobs, network.Traced traffic job) :
    Settled lost traffic := by
  intro index job found kept
  cases pending : job.outcome with
  | some outcome => rfl
  | none =>
      obtain ⟨position, acting, action, actingFound, able, acts⟩ :=
        exists_step ordered traced found kept pending
      rw [stuck position acting action actingFound able] at acts
      cases acts

/-- What is still to do for the messages that are not lost is done in at most
as many steps as are owed. -/
theorem Tariff.Owing.completes [Nonempty Env] [Nonempty Failure]
    {tariff : network.Tariff} {lost : Nat → Prop} {total : Nat}
    (owing : tariff.Owing traffic total) (ordered : Ordered traffic)
    (traced : ∀ job ∈ traffic.jobs, network.Traced traffic job) :
    ∃ count later, network.Withstands lost count traffic later ∧
      count ≤ total ∧ Settled lost later := by
  induction total using Nat.strongRecOn generalizing traffic with
  | ind total ih =>
  by_cases settled : Settled lost traffic
  · exact ⟨0, traffic, .none, Nat.zero_le _, settled⟩
  · simp only [Settled, not_forall] at settled
    obtain ⟨index, job, found, kept, pending⟩ := settled
    have noOutcome : job.outcome = none := by simpa using pending
    obtain ⟨position, acting, action, actingFound, able, isSome⟩ :=
      exists_step ordered traced found kept noOutcome
    obtain ⟨⟨after, store, spawned⟩, acts⟩ := Option.isSome_iff_exists.mp isSome
    obtain ⟨rest, owes, paid⟩ := owing.advance actingFound (jobStep_of_act acts)
    have step : network.Steps (fun _ _ => True) traffic
        ⟨store, traffic.jobs.set position after ++ spawned⟩ :=
      .advance position actingFound (jobStep_of_act acts)
    obtain ⟨count, later, withstands, short, done⟩ :=
      ih rest (by omega) owes (step.ordered ordered)
        (Runs.traced traced ((Runs.refl traffic).step step))
    exact ⟨count + 1, later, .act actingFound able acts withstands,
      Nat.le_trans (Nat.succ_le_succ short) paid, done⟩

end Network

end Cinema.Interleaving
