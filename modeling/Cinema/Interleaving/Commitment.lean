import Cinema.Interleaving.Progress
import Cinema.Interleaving.Provenance

/-!
# One effect for each message

A handler that has had an effect does nothing any more that could have another
one.  So a job has at most one effect, and where a handler only answers after
it, a job that has failed has had none.  A message causes the messages that are
sent for it, and every message is caused by one from outside.
-/

namespace Cinema.Interleaving

variable {Msg Store Env Failure Call : Type} {Reply : Call → Type}
  {Err α β : Type}

namespace Program

variable (effective : (call : Call) → Reply call → Prop)

/-- The call has an effect whatever its reply. -/
def Idle (call : Call) : Prop :=
  ∀ reply, ¬ effective call reply

/-- After a call with an effect the rest of the program is `closing`. -/
def Commits (closing : Program Call Reply Err α → Prop) :
    Program Call Reply Err α → Prop :=
  Every (fun _ _ => True) fun call next =>
    ∀ reply, effective call reply → closing (next reply)

/-- The program has nothing left to do but to answer. -/
def Answers (program : Program Call Reply Err α) : Prop :=
  ∃ value, program = .done value

/-- The exchange has had an effect. -/
def HasEffect (exchange : Exchange Env Failure Call Reply Err) : Prop :=
  ∃ reply, exchange.result = .ok reply ∧ effective exchange.call reply

variable {effective} {closing : Program Call Reply Err α → Prop}
  {program rest : Program Call Reply Err α}
  {history : List (Exchange Env Failure Call Reply Err)}

theorem commits_of_uses (uses : program.Uses (Idle effective)) :
    program.Commits effective closing :=
  uses.every fun _ _ idle reply effect => absurd effect (idle reply)

theorem commits_bind {next : α → Program Call Reply Err β}
    {closing : Program Call Reply Err β → Prop}
    (uses : program.Uses (Idle effective))
    (later : ∀ value, (next value).Commits effective closing) :
    (program >>= next).Commits effective closing := by
  induction program with
  | done value => exact later value
  | fail error => trivial
  | call call continuation ih =>
      constructor
      · intro reply effect
        exact absurd effect (uses.1 reply)
      · intro reply _
        exact ih reply (uses.2 reply)

theorem Commits.finish {next : α → Program Call Reply Err β}
    (commits : program.Commits effective Answers)
    (answers : ∀ value, Answers (next value)) :
    (program >>= next).Commits effective Answers := by
  induction program with
  | done value =>
      obtain ⟨result, isDone⟩ := answers value
      change (next value).Commits effective Answers
      rw [isDone]
      trivial
  | fail error => trivial
  | call call continuation ih =>
      constructor
      · intro reply effect
        obtain ⟨value, isDone⟩ := commits.1 reply effect
        obtain ⟨result, isResult⟩ := answers value
        refine ⟨result, ?_⟩
        change (continuation reply).bind next = .done result
        rw [isDone]
        exact isResult
      · intro reply honest
        exact ih reply (commits.2 reply honest)

theorem Commits.map (commits : program.Commits effective Answers)
    (f : α → β) : (f <$> program).Commits effective Answers :=
  commits.finish fun value => ⟨f value, rfl⟩

theorem Commits.idle_after (commits : program.Commits effective Answers) :
    program.Commits effective (·.Uses (Idle effective)) := by
  induction program with
  | done value => trivial
  | fail error => trivial
  | call call next induction =>
      constructor
      · intro reply effect
        obtain ⟨value, isDone⟩ := commits.1 reply effect
        rw [isDone]
        trivial
      · intro reply honest
        exact induction reply (commits.2 reply honest)

theorem Commits.continue {next : α → Program Call Reply Err β}
    (commits : program.Commits effective (·.Uses (Idle effective)))
    (uses : ∀ value, (next value).Uses (Idle effective)) :
    (program >>= next).Commits effective (·.Uses (Idle effective)) := by
  induction program with
  | done value => exact commits_of_uses (uses value)
  | fail error => trivial
  | call call continuation induction =>
      constructor
      · intro reply effect
        exact (commits.1 reply effect).bind uses
      · intro reply honest
        exact induction reply (commits.2 reply honest)

theorem Reaches.idle (reached : Reaches program history rest)
    (uses : program.Uses (Idle effective)) :
    ∀ exchange ∈ history, ¬ HasEffect effective exchange := by
  rintro exchange made ⟨reply, _, effect⟩
  exact (reached.uses uses).2 exchange made reply effect

theorem closes_of_effect {call : Call}
    {next : Reply call → Program Call Reply Err α}
    {result : Except Err (Reply call)} {means : Means Env Failure}
    (commits : (Program.call call next).Commits effective closing)
    (effect : HasEffect effective
      (⟨call, result, means⟩ : Exchange Env Failure Call Reply Err)) :
    closing (.resume next result) := by
  obtain ⟨reply, isReply, happened⟩ := effect
  change result = .ok reply at isReply
  rw [isReply]
  exact commits.1 reply happened

/-- A program that commits has had no effect, or one, from which on it was
closing. -/
theorem Reaches.commits (reached : Reaches program history rest)
    (commits : program.Commits effective closing) :
    ((∀ exchange ∈ history, ¬ HasEffect effective exchange) ∧
        rest.Commits effective closing) ∨
      ∃ front last back closed, history = front ++ last :: back ∧
        HasEffect effective last ∧
        (∀ exchange ∈ front, ¬ HasEffect effective exchange) ∧
        closing closed ∧ Reaches closed back rest := by
  induction reached with
  | start => exact .inl ⟨by simp, commits⟩
  | @next history call next reached result means induction =>
      rcases induction with ⟨none, pending⟩ |
        ⟨front, last, back, closed, rfl, effect, none, isClosing, onward⟩
      · by_cases effect : HasEffect effective ⟨call, result, means⟩
        · right
          refine ⟨history, _, [], .resume next result, rfl, effect, none, ?_,
            .start⟩
          exact closes_of_effect pending effect
        · left
          constructor
          · intro exchange made
            rcases List.mem_append.mp made with before | now
            · exact none exchange before
            · rw [List.mem_singleton.mp now]
              exact effect
          · exact pending.resume fun _ _ => trivial
      · right
        exact ⟨front, last, back ++ [⟨call, result, means⟩], closed, by simp,
          effect, none, isClosing, onward.next result means⟩

/-- A program that commits has at most one effect. -/
theorem Reaches.effect_unique
    (reached : Reaches program history rest)
    (commits : program.Commits effective (·.Uses (Idle effective)))
    {first second : Nat}
    {one other : Exchange Env Failure Call Reply Err}
    (oneMade : history[first]? = some one)
    (otherMade : history[second]? = some other)
    (oneEffect : HasEffect effective one)
    (otherEffect : HasEffect effective other) : first = second := by
  rcases reached.commits commits with ⟨none, _⟩ |
    ⟨front, last, back, closed, rfl, _, none, uses, onward⟩
  · exact absurd oneEffect (none one (List.mem_of_getElem? oneMade))
  · have placed : ∀ {position : Nat}
        {exchange : Exchange Env Failure Call Reply Err},
        (front ++ last :: back)[position]? = some exchange →
          HasEffect effective exchange → position = front.length := by
      intro position exchange made effect
      rcases Nat.lt_trichotomy position front.length with before | same | after
      · rw [List.getElem?_append_left before] at made
        exact absurd effect (none exchange (List.mem_of_getElem? made))
      · exact same
      · rw [List.getElem?_append_right (Nat.le_of_lt after)] at made
        obtain ⟨gap, isGap⟩ := Nat.exists_eq_succ_of_ne_zero
          (Nat.sub_ne_zero_of_lt after)
        rw [isGap, List.getElem?_cons_succ] at made
        exact absurd effect
          (onward.idle uses exchange (List.mem_of_getElem? made))
    rw [placed oneMade oneEffect, placed otherMade otherEffect]

theorem Reaches.effect_last (reached : Reaches program history rest)
    (commits : program.Commits effective Answers) :
    (∀ exchange ∈ history, ¬ HasEffect effective exchange) ∨
      ∃ front last, history = front ++ [last] ∧
        (∀ exchange ∈ front, ¬ HasEffect effective exchange) ∧
        Answers rest := by
  rcases reached.commits commits with ⟨none, _⟩ |
    ⟨front, last, back, closed, rfl, _, none, ⟨value, rfl⟩, onward⟩
  · exact .inl none
  · obtain ⟨rfl, rfl⟩ := onward.of_done
    exact .inr ⟨front, last, rfl, none, value, rfl⟩

theorem Reaches.no_effect {error : Err}
    (reached : Reaches program history (.fail error))
    (commits : program.Commits effective Answers) :
    ∀ exchange ∈ history, ¬ HasEffect effective exchange := by
  rcases reached.effect_last commits with none | ⟨_, _, _, _, value, same⟩
  · exact none
  · cases same

theorem Reaches.of_map {f : α → β} {rest : Program Call Reply Err β}
    (reached : Reaches (f <$> program) history rest) :
    ∃ inner, rest = f <$> inner ∧ Reaches program history inner := by
  induction reached with
  | start => exact ⟨program, rfl, .start⟩
  | @next history call continuation reached result means induction =>
      obtain ⟨inner, same, onward⟩ := induction
      cases inner with
      | done value => cases same
      | fail error => cases same
      | call other next =>
          cases same
          refine ⟨.resume next result, ?_, onward.next result means⟩
          cases result <;> rfl

end Program

/-! ## What a message causes -/

/-- The message is `root`, or it was sent for `root` by way of others. -/
def Traffic.Causes (traffic : Traffic Msg Store Env Failure Call Reply Err α)
    (root : Nat) : Nat → Prop :=
  Relation.ReflTransGen (fun sender index =>
    ∃ job : Job Msg Env Failure Call Reply Err α,
      traffic.jobs[sender]? = some job ∧ index ∈ job.sent) root

theorem Traffic.Extends.causes
    {before after : Traffic Msg Store Env Failure Call Reply Err α}
    (onward : before.Extends after) {root index : Nat}
    (causes : before.Causes root index) : after.Causes root index := by
  induction causes with
  | refl => exact .refl
  | @tail sender index _ sends induction =>
      obtain ⟨job, found, sent⟩ := sends
      obtain ⟨later, laterFound, continues⟩ := onward sender job found
      exact induction.tail ⟨later, laterFound, continues.sent.subset sent⟩

namespace Network

variable {network : Network Msg Store Env Failure Call Reply Err α}
  {admits : Traffic Msg Store Env Failure Call Reply Err α → Msg → Prop}
  {traffic later : Traffic Msg Store Env Failure Call Reply Err α}

theorem Steps.store (step : network.Steps admits traffic later) :
    later.store = traffic.store ∨
      ∃ (index : Nat) (job after : Job Msg Env Failure Call Reply Err α)
        (call : Call) (next : Reply call → Program Call Reply Err α)
        (env : Env),
        traffic.jobs[index]? = some job ∧ later.jobs[index]? = some after ∧
          job.program = some (.call call next) ∧
          after.calls = job.calls ++
            [⟨call, (network.exec env call traffic.store).1,
              .performed env⟩] ∧
          later.store = (network.exec env call traffic.store).2 := by
  cases step with
  | arrive message admitted => exact .inl rfl
  | @advance job after store spawned index found taken =>
      have inside := (List.getElem?_eq_some_iff.mp found).1
      cases taken with
      | perform env call next pending isLocal =>
          right
          refine ⟨index, job, _, call, next, env, found,
            (by simp only [List.append_nil, List.getElem?_set_self inside];
                rfl), pending, rfl, rfl⟩
      | deliver | send | answer | abandon => exact .inl rfl

theorem Runs.loses
    {property : Traffic Msg Store Env Failure Call Reply Err α → Prop}
    (runs : network.Runs admits traffic later) (initial : property traffic)
    (lost : ¬ property later) :
    ∃ before after, network.Runs admits traffic before ∧
      network.Steps admits before after ∧ network.Runs admits after later ∧
        property before ∧ ¬ property after := by
  induction runs with
  | refl => exact absurd initial lost
  | @tail before after runs step induction =>
      by_cases holds : property before
      · exact ⟨before, after, runs, step, .refl after, holds, lost⟩
      · obtain ⟨early, late, reached, taken, onward, had, gone⟩ :=
          induction holds
        exact ⟨early, late, reached, taken, onward.step step, had, gone⟩

theorem Traced.sends {job : Job Msg Env Failure Call Reply Err α}
    (traced : network.Traced traffic job) {allowed : Call → Prop}
    (uses : (network.handler job.message).Uses allowed) {child : Nat}
    (sent : child ∈ job.sent) :
    ∃ call message, allowed call ∧ network.remote call = some message ∧
      traffic.Carries child message := by
  obtain ⟨call, message, isRemote, carries, source⟩ := traced.mem_sent sent
  refine ⟨call, message, ?_, isRemote, carries⟩
  rcases source with ⟨exchange, made, rfl, _⟩ | ⟨next, pending⟩
  · cases program : job.program with
    | none =>
        rw [(traced.travels program).1] at made
        cases made
    | some rest =>
        exact ((traced.reached rest program).uses uses).2 exchange made
  · exact ((traced.reached _ pending).uses uses).1.1

/-- Every message of a run is caused by one that came from outside. -/
theorem Runs.cause {store : Store}
    (runs : network.Runs admits (.start store) traffic) {index : Nat}
    {job : Job Msg Env Failure Call Reply Err α}
    (found : traffic.jobs[index]? = some job) :
    ∃ (root : Nat) (origin : Job Msg Env Failure Call Reply Err α)
      (earlier : Traffic Msg Store Env Failure Call Reply Err α),
      traffic.jobs[root]? = some origin ∧ admits earlier origin.message ∧
        traffic.Causes root index := by
  have ordered : Ordered traffic := Runs.ordered runs (ordered_start store)
  -- The sender of a message comes before it.
  induction index using Nat.strongRecOn generalizing job with
  | ind index induction =>
      rcases runs.source found with
        ⟨earlier, _, admitted, _⟩ | ⟨sender, member, sent⟩
      · exact ⟨index, job, earlier, found, admitted, .refl⟩
      · obtain ⟨position, senderFound⟩ := List.getElem?_of_mem member
        obtain ⟨root, origin, earlier, rootFound, admitted, causes⟩ :=
          induction position (ordered position sender index senderFound sent)
            senderFound
        exact ⟨root, origin, earlier, rootFound, admitted,
          causes.tail ⟨sender, senderFound, sent⟩⟩

/-- No message has two senders. -/
def SentOnce (traffic : Traffic Msg Store Env Failure Call Reply Err α) :
    Prop :=
  ∀ (first second : Nat) (one other : Job Msg Env Failure Call Reply Err α)
    (child : Nat), traffic.jobs[first]? = some one →
      traffic.jobs[second]? = some other → child ∈ one.sent →
        child ∈ other.sent → first = second

theorem SentOnce.step (once : SentOnce traffic)
    (traced : ∀ job ∈ traffic.jobs, network.Traced traffic job)
    (step : network.Steps admits traffic later) : SentOnce later := by
  have present : ∀ {index child : Nat}
      {job : Job Msg Env Failure Call Reply Err α},
      traffic.jobs[index]? = some job → child ∈ job.sent →
        child < traffic.jobs.length := by
    intro index child job found sent
    obtain ⟨_, _, _, ⟨other, otherFound, _⟩, _⟩ :=
      (traced job (List.mem_of_getElem? found)).mem_sent sent
    exact (List.getElem?_eq_some_iff.mp otherFound).1
  obtain ⟨position, senders⟩ := step.sender
  intro first second one other child oneFound otherFound oneSent otherSent
  rcases senders first one child oneFound oneSent with
    ⟨old, oldFound, early⟩ | ⟨isNext, isFirst, _⟩
  · rcases senders second other child otherFound otherSent with
      ⟨older, olderFound, earlier⟩ | ⟨rfl, _, _⟩
    · exact once first second old older child oldFound olderFound early earlier
    · exact absurd (present oldFound early) (Nat.lt_irrefl _)
  · rcases senders second other child otherFound otherSent with
      ⟨older, olderFound, earlier⟩ | ⟨_, isSecond, _⟩
    · rw [isNext] at earlier
      exact absurd (present olderFound earlier) (Nat.lt_irrefl _)
    · rw [isFirst, isSecond]

theorem Runs.sentOnce {store : Store}
    (runs : network.Runs admits (.start store) traffic) : SentOnce traffic := by
  induction runs with
  | refl =>
      intro first second one other child oneFound
      cases oneFound
  | tail runs step induction =>
      exact induction.step (Runs.traced traced_start runs) step

/-- A message is caused by one message that nobody has sent. -/
theorem SentOnce.cause_unique (once : SentOnce traffic) {first second : Nat}
    (firstUnsent : ∀ job ∈ traffic.jobs, first ∉ job.sent)
    (secondUnsent : ∀ job ∈ traffic.jobs, second ∉ job.sent) {index : Nat}
    (causes : traffic.Causes first index)
    (other : traffic.Causes second index) : first = second := by
  induction causes with
  | refl =>
      rcases Relation.ReflTransGen.cases_tail other with
        same | ⟨_, _, job, found, sent⟩
      · exact same
      · exact absurd sent (firstUnsent job (List.mem_of_getElem? found))
  | @tail sender index _ sends induction =>
      obtain ⟨job, found, sent⟩ := sends
      rcases Relation.ReflTransGen.cases_tail other with
        rfl | ⟨again, early, sibling, siblingFound, siblingSent⟩
      · exact absurd sent (secondUnsent job (List.mem_of_getElem? found))
      · have same :=
          once sender again job sibling index found siblingFound sent
            siblingSent
        rw [← same] at early
        exact induction early

end Network

end Cinema.Interleaving
