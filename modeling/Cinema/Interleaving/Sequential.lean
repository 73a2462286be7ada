import Cinema.Interleaving.Remote

/-!
# One message at a time

`Alone` is the evaluation of a handler that nobody interrupts: a message it
sends is served to its end before the handler goes on.  `Surely` says that the
handler ends and that every way of ending satisfies a condition; what is shown
of it this way happens in a run of the services.
-/

namespace Cinema.Interleaving

variable {Msg Store Env Failure Call : Type} {Reply : Call → Type}
  {Err α : Type}

namespace Network

section Alone

variable (network : Network Msg Store Env Failure Call Reply Err α)
  (calm : Env → Prop)

/-- `Alone program store outcome final`: in calm surroundings the program ends
with the outcome and leaves the final store. -/
inductive Alone : Program Call Reply Err α → Store → Except Err α → Store →
    Prop where
  | done (value : α) (store : Store) : Alone (.done value) store (.ok value) store
  | fail (error : Err) (store : Store) :
      Alone (.fail error) store (.error error) store
  | performed {call : Call} {next : Reply call → Program Call Reply Err α}
      {store final : Store} {outcome : Except Err α} (env : Env)
      (isCalm : calm env) (isLocal : network.remote call = none)
      (rest : Alone (.resume next (network.exec env call store).1)
        (network.exec env call store).2 outcome final) :
      Alone (.call call next) store outcome final
  | answered {call : Call} {next : Reply call → Program Call Reply Err α}
      {store middle final : Store} {answer outcome : Except Err α}
      {message : Msg} (isRemote : network.remote call = some message)
      (served : Alone (network.handler message) store answer middle)
      (rest : Alone (.resume next (network.receive call answer)) middle outcome
        final) :
      Alone (.call call next) store outcome final

/-- The program ends, and only in ways that satisfy the condition. -/
def Surely (program : Program Call Reply Err α) (store : Store)
    (condition : Except Err α → Store → Prop) : Prop :=
  (∃ outcome final, network.Alone calm program store outcome final) ∧
    ∀ outcome final, network.Alone calm program store outcome final →
      condition outcome final

end Alone

variable {network : Network Msg Store Env Failure Call Reply Err α}
  {admits : Traffic Msg Store Env Failure Call Reply Err α → Msg → Prop}
  {calm : Env → Prop} {store : Store}
  {condition : Except Err α → Store → Prop}

/-! ## Rules -/

theorem surely_done {value : α} (holds : condition (.ok value) store) :
    network.Surely calm (.done value) store condition := by
  refine ⟨⟨_, _, .done value store⟩, ?_⟩
  intro outcome final alone
  cases alone
  exact holds

theorem surely_fail {error : Err} (holds : condition (.error error) store) :
    network.Surely calm (.fail error) store condition := by
  refine ⟨⟨_, _, .fail error store⟩, ?_⟩
  intro outcome final alone
  cases alone
  exact holds

/-- A local call: whatever the surroundings contribute to it. -/
theorem surely_perform {call : Call}
    {next : Reply call → Program Call Reply Err α}
    (isLocal : network.remote call = none) (possible : ∃ env, calm env)
    (rest : ∀ env, calm env →
      network.Surely calm (.resume next (network.exec env call store).1)
        (network.exec env call store).2 condition) :
    network.Surely calm (.call call next) store condition := by
  constructor
  · obtain ⟨env, isCalm⟩ := possible
    obtain ⟨⟨outcome, final, onward⟩, _⟩ := rest env isCalm
    exact ⟨outcome, final, .performed env isCalm isLocal onward⟩
  · intro outcome final alone
    cases alone with
    | performed env isCalm _ onward =>
        exact (rest env isCalm).2 outcome final onward
    | answered isRemote served onward =>
        rw [isLocal] at isRemote
        cases isRemote

/-- A remote call: the message is served first. -/
theorem surely_send {call : Call}
    {next : Reply call → Program Call Reply Err α} {message : Msg}
    {between : Except Err α → Store → Prop}
    (isRemote : network.remote call = some message)
    (served : network.Surely calm (network.handler message) store between)
    (rest : ∀ answer middle, between answer middle →
      network.Surely calm (.resume next (network.receive call answer)) middle
        condition) :
    network.Surely calm (.call call next) store condition := by
  constructor
  · obtain ⟨answer, middle, first⟩ := served.1
    obtain ⟨⟨outcome, final, onward⟩, _⟩ :=
      rest answer middle (served.2 answer middle first)
    exact ⟨outcome, final, .answered isRemote first onward⟩
  · intro outcome final alone
    cases alone with
    | performed env isCalm isLocal onward =>
        rw [isRemote] at isLocal
        cases isLocal
    | answered isMessage first onward =>
        rw [isRemote] at isMessage
        cases isMessage
        exact (rest _ _ (served.2 _ _ first)).2 outcome final onward

/-! ## Runs -/

private theorem steps_deliver
    {front : List (Job Msg Env Failure Call Reply Err α)} (message : Msg) :
    network.Steps admits ⟨store, front ++ [.travelling message]⟩
      ⟨store, front ++ [⟨message, some (network.handler message), none, []⟩]⟩ := by
  have delivered : network.Steps admits ⟨store, front ++ [.travelling message]⟩
      ⟨store, front ++ [⟨message, some (network.handler message), none, []⟩] ++
        []⟩ := steps_of_jobStep (.deliver rfl)
  rwa [List.append_nil] at delivered

variable (admits) in
/-- A handler that is evaluated alone is one that runs in the midst of other
jobs which happen to wait. -/
private theorem Alone.runs {program : Program Call Reply Err α}
    {outcome : Except Err α} {final : Store}
    (alone : network.Alone calm program store outcome final)
    (front back : List (Job Msg Env Failure Call Reply Err α)) (message : Msg)
    (calls : List (Exchange Env Failure Call Reply Err)) :
    ∃ (job : Job Msg Env Failure Call Reply Err α)
      (spawned : List (Job Msg Env Failure Call Reply Err α)),
      job.message = message ∧ job.outcome = some outcome ∧
        network.Runs admits
          ⟨store, front ++ ⟨message, some program, none, calls⟩ :: back⟩
          ⟨final, front ++ job :: back ++ spawned⟩ := by
  induction alone generalizing front back message calls with
  | done value store =>
      refine ⟨⟨message, some (.done value), none, calls⟩, [], rfl, rfl, ?_⟩
      rw [List.append_nil]
      exact .refl _
  | fail error store =>
      refine ⟨⟨message, some (.fail error), none, calls⟩, [], rfl, rfl, ?_⟩
      rw [List.append_nil]
      exact .refl _
  | @performed call next store final outcome env isCalm isLocal rest
      induction =>
      obtain ⟨job, spawned, isMessage, ends, onward⟩ := induction front back
        message (calls ++ [⟨call, (network.exec env call store).1,
          .performed env⟩])
      have first : network.Steps admits
          ⟨store, front ++ ⟨message, some (.call call next), none, calls⟩ ::
            back⟩
          ⟨(network.exec env call store).2, front ++ ⟨message,
            some (.resume next (network.exec env call store).1), none,
            calls ++ [⟨call, (network.exec env call store).1,
              .performed env⟩]⟩ :: back ++ []⟩ :=
        steps_of_jobStep (.perform env call next rfl isLocal)
      rw [List.append_nil] at first
      exact ⟨job, spawned, isMessage, ends,
        Relation.ReflTransGen.head first onward⟩
  | @answered call next store middle final answer outcome sent isRemote served
      rest serving resuming =>
      let asking : Job Msg Env Failure Call Reply Err α :=
        ⟨message, some (.call call next), none, calls⟩
      let waiting : Job Msg Env Failure Call Reply Err α :=
        { asking with awaiting := some (front ++ asking :: back).length }
      let resumed : Job Msg Env Failure Call Reply Err α :=
        { waiting with
          program := some (.resume next (network.receive call answer))
          awaiting := none
          calls := calls ++ [⟨call, network.receive call answer,
            .answered (front ++ asking :: back).length⟩] }
      have sends : network.Steps admits ⟨store, front ++ asking :: back⟩
          ⟨store, front ++ waiting :: back ++ [.travelling sent]⟩ :=
        steps_of_jobStep (.send call next sent rfl isRemote rfl)
      have delivers : network.Steps admits
          ⟨store, front ++ waiting :: back ++ [.travelling sent]⟩
          ⟨store, front ++ waiting :: back ++
            [⟨sent, some (network.handler sent), none, []⟩]⟩ :=
        steps_deliver sent
      obtain ⟨child, offspring, isSent, answered, serves⟩ :=
        serving (front ++ waiting :: back) [] sent []
      obtain ⟨job, spawned, isMessage, ends, onward⟩ :=
        resuming front (back ++ child :: offspring) message resumed.calls
      have shape : front ++ waiting :: back ++ [child] ++ offspring =
          front ++ waiting :: (back ++ child :: offspring) := by simp
      have found : (front ++ waiting :: (back ++ child :: offspring))[
          (front ++ asking :: back).length]? = some child := by
        have same : (front ++ asking :: back).length =
            (front ++ waiting :: back).length := by simp
        rw [← shape, List.append_assoc, same, List.getElem?_append_right (Nat.le_refl _)]
        simp
      have resumes : network.Steps admits
          ⟨middle, front ++ waiting :: (back ++ child :: offspring)⟩
          ⟨middle, front ++ resumed :: (back ++ child :: offspring) ++ []⟩ :=
        steps_of_jobStep (.answer call next _ child answer rfl rfl found answered)
      rw [List.append_nil] at resumes
      rw [shape] at serves
      refine ⟨job, child :: offspring ++ spawned, isMessage, ends, ?_⟩
      have final_shape : front ++ job :: back ++ (child :: offspring ++ spawned) =
          front ++ job :: (back ++ child :: offspring) ++ spawned := by simp
      rw [final_shape]
      exact Relation.ReflTransGen.head sends (Relation.ReflTransGen.head delivers
        (serves.trans (Relation.ReflTransGen.head resumes onward)))

/-- A message that a client sends is served to its end. -/
theorem Alone.message
    {traffic : Traffic Msg Store Env Failure Call Reply Err α} {message : Msg}
    (admitted : admits traffic message) {outcome : Except Err α}
    {final : Store}
    (alone : network.Alone calm (network.handler message) traffic.store outcome
      final) :
    ∃ (later : Traffic Msg Store Env Failure Call Reply Err α)
      (job : Job Msg Env Failure Call Reply Err α),
      network.Runs admits traffic later ∧ later.store = final ∧
        later.jobs[traffic.jobs.length]? = some job ∧
        job.message = message ∧ job.outcome = some outcome := by
  obtain ⟨job, spawned, isMessage, ends, runs⟩ :=
    alone.runs admits traffic.jobs [] message []
  have arrives : network.Steps admits traffic
      ⟨traffic.store, traffic.jobs ++ [.travelling message]⟩ :=
    .arrive message admitted
  refine ⟨_, job, Relation.ReflTransGen.head arrives
    (Relation.ReflTransGen.head (steps_deliver message) runs), rfl, ?_,
    isMessage, ends⟩
  simp

end Network

end Cinema.Interleaving
