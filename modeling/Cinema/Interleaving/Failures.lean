import Cinema.Interleaving.Remote

/-!
# What messages fail with

A handler fails with errors of its own and with those of its calls, and an
error that a service reports comes back to the caller as the error of a call.
If every handler keeps to the errors that its message allows, given that its
calls do, then so does every job of every run.
-/

namespace Cinema.Interleaving

variable {Msg Store Env Failure Call : Type} {Reply : Call → Type}
  {Err α : Type}

namespace Program

variable {program rest : Program Call Reply Err α}
  {history : List (Exchange Env Failure Call Reply Err)}

theorem Reaches.throws {fails : Call → Err → Prop} {fine : Err → Prop}
    (reached : Reaches program history rest)
    (throws : program.Throws fails fine)
    (failed : ∀ exchange ∈ history, ∀ error,
      exchange.result = .error error → fails exchange.call error) :
    rest.Throws fails fine := by
  induction reached with
  | start => exact throws
  | @next history call continuation reached result means induction =>
      have before := induction fun exchange made =>
        failed exchange (List.mem_append_left _ made)
      exact before.resume fun error isError =>
        failed ⟨call, result, means⟩ (by simp) error isError

theorem Reaches.failed (reached : Reaches program history rest)
    {exchange : Exchange Env Failure Call Reply Err} (made : exchange ∈ history)
    {error : Err} (isError : exchange.result = .error error) :
    rest = .fail error := by
  induction reached with
  | start => cases made
  | @next history call continuation reached result means induction =>
      rcases List.mem_append.mp made with early | last
      · cases induction early
      · obtain rfl := List.mem_singleton.mp last
        change result = .error error at isError
        rw [isError, resume_error]

end Program

namespace Network

variable {network : Network Msg Store Env Failure Call Reply Err α}
  {admits : Traffic Msg Store Env Failure Call Reply Err α → Msg → Prop}
  {traffic later : Traffic Msg Store Env Failure Call Reply Err α}

/-- `fails` are the errors of a call and `fine` those of a message, as long as
the surroundings are `sane` and the store keeps `inv`. -/
structure Confines (network : Network Msg Store Env Failure Call Reply Err α)
    (inv : Store → Prop) (sane : Env → Prop) (fails : Call → Err → Prop)
    (fine : Msg → Err → Prop) : Prop where
  handlers : ∀ message,
    (network.handler message).Throws fails (fine message)
  performs : ∀ {env store call error}, inv store → sane env →
    network.remote call = none →
    (network.exec env call store).1 = .error error → fails call error
  receives : ∀ {call message outcome error},
    network.remote call = some message →
    (∀ thrown, outcome = .error thrown → fine message thrown) →
    network.receive call outcome = .error error → fails call error
  abandons : ∀ {call message failure}, network.remote call = some message →
    fails call (network.abandon call failure)

/-- All calls have been performed in sane surroundings. -/
def Undisturbed (sane : Env → Prop)
    (traffic : Traffic Msg Store Env Failure Call Reply Err α) : Prop :=
  ∀ job ∈ traffic.jobs, ∀ exchange ∈ job.calls, ∀ env,
    exchange.means = .performed env → sane env

/-- What is left of the handlers keeps to the errors of the messages. -/
def Confined (fails : Call → Err → Prop) (fine : Msg → Err → Prop)
    (traffic : Traffic Msg Store Env Failure Call Reply Err α) : Prop :=
  ∀ job ∈ traffic.jobs, ∀ program, job.program = some program →
    program.Throws fails (fine job.message)

section Confined

variable {inv : Store → Prop} {sane : Env → Prop} {fails : Call → Err → Prop}
  {fine : Msg → Err → Prop}

theorem Undisturbed.before (undisturbed : Undisturbed sane later)
    (onward : traffic.Extends later) : Undisturbed sane traffic := by
  intro job member exchange made
  obtain ⟨index, found⟩ := List.mem_iff_getElem?.mp member
  obtain ⟨after, afterFound, continues⟩ := onward index job found
  exact undisturbed after (List.mem_of_getElem? afterFound) exchange
    (continues.calls.subset made)

theorem Confined.outcome (confined : Confined fails fine traffic)
    {job : Job Msg Env Failure Call Reply Err α} (member : job ∈ traffic.jobs)
    {error : Err} (ends : job.outcome = some (.error error)) :
    fine job.message error := by
  obtain ⟨program, isProgram, failed⟩ := Job.outcome_eq_some.mp ends
  have throws := confined job member program isProgram
  cases program with
  | done value => cases failed
  | fail other =>
      cases failed
      exact throws
  | call call next => cases failed

theorem Confined.step (confines : network.Confines inv sane fails fine)
    (confined : Confined fails fine traffic)
    (traced : ∀ job ∈ traffic.jobs, network.Traced traffic job)
    (keeps : inv traffic.store)
    (step : network.Steps admits traffic later)
    (undisturbed : Undisturbed sane later) : Confined fails fine later := by
  intro other among
  have fresh : ∀ message program,
      (.travelling message : Job Msg Env Failure Call Reply Err α).program =
        some program → program.Throws fails (fine message) := by
    intro message program pending
    cases pending
  cases step with
  | arrive message admitted =>
      rcases List.mem_append.mp among with old | new
      · exact confined other old
      · obtain rfl := List.mem_singleton.mp new
        exact fresh message
  | @advance job after store spawned index found step =>
      have member := List.mem_of_getElem? found
      have isSane := undisturbed other among
      rcases mem_advance step among with old | rfl | ⟨message, rfl⟩
      · exact confined other old
      · intro program pending
        cases step with
        | deliver travels =>
            cases pending
            exact confines.handlers job.message
        | perform env call next waits isLocal =>
            cases pending
            apply (confined job member _ waits).resume
            intro error failed
            have envSane := isSane ⟨call,
              (network.exec env call traffic.store).1, .performed env⟩
              (by simp) env rfl
            exact confines.performs keeps envSane isLocal failed
        | send call next message waits isRemote unsent =>
            exact confined job member program pending
        | answer call next child asked outcome waits isChild childFound
            answered =>
            cases pending
            obtain ⟨message, isRemote, carrier, carrierFound, carries⟩ :=
              (traced job member).carries isChild waits
            rw [childFound] at carrierFound
            cases carrierFound
            apply (confined job member _ waits).resume
            intro error failed
            refine confines.receives isRemote ?_ failed
            intro thrown isThrown
            subst isThrown
            rw [← carries]
            exact confined.outcome (List.mem_of_getElem? childFound) answered
        | abandon call next message failure waits isRemote =>
            cases pending
            exact (confined job member _ waits).1 _ (confines.abandons isRemote)
      · exact fresh message

/-- Whatever a job of a run has failed with, its message allows it. -/
theorem Runs.confined (confines : network.Confines inv sane fails fine)
    {store : Store}
    (keeps : ∀ {middle}, network.Runs admits (.start store) middle →
      inv middle.store)
    (runs : network.Runs admits (.start store) traffic)
    (undisturbed : Undisturbed sane traffic) :
    Confined fails fine traffic := by
  induction runs with
  | refl =>
      intro job member
      cases member
  | tail runs step induction =>
      exact (induction (undisturbed.before step.extends)).step confines
        (Runs.traced traced_start runs) (keeps runs) step undisturbed

end Confined

end Network

end Cinema.Interleaving
