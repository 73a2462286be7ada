import Cinema.Interleaving.Remote
import Mathlib.Data.List.Forall2

/-!
# Two runs of the same schedule

A coupling relates the stores, the calls and the errors of two networks.  If
every pair of related calls keeps the stores related, two runs that play the
same schedule stay related: they send the same messages, and every job ends in
both or in neither, with the same answer or with related errors.
-/

namespace Cinema.Interleaving

variable {Msg Store Env Failure Call : Type} {Reply : Call → Type}
  {Err α : Type}

/-- What corresponds to what in two runs. -/
structure Coupling (Store Env Call : Type) (Reply : Call → Type)
    (Err : Type) where
  stores : Store → Store → Prop
  envs : Env → Env → Prop
  calls : Call → Call → Prop
  replies : (left right : Call) → Reply left → Reply right → Prop
  errors : Err → Err → Prop

namespace Coupling

section Relations

variable (coupling : Coupling Store Env Call Reply Err)

def Results {left right : Call} :
    Except Err (Reply left) → Except Err (Reply right) → Prop
  | .ok reply, .ok other => coupling.replies left right reply other
  | .error error, .error other => coupling.errors error other
  | _, _ => False

/-- The same answer, or related errors. -/
def Outcomes : Except Err α → Except Err α → Prop
  | .ok answer, .ok other => answer = other
  | .error error, .error other => coupling.errors error other
  | _, _ => False

/-- Programs that make related calls as long as the replies are related. -/
inductive Programs : Program Call Reply Err α → Program Call Reply Err α →
    Prop where
  | done (value : α) : Programs (.done value) (.done value)
  | fail {error other : Err} (errors : coupling.errors error other) :
      Programs (.fail error) (.fail other)
  | call {left right : Call} {next : Reply left → Program Call Reply Err α}
      {onward : Reply right → Program Call Reply Err α}
      (calls : coupling.calls left right)
      (rest : ∀ reply other, coupling.replies left right reply other →
        Programs (next reply) (onward other)) :
      Programs (.call left next) (.call right onward)

/-- The program of a job, `none` while its message travels. -/
inductive Stages : Option (Program Call Reply Err α) →
    Option (Program Call Reply Err α) → Prop where
  | travelling : Stages none none
  | running {program other : Program Call Reply Err α}
      (programs : coupling.Programs program other) :
      Stages (some program) (some other)

structure Jobs (left right : Job Msg Env Failure Call Reply Err α) : Prop where
  message : left.message = right.message
  stages : coupling.Stages left.program right.program
  awaiting : left.awaiting = right.awaiting
  calls : left.calls.length = right.calls.length

structure Coupled (left right : Traffic Msg Store Env Failure Call Reply Err α) :
    Prop where
  stores : coupling.stores left.store right.store
  jobs : List.Forall₂ coupling.Jobs left.jobs right.jobs

/-- The same action, in related surroundings. -/
inductive Actions : Network.Action Env Failure → Network.Action Env Failure →
    Prop where
  | deliver : Actions .deliver .deliver
  | perform {env other : Env} (envs : coupling.envs env other) :
      Actions (.perform env) (.perform other)
  | send : Actions .send .send
  | answer : Actions .answer .answer
  | abandon (failure : Failure) : Actions (.abandon failure) (.abandon failure)

inductive Moves : Network.Move Msg Env Failure → Network.Move Msg Env Failure →
    Prop where
  | arrive (message : Msg) : Moves (.arrive message) (.arrive message)
  | act (index : Nat) {action other : Network.Action Env Failure}
      (actions : coupling.Actions action other) :
      Moves (.act index action) (.act index other)

end Relations

/-- What is assumed of the corresponding calls of two runs. -/
def Agreed (agree : Exchange Env Failure Call Reply Err →
      Exchange Env Failure Call Reply Err → Prop)
    (left right : Traffic Msg Store Env Failure Call Reply Err α) : Prop :=
  ∀ (index : Nat) (job other : Job Msg Env Failure Call Reply Err α),
    left.jobs[index]? = some job → right.jobs[index]? = some other →
      ∀ (place : Nat) (made done : Exchange Env Failure Call Reply Err),
        job.calls[place]? = some made → other.calls[place]? = some done →
          agree made done

/-- Related calls have related results, provided that they agree. -/
structure Sound (coupling : Coupling Store Env Call Reply Err)
    (left right : Network Msg Store Env Failure Call Reply Err α)
    (agree : Exchange Env Failure Call Reply Err →
      Exchange Env Failure Call Reply Err → Prop) : Prop where
  handlers : ∀ message,
    coupling.Programs (left.handler message) (right.handler message)
  remote : ∀ {call other}, coupling.calls call other →
    left.remote call = right.remote other
  receive : ∀ {call other} {outcome answer : Except Err α},
    coupling.calls call other → coupling.Outcomes outcome answer →
      coupling.Results (left.receive call outcome) (right.receive other answer)
  abandon : ∀ {call other}, coupling.calls call other → ∀ failure,
    coupling.errors (left.abandon call failure) (right.abandon other failure)
  performs : ∀ {call other env place store after},
    coupling.calls call other → left.remote call = none →
    coupling.envs env place → coupling.stores store after →
    agree ⟨call, (left.exec env call store).1, .performed env⟩
      ⟨other, (right.exec place other after).1, .performed place⟩ →
    coupling.stores (left.exec env call store).2
        (right.exec place other after).2 ∧
      coupling.Results (left.exec env call store).1
        (right.exec place other after).1

variable {coupling : Coupling Store Env Call Reply Err}
  {left right : Network Msg Store Env Failure Call Reply Err α}
  {agree : Exchange Env Failure Call Reply Err →
    Exchange Env Failure Call Reply Err → Prop}

theorem Programs.resume {call other : Call}
    {next : Reply call → Program Call Reply Err α}
    {onward : Reply other → Program Call Reply Err α}
    (rest : ∀ reply answer, coupling.replies call other reply answer →
      coupling.Programs (next reply) (onward answer))
    {result : Except Err (Reply call)} {answer : Except Err (Reply other)}
    (results : coupling.Results result answer) :
    coupling.Programs (.resume next result) (.resume onward answer) := by
  match result, answer, results with
  | .ok reply, .ok value, replies => exact rest reply value replies
  | .error error, .error failure, errors => exact .fail errors

theorem Programs.outcome {program other : Program Call Reply Err α}
    (programs : coupling.Programs program other) :
    (program.outcome = none ∧ other.outcome = none) ∨
      ∃ outcome answer, program.outcome = some outcome ∧
        other.outcome = some answer ∧ coupling.Outcomes outcome answer := by
  cases programs with
  | done value => exact .inr ⟨_, _, rfl, rfl, rfl⟩
  | fail errors => exact .inr ⟨_, _, rfl, rfl, errors⟩
  | call calls rest => exact .inl ⟨rfl, rfl⟩

/-- Corresponding jobs have both ended, or neither has. -/
theorem Jobs.outcome {job other : Job Msg Env Failure Call Reply Err α}
    (jobs : coupling.Jobs job other) :
    (job.outcome = none ∧ other.outcome = none) ∨
      ∃ outcome answer, job.outcome = some outcome ∧
        other.outcome = some answer ∧ coupling.Outcomes outcome answer := by
  obtain ⟨message, program, awaiting, calls⟩ := job
  obtain ⟨otherMessage, otherProgram, otherAwaiting, otherCalls⟩ := other
  cases jobs.stages with
  | travelling => exact .inl ⟨rfl, rfl⟩
  | running programs => exact programs.outcome

/-! ## One step -/

section Lists

variable {Item : Type} {related : Item → Item → Prop} {first second : List Item}

private theorem forall₂_getElem? (all : List.Forall₂ related first second)
    {index : Nat} {item : Item} (found : first[index]? = some item) :
    ∃ other, second[index]? = some other ∧ related item other := by
  induction all generalizing index with
  | nil => cases found
  | cons head tail induction =>
      cases index with
      | zero =>
          cases found
          exact ⟨_, rfl, head⟩
      | succ index => exact induction found

private theorem forall₂_set (all : List.Forall₂ related first second)
    {item other : Item} (new : related item other) (index : Nat) :
    List.Forall₂ related (first.set index item) (second.set index other) := by
  induction all generalizing index with
  | nil => exact .nil
  | cons head tail induction =>
      cases index with
      | zero => exact .cons new tail
      | succ index => exact .cons head (induction index)

end Lists

/-- Jobs at the same place correspond. -/
theorem Coupled.job {traffic other : Traffic Msg Store Env Failure Call Reply Err α}
    (coupled : coupling.Coupled traffic other) {index : Nat}
    {job twin : Job Msg Env Failure Call Reply Err α}
    (found : traffic.jobs[index]? = some job)
    (twinFound : other.jobs[index]? = some twin) : coupling.Jobs job twin := by
  obtain ⟨same, isSame, jobs⟩ := forall₂_getElem? coupled.jobs found
  rw [twinFound] at isSame
  cases isSame
  exact jobs

section Steps

variable {traffic other : Traffic Msg Store Env Failure Call Reply Err α}

/-- What two corresponding jobs have done is the same. -/
private structure Alike (coupling : Coupling Store Env Call Reply Err)
    (after next : Job Msg Env Failure Call Reply Err α) (store final : Store)
    (spawned sent : List (Job Msg Env Failure Call Reply Err α)) : Prop where
  stores : coupling.stores store final
  jobs : coupling.Jobs after next
  spawned : List.Forall₂ coupling.Jobs spawned sent

section Call

variable {message : Msg} {call done : Call}
  {resuming : Reply call → Program Call Reply Err α}
  {onward : Reply done → Program Call Reply Err α} {awaiting : Option Nat}
  {calls twinCalls : List (Exchange Env Failure Call Reply Err)}
  {after next : Job Msg Env Failure Call Reply Err α} {store final : Store}
  {spawned sent : List (Job Msg Env Failure Call Reply Err α)}

private theorem Sound.act_perform (sound : coupling.Sound left right agree)
    (coupled : coupling.Coupled traffic other)
    (related : coupling.calls call done)
    (rest : ∀ reply answer, coupling.replies call done reply answer →
      coupling.Programs (resuming reply) (onward answer))
    (sameLength : calls.length = twinCalls.length) {env place : Env}
    (envs : coupling.envs env place)
    (acts : left.act traffic
      ⟨message, some (.call call resuming), awaiting, calls⟩ (.perform env) =
        some (after, store, spawned))
    (follows : right.act other
      ⟨message, some (.call done onward), awaiting, twinCalls⟩
        (.perform place) = some (next, final, sent))
    (agreed : ∀ (place : Nat) (made done : Exchange Env Failure Call Reply Err),
      after.calls[place]? = some made → next.calls[place]? = some done →
        agree made done) :
    Alike coupling after next store final spawned sent := by
  have sameRemote := sound.remote related
  simp only [Network.act, sameRemote] at acts follows
  cases isRemote : right.remote done with
  | some sending =>
      rw [isRemote] at acts
      cases acts
  | none =>
      rw [isRemote] at acts follows sameRemote
      cases acts
      cases follows
      obtain ⟨stores, results⟩ := sound.performs related sameRemote envs
        coupled.stores (agreed calls.length _ _ (by simp)
          (by simp [sameLength]))
      exact ⟨stores, ⟨rfl, .running (.resume rest results), rfl,
        by simp [sameLength]⟩, .nil⟩

private theorem Sound.act_send (sound : coupling.Sound left right agree)
    (coupled : coupling.Coupled traffic other)
    (related : coupling.calls call done)
    (rest : ∀ reply answer, coupling.replies call done reply answer →
      coupling.Programs (resuming reply) (onward answer))
    (sameLength : calls.length = twinCalls.length)
    (acts : left.act traffic
      ⟨message, some (.call call resuming), awaiting, calls⟩ .send =
        some (after, store, spawned))
    (follows : right.act other
      ⟨message, some (.call done onward), awaiting, twinCalls⟩ .send =
        some (next, final, sent)) :
    Alike coupling after next store final spawned sent := by
  simp only [Network.act, sound.remote related] at acts follows
  cases isRemote : right.remote done with
  | none =>
      rw [isRemote] at acts
      cases acts
  | some sending =>
      rw [isRemote] at acts follows
      cases awaiting with
      | some child => cases acts
      | none =>
          cases acts
          cases follows
          refine ⟨coupled.stores, ⟨rfl, .running (.call related rest),
            congrArg some coupled.jobs.length_eq, sameLength⟩, .cons ?_ .nil⟩
          exact ⟨rfl, .travelling, rfl, rfl⟩

private theorem Sound.act_answer (sound : coupling.Sound left right agree)
    (coupled : coupling.Coupled traffic other)
    (related : coupling.calls call done)
    (rest : ∀ reply answer, coupling.replies call done reply answer →
      coupling.Programs (resuming reply) (onward answer))
    (sameLength : calls.length = twinCalls.length)
    (acts : left.act traffic
      ⟨message, some (.call call resuming), awaiting, calls⟩ .answer =
        some (after, store, spawned))
    (follows : right.act other
      ⟨message, some (.call done onward), awaiting, twinCalls⟩ .answer =
        some (next, final, sent)) :
    Alike coupling after next store final spawned sent := by
  cases awaiting with
  | none => cases acts
  | some child =>
      simp only [Network.act] at acts follows
      cases found : traffic.jobs[child]? with
      | none =>
          rw [found] at acts
          cases acts
      | some answering =>
          obtain ⟨answered, twinFound, jobs⟩ :=
            forall₂_getElem? coupled.jobs found
          simp only [found, twinFound, Option.bind_some] at acts follows
          rcases jobs.outcome with
            ⟨pending, _⟩ | ⟨outcome, answer, ends, twinEnds, same⟩
          · rw [pending] at acts
            cases acts
          · rw [ends] at acts
            rw [twinEnds] at follows
            cases acts
            cases follows
            exact ⟨coupled.stores, ⟨rfl, .running
              (.resume rest (sound.receive related same)), rfl,
              by simp [sameLength]⟩, .nil⟩

private theorem Sound.act_abandon (sound : coupling.Sound left right agree)
    (coupled : coupling.Coupled traffic other)
    (related : coupling.calls call done)
    (sameLength : calls.length = twinCalls.length) {failure : Failure}
    (acts : left.act traffic
      ⟨message, some (.call call resuming), awaiting, calls⟩
        (.abandon failure) = some (after, store, spawned))
    (follows : right.act other
      ⟨message, some (.call done onward), awaiting, twinCalls⟩
        (.abandon failure) = some (next, final, sent)) :
    Alike coupling after next store final spawned sent := by
  simp only [Network.act, sound.remote related] at acts follows
  cases isRemote : right.remote done with
  | none =>
      rw [isRemote] at acts
      cases acts
  | some sending =>
      rw [isRemote] at acts follows
      cases acts
      cases follows
      exact ⟨coupled.stores, ⟨rfl,
        .running (.fail (sound.abandon related failure)), rfl,
        by simp [sameLength]⟩, .nil⟩

end Call

/-- Two corresponding jobs do the same. -/
private theorem Sound.act (sound : coupling.Sound left right agree)
    (coupled : coupling.Coupled traffic other)
    {job twin after next : Job Msg Env Failure Call Reply Err α}
    (jobs : coupling.Jobs job twin) {action same : Network.Action Env Failure}
    (actions : coupling.Actions action same) {store final : Store}
    {spawned sent : List (Job Msg Env Failure Call Reply Err α)}
    (acts : left.act traffic job action = some (after, store, spawned))
    (follows : right.act other twin same = some (next, final, sent))
    (agreed : ∀ (place : Nat) (made done : Exchange Env Failure Call Reply Err),
      after.calls[place]? = some made → next.calls[place]? = some done →
        agree made done) :
    Alike coupling after next store final spawned sent := by
  obtain ⟨message, program, awaiting, calls⟩ := job
  obtain ⟨twinMessage, twinProgram, twinAwaiting, twinCalls⟩ := twin
  obtain ⟨sameMessage, stages, sameAwaiting, sameLength⟩ := jobs
  simp only at sameMessage stages sameAwaiting sameLength
  subst sameMessage sameAwaiting
  cases stages with
  | travelling =>
      cases actions with
      | deliver =>
          cases acts
          cases follows
          exact ⟨coupled.stores,
            ⟨rfl, .running (sound.handlers message), rfl, sameLength⟩, .nil⟩
      | perform envs => cases acts
      | send => cases acts
      | answer => cases acts
      | abandon failure => cases acts
  | running programs =>
      cases programs with
      | done value => cases actions <;> cases acts
      | fail errors => cases actions <;> cases acts
      | call related rest =>
          cases actions with
          | deliver => cases acts
          | perform envs =>
              exact sound.act_perform coupled related rest sameLength envs acts
                follows agreed
          | send =>
              exact sound.act_send coupled related rest sameLength acts follows
          | answer =>
              exact sound.act_answer coupled related rest sameLength acts
                follows
          | abandon failure =>
              exact sound.act_abandon coupled related sameLength acts follows

variable {later final : Traffic Msg Store Env Failure Call Reply Err α}

private theorem getElem?_of_continues {Item : Type} {first second : List Item}
    (onward : first <+: second) {index : Nat} {item : Item}
    (found : first[index]? = some item) : second[index]? = some item := by
  obtain ⟨rest, rfl⟩ := onward
  rw [List.getElem?_append_left (List.getElem?_eq_some_iff.mp found).1]
  exact found

/-- The calls of a job are still there later. -/
theorem Agreed.earlier (agreed : Agreed agree later final)
    (onward : traffic.Extends later) (follows : other.Extends final) :
    Agreed agree traffic other := by
  intro index job twin found twinFound place made done isMade isDone
  obtain ⟨last, lastFound, continues⟩ := onward index job found
  obtain ⟨twinLast, twinLastFound, twinContinues⟩ :=
    follows index twin twinFound
  exact agreed index last twinLast lastFound twinLastFound place made done
    (getElem?_of_continues continues.calls isMade)
    (getElem?_of_continues twinContinues.calls isDone)

private theorem getElem?_acted {jobs : List (Job Msg Env Failure Call Reply Err α)}
    {index : Nat} {job : Job Msg Env Failure Call Reply Err α}
    (found : jobs[index]? = some job)
    (after : Job Msg Env Failure Call Reply Err α)
    (spawned : List (Job Msg Env Failure Call Reply Err α)) :
    (jobs.set index after ++ spawned)[index]? = some after := by
  have inside : index < jobs.length := (List.getElem?_eq_some_iff.mp found).1
  rw [List.getElem?_append_left (by simpa using inside)]
  exact List.getElem?_set_self inside

variable {permits : Traffic Msg Store Env Failure Call Reply Err α → Msg → Bool}

private theorem Sound.playMove (sound : coupling.Sound left right agree)
    (coupled : coupling.Coupled traffic other)
    {move same : Network.Move Msg Env Failure}
    (moves : coupling.Moves move same)
    (played : left.playMove permits traffic move = some later)
    (follows : right.playMove permits other same = some final)
    (agreed : Agreed agree later final) : coupling.Coupled later final := by
  cases moves with
  | arrive message =>
      simp only [Network.playMove] at played follows
      split at played
      · split at follows
        · cases played
          cases follows
          refine ⟨coupled.stores, List.rel_append coupled.jobs (.cons ?_ .nil)⟩
          exact ⟨rfl, .travelling, rfl, rfl⟩
        · cases follows
      · cases played
  | @act index action twinAction actions =>
      simp only [Network.playMove] at played follows
      cases found : traffic.jobs[index]? with
      | none =>
          rw [found] at played
          cases played
      | some job =>
          obtain ⟨twin, twinFound, jobs⟩ := forall₂_getElem? coupled.jobs found
          rw [found] at played
          rw [twinFound] at follows
          obtain ⟨⟨after, store, spawned⟩, acts, rfl⟩ :=
            Option.map_eq_some_iff.mp played
          obtain ⟨⟨next, last, sent⟩, twinActs, rfl⟩ :=
            Option.map_eq_some_iff.mp follows
          have alike := sound.act coupled jobs actions acts twinActs
            (agreed index after next (getElem?_acted found after spawned)
              (getElem?_acted twinFound next sent))
          exact ⟨alike.stores, List.rel_append
            (forall₂_set coupled.jobs alike.jobs index) alike.spawned⟩

/-- Two runs that play the same schedule stay related. -/
theorem Sound.play (sound : coupling.Sound left right agree)
    {moves twins : List (Network.Move Msg Env Failure)}
    (same : List.Forall₂ coupling.Moves moves twins)
    (coupled : coupling.Coupled traffic other)
    (played : left.play permits traffic moves = some later)
    (follows : right.play permits other twins = some final)
    (agreed : Agreed agree later final) : coupling.Coupled later final := by
  have anyone : ∀ traffic message, permits traffic message = true →
      (fun (_ : Traffic Msg Store Env Failure Call Reply Err α) (_ : Msg) =>
        True) traffic message := fun _ _ _ => trivial
  induction same generalizing traffic other with
  | nil =>
      cases played
      cases follows
      exact coupled
  | cons head tail induction =>
      obtain ⟨next, first, rest⟩ := Option.bind_eq_some_iff.mp played
      obtain ⟨twin, twinFirst, twinRest⟩ := Option.bind_eq_some_iff.mp follows
      have between : Agreed agree next twin := agreed.earlier
        (Network.runs_of_play anyone rest).extends
        (Network.runs_of_play anyone twinRest).extends
      exact induction (sound.playMove coupled head first twinFirst between) rest
        twinRest

end Steps

end Coupling

end Cinema.Interleaving
