import Cinema.Interleaving.Program
import Mathlib.Logic.Relation
import Mathlib.Data.List.Basic

/-!
# Interleaved requests over one store

A pool holds the store and every request that has arrived, each with what is
left of its handler.  One step either lets a new request arrive or performs
the pending call of one request.  Nothing else changes the store, so a
schedule is exactly an order of calls.
-/

namespace Cinema.Interleaving

/-- What answers requests: their handlers and the effect of one call on the
store in a given environment (clock, random values, failures). -/
structure Service (Req Store Env Call : Type) (Reply : Call → Type)
    (Err α : Type) where
  handler : Req → Program Call Reply Err α
  exec : Env → (request : Call) → Store → Except Err (Reply request) × Store

/-- A request with the store it found on arrival and the rest of its
handler. -/
structure Thread (Req Store Call : Type) (Reply : Call → Type)
    (Err α : Type) where
  request : Req
  arrival : Store
  program : Program Call Reply Err α

/-- `finished` lists the requests in the order in which they were answered. -/
structure Pool (Req Store Call : Type) (Reply : Call → Type)
    (Err α : Type) where
  store : Store
  threads : List (Thread Req Store Call Reply Err α)
  finished : List Nat

/-- Which requests may arrive and which calls may be performed when.  The
conditions look only at the request and at the store before the call. -/
structure Conduct (Req Store Env Call : Type) where
  admits : Req → Prop
  performs : Req → Env → Call → Store → Prop

namespace Conduct

variable {Req Store Env Call : Type}

/-- Every request and every schedule. -/
def any : Conduct Req Store Env Call where
  admits _ := True
  performs _ _ _ _ := True

end Conduct

variable {Req Store Env Call : Type} {Reply : Call → Type} {Err α : Type}

namespace Pool

/-- No request has arrived yet. -/
def start (store : Store) : Pool Req Store Call Reply Err α :=
  ⟨store, [], []⟩

def noteFinished (finished : List Nat) (index : Nat)
    (program : Program Call Reply Err α) : List Nat :=
  if program.outcome.isSome then finished ++ [index] else finished

def arrive (service : Service Req Store Env Call Reply Err α)
    (pool : Pool Req Store Call Reply Err α) (request : Req) :
    Pool Req Store Call Reply Err α where
  store := pool.store
  threads := pool.threads ++ [⟨request, pool.store, service.handler request⟩]
  finished := noteFinished pool.finished pool.threads.length
    (service.handler request)

def perform (service : Service Req Store Env Call Reply Err α)
    (pool : Pool Req Store Call Reply Err α) (index : Nat)
    (thread : Thread Req Store Call Reply Err α) (env : Env) (call : Call)
    (next : Reply call → Program Call Reply Err α) :
    Pool Req Store Call Reply Err α where
  store := (service.exec env call pool.store).2
  threads := pool.threads.set index
    { thread with
      program := .resume next (service.exec env call pool.store).1 }
  finished := noteFinished pool.finished index
    (.resume next (service.exec env call pool.store).1)

end Pool

namespace Service

/-- One step of an interleaving. -/
inductive Steps (service : Service Req Store Env Call Reply Err α)
    (conduct : Conduct Req Store Env Call) :
    Pool Req Store Call Reply Err α → Pool Req Store Call Reply Err α → Prop
    where
  | arrive {pool} (request : Req) (admitted : conduct.admits request) :
      Steps service conduct pool (pool.arrive service request)
  | perform {pool} (index : Nat)
      (thread : Thread Req Store Call Reply Err α) (env : Env) (call : Call)
      (next : Reply call → Program Call Reply Err α)
      (found : pool.threads[index]? = some thread)
      (pending : thread.program = .call call next)
      (allowed : conduct.performs thread.request env call pool.store) :
      Steps service conduct pool
        (pool.perform service index thread env call next)

/-- The step from `pool` to `later` is a call of `thread`. -/
def PerformedBy (service : Service Req Store Env Call Reply Err α)
    (pool later : Pool Req Store Call Reply Err α)
    (thread : Thread Req Store Call Reply Err α) : Prop :=
  ∃ (index : Nat) (env : Env) (call : Call)
    (next : Reply call → Program Call Reply Err α),
    pool.threads[index]? = some thread ∧ thread.program = .call call next ∧
      later = pool.perform service index thread env call next

/-- Any number of steps. -/
def Runs (service : Service Req Store Env Call Reply Err α)
    (conduct : Conduct Req Store Env Call) :
    Pool Req Store Call Reply Err α → Pool Req Store Call Reply Err α → Prop :=
  Relation.ReflTransGen (service.Steps conduct)

variable {service : Service Req Store Env Call Reply Err α}
  {conduct : Conduct Req Store Env Call}
  {pool later : Pool Req Store Call Reply Err α}

theorem Runs.refl (pool : Pool Req Store Call Reply Err α) :
    service.Runs conduct pool pool := Relation.ReflTransGen.refl

theorem Runs.step {last : Pool Req Store Call Reply Err α}
    (runs : service.Runs conduct pool later)
    (step : service.Steps conduct later last) :
    service.Runs conduct pool last := Relation.ReflTransGen.tail runs step

/-- A property kept by every step holds at the end of every run. -/
theorem Runs.preserves (property : Pool Req Store Call Reply Err α → Prop)
    (step : ∀ {before after}, property before →
      service.Steps conduct before after → property after)
    (runs : service.Runs conduct pool later) (initial : property pool) :
    property later := by
  induction runs with
  | refl => exact initial
  | tail _ last ih => exact step ih last

/-! ## Threads along a run -/

/-- A thread of the pool after a step is an old one, the one that just
arrived, or the one that just performed its call. -/
theorem mem_perform_threads {index : Nat}
    {thread : Thread Req Store Call Reply Err α} {env : Env} {call : Call}
    {next : Reply call → Program Call Reply Err α}
    {other : Thread Req Store Call Reply Err α}
    (member : other ∈ (pool.perform service index thread env call next).threads) :
    other ∈ pool.threads ∨
      other = { thread with
        program := .resume next (service.exec env call pool.store).1 } :=
  List.mem_or_eq_of_mem_set member

/-- The thread at a position after a call. -/
theorem getElem?_perform {index position : Nat}
    {thread other : Thread Req Store Call Reply Err α} {env : Env}
    {call : Call} {next : Reply call → Program Call Reply Err α}
    (found : (pool.perform service index thread env call next).threads[position]? =
      some other) :
    (position = index ∧ other = { thread with
        program := .resume next (service.exec env call pool.store).1 }) ∨
      pool.threads[position]? = some other := by
  rw [Pool.perform] at found
  dsimp only at found
  rw [List.getElem?_set] at found
  split at found
  · rename_i same
    split at found
    · exact .inl ⟨same.symm, (Option.some.inj found).symm⟩
    · cases found
  · exact .inr found

/-- A fact about the call tree of every handler, as long as the replies are
honest, is a fact about what is left of every thread. -/
theorem Runs.every
    {honest : (call : Call) → Reply call → Prop}
    {shape : Req → (call : Call) →
      (Reply call → Program Call Reply Err α) → Prop}
    (handlers : ∀ request, conduct.admits request →
      (service.handler request).Every honest (shape request))
    (replies : ∀ env call store reply,
      (service.exec env call store).1 = .ok reply → honest call reply)
    (runs : service.Runs conduct pool later)
    (initial : ∀ thread ∈ pool.threads,
      thread.program.Every honest (shape thread.request)) :
    ∀ thread ∈ later.threads,
      thread.program.Every honest (shape thread.request) := by
  refine runs.preserves (fun pool => ∀ thread ∈ pool.threads,
    thread.program.Every honest (shape thread.request)) ?_ initial
  intro before after holds step
  cases step with
  | arrive request admitted =>
      intro thread member
      rcases List.mem_append.mp member with old | new
      · exact holds thread old
      · rw [List.mem_singleton.mp new]
        exact handlers request admitted
  | perform index thread env call next found pending allowed =>
      intro other member
      have everyThread := holds thread (List.mem_of_getElem? found)
      rw [pending] at everyThread
      rcases mem_perform_threads member with old | rfl
      · exact holds other old
      · exact everyThread.resume (replies env call _)

/-- An answered thread stays as it is. -/
theorem Runs.keeps_answered (runs : service.Runs conduct pool later)
    {index : Nat} {thread : Thread Req Store Call Reply Err α}
    (found : pool.threads[index]? = some thread)
    (answered : thread.program.outcome.isSome = true) :
    later.threads[index]? = some thread := by
  refine runs.preserves
    (fun pool => pool.threads[index]? = some thread) ?_ found
  intro before after found step
  have inside : index < before.threads.length :=
    (List.getElem?_eq_some_iff.mp found).1
  cases step with
  | arrive request admitted =>
      rw [← found]
      exact List.getElem?_append_left inside
  | perform position acting env call next actingFound pending allowed =>
      have other : position ≠ index := by
        intro same
        subst same
        rw [found] at actingFound
        cases actingFound
        rw [pending] at answered
        cases answered
      rw [← found]
      exact List.getElem?_set_ne other

/-- The call with which a request is answered decides its outcome. -/
theorem Runs.outcome_of_perform {index : Nat}
    {thread ended : Thread Req Store Call Reply Err α} {env : Env}
    {call : Call} {next : Reply call → Program Call Reply Err α}
    {outcome : Except Err α}
    (onward : service.Runs conduct
      (pool.perform service index thread env call next) later)
    (found : pool.threads[index]? = some thread)
    (answered : (Program.resume next
      (service.exec env call pool.store).1).outcome = some outcome)
    (last : later.threads[index]? = some ended) :
    ended.program.outcome = some outcome := by
  have inside : index < pool.threads.length :=
    (List.getElem?_eq_some_iff.mp found).1
  have kept := onward.keeps_answered (List.getElem?_set_self inside)
    (Option.isSome_iff_exists.mpr ⟨outcome, answered⟩)
  rw [last] at kept
  cases kept
  exact answered

/-! ## Playing a schedule -/

/-- A scheduling decision: a request arrives, or a thread performs its pending
call in an environment. -/
inductive Move (Req Env : Type) where
  | arrive (request : Req)
  | perform (index : Nat) (env : Env)

/-- Play one move if the two checks permit it. -/
def playMove (service : Service Req Store Env Call Reply Err α)
    (admits : Req → Bool) (performs : Req → Env → Call → Store → Bool)
    (pool : Pool Req Store Call Reply Err α) :
    Move Req Env → Option (Pool Req Store Call Reply Err α)
  | .arrive request =>
      if admits request then some (pool.arrive service request) else none
  | .perform index env =>
      match pool.threads[index]? with
      | none => none
      | some thread =>
          match thread.program with
          | .call call next =>
              if performs thread.request env call pool.store then
                some (pool.perform service index thread env call next)
              else none
          | _ => none

def play (service : Service Req Store Env Call Reply Err α)
    (admits : Req → Bool) (performs : Req → Env → Call → Store → Bool) :
    Pool Req Store Call Reply Err α → List (Move Req Env) →
      Option (Pool Req Store Call Reply Err α)
  | pool, [] => some pool
  | pool, move :: moves =>
      match service.playMove admits performs pool move with
      | none => none
      | some next => service.play admits performs next moves

theorem steps_of_playMove {admits : Req → Bool}
    {performs : Req → Env → Call → Store → Bool}
    (admitted : ∀ request, admits request = true → conduct.admits request)
    (allowed : ∀ request env call store,
      performs request env call store = true →
        conduct.performs request env call store)
    {move : Move Req Env}
    (played : service.playMove admits performs pool move = some later) :
    service.Steps conduct pool later := by
  cases move with
  | arrive request =>
      simp only [playMove] at played
      split at played
      · rename_i permitted
        cases played
        exact .arrive request (admitted request permitted)
      · cases played
  | perform index env =>
      simp only [playMove] at played
      split at played
      · cases played
      · rename_i thread found
        split at played
        · rename_i call next pending
          split at played
          · rename_i permitted
            cases played
            exact .perform index thread env call next found pending
              (allowed _ _ _ _ permitted)
          · cases played
        · cases played

/-- A schedule that plays through is a run. -/
theorem runs_of_play {admits : Req → Bool}
    {performs : Req → Env → Call → Store → Bool}
    (admitted : ∀ request, admits request = true → conduct.admits request)
    (allowed : ∀ request env call store,
      performs request env call store = true →
        conduct.performs request env call store)
    {moves : List (Move Req Env)}
    (played : service.play admits performs pool moves = some later) :
    service.Runs conduct pool later := by
  induction moves generalizing pool with
  | nil =>
      cases played
      exact .refl _
  | cons move moves ih =>
      simp only [play] at played
      split at played
      · cases played
      · rename_i next first
        exact Relation.ReflTransGen.head
          (steps_of_playMove admitted allowed first) (ih played)

/-! Without any condition. -/

def playMoveFreely (service : Service Req Store Env Call Reply Err α) :
    Pool Req Store Call Reply Err α → Move Req Env →
      Option (Pool Req Store Call Reply Err α) :=
  service.playMove (fun _ => true) (fun _ _ _ _ => true)

def playFreely (service : Service Req Store Env Call Reply Err α) :
    Pool Req Store Call Reply Err α → List (Move Req Env) →
      Option (Pool Req Store Call Reply Err α) :=
  service.play (fun _ => true) (fun _ _ _ _ => true)

theorem steps_of_playMoveFreely {move : Move Req Env}
    (played : service.playMoveFreely pool move = some later) :
    service.Steps .any pool later :=
  steps_of_playMove (fun _ _ => trivial) (fun _ _ _ _ _ => trivial) played

theorem runs_of_playFreely {moves : List (Move Req Env)}
    (played : service.playFreely pool moves = some later) :
    service.Runs .any pool later :=
  runs_of_play (fun _ _ => trivial) (fun _ _ _ _ _ => trivial) played

end Service

end Cinema.Interleaving
