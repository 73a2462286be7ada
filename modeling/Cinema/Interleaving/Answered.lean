import Cinema.Interleaving.Pool

/-!
# The order of the answers

A pool notes every request when it is answered.  An answered request does
nothing more, so the list of answered requests only grows at its end.
-/

namespace Cinema.Interleaving

variable {Req Store Env Call : Type} {Reply : Call → Type} {Err α : Type}

namespace Pool

/-- The answered requests, in the order of their answers. -/
def answered (pool : Pool Req Store Call Reply Err α) :
    List (Thread Req Store Call Reply Err α) :=
  pool.finished.filterMap fun index => pool.threads[index]?

/-- The requests noted as finished are answered. -/
def Settled (pool : Pool Req Store Call Reply Err α) : Prop :=
  ∀ index ∈ pool.finished, ∃ thread,
    pool.threads[index]? = some thread ∧ thread.program.outcome.isSome = true

variable {service : Service Req Store Env Call Reply Err α}
  {pool : Pool Req Store Call Reply Err α}

theorem mem_noteFinished {finished : List Nat} {index other : Nat}
    {program : Program Call Reply Err α} :
    other ∈ noteFinished finished index program ↔
      other ∈ finished ∨ (other = index ∧ program.outcome.isSome = true) := by
  unfold noteFinished
  by_cases ends : program.outcome.isSome = true
  · simp [ends]
  · simp [ends]

/-- A step that leaves the finished requests as they are and may finish one
more. -/
private theorem answered_noteFinished
    {threads : List (Thread Req Store Call Reply Err α)} {index : Nat}
    (thread : Thread Req Store Call Reply Err α)
    (found : threads[index]? = some thread)
    (same : ∀ other ∈ pool.finished, threads[other]? = pool.threads[other]?) :
    (noteFinished pool.finished index thread.program).filterMap
        (fun other => threads[other]?) =
      pool.answered ++
        if thread.program.outcome.isSome then [thread] else [] := by
  have before : pool.finished.filterMap (fun other => threads[other]?) =
      pool.answered := List.filterMap_congr same
  unfold noteFinished
  by_cases ends : thread.program.outcome.isSome = true
  · rw [if_pos ends, if_pos ends, List.filterMap_append, before]
    simp [found]
  · rw [if_neg ends, if_neg ends, before, List.append_nil]

theorem answered_arrive (service : Service Req Store Env Call Reply Err α)
    (settled : pool.Settled) (request : Req) :
    (pool.arrive service request).answered = pool.answered ++
      if (service.handler request).outcome.isSome then
        [⟨request, pool.store, service.handler request⟩]
      else [] := by
  apply answered_noteFinished
    ⟨request, pool.store, service.handler request⟩
  · simp [arrive]
  · intro other member
    obtain ⟨thread, found, _⟩ := settled other member
    have old : other < pool.threads.length :=
      (List.getElem?_eq_some_iff.mp found).1
    exact List.getElem?_append_left old

variable {index : Nat} {thread : Thread Req Store Call Reply Err α}
  {call : Call} {next : Reply call → Program Call Reply Err α}

/-- A request with a pending call is not finished. -/
private theorem Settled.ne_pending (settled : pool.Settled)
    (found : pool.threads[index]? = some thread)
    (pending : thread.program = .call call next) {other : Nat}
    (member : other ∈ pool.finished) : index ≠ other := by
  intro same
  subst same
  obtain ⟨finishedThread, isFinished, ends⟩ := settled index member
  rw [found] at isFinished
  cases isFinished
  rw [pending] at ends
  cases ends

theorem answered_perform (service : Service Req Store Env Call Reply Err α)
    (settled : pool.Settled)
    (found : pool.threads[index]? = some thread)
    (pending : thread.program = .call call next) (env : Env) :
    (pool.perform service index thread env call next).answered =
      pool.answered ++
        if (Program.resume next
            (service.exec env call pool.store).1).outcome.isSome then
          [{ thread with
            program := .resume next (service.exec env call pool.store).1 }]
        else [] := by
  apply answered_noteFinished { thread with
    program := .resume next (service.exec env call pool.store).1 }
  · have inside : index < pool.threads.length :=
      (List.getElem?_eq_some_iff.mp found).1
    exact List.getElem?_set_self inside
  · intro other member
    exact List.getElem?_set_ne (settled.ne_pending found pending member)

theorem Settled.arrive (settled : pool.Settled) (request : Req) :
    (pool.arrive service request).Settled := by
  intro other member
  rcases mem_noteFinished.mp member with old | ⟨rfl, ends⟩
  · obtain ⟨thread, found, ends⟩ := settled other old
    have inside : other < pool.threads.length :=
      (List.getElem?_eq_some_iff.mp found).1
    refine ⟨thread, ?_, ends⟩
    rw [← found]
    exact List.getElem?_append_left inside
  · refine ⟨⟨request, pool.store, service.handler request⟩, ?_, ends⟩
    simp [Pool.arrive]

theorem Settled.perform (settled : pool.Settled)
    (found : pool.threads[index]? = some thread)
    (pending : thread.program = .call call next) (env : Env) :
    (pool.perform service index thread env call next).Settled := by
  have inside : index < pool.threads.length :=
    (List.getElem?_eq_some_iff.mp found).1
  intro other member
  rcases mem_noteFinished.mp member with old | ⟨rfl, ends⟩
  · obtain ⟨finishedThread, isFinished, ends⟩ := settled other old
    refine ⟨finishedThread, ?_, ends⟩
    rw [← isFinished]
    exact List.getElem?_set_ne (settled.ne_pending found pending old)
  · refine ⟨{ thread with
      program := .resume next (service.exec env call pool.store).1 }, ?_, ends⟩
    simp [Pool.perform, inside]

end Pool

namespace Service

variable {service : Service Req Store Env Call Reply Err α}
  {conduct : Conduct Req Store Env Call}
  {pool later : Pool Req Store Call Reply Err α}

theorem Runs.settled (runs : service.Runs conduct pool later)
    (initial : pool.Settled) : later.Settled := by
  apply runs.preserves (fun pool => pool.Settled) _ initial
  intro before after settled step
  cases step with
  | arrive request admitted => exact settled.arrive request
  | perform index thread env call next found pending allowed =>
      exact settled.perform found pending env

theorem settled_start {store : Store} :
    (Pool.start store : Pool Req Store Call Reply Err α).Settled := by
  intro index member
  cases member

end Service

end Cinema.Interleaving
