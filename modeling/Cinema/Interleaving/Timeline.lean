import Cinema.Interleaving.RelyGuarantee

/-!
# Stores that remember their past

Statements about "some moment between two events" need the intermediate
stores.  A timeline keeps them: recording a service changes none of its
answers, it only appends the store left by each call.
-/

namespace Cinema.Interleaving

/-- The present store and the earlier ones, oldest first. -/
structure Timeline (Store : Type) where
  past : List Store
  now : Store

namespace Timeline

variable {Store : Type}

def stores (timeline : Timeline Store) : List Store :=
  timeline.past ++ [timeline.now]

def push (timeline : Timeline Store) (next : Store) : Timeline Store :=
  ⟨timeline.past ++ [timeline.now], next⟩

def begin (store : Store) : Timeline Store := ⟨[], store⟩

/-- `later` continues `earlier`. -/
def Continues (earlier later : Timeline Store) : Prop :=
  earlier.stores <+: later.stores

/-- The stores that were current at some moment from `arrival` to the
present of `timeline`, both included. -/
def since (arrival timeline : Timeline Store) : List Store :=
  timeline.stores.drop arrival.past.length

@[simp] theorem push_now (timeline : Timeline Store) (next : Store) :
    (timeline.push next).now = next := rfl

@[simp] theorem push_stores (timeline : Timeline Store) (next : Store) :
    (timeline.push next).stores = timeline.stores ++ [next] := rfl

theorem Continues.refl (timeline : Timeline Store) :
    timeline.Continues timeline := List.prefix_refl _

theorem Continues.trans {first second third : Timeline Store}
    (earlier : first.Continues second) (later : second.Continues third) :
    first.Continues third := List.IsPrefix.trans earlier later

theorem continues_push (timeline : Timeline Store) (next : Store) :
    timeline.Continues (timeline.push next) := List.prefix_append _ _

private theorem past_lt_stores (timeline : Timeline Store) :
    timeline.past.length < timeline.stores.length := by
  simp [stores]

/-- The present is one of the moments since any earlier arrival. -/
theorem now_mem_since {arrival timeline : Timeline Store}
    (continues : arrival.Continues timeline) :
    timeline.now ∈ arrival.since timeline := by
  have shorter : arrival.past.length < timeline.stores.length :=
    Nat.lt_of_lt_of_le (past_lt_stores arrival) continues.length_le
  have lastDropped : (arrival.since timeline).getLast?
      = timeline.stores.getLast? := by
    simp [since, List.getLast?_drop, Nat.not_le.mpr shorter]
  have last : timeline.stores.getLast? = some timeline.now := by
    simp [stores]
  exact List.mem_of_getLast? (lastDropped.trans last)

/-- A moment stays a moment of every continuation. -/
theorem since_mono {arrival before after : Timeline Store} {store : Store}
    (continues : before.Continues after)
    (member : store ∈ arrival.since before) :
    store ∈ arrival.since after := by
  obtain ⟨suffix, equality⟩ := continues
  unfold since at member ⊢
  rw [← equality, List.drop_append]
  exact List.mem_append_left _ member

end Timeline

namespace Service

variable {Req Store Env Call : Type} {Reply : Call → Type} {Err α : Type}

/-- The same service, over a store that remembers its past. -/
def recorded (service : Service Req Store Env Call Reply Err α) :
    Service Req (Timeline Store) Env Call Reply Err α where
  handler := service.handler
  exec env call timeline :=
    ((service.exec env call timeline.now).1,
      timeline.push (service.exec env call timeline.now).2)

variable (service : Service Req Store Env Call Reply Err α)

@[simp] theorem recorded_handler (request : Req) :
    service.recorded.handler request = service.handler request := rfl

@[simp] theorem recorded_reply (env : Env) (call : Call)
    (timeline : Timeline Store) :
    (service.recorded.exec env call timeline).1 =
      (service.exec env call timeline.now).1 := rfl

@[simp] theorem recorded_store (env : Env) (call : Call)
    (timeline : Timeline Store) :
    (service.recorded.exec env call timeline).2 =
      timeline.push (service.exec env call timeline.now).2 := rfl

end Service

/-! ## Every run can be recorded -/

section Lift

variable {Req Store Env Call : Type} {Reply : Call → Type} {Err α : Type}

/-- The same conduct, which only looks at the present. -/
def Conduct.recorded (conduct : Conduct Req Store Env Call) :
    Conduct Req (Timeline Store) Env Call where
  admits := conduct.admits
  performs request env call timeline :=
    conduct.performs request env call timeline.now

def Thread.present (thread : Thread Req (Timeline Store) Call Reply Err α) :
    Thread Req Store Call Reply Err α :=
  ⟨thread.request, thread.arrival.now, thread.program⟩

/-- Forget the past. -/
def Pool.present (pool : Pool Req (Timeline Store) Call Reply Err α) :
    Pool Req Store Call Reply Err α :=
  ⟨pool.store.now, pool.threads.map Thread.present, pool.finished⟩

variable {service : Service Req Store Env Call Reply Err α}
  {conduct : Conduct Req Store Env Call}

theorem Service.Steps.lift
    {recorded : Pool Req (Timeline Store) Call Reply Err α}
    {later : Pool Req Store Call Reply Err α}
    (step : service.Steps conduct recorded.present later) :
    ∃ next, service.recorded.Steps conduct.recorded recorded next ∧
      next.present = later := by
  generalize same : recorded.present = pool at step
  cases step with
  | arrive request admitted =>
      refine ⟨recorded.arrive service.recorded request,
        .arrive request admitted, ?_⟩
      rw [← same]
      simp [Pool.present, Pool.arrive, Thread.present]
  | perform index thread env call next found pending allowed =>
      subst same
      obtain ⟨original, originalFound, rfl⟩ : ∃ original,
          recorded.threads[index]? = some original ∧
            original.present = thread := by
        simpa [Pool.present] using found
      exact ⟨recorded.perform service.recorded index original env call next,
        .perform index original env call next originalFound pending allowed,
        by simp [Pool.present, Pool.perform, Thread.present, List.map_set]⟩

/-- Every run is what a recorded run looks like without its past. -/
theorem Service.Runs.lift {store : Store}
    {pool : Pool Req Store Call Reply Err α}
    (runs : service.Runs conduct (.start store) pool) :
    ∃ recorded : Pool Req (Timeline Store) Call Reply Err α,
      service.recorded.Runs conduct.recorded (.start (.begin store)) recorded ∧
        recorded.present = pool := by
  induction runs with
  | refl => exact ⟨.start (.begin store), .refl _, rfl⟩
  | tail _ step ih =>
      obtain ⟨recorded, recordedRuns, same⟩ := ih
      rw [← same] at step
      obtain ⟨next, recordedStep, nextSame⟩ := step.lift
      exact ⟨next, recordedRuns.step recordedStep, nextSame⟩

/-- The same from a later state on. -/
theorem Service.Runs.liftFrom
    {recorded : Pool Req (Timeline Store) Call Reply Err α}
    {later : Pool Req Store Call Reply Err α}
    (runs : service.Runs conduct recorded.present later) :
    ∃ next, service.recorded.Runs conduct.recorded recorded next ∧
      next.present = later := by
  induction runs with
  | refl => exact ⟨recorded, .refl _, rfl⟩
  | tail _ step ih =>
      obtain ⟨middle, middleRuns, same⟩ := ih
      rw [← same] at step
      obtain ⟨next, recordedStep, nextSame⟩ := step.lift
      exact ⟨next, middleRuns.step recordedStep, nextSame⟩

end Lift

end Cinema.Interleaving
