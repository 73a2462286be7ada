import Cinema.Interleaving.Pool

/-!
# Thread-modular reasoning

A `Protocol` says what a request may do to the store in one call (its
guarantee), what it tolerates from the calls of others (the rely), and what
holds when it is answered.  `Meets` checks one program against it call by
call.  If every handler meets the protocol and every guarantee is tolerated,
then every interleaving keeps the invariant, every step is within the
guarantee of the request that performed it, and every answer satisfies the
post-condition.
-/

namespace Cinema.Interleaving

structure Protocol (Req Store Env Call Err α : Type) where
  conduct : Conduct Req Store Env Call
  inv : Store → Prop
  rely : Store → Store → Prop
  /-- Request, store on its arrival, store before and store after a call. -/
  guarantee : Req → Store → Store → Store → Prop
  /-- Request, store on its arrival, outcome and store at any later time. -/
  post : Req → Store → Except Err α → Store → Prop

namespace Protocol

variable {Req Store Env Call : Type} {Reply : Call → Type} {Err α : Type}

def Ends (protocol : Protocol Req Store Env Call Err α) (request : Req)
    (arrival : Store) (outcome : Except Err α) (store : Store) : Prop :=
  ∀ later, protocol.rely store later → protocol.inv later →
    protocol.post request arrival outcome later

/-- The rest of a handler keeps the protocol from `store` on, whatever the
other requests do between its calls. -/
def Meets (protocol : Protocol Req Store Env Call Err α)
    (exec : Env → (call : Call) → Store → Except Err (Reply call) × Store)
    (request : Req) (arrival : Store) :
    Program Call Reply Err α → Store → Prop
  | .done value, store => protocol.Ends request arrival (.ok value) store
  | .fail error, store => protocol.Ends request arrival (.error error) store
  | .call call next, store =>
      ∀ now, protocol.rely store now → protocol.inv now →
        ∀ env, protocol.conduct.performs request env call now →
          protocol.guarantee request arrival now (exec env call now).2 ∧
          (∀ reply, (exec env call now).1 = .ok reply →
            Meets protocol exec request arrival (next reply)
              (exec env call now).2) ∧
          (∀ error, (exec env call now).1 = .error error →
            protocol.Ends request arrival (.error error)
              (exec env call now).2)

/-- The proof obligations of a protocol for a service. -/
structure Sound (protocol : Protocol Req Store Env Call Err α)
    (service : Service Req Store Env Call Reply Err α) : Prop where
  refl : ∀ store, protocol.rely store store
  trans : ∀ {first second third}, protocol.rely first second →
    protocol.rely second third → protocol.rely first third
  keeps : ∀ {request arrival before after}, protocol.inv before →
    protocol.guarantee request arrival before after → protocol.inv after
  tolerated : ∀ {request arrival before after}, protocol.inv before →
    protocol.guarantee request arrival before after →
      protocol.rely before after
  handlers : ∀ request store, protocol.conduct.admits request →
    protocol.inv store →
      protocol.Meets service.exec request store (service.handler request) store

/-- Every thread of the pool still keeps the protocol. -/
structure Coherent (protocol : Protocol Req Store Env Call Err α)
    (service : Service Req Store Env Call Reply Err α)
    (pool : Pool Req Store Call Reply Err α) : Prop where
  inv : protocol.inv pool.store
  since : ∀ thread ∈ pool.threads, protocol.rely thread.arrival pool.store
  meets : ∀ thread ∈ pool.threads,
    protocol.Meets service.exec thread.request thread.arrival thread.program
      pool.store

variable {protocol : Protocol Req Store Env Call Err α}
  {service : Service Req Store Env Call Reply Err α}
  {pool later : Pool Req Store Call Reply Err α}

theorem Ends.stable (sound : protocol.Sound service) {request : Req}
    {arrival : Store} {outcome : Except Err α} {before after : Store}
    (ends : protocol.Ends request arrival outcome before)
    (between : protocol.rely before after) :
    protocol.Ends request arrival outcome after := fun last onward =>
  ends last (sound.trans between onward)

theorem Meets.stable (sound : protocol.Sound service) {request : Req}
    {arrival before after : Store} {program : Program Call Reply Err α}
    (meets : protocol.Meets service.exec request arrival program before)
    (between : protocol.rely before after) :
    protocol.Meets service.exec request arrival program after := by
  cases program with
  | done value => exact Ends.stable sound meets between
  | fail error => exact Ends.stable sound meets between
  | call call next =>
      intro now onward
      exact meets now (sound.trans between onward)

theorem Meets.resume {request : Req} {arrival store : Store} {env : Env}
    {call : Call} {next : Reply call → Program Call Reply Err α}
    (replied : ∀ reply, (service.exec env call store).1 = .ok reply →
      protocol.Meets service.exec request arrival (next reply)
        (service.exec env call store).2)
    (failed : ∀ error, (service.exec env call store).1 = .error error →
      protocol.Ends request arrival (.error error)
        (service.exec env call store).2) :
    protocol.Meets service.exec request arrival
      (.resume next (service.exec env call store).1)
      (service.exec env call store).2 := by
  cases result : (service.exec env call store).1 with
  | ok reply => exact replied reply result
  | error error => exact failed error result

/-- What the thread that performs a call guarantees about this call. -/
theorem Coherent.guarantee (sound : protocol.Sound service)
    (coherent : protocol.Coherent service pool)
    {index : Nat} {thread : Thread Req Store Call Reply Err α} (env : Env)
    {call : Call} {next : Reply call → Program Call Reply Err α}
    (found : pool.threads[index]? = some thread)
    (pending : thread.program = .call call next)
    (allowed : protocol.conduct.performs thread.request env call pool.store) :
    protocol.guarantee thread.request thread.arrival pool.store
      (service.exec env call pool.store).2 := by
  have meets := coherent.meets thread (List.mem_of_getElem? found)
  rw [pending] at meets
  exact (meets pool.store (sound.refl _) coherent.inv env allowed).1

theorem Coherent.step (sound : protocol.Sound service)
    (coherent : protocol.Coherent service pool)
    (step : service.Steps protocol.conduct pool later) :
    protocol.Coherent service later := by
  cases step with
  | arrive request admitted =>
      refine ⟨coherent.inv, ?_, ?_⟩
      · intro thread member
        rcases List.mem_append.mp member with old | new
        · exact coherent.since thread old
        · rw [List.mem_singleton.mp new]
          exact sound.refl _
      · intro thread member
        rcases List.mem_append.mp member with old | new
        · exact coherent.meets thread old
        · rw [List.mem_singleton.mp new]
          exact sound.handlers request pool.store admitted coherent.inv
  | perform index thread env call next found pending allowed =>
      have member := List.mem_of_getElem? found
      have meets := coherent.meets thread member
      rw [pending] at meets
      obtain ⟨guaranteed, replied, failed⟩ :=
        meets pool.store (sound.refl _) coherent.inv env allowed
      have tolerated := sound.tolerated coherent.inv guaranteed
      refine ⟨sound.keeps coherent.inv guaranteed, ?_, ?_⟩
      · intro other otherMember
        rcases Service.mem_perform_threads otherMember with old | rfl
        · exact sound.trans (coherent.since other old) tolerated
        · exact sound.trans (coherent.since thread member) tolerated
      · intro other otherMember
        rcases Service.mem_perform_threads otherMember with old | rfl
        · exact (coherent.meets other old).stable sound tolerated
        · exact Meets.resume replied failed

/-- The invariant rule for runs. -/
theorem Coherent.run (sound : protocol.Sound service)
    (runs : service.Runs protocol.conduct pool later)
    (coherent : protocol.Coherent service pool) :
    protocol.Coherent service later :=
  runs.preserves (protocol.Coherent service)
    (fun holds step => holds.step sound step) coherent

theorem coherent_start {store : Store} (initial : protocol.inv store) :
    protocol.Coherent service (.start store) :=
  ⟨initial, by simp [Pool.start], by simp [Pool.start]⟩

/-- What every step of a coherent pool does to the store. -/
theorem Coherent.step_store (sound : protocol.Sound service)
    (coherent : protocol.Coherent service pool)
    (step : service.Steps protocol.conduct pool later) :
    later.store = pool.store ∨ ∃ thread,
      service.PerformedBy pool later thread ∧
        protocol.guarantee thread.request thread.arrival pool.store
          later.store := by
  cases step with
  | arrive request admitted => exact .inl rfl
  | perform index thread env call next found pending allowed =>
      exact .inr ⟨thread, ⟨index, env, call, next, found, pending, rfl⟩,
        coherent.guarantee sound env found pending allowed⟩

/-- Between two states of a run the store changes only as the rely allows. -/
theorem Coherent.rely_of_runs (sound : protocol.Sound service)
    (coherent : protocol.Coherent service pool)
    (runs : service.Runs protocol.conduct pool later) :
    protocol.rely pool.store later.store := by
  have both := runs.preserves (fun state =>
      protocol.Coherent service state ∧
        protocol.rely pool.store state.store)
    (fun {before after} holds step => by
      refine ⟨holds.1.step sound step, ?_⟩
      rcases holds.1.step_store sound step with same | ⟨_, _, guaranteed⟩
      · rw [same]
        exact holds.2
      · exact sound.trans holds.2 (sound.tolerated holds.1.inv guaranteed))
    ⟨coherent, sound.refl _⟩
  exact both.2

/-- The post-condition of every answered request. -/
theorem Coherent.answered (sound : protocol.Sound service)
    (coherent : protocol.Coherent service pool)
    {thread : Thread Req Store Call Reply Err α}
    (member : thread ∈ pool.threads) {outcome : Except Err α}
    (answer : thread.program.outcome = some outcome) :
    protocol.post thread.request thread.arrival outcome pool.store := by
  have meets := coherent.meets thread member
  cases program : thread.program with
  | done value =>
      rw [program] at meets answer
      cases answer
      exact meets _ (sound.refl _) coherent.inv
  | fail error =>
      rw [program] at meets answer
      cases answer
      exact meets _ (sound.refl _) coherent.inv
  | call call next =>
      rw [program] at answer
      cases answer

/-- A program whose calls all keep the guarantee, and whose answer nobody
asks about, meets the protocol. -/
theorem meets_of_uses {allowed : Call → Prop} {request : Req}
    {arrival : Store} {exec}
    (guarantee : ∀ call, allowed call → ∀ env now, protocol.inv now →
      protocol.conduct.performs request env call now →
        protocol.guarantee request arrival now (exec env call now).2)
    (post : ∀ outcome store, protocol.post request arrival outcome store) :
    ∀ {program : Program Call Reply Err α} {store : Store},
      program.Uses allowed →
        protocol.Meets exec request arrival program store
  | .done _, _, _ => fun later _ _ => post _ later
  | .fail _, _, _ => fun later _ _ => post _ later
  | .call call _, _, uses => fun now _ inv env performs =>
      ⟨guarantee call uses.1 env now inv performs,
        fun reply _ => meets_of_uses guarantee post (uses.2 reply),
        fun _ _ later _ _ => post _ later⟩

end Protocol

end Cinema.Interleaving
