import Cinema.Catalog.Handlers

/-!
# Deletions are final

An update reads the movie and saves it some calls later.  If the movie is
deleted in between, the save inserts its entity as a new movie: the sequence
gives it an id of its own, so an id that was deleted is never seen again.
-/

namespace Cinema.Catalog

open Interleaving Relational Shared Orders Backend

/-- What a valid request to delete a movie asks for. -/
def deleteDto (validator : Validator) : Message → Option IdPayload
  | .catalog .DELETE_MOVIE payload =>
      (IdPayload.validate validator payload).toOption
  | _ => none

theorem deleteDto_eq_some {validator : Validator} {request : Message}
    {dto : IdPayload} (asks : deleteDto validator request = some dto) :
    ∃ payload, request = .catalog .DELETE_MOVIE payload ∧
      IdPayload.validate validator payload = .ok dto := by
  unfold deleteDto at asks
  split at asks
  · rename_i payload
    exact ⟨payload, rfl, toOption_eq_some.mp asks⟩
  · cases asks

/-- A request to delete the movie has succeeded. -/
def Deleted (validator : Validator) (id : ℤ)
    (pool : Pool Message Databases BackendCall BackendReply Thrown Answer) :
    Prop :=
  ∃ thread ∈ pool.threads, ∃ dto answer,
    deleteDto validator thread.request = some dto ∧ dto.id = id ∧
      thread.program.outcome = some (.ok answer)

/-- The reply to a call shows a movie with this id. -/
def Observes (id : ℤ) : (call : BackendCall) → BackendReply call → Prop
  | .movies (.select _ _), rows => ∃ row ∈ rows, row.id.val = id
  | .findOneMovie _, movie => movie.id = some id
  | _, _ => False

/-- Whatever anybody reads from the catalog, no movie with this id is seen. -/
def Unseen (validator : Validator) (id : ℤ) (databases : Databases) : Prop :=
  ∀ surroundings call reply,
    (Backend.exec validator surroundings call databases).1 = .ok reply →
      ¬ Observes id call reply

variable {validator : Validator} {arithmetic : Arithmetic}
  {granularity : Granularity} {id : ℤ}

/-! ## The protocol -/

/-- The protocol of deletions: ids are handed out once. -/
private def deletions (validator : Validator) :
    Protocol Message Databases Surroundings BackendCall Thrown Answer where
  conduct := .any
  inv databases := databases.movies.Fresh
  rely before after := before.movies.nextId ≤ after.movies.nextId ∧
    ∀ id < before.movies.nextId, ¬ before.movies.Has id → ¬ after.movies.Has id
  guarantee _ _ before after := after.movies.Fresh ∧
    before.movies.nextId ≤ after.movies.nextId ∧
    ∀ id < before.movies.nextId, ¬ before.movies.Has id → ¬ after.movies.Has id
  post request _ outcome later := ∀ payload dto answer,
    request = .catalog .DELETE_MOVIE payload →
    IdPayload.validate validator payload = .ok dto → outcome = .ok answer →
      dto.id < later.movies.nextId ∧ ¬ later.movies.Has dto.id

/-- No call brings an id back. -/
private theorem guarantee_exec {surroundings : Surroundings}
    {call : BackendCall} {databases : Databases}
    (fresh : databases.movies.Fresh) :
    (exec validator surroundings call databases).2.movies.Fresh ∧
      databases.movies.nextId ≤
        (exec validator surroundings call databases).2.movies.nextId ∧
      ∀ id < databases.movies.nextId, ¬ databases.movies.Has id →
        ¬ (exec validator surroundings call databases).2.movies.Has id := by
  have same : databases.movies.Fresh ∧
      databases.movies.nextId ≤ databases.movies.nextId ∧
      ∀ id < databases.movies.nextId, ¬ databases.movies.Has id →
        ¬ databases.movies.Has id := ⟨fresh, le_rfl, fun _ _ absent => absent⟩
  cases call with
  | movies statement =>
      cases fault : surroundings.fault with
      | some thrown =>
          rw [exec_faulty_movies fault]
          exact same
      | none =>
          rw [exec_movies fault]
          have effect := movieSchema.exec_effect surroundings.now statement
            databases.movies
          refine ⟨effect.fresh fresh, effect.nextId, ?_⟩
          intro id passed absent
          exact effect.retired passed absent
  | orders statement =>
      cases fault : surroundings.fault with
      | some thrown =>
          rw [exec_faulty_orders fault]
          exact same
      | none =>
          rw [exec_orders fault]
          exact same
  | findOneMovie payload => exact same

/-- A request that deletes nothing has nothing to show. -/
private theorem meets_other {request : Message} {arrival store : Databases}
    (other : ∀ payload, request ≠ .catalog .DELETE_MOVIE payload)
    (program : Program BackendCall BackendReply Thrown Answer) :
    (deletions validator).Meets (exec validator) request arrival program
      store := by
  have uses : program.Uses fun _ => True := Program.uses_of_forall
    (fun _ => trivial) program
  refine Protocol.meets_of_uses ?_ ?_ uses
  · intro call _ surroundings now fresh _
    exact guarantee_exec fresh
  · intro outcome later payload dto answer isDelete
    exact absurd isDelete (other payload)

private theorem meets_remove {payload : Json} {arrival store : Databases} :
    (deletions validator).Meets (exec validator)
      (.catalog .DELETE_MOVIE payload) arrival
      (handle validator arithmetic granularity
        (.catalog .DELETE_MOVIE payload)) store := by
  have ends_error : ∀ {thrown : Thrown} {databases : Databases},
      (deletions validator).Ends (.catalog .DELETE_MOVIE payload) arrival
        (.error thrown) databases := by
    intro thrown databases later _ _ payload dto answer _ _ isOk
    cases isOk
  cases valid : IdPayload.validate validator payload with
  | error thrown =>
      rw [handle_refused (.catalog .DELETE_MOVIE _) valid]
      exact ends_error
  | ok dto =>
      rw [handle_remove valid]
      intro now _ fresh surroundings _
      refine ⟨guarantee_exec fresh, ?_, fun _ _ => ends_error⟩
      intro affected replied
      by_cases nothing : affected = 0
      · simp only [if_pos nothing]
        exact ends_error
      · simp only [if_neg nothing]
        obtain ⟨deletes, after⟩ := exec_movies_eq_ok replied
        obtain ⟨erased, counted⟩ := movieSchema.exec_delete_eq_ok deletes
        have has : now.movies.Has dto.id := by
          by_contra absent
          rw [if_neg absent] at counted
          exact nothing counted
        have passed : dto.id < now.movies.nextId := fresh.lt_of_has has
        rw [after, erased]
        intro later onward _ payload' other answer isDelete otherValid _
        cases isDelete
        rw [valid] at otherValid
        cases otherValid
        refine ⟨lt_of_lt_of_le passed onward.1, ?_⟩
        exact onward.2 dto.id passed Table.not_has_erase

private theorem deletions_sound :
    (deletions validator).Sound (backend validator arithmetic granularity) where
  refl store := ⟨le_rfl, fun _ _ absent => absent⟩
  trans first second := by
    refine ⟨first.1.trans second.1, ?_⟩
    intro id passed absent
    apply second.2 id (lt_of_lt_of_le passed first.1)
    exact first.2 id passed absent
  keeps _ guaranteed := guaranteed.1
  tolerated _ guaranteed := guaranteed.2
  handlers request store _ _ := by
    by_cases isDelete : ∃ payload, request = .catalog .DELETE_MOVIE payload
    · obtain ⟨payload, rfl⟩ := isDelete
      exact @meets_remove validator arithmetic granularity payload store store
    · apply meets_other
      intro payload same
      exact isDelete ⟨payload, same⟩

/-- A row that is not there is not seen. -/
theorem unseen_of_not_has {databases : Databases}
    (absent : ¬ databases.movies.Has id) : Unseen validator id databases := by
  intro surroundings call reply executed observes
  apply absent
  cases call with
  | movies statement =>
      cases statement with
      | select parameters condition =>
          obtain ⟨row, member, isRow⟩ := observes
          rw [exec_select_eq_ok executed] at member
          exact ⟨row, (List.mem_filter.mp member).1, isRow⟩
      | _ => cases observes
  | orders statement => cases observes
  | findOneMovie payload =>
      obtain ⟨dto, row, _, read, rfl⟩ := findOneMovie_reads executed
      obtain ⟨member, _⟩ := Table.find?_eq_some.mp read
      exact ⟨row, member, Option.some.inj observes⟩

/-- Whatever runs at the same time, a movie that a request has deleted is
never seen again. -/
theorem deletion_final {initial : Databases} (fresh : initial.movies.Fresh)
    {pool later : Pool Message Databases BackendCall BackendReply Thrown Answer}
    (runs : (backend validator arithmetic granularity).Runs .any
      (.start initial) pool)
    (deleted : Deleted validator id pool)
    (onward : (backend validator arithmetic granularity).Runs .any pool
      later) :
    Unseen validator id later.store := by
  have sound : (deletions validator).Sound
      (backend validator arithmetic granularity) := deletions_sound
  have coherent := (Protocol.coherent_start fresh).run sound runs
  obtain ⟨thread, member, dto, answer, asks, rfl, done⟩ := deleted
  obtain ⟨payload, isDelete, valid⟩ := deleteDto_eq_some asks
  have gone := coherent.answered sound member done payload dto answer isDelete
    valid rfl
  apply unseen_of_not_has
  exact (coherent.rely_of_runs sound onward).2 dto.id gone.1 gone.2

private def extendMessage : Message :=
  .catalog .UPDATE_MOVIE (.obj [("id", .num 1),
    ("changes", .obj [("durationMinutes", .num 118)])])

private def deleteMessage : Message :=
  .catalog .DELETE_MOVIE (.obj [("id", .num 1)])

/-- The check of a pool that implies `Deleted`. -/
private def deletes
    (pool : Pool Message Databases BackendCall BackendReply Thrown Answer) :
    Bool :=
  pool.threads.any fun thread =>
    (deleteDto .plain thread.request).any (fun dto => dto.id = 1) &&
      thread.program.outcome.any Except.toBool

private theorem deleted_of_deletes
    {pool : Pool Message Databases BackendCall BackendReply Thrown Answer}
    (checked : deletes pool = true) : Deleted .plain 1 pool := by
  obtain ⟨thread, member, both⟩ := List.any_eq_true.mp checked
  obtain ⟨asks, succeeds⟩ := Bool.and_eq_true_iff.mp both
  obtain ⟨dto, isDto, isMovie⟩ := (Option.any_eq_true _ _).mp asks
  obtain ⟨outcome, isOutcome, isOk⟩ := (Option.any_eq_true _ _).mp succeeds
  cases outcome with
  | error thrown => cases isOk
  | ok answer =>
      exact ⟨thread, member, dto, answer, isDto, of_decide_eq_true isMovie,
        isOutcome⟩

/-- An update reads the movie, the deletion succeeds, and the update saves what
it has read: its movie is stored, under another id. -/
theorem deletion_final_example :
    ∃ later : Pool Message Databases BackendCall BackendReply Thrown Answer,
      later.finished = [1, 0] ∧ Unseen .plain 1 later.store ∧
        ∃ row ∈ later.store.movies.rows, row.id.val = 2 := by
  let service := backend .plain .exact .atomicSave
  have played : ((service.playFreely (.start sampleDatabases)
      [.arrive extendMessage, .arrive deleteMessage, .perform 0 (calm 1),
        .perform 1 (calm 2)]).any fun pool => deletes pool &&
      (service.playFreely pool [.perform 0 (calm 3)]).any fun later =>
        decide (later.finished = [1, 0]) &&
          later.store.movies.rows.any fun row => row.id.val = 2) = true := by
    decide +kernel
  obtain ⟨pool, reached, both⟩ := (Option.any_eq_true _ _).mp played
  obtain ⟨deleted, continues⟩ := Bool.and_eq_true_iff.mp both
  obtain ⟨later, onward, both⟩ := (Option.any_eq_true _ _).mp continues
  obtain ⟨finished, inserted⟩ := Bool.and_eq_true_iff.mp both
  obtain ⟨row, member, isNew⟩ := List.any_eq_true.mp inserted
  have fresh : sampleDatabases.movies.Fresh := by
    intro row member
    rw [List.mem_singleton.mp member]
    decide
  refine ⟨later, of_decide_eq_true finished, ?_, row, member,
    of_decide_eq_true isNew⟩
  exact deletion_final fresh (Service.runs_of_playFreely reached)
    (deleted_of_deletes deleted) (Service.runs_of_playFreely onward)

end Cinema.Catalog
