import Cinema.Catalog.Handlers
import Cinema.Interleaving.Answered

/-!
# Whether an update can be lost

An update saves all of the movie it has read, so it also writes back the
columns it was not asked to change.  Two updates of different columns that
read the same row both succeed, and the second save undoes the first.  No
update is lost if every save finds the columns that its request leaves alone
as they were read.
-/

namespace Cinema.Catalog

open Interleaving Relational Shared Orders Backend

/-- What a valid request to update a movie asks for. -/
def updateDto (validator : Validator) :
    Message → Option (UpdateMoviePayload validator)
  | .catalog .UPDATE_MOVIE payload =>
      (UpdateMoviePayload.validate validator payload).toOption
  | _ => none

theorem updateDto_eq_some {validator : Validator} {request : Message}
    {dto : UpdateMoviePayload validator}
    (asks : updateDto validator request = some dto) :
    ∃ payload, request = .catalog .UPDATE_MOVIE payload ∧
      UpdateMoviePayload.validate validator payload = .ok dto := by
  unfold updateDto at asks
  split at asks
  · rename_i payload
    exact ⟨payload, rfl, toOption_eq_some.mp asks⟩
  · cases asks

/-- The value that a successful update of the movie gave to a column;
`some none` is `null`. -/
def given (validator : Validator) (id : ℤ) (field : MovieField)
    (thread : Thread Message Databases BackendCall BackendReply Thrown
      Answer) : Option (Option field.Value) :=
  match updateDto validator thread.request, thread.program.outcome with
  | some dto, some (.ok _) =>
      if dto.id = id then (changesGet dto.changes field).given else none
  | _, _ => none

/-- Every column holds what the last successful update that supplied it gave,
or what it held at first. -/
def NoLostUpdate (validator : Validator) (id : ℤ) (original : MovieRow)
    (pool : Pool Message Databases BackendCall BackendReply Thrown Answer) :
    Prop :=
  ∃ row, pool.store.movies.find? id = some row ∧ ∀ field,
    row.hydrate.get field =
      ((pool.answered.filterMap (given validator id field)).getLast?).getD
        (original.hydrate.get field)

/-- Nothing is deleted, and the save of an update of the movie carries, in
each column the request leaves alone, what the row still holds. -/
def NothingStale (validator : Validator) (id : ℤ) :
    Conduct Message Databases Surroundings BackendCall where
  admits request := ∀ payload, request ≠ .catalog .DELETE_MOVIE payload
  performs request _ call databases :=
    ∀ dto movie row, updateDto validator request = some dto → dto.id = id →
      call = .movies (.save id movie) →
      databases.movies.find? id = some row →
      ∀ field, changesGet dto.changes field = .undefined →
        movie.get field = row.hydrate.get field

variable {validator : Validator} {arithmetic : Arithmetic} {id : ℤ}

/-! ## Two updates at once -/

private def priceMessage : Message :=
  .catalog .UPDATE_MOVIE (.obj [("id", .num 1),
    ("changes", .obj [("ticketPrice", .num 10)])])

private def durationMessage : Message :=
  .catalog .UPDATE_MOVIE (.obj [("id", .num 1),
    ("changes", .obj [("durationMinutes", .num 118)])])

/-- Both updates read the movie before either saves it; both succeed. -/
theorem update_lost :
    ∃ pool, (backend .plain .exact .atomicSave).Runs .any
        (.start sampleDatabases) pool ∧
      (∀ thread ∈ pool.threads, ∃ dto answer,
        updateDto .plain thread.request = some dto ∧ dto.id = 1 ∧
          thread.program.outcome = some (.ok answer)) ∧
      ¬ NoLostUpdate .plain 1 sampleMovie pool := by
  have played : (((backend .plain .exact .atomicSave).playFreely
      (.start sampleDatabases)
      [.arrive priceMessage, .arrive durationMessage, .perform 0 (calm 1),
        .perform 1 (calm 2), .perform 0 (calm 3),
        .perform 1 (calm 4)]).any fun pool =>
      (pool.threads.all fun thread =>
        (updateDto .plain thread.request).any (fun dto => dto.id = 1) &&
          thread.program.outcome.any Except.toBool) &&
      (pool.store.movies.find? 1).all fun row =>
        row.hydrate.get .ticketPrice ≠
          ((pool.answered.filterMap (given .plain 1 .ticketPrice)).getLast?).getD
            (sampleMovie.hydrate.get .ticketPrice)) = true := by
    decide +kernel
  obtain ⟨pool, reached, both⟩ := (Option.any_eq_true _ _).mp played
  obtain ⟨updates, lost⟩ := Bool.and_eq_true_iff.mp both
  refine ⟨pool, Service.runs_of_playFreely reached, ?_, ?_⟩
  · intro thread member
    obtain ⟨asks, succeeds⟩ :=
      Bool.and_eq_true_iff.mp (List.all_eq_true.mp updates thread member)
    obtain ⟨dto, isDto, isMovie⟩ := (Option.any_eq_true _ _).mp asks
    obtain ⟨outcome, isOutcome, isOk⟩ := (Option.any_eq_true _ _).mp succeeds
    cases outcome with
    | error thrown => cases isOk
    | ok answer =>
        exact ⟨dto, answer, isDto, of_decide_eq_true isMovie, isOutcome⟩
  · rintro ⟨row, found, columns⟩
    rw [found] at lost
    exact of_decide_eq_true lost (columns .ticketPrice)

/-! ## What the calls of a request are -/

/-- A call of a request, with what follows it.  The request either selects
rows, or is no update, or is an update that saves its movie last. -/
private inductive CatalogStep (validator : Validator) (request : Message) :
    (call : BackendCall) →
      (BackendReply call → Program BackendCall BackendReply Thrown Answer) →
        Prop where
  | selects {parameters condition next}
      (unanswered : ∀ dto, updateDto validator request = some dto →
        ∀ rows answer, (next rows).outcome ≠ some (.ok answer)) :
      CatalogStep validator request (.movies (.select parameters condition))
        next
  | inserts {movie next} (notUpdate : updateDto validator request = none) :
      CatalogStep validator request (.movies (.insert movie)) next
  | elsewhere {call next} (notUpdate : updateDto validator request = none)
      (foreign : ∀ statement, call ≠ .movies statement) :
      CatalogStep validator request call next
  | saves {dto stale next} (asks : updateDto validator request = some dto)
      (answers : ∀ reply, ∃ answer,
        (next reply).outcome = some (.ok answer)) :
      CatalogStep validator request
        (.movies (.save dto.id (Movie.merge stale dto.changes))) next

private theorem update_steps (payload : Json) :
    (handle validator arithmetic .atomicSave
      (.catalog .UPDATE_MOVIE payload)).Every Selected
        (CatalogStep validator (.catalog .UPDATE_MOVIE payload)) := by
  cases valid : UpdateMoviePayload.validate validator payload with
  | error thrown =>
      rw [handle_refused (.catalog .UPDATE_MOVIE _) valid]
      trivial
  | ok dto =>
      have asks : updateDto validator (.catalog .UPDATE_MOVIE payload) =
          some dto := toOption_eq_some.mpr valid
      have saves : ∀ row : MovieRow, row.id.val = dto.id →
          (saveMerged .atomicSave row dto.changes).Every Selected
            (CatalogStep validator (.catalog .UPDATE_MOVIE payload)) := by
        intro row isMovie
        rw [saveMerged_atomic, isMovie]
        exact ⟨.saves asks fun reply => ⟨_, rfl⟩, fun _ _ => trivial⟩
      rw [handle_update valid]
      refine ⟨.selects ?_, ?_⟩
      · intro _ _ rows answer
        split
        · simp
        · split
          · simp
          · simp [saveMerged_atomic]
      · intro rows selected
        dsimp only
        split
        · trivial
        · rename_i row isHead
          have isMovie : row.id.val = dto.id := by
            have criteria := selected row (List.mem_of_head? isHead)
            simpa [matchesAll, movieCriteria, Criterion.integer,
              List.reduceOption] using criteria
          split
          · refine ⟨.selects ?_, ?_⟩
            · intro _ _ others answer
              split
              · simp [saveMerged_atomic]
              · simp
            · intro others _
              dsimp only
              split
              · exact saves row isMovie
              · trivial
          · exact saves row isMovie

private theorem handle_steps {request : Message}
    (kept : ∀ payload, request ≠ .catalog .DELETE_MOVIE payload) :
    (handle validator arithmetic .atomicSave request).Every Selected
      (CatalogStep validator request) := by
  cases request with
  | catalog pattern payload =>
      by_cases isUpdate : pattern = .UPDATE_MOVIE
      · rw [isUpdate]
        exact update_steps payload
      · have notDelete : pattern ≠ .DELETE_MOVIE := by
          intro same
          subst same
          exact kept payload rfl
        have notUpdate : updateDto validator (.catalog pattern payload) =
            none := by
          cases pattern with
          | UPDATE_MOVIE => exact absurd rfl isUpdate
          | _ => rfl
        have uses : (handle validator arithmetic .atomicSave
            (.catalog pattern payload)).Uses fun call =>
              (∃ parameters condition,
                call = .movies (.select parameters condition)) ∨
              ∃ movie, call = .movies (.insert movie) := by
          apply Program.Uses.map
          apply MoviesController.uses_handle_insert _ _ isUpdate notDelete
          · intro parameters condition
            exact ⟨.inl ⟨parameters, condition, rfl⟩, fun _ => trivial⟩
          · intro dto
            exact ⟨.inr ⟨Movie.create dto, rfl⟩, fun _ => trivial⟩
        apply uses.every
        intro call next isCall
        rcases isCall with ⟨parameters, condition, rfl⟩ | ⟨movie, rfl⟩
        · apply CatalogStep.selects
          intro dto asks
          rw [notUpdate] at asks
          cases asks
        · exact .inserts notUpdate
  | orders pattern payload =>
      apply (uses_orders pattern payload).every
      intro call next foreign
      exact .elsewhere rfl foreign

/-! ## Nothing stale -/

private theorem find_of_elsewhere
    {statement : SqlCall MovieRow Movie MoviePatch}
    (elsewhere : statement.target ≠ some id) {surroundings : Surroundings}
    {databases : Databases} {row : MovieRow}
    (found : databases.movies.find? id = some row) :
    (exec validator surroundings (.movies statement)
      databases).2.movies.find? id = some row := by
  cases fault : surroundings.fault with
  | some thrown =>
      rw [exec_faulty_movies fault]
      exact found
  | none =>
      rw [exec_movies fault]
      exact (movieSchema.exec_effect surroundings.now statement
        databases.movies).find? found elsewhere

/-- A call of a request that is no update of the movie leaves its row as it
is. -/
private theorem find_of_step {request : Message} {call : BackendCall}
    {next : BackendReply call → Program BackendCall BackendReply Thrown Answer}
    (step : CatalogStep validator request call next)
    (notOurs : ∀ dto, updateDto validator request = some dto → dto.id ≠ id)
    {surroundings : Surroundings} {databases : Databases} {row : MovieRow}
    (found : databases.movies.find? id = some row) :
    (exec validator surroundings call databases).2.movies.find? id =
      some row := by
  cases step with
  | selects unanswered =>
      exact find_of_elsewhere (by simp [SqlCall.target]) found
  | inserts notUpdate =>
      exact find_of_elsewhere (by simp [SqlCall.target]) found
  | elsewhere notUpdate foreign =>
      cases call with
      | movies statement => exact absurd rfl (foreign statement)
      | orders statement => exact found
      | findOneMovie payload => exact found
  | saves asks answers =>
      apply find_of_elsewhere _ found
      simpa [SqlCall.target] using notOurs _ asks

/-- The price an update leaves has at most two decimals. -/
private theorem merged_cents {dto : UpdateMoviePayload validator}
    {stale : Movie} {row : MovieRow}
    (carries : changesGet dto.changes .ticketPrice = .undefined →
      stale.get .ticketPrice = row.hydrate.get .ticketPrice)
    {price : ℚ} (isPrice : (stale.merge dto.changes).ticketPrice = some price) :
    (price * 10 ^ 2).den = 1 := by
  have assigns : assigned dto.changes.ticketPrice stale.ticketPrice =
      some price := isPrice
  cases supplied : dto.changes.ticketPrice with
  | undefined =>
      rw [supplied] at assigns
      have isRead : some row.ticketPrice.read = some price :=
        (carries supplied).symm.trans assigns
      rw [← Option.some.inj isRead, Numeric.read_mul_scale]
      exact Rat.den_intCast _
  | null =>
      rw [supplied] at assigns
      cases assigns
  | value given =>
      rw [supplied] at assigns
      cases assigns
      exact (dto.changes.ticketPriceValid price supplied).2.2

/-- The row after the save of an update that carries nothing stale. -/
private theorem saved_row {dto : UpdateMoviePayload validator} {stale : Movie}
    {surroundings : Surroundings} {databases : Databases} {row : MovieRow}
    {reply : Option MovieRow}
    (found : databases.movies.find? dto.id = some row)
    (carries : ∀ field, changesGet dto.changes field = .undefined →
      (stale.merge dto.changes).get field = row.hydrate.get field)
    (saves : (exec validator surroundings
      (.movies (.save dto.id (stale.merge dto.changes))) databases).1 =
        .ok reply) :
    ∃ written, (exec validator surroundings
        (.movies (.save dto.id (stale.merge dto.changes)))
        databases).2.movies.find? dto.id = some written ∧
      ∀ field, written.hydrate.get field =
        (changesGet dto.changes field).given.getD (row.hydrate.get field) := by
  have merged : ∀ field, (stale.merge dto.changes).get field =
      (changesGet dto.changes field).given.getD (row.hydrate.get field) := by
    intro field
    cases supplied : changesGet dto.changes field with
    | undefined => exact carries field supplied
    | null => rw [Movie.merge_get, supplied, assigned_eq]; rfl
    | value value => rw [Movie.merge_get, supplied, assigned_eq]; rfl
  have staleCarries : changesGet dto.changes .ticketPrice = .undefined →
      stale.get .ticketPrice = row.hydrate.get .ticketPrice := by
    intro absent
    have carried := carries .ticketPrice absent
    rwa [Movie.merge_get, absent] at carried
  obtain ⟨executed, after⟩ := exec_movies_eq_ok saves
  rw [after]
  rcases movieSchema.exec_save_eq_ok found executed with
    ⟨same, unchanged⟩ | ⟨patch, written, differs, built, replaced⟩
  · rw [unchanged]
    refine ⟨row, found, fun field => ?_⟩
    rw [← merged field]
    exact MovieRow.diff_eq_none same field
  · rw [replaced]
    obtain ⟨member, isMovie⟩ := Table.find?_eq_some.mp found
    have sameKey : movieSchema.key written = dto.id :=
      (movieSchema.key_build built).trans isMovie
    refine ⟨written, ?_, fun field => ?_⟩
    · rw [← sameKey]
      apply Table.find?_replace
      exact ⟨row, member, isMovie.trans sameKey.symm⟩
    · have overlaid := MovieRow.overlay_diff differs
      have stored := MovieRow.get_build built (fun price isPrice =>
        merged_cents staleCarries ((overlaid .ticketPrice).symm.trans isPrice))
        field
      rw [← merged field, stored]
      exact overlaid field

section Runs

variable {pool : Pool Message Databases BackendCall BackendReply Thrown Answer}
  {original : MovieRow}

private theorem noLostUpdate_of_silent
    {later : Pool Message Databases BackendCall BackendReply Thrown Answer}
    (holds : NoLostUpdate validator id original pool)
    (same : ∀ row, pool.store.movies.find? id = some row →
      later.store.movies.find? id = some row)
    {thread : Thread Message Databases BackendCall BackendReply Thrown Answer}
    {ends : Bool} (answered : later.answered =
      pool.answered ++ if ends then [thread] else [])
    (silent : ∀ field, given validator id field thread = none) :
    NoLostUpdate validator id original later := by
  obtain ⟨row, found, columns⟩ := holds
  refine ⟨row, same row found, fun field => ?_⟩
  have nothing : (if ends then [thread] else []).filterMap
      (given validator id field) = [] := by
    cases ends with
    | true => simp [silent field]
    | false => rfl
  rw [answered, List.filterMap_append, nothing, List.append_nil]
  exact columns field

private theorem given_of_not_ok
    {thread : Thread Message Databases BackendCall BackendReply Thrown Answer}
    (fails : ∀ answer, thread.program.outcome ≠ some (.ok answer))
    (field : MovieField) : given validator id field thread = none := by
  unfold given
  split
  · rename_i isOk
    exact absurd isOk (fails _)
  · rfl

private theorem given_of_other
    {thread : Thread Message Databases BackendCall BackendReply Thrown Answer}
    (notOurs : ∀ dto, updateDto validator thread.request = some dto →
      dto.id ≠ id) (field : MovieField) :
    given validator id field thread = none := by
  unfold given
  split
  · rename_i dto answer asks isOk
    rw [if_neg (notOurs dto asks)]
  · rfl

private theorem noLostUpdate_arrive (settled : pool.Settled)
    (holds : NoLostUpdate validator id original pool) (request : Message) :
    NoLostUpdate validator id original
      (pool.arrive (backend validator arithmetic .atomicSave) request) := by
  have answered := Pool.answered_arrive
    (backend validator arithmetic .atomicSave) settled request
  refine noLostUpdate_of_silent holds ?_ answered ?_
  · intro row isRow
    exact isRow
  intro field
  cases asks : updateDto validator request with
  | none =>
      apply given_of_other
      intro dto isDto
      cases asks.symm.trans isDto
  | some dto =>
      apply given_of_not_ok
      intro answer
      obtain ⟨payload, rfl, valid⟩ := updateDto_eq_some asks
      have pending : (handle validator arithmetic .atomicSave
          (.catalog .UPDATE_MOVIE payload)).outcome = none := by
        rw [handle_update valid]
        rfl
      intro isOk
      cases pending.symm.trans isOk

private theorem getLast?_getD_append {α : Type} (values : List α)
    (last : Option α) (initial : α) :
    (values ++ last.toList).getLast?.getD initial =
      last.getD (values.getLast?.getD initial) := by
  cases last <;> simp

variable {index : Nat}
  {thread : Thread Message Databases BackendCall BackendReply Thrown Answer}
  {surroundings : Surroundings}

private theorem noLostUpdate_save (settled : pool.Settled)
    {dto : UpdateMoviePayload validator} {stale : Movie}
    (holds : NoLostUpdate validator dto.id original pool)
    {next : Option MovieRow → Program BackendCall BackendReply Thrown Answer}
    (found : pool.threads[index]? = some thread)
    (pending : thread.program =
      .call (.movies (.save dto.id (stale.merge dto.changes))) next)
    (asks : updateDto validator thread.request = some dto)
    (answers : ∀ reply, ∃ answer, (next reply).outcome = some (.ok answer))
    (allowed : (NothingStale validator dto.id).performs thread.request
      surroundings (.movies (.save dto.id (stale.merge dto.changes)))
      pool.store) :
    NoLostUpdate validator dto.id original
      (pool.perform (backend validator arithmetic .atomicSave) index thread
        surroundings (.movies (.save dto.id (stale.merge dto.changes)))
        next) := by
  have answered := Pool.answered_perform
    (backend validator arithmetic .atomicSave) settled found pending surroundings
  cases result : (exec validator surroundings
      (.movies (.save dto.id (stale.merge dto.changes))) pool.store).1 with
  | error thrown =>
      refine noLostUpdate_of_silent holds ?_ answered ?_
      · intro row isRow
        have rows := exec_movies_error result
        have kept : (exec validator surroundings
            (.movies (.save dto.id (stale.merge dto.changes)))
            pool.store).2.movies.find? dto.id = some row := by
          unfold Table.find? at isRow ⊢
          rwa [rows]
        exact kept
      · apply given_of_not_ok
        intro answer ends
        obtain ⟨reply, executed, _⟩ := Program.outcome_resume_ok ends
        cases result.symm.trans executed
  | ok reply =>
      obtain ⟨row, isRow, columns⟩ := holds
      have carries := allowed dto _ row asks rfl rfl isRow
      obtain ⟨written, isWritten, values⟩ := saved_row isRow carries result
      obtain ⟨answer, ends⟩ := answers reply
      have resumed : Program.resume next ((backend validator arithmetic
          .atomicSave).exec surroundings
            (.movies (.save dto.id (stale.merge dto.changes))) pool.store).1 =
          next reply := congrArg (Program.resume next) result
      have isGiven : ∀ field, given validator dto.id field
          { thread with program := next reply } =
            (changesGet dto.changes field).given := by
        intro field
        simp only [given, asks, ends, if_pos]
      refine ⟨written, isWritten, fun field => ?_⟩
      rw [values field, columns field, answered, resumed, ends, ← isGiven]
      simp only [Option.isSome_some, if_true, List.filterMap_append]
      exact (getLast?_getD_append _ _ _).symm

private theorem noLostUpdate_perform (settled : pool.Settled)
    (holds : NoLostUpdate validator id original pool) {call : BackendCall}
    {next : BackendReply call → Program BackendCall BackendReply Thrown Answer}
    (found : pool.threads[index]? = some thread)
    (pending : thread.program = .call call next)
    (step : CatalogStep validator thread.request call next)
    (allowed : (NothingStale validator id).performs thread.request surroundings
      call pool.store) :
    NoLostUpdate validator id original
      (pool.perform (backend validator arithmetic .atomicSave) index thread
        surroundings call next) := by
  have answered := Pool.answered_perform
    (backend validator arithmetic .atomicSave) settled found pending surroundings
  by_cases notOurs : ∀ dto, updateDto validator thread.request = some dto →
      dto.id ≠ id
  · refine noLostUpdate_of_silent holds ?_ answered ?_
    · intro row isRow
      exact find_of_step step notOurs isRow
    · exact given_of_other notOurs
  · obtain ⟨dto, asks, rfl⟩ : ∃ dto,
        updateDto validator thread.request = some dto ∧ dto.id = id := by
      simpa using notOurs
    cases step with
    | @selects parameters condition next unanswered =>
        refine noLostUpdate_of_silent holds ?_ answered ?_
        · intro row isRow
          have kept : (exec validator surroundings
              (.movies (.select parameters condition))
              pool.store).2.movies.find? dto.id = some row :=
            find_of_elsewhere (by simp [SqlCall.target]) isRow
          exact kept
        · apply given_of_not_ok
          intro answer ends
          obtain ⟨rows, _, ends⟩ := Program.outcome_resume_ok ends
          exact unanswered dto asks rows answer ends
    | inserts notUpdate => cases asks.symm.trans notUpdate
    | elsewhere notUpdate foreign => cases asks.symm.trans notUpdate
    | @saves other stale next otherAsks answers =>
        obtain rfl : other = dto := Option.some.inj (otherAsks.symm.trans asks)
        exact noLostUpdate_save settled holds found pending asks answers allowed

end Runs

/-- In a run without deletions, in which the save of every update of the movie
carries nothing stale, no update of the movie is lost. -/
theorem updates_kept {initial : Databases} {original : MovieRow}
    (found : initial.movies.find? id = some original)
    {pool : Pool Message Databases BackendCall BackendReply Thrown Answer}
    (runs : (backend validator arithmetic .atomicSave).Runs
      (NothingStale validator id) (.start initial) pool) :
    NoLostUpdate validator id original pool := by
  induction runs with
  | refl => exact ⟨original, found, fun field => rfl⟩
  | tail runs step induction =>
      have settled := Service.Runs.settled runs Service.settled_start
      have steps := Service.Runs.every
        (fun request kept => handle_steps kept)
        (fun _ _ _ _ executed => selected_of_exec executed) runs
        (by simp [Pool.start])
      cases step with
      | arrive request admitted =>
          exact noLostUpdate_arrive settled induction request
      | perform index thread surroundings call next isThread pending allowed =>
          have step := steps thread (List.mem_of_getElem? isThread)
          rw [pending] at step
          exact noLostUpdate_perform settled induction isThread pending step.1
            allowed

/-- The checks of a request and of a call that imply `NothingStale`. -/
private def keeps : Message → Bool
  | .catalog .DELETE_MOVIE _ => false
  | _ => true

private def carriesFresh (request : Message) (_ : Surroundings) :
    BackendCall → Databases → Bool
  | .movies (.save _ movie), databases =>
      (updateDto .plain request).all fun dto =>
        (databases.movies.find? 1).all fun row =>
          [MovieField.title, .description, .releaseYear, .durationMinutes,
            .ticketPrice].all fun field =>
            changesGet dto.changes field = .undefined →
              movie.get field = row.hydrate.get field
  | _, _ => true

private theorem nothingStale_of_carriesFresh {request : Message}
    {surroundings : Surroundings} {call : BackendCall} {databases : Databases}
    (checked : carriesFresh request surroundings call databases = true) :
    (NothingStale .plain 1).performs request surroundings call databases := by
  rintro dto movie row asks isMovie rfl found field
  simp only [carriesFresh, asks, found, Option.all_some] at checked
  have member : field ∈ [MovieField.title, .description, .releaseYear,
      .durationMinutes, .ticketPrice] := by cases field <;> decide
  exact of_decide_eq_true (List.all_eq_true.mp checked field member)

/-- Two updates one after the other. -/
theorem updates_kept_example :
    ∃ pool : Pool Message Databases BackendCall BackendReply Thrown Answer,
      pool.finished = [0, 1] ∧ NoLostUpdate .plain 1 sampleMovie pool := by
  have played : (((backend .plain .exact .atomicSave).play keeps carriesFresh
      (.start sampleDatabases)
      [.arrive priceMessage, .perform 0 (calm 1), .arrive durationMessage,
        .perform 0 (calm 2), .perform 1 (calm 3),
        .perform 1 (calm 4)]).any fun pool => pool.finished = [0, 1]) =
      true := by decide +kernel
  obtain ⟨pool, reached, finished⟩ := (Option.any_eq_true _ _).mp played
  have admitted : ∀ request, keeps request = true →
      (NothingStale .plain 1).admits request := by
    intro request kept payload same
    subst same
    cases kept
  have runs : (backend .plain .exact .atomicSave).Runs (NothingStale .plain 1)
      (.start sampleDatabases) pool :=
    Service.runs_of_play admitted
      (fun _ _ _ _ checked => nothingStale_of_carriesFresh checked) reached
  exact ⟨pool, of_decide_eq_true finished, updates_kept (by decide) runs⟩

end Cinema.Catalog
