import Cinema.Catalog.Alone
import Cinema.Catalog.Rules

/-!
# Conflicts of title and year

Alone, a request is refused as a conflict exactly if another movie has the
title and the year, and the table never has to refuse it.  Among other requests
the table may have to, and the answer is the same.
-/

namespace Cinema.Catalog

open Interleaving Relational Shared Orders Backend

/-- A `ConflictException` is thrown. -/
def IsConflict (outcome : Except Thrown Answer) : Prop :=
  ∃ message, outcome = .error (conflictException message)

/-- A unique constraint has rejected a statement. -/
def IsDuplicate (outcome : Except Thrown Answer) : Prop :=
  ∃ thrown, outcome = .error thrown ∧ IsUniqueViolation thrown

/-- A request of which a statement is rejected by a unique constraint is
answered 409. -/
def DuplicatesAnswered
    (service : Service Message Databases Surroundings BackendCall BackendReply
      Thrown Answer)
    (pool : Pool Message Databases BackendCall BackendReply Thrown Answer) :
    Prop :=
  ∀ index thread surroundings statement next later ended,
    pool.threads[index]? = some thread →
    thread.program = .call (.movies statement) next →
    surroundings.fault = none →
    (movieSchema.exec surroundings.now statement pool.store.movies).1 =
      .error .uniqueViolation →
    service.Runs .any (pool.perform service index thread surroundings
      (.movies statement) next) later →
    later.threads[index]? = some ended →
      ∃ thrown, ended.program.outcome = some (.error thrown) ∧
        thrown.statusCode = some 409

variable {validator : Validator} {arithmetic : Arithmetic}
  {granularity : Granularity} {payload : Json}
  {environments : Nat → Surroundings} {databases : Databases}

/-! ## Alone -/

/-- A request that is not refused beforehand fails with its statement only. -/
theorem EndsLike.of_error {written : Except SqlError MovieRow}
    {outcome : Except Thrown Answer} (ends : EndsLike written outcome)
    {thrown : Thrown} (failed : outcome = .error thrown) :
    ∃ error statement, written = .error error ∧
      thrown = queryFailed movieSchema statement error := by
  cases written with
  | ok row =>
      obtain ⟨answer, same⟩ := ends
      rw [same] at failed
      cases failed
  | error error =>
      obtain ⟨statement, same⟩ := ends
      rw [same] at failed
      exact ⟨error, statement, rfl, (Except.error.inj failed).symm⟩

theorem EndsLike.not_isConflict {written : Except SqlError MovieRow}
    {outcome : Except Thrown Answer} (ends : EndsLike written outcome) :
    ¬ IsConflict outcome := by
  intro ⟨message, conflict⟩
  obtain ⟨error, statement, _, same⟩ := ends.of_error conflict
  cases same

theorem EndsLike.not_isDuplicate {written : Except SqlError MovieRow}
    {outcome : Except Thrown Answer} (ends : EndsLike written outcome)
    (accepted : written ≠ .error .uniqueViolation) :
    ¬ IsDuplicate outcome := by
  intro ⟨thrown, failed, duplicate⟩
  obtain ⟨error, statement, rejected, same⟩ := ends.of_error failed
  subst same
  rw [isUniqueViolation_queryFailed.mp duplicate] at rejected
  exact accepted rejected

/-- A row that is in the way has the title and the year. -/
private theorem taken_of_conflicted {row : MovieRow}
    (conflicted : movieSchema.Conflicted databases.movies row)
    {excluded : Option ℤ}
    (other : ∀ id, excluded = some id → id = row.id.val) :
    Taken databases.movies row.title.val row.releaseYear.val excluded := by
  obtain ⟨found, member, different, conflicting⟩ := conflicted
  have both : found.title = row.title ∧
      found.releaseYear = row.releaseYear := by
    simpa [movieSchema, MovieRow.conflicts] using conflicting
  refine ⟨found, member, ?_, congrArg _ both.1, congrArg _ both.2⟩
  intro same
  exact different (other _ same)

theorem insertRow_accepted {dto : CreateMovieDto validator}
    (fresh : databases.movies.Fresh)
    (free : ¬ Taken databases.movies dto.title dto.releaseYear none)
    (now : Nat) :
    (movieSchema.insertRow now (Movie.create dto) databases.movies).1 ≠
      .error .uniqueViolation := by
  intro failed
  obtain ⟨row, built, inTheWay⟩ := Schema.insertRow_uniqueViolation
    (MovieRow.build_ne_uniqueViolation _ _ _) failed
  rcases inTheWay with has | conflicted
  · rw [movieSchema.key_build built] at has
    exact fresh.not_has le_rfl has
  · obtain ⟨_, title, _, releaseYear, _⟩ := MovieRow.build_eq_ok built
    apply free
    rw [Option.some.inj title, Option.some.inj releaseYear]
    exact taken_of_conflicted conflicted fun id same => by cases same

/-- What is assigned where nothing is `null`. -/
private theorem assigned_some {α : Type} {supplied : Supplied α}
    (notNull : supplied ≠ .null) (current : α) :
    assigned supplied (some current) = some (supplied.getD current) := by
  cases supplied with
  | null => exact absurd rfl notNull
  | undefined => rfl
  | value given => rfl

theorem updateRow_accepted {row : MovieRow}
    {changes : UpdateMovieDto validator} (titleKept : changes.title ≠ .null)
    (yearKept : changes.releaseYear ≠ .null)
    (free : ¬ Taken databases.movies (changes.title.getD row.title.val)
      (changes.releaseYear.getD row.releaseYear.val) (some row.id.val))
    {patch : MoviePatch}
    (differs : MovieRow.diff (row.hydrate.merge changes) row = some patch)
    (now : Nat) :
    (movieSchema.updateRow now patch row databases.movies).1 ≠
      .error .uniqueViolation := by
  intro failed
  obtain ⟨written, built, conflicted⟩ := Schema.updateRow_uniqueViolation
    (MovieRow.build_ne_uniqueViolation _ _ _) failed
  obtain ⟨_, title, _, releaseYear, _⟩ := MovieRow.build_eq_ok built
  have isTitle : some (changes.title.getD row.title.val) =
      some written.title.val := by
    rw [← assigned_some titleKept, ← title]
    exact (MovieRow.overlay_diff differs .title).symm
  have isYear : some (changes.releaseYear.getD row.releaseYear.val) =
      some written.releaseYear.val := by
    rw [← assigned_some yearKept, ← releaseYear]
    exact (MovieRow.overlay_diff differs .releaseYear).symm
  rw [Option.some.inj isTitle, Option.some.inj isYear] at free
  apply free
  apply taken_of_conflicted conflicted
  intro id same
  rw [← Option.some.inj same]
  exact (movieSchema.key_build built).symm

/-- A failure that is neither. -/
private theorem invalidText_neither
    {statement : SqlCall MovieRow Movie MoviePatch}
    {outcome : Except Thrown Answer}
    (failed : outcome =
      .error (queryFailed movieSchema statement .invalidText)) :
    ¬ IsConflict outcome ∧ ¬ IsDuplicate outcome := by
  have ends : EndsLike (.error .invalidText) outcome := ⟨statement, failed⟩
  exact ⟨ends.not_isConflict, ends.not_isDuplicate (by simp)⟩

private theorem not_isDuplicate_conflict (message : String) :
    ¬ IsDuplicate (.error (conflictException message)) := by
  rintro ⟨thrown, same, parameters, duplicate⟩
  cases same
  cases duplicate

theorem create_conflict {dto : CreateMovieDto validator}
    (fresh : databases.movies.Fresh)
    (valid : CreateMovieDto.validate validator payload = .ok dto)
    (calm : Calm environments) :
    (IsConflict (alone validator arithmetic granularity environments
        (.catalog .CREATE_MOVIE payload) databases) ↔
      Taken databases.movies dto.title dto.releaseYear none) ∧
    ¬ IsDuplicate (alone validator arithmetic granularity environments
        (.catalog .CREATE_MOVIE payload) databases) := by
  have spec := @alone_create validator arithmetic granularity payload
    environments dto valid calm databases
  rcases spec with
    ⟨taken, refused⟩ | ⟨free, ⟨_, now, ends⟩ | ⟨_, statement, failed⟩⟩
  · rw [refused]
    exact ⟨⟨fun _ => taken, fun _ => ⟨_, rfl⟩⟩, not_isDuplicate_conflict _⟩
  · have accepted := insertRow_accepted fresh free now
    exact ⟨⟨fun conflict => absurd conflict ends.not_isConflict,
      fun taken => absurd taken free⟩, ends.not_isDuplicate accepted⟩
  · obtain ⟨notConflict, notDuplicate⟩ := invalidText_neither failed
    exact ⟨⟨fun conflict => absurd conflict notConflict,
      fun taken => absurd taken free⟩, notDuplicate⟩

theorem update_conflict {dto : UpdateMoviePayload validator}
    (unique : movieSchema.Unique databases.movies)
    (valid : UpdateMoviePayload.validate validator payload = .ok dto)
    (titleKept : dto.changes.title ≠ .null)
    (yearKept : dto.changes.releaseYear ≠ .null) {row : MovieRow}
    (stored : databases.movies.find? dto.id = some row)
    (calm : Calm environments) :
    (IsConflict (alone validator arithmetic granularity environments
        (.catalog .UPDATE_MOVIE payload) databases) ↔
      Taken databases.movies (dto.changes.title.getD row.title.val)
        (dto.changes.releaseYear.getD row.releaseYear.val) (some dto.id)) ∧
    ¬ IsDuplicate (alone validator arithmetic granularity environments
        (.catalog .UPDATE_MOVIE payload) databases) := by
  have isId : row.id.val = dto.id := (Table.find?_eq_some.mp stored).2
  have spec := @alone_update validator arithmetic granularity payload
    environments databases dto valid calm row stored unique
  rcases spec with
    ⟨taken, refused⟩ |
      ⟨free, ⟨_, ⟨_, answer, answered⟩ | ⟨patch, now, differs, ends⟩⟩ |
        ⟨_, statement, failed⟩⟩
  · rw [refused]
    exact ⟨⟨fun _ => taken, fun _ => ⟨_, rfl⟩⟩, not_isDuplicate_conflict _⟩
  · have ends : EndsLike (.ok row) (alone validator arithmetic granularity
        environments (.catalog .UPDATE_MOVIE payload) databases) :=
      ⟨answer, answered⟩
    exact ⟨⟨fun conflict => absurd conflict ends.not_isConflict,
      fun taken => absurd taken free⟩, ends.not_isDuplicate (by simp)⟩
  · have accepted := updateRow_accepted titleKept yearKept
      (by rwa [isId]) differs now
    exact ⟨⟨fun conflict => absurd conflict ends.not_isConflict,
      fun taken => absurd taken free⟩, ends.not_isDuplicate accepted⟩
  · obtain ⟨notConflict, notDuplicate⟩ := invalidText_neither failed
    exact ⟨⟨fun conflict => absurd conflict notConflict,
      fun taken => absurd taken free⟩, notDuplicate⟩

/-! ## Among other requests -/

theorem duplicates_answered
    {pool : Pool Message Databases BackendCall BackendReply Thrown Answer} :
    DuplicatesAnswered (backend validator arithmetic granularity) pool := by
  intro index thread surroundings statement next later ended found pending
    healthy rejected onward last
  have failed : ((backend validator arithmetic granularity).exec surroundings
      (.movies statement) pool.store).1 =
        .error (queryFailed movieSchema statement .uniqueViolation) := by
    change (exec validator surroundings (.movies statement) pool.store).1 = _
    rw [exec_movies healthy, rejected]
    rfl
  refine ⟨queryFailed movieSchema statement .uniqueViolation, ?_, rfl⟩
  apply onward.outcome_of_perform found _ last
  rw [failed]
  rfl

/-- On every table that a run reaches, requests run alone are refused as
conflicts exactly where a title and a year are taken; in every run no two
movies share them, and what the table rejects is answered 409 and changes
nothing. -/
theorem conflicts_detected {orders : Table OrderRow orderSchema.key}
    {pool : Pool Message Databases BackendCall BackendReply Thrown Answer}
    (runs : (backend validator arithmetic granularity).Runs .any
      (.start { movies := ∅, orders }) pool) :
    (∀ payload dto environments,
      CreateMovieDto.validate validator payload = .ok dto →
      Calm environments →
        (IsConflict (alone validator arithmetic granularity environments
            (.catalog .CREATE_MOVIE payload) pool.store) ↔
          Taken pool.store.movies dto.title dto.releaseYear none) ∧
        ¬ IsDuplicate (alone validator arithmetic granularity environments
            (.catalog .CREATE_MOVIE payload) pool.store)) ∧
    (∀ payload dto environments row,
      UpdateMoviePayload.validate validator payload = .ok dto →
      dto.changes.title ≠ .null → dto.changes.releaseYear ≠ .null →
      pool.store.movies.find? dto.id = some row →
      Calm environments →
        (IsConflict (alone validator arithmetic granularity environments
            (.catalog .UPDATE_MOVIE payload) pool.store) ↔
          Taken pool.store.movies (dto.changes.title.getD row.title.val)
            (dto.changes.releaseYear.getD row.releaseYear.val)
            (some dto.id)) ∧
        ¬ IsDuplicate (alone validator arithmetic granularity environments
            (.catalog .UPDATE_MOVIE payload) pool.store)) ∧
    (∀ left ∈ pool.store.movies.rows, ∀ right ∈ pool.store.movies.rows,
      left.title = right.title → left.releaseYear = right.releaseYear →
        left = right) ∧
    DuplicatesAnswered (backend validator arithmetic granularity) pool ∧
    FailuresChangeNothing (backend validator arithmetic granularity) pool := by
  have catalogue := catalogue_of_runs catalogue_empty runs
  refine ⟨?_, ?_, ?_, duplicates_answered, failures_change_nothing runs⟩
  · intro payload dto environments valid calm
    exact create_conflict catalogue.fresh valid calm
  · intro payload dto environments row valid titleKept yearKept stored calm
    exact update_conflict catalogue.unique valid titleKept yearKept stored calm
  · intro left leftMember right rightMember sameTitle sameYear
    apply Table.eq_of_key leftMember rightMember
    apply catalogue.unique left leftMember right rightMember
    simp [movieSchema, MovieRow.conflicts, sameTitle, sameYear]

/-- A movie is created a second time. -/
theorem conflicts_detected_example :
    ∃ pool : Pool Message Databases BackendCall BackendReply Thrown Answer,
      IsConflict (alone .plain .exact .statements calm premiereMessage
        pool.store) := by
  have played : (((backend .plain .exact .statements).playFreely
      (.start ⟨∅, ∅⟩)
      [.arrive premiereMessage, .perform 0 (calm 1), .perform 0 (calm 2)]).any
      fun pool => (CreateMovieDto.validate .plain premierePayload).toOption.any
        fun dto => pool.store.movies.rows.any fun row =>
          row.title.val = dto.title && row.releaseYear.val = dto.releaseYear) =
      true := by decide +kernel
  obtain ⟨pool, reached, isThere⟩ := (Option.any_eq_true _ _).mp played
  obtain ⟨dto, isDto, isThere⟩ := (Option.any_eq_true _ _).mp isThere
  obtain ⟨row, member, isPair⟩ := List.any_eq_true.mp isThere
  obtain ⟨isTitle, isYear⟩ := Bool.and_eq_true_iff.mp isPair
  have detected := conflicts_detected (Service.runs_of_playFreely reached)
  refine ⟨pool, ?_⟩
  apply (detected.1 premierePayload dto calm (toOption_eq_some.mp isDto)
    fun n => rfl).1.mpr
  exact ⟨row, member, by simp, of_decide_eq_true isTitle,
    of_decide_eq_true isYear⟩

end Cinema.Catalog
