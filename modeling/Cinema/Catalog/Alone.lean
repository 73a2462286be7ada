import Cinema.Catalog.Handlers

/-!
# Requests to write a movie, run alone

Without other requests in between, and without failures, the answer to a
request to create or to update a movie is decided by two things: whether
another movie has the title and the year, and what the table says to the row.
-/

namespace Cinema.Catalog

open Interleaving Relational Shared Orders Backend

variable {validator : Validator} {arithmetic : Arithmetic}
  {granularity : Granularity} {payload : Json}
  {environments : Nat → Surroundings} {databases : Databases}

/-- No call meets a failure. -/
def Calm (environments : Nat → Surroundings) : Prop :=
  ∀ n, (environments n).fault = none

/-- The outcome of a request that runs alone. -/
def alone (validator : Validator) (arithmetic : Arithmetic)
    (granularity : Granularity) (environments : Nat → Surroundings)
    (message : Message) (databases : Databases) : Except Thrown Answer :=
  (Program.run (exec validator)
    (handle validator arithmetic granularity message) environments
    databases).1

/-- A movie other than the excluded one has the title and the year. -/
def Taken (movies : Table MovieRow movieSchema.key) (title : String)
    (releaseYear : ℤ) (excluded : Option ℤ) : Prop :=
  ∃ other ∈ movies.rows, excluded ≠ some other.id.val ∧
    other.title.val = title ∧ other.releaseYear.val = releaseYear

/-- The request ends as the write of its row does. -/
def EndsLike (written : Except SqlError MovieRow)
    (outcome : Except Thrown Answer) : Prop :=
  match written with
  | .ok _ => ∃ answer, outcome = .ok answer
  | .error error => ∃ statement,
      outcome = .error (queryFailed movieSchema statement error)

/-! ## Looking for the title and the year -/

theorem matchesAll_pairCriteria {title : String} {releaseYear : ℤ}
    {excluded : Option ℤ} {row : MovieRow} :
    matchesAll (pairCriteria title releaseYear excluded) row = true ↔
      excluded ≠ some row.id.val ∧ row.title.val = title ∧
        row.releaseYear.val = releaseYear := by
  cases excluded with
  | none =>
      simp [matchesAll, pairCriteria, List.reduceOption, Criterion.text,
        Criterion.smallint, Criterion.notInteger]
  | some id =>
      simp [matchesAll, pairCriteria, List.reduceOption, Criterion.text,
        Criterion.smallint, Criterion.notInteger]
      tauto

/-- What the search for the title and the year finds. -/
theorem exec_pair {surroundings : Surroundings}
    (healthy : surroundings.fault = none)
    {criteria : List (Option (Criterion MovieRow))} {title : String}
    {releaseYear : ℤ} {excluded : Option ℤ}
    (searches : criteria = pairCriteria title releaseYear excluded)
    (yearFits : -32768 ≤ releaseYear ∧ releaseYear ≤ 32767)
    (idFits : ∀ id, excluded = some id →
      -2147483648 ≤ id ∧ id ≤ 2147483647) (databases : Databases) :
    (Taken databases.movies title releaseYear excluded ∧ ∃ other others,
        exec validator surroundings (.movies (.matching criteria)) databases =
          (.ok (other :: others), databases)) ∨
      ¬ Taken databases.movies title releaseYear excluded ∧
        (('\x00' ∉ title.toList ∧
            exec validator surroundings (.movies (.matching criteria))
              databases = (.ok [], databases)) ∨
          ('\x00' ∈ title.toList ∧ ∃ statement,
            exec validator surroundings (.movies (.matching criteria))
              databases = (.error (queryFailed movieSchema statement
                .invalidText), databases))) := by
  subst searches
  rw [exec_movies healthy]
  by_cases unclean : '\x00' ∈ title.toList
  · have rejected : movieSchema.exec surroundings.now
        (.matching (pairCriteria title releaseYear excluded)) databases.movies =
          (.error .invalidText, databases.movies) := by
      simp [pairCriteria, List.reduceOption, Criterion.text, Schema.exec,
        Parameter.rejected, unclean]
    rw [rejected]
    refine .inr ⟨?_, .inr ⟨unclean, _, rfl⟩⟩
    rintro ⟨other, _, _, rfl, _⟩
    exact other.title.clean unclean
  · have accepted : ∀ criterion ∈
        (pairCriteria title releaseYear excluded).reduceOption,
          criterion.parameter.rejected = none := by
      intro criterion member
      cases excluded with
      | none =>
          rcases List.mem_cons.mp member with rfl | member
          · simp [Parameter.rejected, unclean]
          rcases List.mem_cons.mp member with rfl | member
          · simp [Parameter.rejected, yearFits]
          · cases member
      | some id =>
          rcases List.mem_cons.mp member with rfl | member
          · simp [Parameter.rejected, unclean]
          rcases List.mem_cons.mp member with rfl | member
          · simp [Parameter.rejected, yearFits]
          rcases List.mem_cons.mp member with rfl | member
          · simp [Parameter.rejected, idFits]
          · cases member
    rw [movieSchema.exec_matching_of_accepted accepted]
    cases found : databases.movies.rows.filter
        (matchesAll (pairCriteria title releaseYear excluded)) with
    | nil =>
        refine .inr ⟨?_, .inl ⟨unclean, rfl⟩⟩
        rintro ⟨other, member, isPair⟩
        have matched := List.filter_eq_nil_iff.mp found other member
        exact matched (matchesAll_pairCriteria.mpr isPair)
    | cons other others =>
        refine .inl ⟨?_, other, others, rfl⟩
        have member : other ∈ databases.movies.rows.filter
            (matchesAll (pairCriteria title releaseYear excluded)) := by
          rw [found]
          exact List.mem_cons_self
        obtain ⟨stored, matched⟩ := List.mem_filter.mp member
        exact ⟨other, stored, matchesAll_pairCriteria.mp matched⟩

/-! ## Creation -/

theorem alone_create {dto : CreateMovieDto validator}
    (valid : CreateMovieDto.validate validator payload = .ok dto)
    (calm : Calm environments) (databases : Databases) :
    (Taken databases.movies dto.title dto.releaseYear none ∧
        alone validator arithmetic granularity environments
          (.catalog .CREATE_MOVIE payload) databases =
            .error (newTitleTaken dto)) ∨
      ¬ Taken databases.movies dto.title dto.releaseYear none ∧
        (('\x00' ∉ dto.title.toList ∧ ∃ now, EndsLike
            (movieSchema.insertRow now (Movie.create dto) databases.movies).1
            (alone validator arithmetic granularity environments
              (.catalog .CREATE_MOVIE payload) databases)) ∨
          ('\x00' ∈ dto.title.toList ∧ ∃ statement,
            alone validator arithmetic granularity environments
              (.catalog .CREATE_MOVIE payload) databases =
                .error (queryFailed movieSchema statement .invalidText))) := by
  have yearFits : -32768 ≤ dto.releaseYear ∧ dto.releaseYear ≤ 32767 := by
    have bounds := dto.releaseYearValid
    unfold CreateMovieDto.ValidReleaseYear at bounds
    omega
  rw [alone, handle_createMovie valid, Program.run]
  have noId : ∀ id, none = some id → -2147483648 ≤ id ∧ id ≤ 2147483647 := by
    simp
  rcases exec_pair (calm 0) rfl yearFits noId databases with
    ⟨taken, other, others, found⟩ |
      ⟨free, ⟨clean, found⟩ | ⟨unclean, statement, found⟩⟩
  · rw [found]
    exact .inl ⟨taken, rfl⟩
  · refine .inr ⟨free, .inl ⟨clean, (environments 1).now, ?_⟩⟩
    rw [found]
    simp only [List.isEmpty_nil, if_true, Program.run]
    rw [exec_movies (calm 1)]
    simp only [Schema.exec]
    cases (movieSchema.insertRow (environments 1).now (Movie.create dto)
        databases.movies).1 with
    | ok row => exact ⟨_, rfl⟩
    | error error => exact ⟨_, rfl⟩
  · rw [found]
    exact .inr ⟨free, .inr ⟨unclean, statement, rfl⟩⟩

/-! ## Updates -/

/-- Saving the row that was read is writing its differences. -/
theorem run_saveMerged {row : MovieRow}
    (stored : databases.movies.find? row.id.val = some row)
    (calm : Calm environments) (changes : UpdateMovieDto validator) :
    (MovieRow.diff (row.hydrate.merge changes) row = none ∧ ∃ answer,
        (Program.run (exec validator) (saveMerged granularity row changes)
          environments databases).1 = .ok answer) ∨
      ∃ patch now, MovieRow.diff (row.hydrate.merge changes) row = some patch ∧
        EndsLike (movieSchema.updateRow now patch row databases.movies).1
          (Program.run (exec validator) (saveMerged granularity row changes)
            environments databases).1 := by
  cases differs : MovieRow.diff (row.hydrate.merge changes) row with
  | none =>
      have same : movieSchema.diff (row.hydrate.merge changes) row = none :=
        differs
      refine .inl ⟨rfl, ?_⟩
      cases granularity with
      | atomicSave =>
          rw [saveMerged_atomic, Program.run, exec_movies (calm 0)]
          simp only [Schema.exec, stored, same]
          exact ⟨_, rfl⟩
      | statements =>
          rw [saveMerged_statements, Program.run, exec_movies (calm 0)]
          simp only [Schema.exec, stored, Except.mapError, differs]
          exact ⟨_, rfl⟩
  | some patch =>
      have same : movieSchema.diff (row.hydrate.merge changes) row =
          some patch := differs
      cases granularity with
      | atomicSave =>
          refine .inr ⟨patch, (environments 0).now, rfl, ?_⟩
          rw [saveMerged_atomic, Program.run, exec_movies (calm 0)]
          simp only [Schema.exec, stored, same]
          cases (movieSchema.updateRow (environments 0).now patch row
              databases.movies).1 with
          | ok written => exact ⟨_, rfl⟩
          | error error => exact ⟨_, rfl⟩
      | statements =>
          refine .inr ⟨patch, (environments 1).now, rfl, ?_⟩
          rw [saveMerged_statements, Program.run, exec_movies (calm 0)]
          simp only [Schema.exec, stored, Except.mapError, differs,
            Program.run]
          rw [exec_movies (calm 1)]
          simp only [Schema.exec, stored]
          cases (movieSchema.updateRow (environments 1).now patch row
              databases.movies).1 with
          | ok written => exact ⟨_, rfl⟩
          | error error => exact ⟨_, rfl⟩

private theorem sameTitleCriteria_eq {id : ℤ} (positive : 0 < id)
    (row : MovieRow) (changes : UpdateMovieDto validator) :
    sameTitleCriteria id row changes =
      pairCriteria (changes.title.getD row.title.val)
        (changes.releaseYear.getD row.releaseYear.val) (some id) := by
  have notZero : (some id).filter (fun id => id ≠ 0) = some id := by
    simp [Option.filter, ne_of_gt positive]
  unfold sameTitleCriteria pairCriteria
  rw [notZero]
  simp only [MovieRow.hydrate, Supplied.coalesce_some]

/-- An update that keeps the title and the year of its movie takes those of no
other one. -/
private theorem not_taken_of_keeps {row : MovieRow}
    (member : row ∈ databases.movies.rows)
    (unique : movieSchema.Unique databases.movies) :
    ¬ Taken databases.movies row.title.val row.releaseYear.val
      (some row.id.val) := by
  rintro ⟨other, otherMember, different, sameTitle, sameYear⟩
  have conflicting : movieSchema.conflicts row other = true := by
    simp [movieSchema, MovieRow.conflicts, Varchar.ext_iff, Ranged.ext_iff,
      sameTitle, sameYear]
  exact different (congrArg some
    (unique row member other otherMember conflicting))

private theorem year_fits (changes : UpdateMovieDto validator)
    (row : MovieRow) :
    -32768 ≤ changes.releaseYear.getD row.releaseYear.val ∧
      changes.releaseYear.getD row.releaseYear.val ≤ 32767 := by
  cases supplied : changes.releaseYear with
  | value given =>
      have bounds := changes.releaseYearValid given supplied
      unfold CreateMovieDto.ValidReleaseYear at bounds
      simp only [Supplied.getD]
      omega
  | undefined => exact row.releaseYear.inRange
  | null => exact row.releaseYear.inRange

theorem alone_update {dto : UpdateMoviePayload validator}
    (valid : UpdateMoviePayload.validate validator payload = .ok dto)
    (calm : Calm environments) {row : MovieRow}
    (stored : databases.movies.find? dto.id = some row)
    (unique : movieSchema.Unique databases.movies) :
    (Taken databases.movies (dto.changes.title.getD row.title.val)
          (dto.changes.releaseYear.getD row.releaseYear.val) (some dto.id) ∧
        alone validator arithmetic granularity environments
          (.catalog .UPDATE_MOVIE payload) databases =
            .error (titleTaken row dto.changes)) ∨
      ¬ Taken databases.movies (dto.changes.title.getD row.title.val)
          (dto.changes.releaseYear.getD row.releaseYear.val) (some dto.id) ∧
        (('\x00' ∉ (dto.changes.title.getD row.title.val).toList ∧
            ((MovieRow.diff (row.hydrate.merge dto.changes) row = none ∧
                ∃ answer, alone validator arithmetic granularity environments
                  (.catalog .UPDATE_MOVIE payload) databases = .ok answer) ∨
              ∃ patch now,
                MovieRow.diff (row.hydrate.merge dto.changes) row =
                  some patch ∧
                EndsLike (movieSchema.updateRow now patch row
                    databases.movies).1
                  (alone validator arithmetic granularity environments
                    (.catalog .UPDATE_MOVIE payload) databases))) ∨
          ('\x00' ∈ (dto.changes.title.getD row.title.val).toList ∧
            ∃ statement, alone validator arithmetic granularity environments
              (.catalog .UPDATE_MOVIE payload) databases =
                .error (queryFailed movieSchema statement .invalidText))) := by
  obtain ⟨member, isMovie⟩ := Table.find?_eq_some.mp stored
  have isId : row.id.val = dto.id := isMovie
  have storedRow : databases.movies.find? row.id.val = some row := by
    rw [isId]
    exact stored
  have accepted : ∀ criterion ∈ (movieCriteria dto.id).reduceOption,
      criterion.parameter.rejected = none := by
    intro criterion criteria
    rcases List.mem_cons.mp criteria with rfl | nothing
    · simp [Parameter.rejected, ← isId, row.id.inRange]
    · cases nothing
  have heads : (databases.movies.rows.filter
      (matchesAll (movieCriteria dto.id))).head? = some row := by
    rw [← stored]
    exact head?_matching_key databases.movies dto.id
  rw [alone, handle_update valid, Program.run, exec_movies (calm 0),
    movieSchema.exec_matching_of_accepted accepted]
  simp only [Except.mapError, heads]
  by_cases renames : Renames row dto.changes
  · have idFits : ∀ id, some dto.id = some id →
        -2147483648 ≤ id ∧ id ≤ 2147483647 := by
      intro id same
      cases same
      rw [← isId]
      exact row.id.inRange
    have searches := sameTitleCriteria_eq dto.positive row dto.changes
    simp only [if_pos renames, Program.run]
    rcases exec_pair (calm 1) searches (year_fits dto.changes row) idFits
      databases with
      ⟨taken, other, others, found⟩ |
        ⟨free, ⟨clean, found⟩ | ⟨unclean, statement, found⟩⟩
    · rw [found]
      exact .inl ⟨taken, rfl⟩
    · rw [found]
      refine .inr ⟨free, .inl ⟨clean, ?_⟩⟩
      exact run_saveMerged storedRow (fun n => calm (n + 2)) dto.changes
    · rw [found]
      exact .inr ⟨free, .inr ⟨unclean, statement, rfl⟩⟩
  · simp only [if_neg renames]
    simp only [Renames, MovieRow.hydrate, Supplied.coalesce_some, not_or,
      ne_eq, not_not, Option.some.injEq] at renames
    rw [renames.1, renames.2, ← isId]
    refine .inr ⟨not_taken_of_keeps member unique, .inl ⟨row.title.clean, ?_⟩⟩
    exact run_saveMerged storedRow (fun n => calm (n + 1)) dto.changes

end Cinema.Catalog
