import Cinema.Catalog.Handlers
import Cinema.Interleaving.RelyGuarantee

/-!
# The rules of the catalog

What the decorators of the payload classes require of a value holds of every
column of every stored movie: a movie in memory holds valid values or `null`,
whatever another request has stored since it was read, and the table refuses
the `null`s.
-/

namespace Cinema.Catalog

open Interleaving Relational Shared Orders Backend
open Text (Trimmed)
open CreateMovieDto (ValidTitle ValidDescription ValidReleaseYear
  ValidDurationMinutes ValidTicketPrice)

/-- The validator counts the characters of a description; the table counts
those of a title. -/
structure ObeysRules (validator : Validator) (row : MovieRow) : Prop where
  titleGiven : row.title.val ≠ ""
  titleTrimmed : Trimmed row.title.val
  titleShort : row.title.val.length ≤ 255
  descriptionTrimmed : ∀ text, row.description = some text → Trimmed text.val
  descriptionShort : ∀ text, row.description = some text →
    validator.length text.val ≤ 2000
  releaseYear : 1888 ≤ row.releaseYear.val ∧ row.releaseYear.val ≤ 2100
  durationMinutes :
    1 ≤ row.durationMinutes.val ∧ row.durationMinutes.val ≤ 600
  ticketPrice : 0 ≤ row.ticketPrice.read ∧ row.ticketPrice.read ≤ 10000
  wholeCents : ∃ cents : ℤ, row.ticketPrice.read = cents / 100

/-- No call of a request that ends with an error changes the table. -/
def FailuresChangeNothing
    (service : Service Message Databases Surroundings BackendCall BackendReply
      Thrown Answer)
    (pool : Pool Message Databases BackendCall BackendReply Thrown Answer) :
    Prop :=
  ∀ index thread surroundings call next later ended thrown,
    pool.threads[index]? = some thread → thread.program = .call call next →
    service.Runs .any
      (pool.perform service index thread surroundings call next) later →
    later.threads[index]? = some ended →
    ended.program.outcome = some (.error thrown) →
      (service.exec surroundings call pool.store).2.movies.rows =
        pool.store.movies.rows

variable {validator : Validator} {arithmetic : Arithmetic}
  {granularity : Granularity}

/-! ## Valid values -/

def FieldValid (validator : Validator) :
    (field : MovieField) → field.Value → Prop
  | .title => ValidTitle validator
  | .description => ValidDescription validator
  | .releaseYear => ValidReleaseYear
  | .durationMinutes => ValidDurationMinutes
  | .ticketPrice => ValidTicketPrice

/-- Every column holds a valid value or none. -/
def MovieValid (validator : Validator) (movie : Movie) : Prop :=
  ∀ field value, movie.get field = some value →
    FieldValid validator field value

def PatchValid (validator : Validator) (patch : MoviePatch) : Prop :=
  ∀ field value, patch.get field = some (some value) →
    FieldValid validator field value

/-- What a valid movie is made of satisfies the rules. -/
theorem obeysRules_of_valid {row : MovieRow}
    (valid : MovieValid validator row.hydrate) : ObeysRules validator row := by
  obtain ⟨titleTrimmed, titleGiven, _⟩ := valid .title row.title.val rfl
  have describes : ∀ text, row.description = some text →
      ValidDescription validator text.val := by
    intro text isText
    apply valid .description text.val
    exact congrArg (Option.map Text.val) isText
  obtain ⟨nonneg, atMost, _⟩ := valid .ticketPrice row.ticketPrice.read rfl
  exact {
    titleGiven
    titleTrimmed
    titleShort := row.title.short
    descriptionTrimmed := fun text isText => (describes text isText).1
    descriptionShort := fun text isText => (describes text isText).2
    releaseYear := valid .releaseYear row.releaseYear.val rfl
    durationMinutes := valid .durationMinutes row.durationMinutes.val rfl
    ticketPrice := ⟨nonneg, atMost⟩
    wholeCents := ⟨row.ticketPrice.units, by
      simp only [Numeric.read]
      norm_num⟩ }

theorem changesGet_valid {changes : UpdateMovieDto validator}
    {field : MovieField} {value : field.Value}
    (supplied : changesGet changes field = .value value) :
    FieldValid validator field value := by
  cases field with
  | title => exact changes.titleValid value supplied
  | description => exact changes.descriptionValid value supplied
  | releaseYear => exact changes.releaseYearValid value supplied
  | durationMinutes => exact changes.durationMinutesValid value supplied
  | ticketPrice => exact changes.ticketPriceValid value supplied

theorem create_valid (dto : CreateMovieDto validator) :
    MovieValid validator (Movie.create dto) := by
  intro field value isValue
  cases field with
  | title =>
      cases isValue
      exact dto.titleValid
  | description =>
      exact dto.descriptionValid value (eq_value_of_assigned isValue)
  | releaseYear =>
      cases isValue
      exact dto.releaseYearValid
  | durationMinutes =>
      cases isValue
      exact dto.durationMinutesValid
  | ticketPrice =>
      cases isValue
      exact dto.ticketPriceValid

theorem merge_valid {movie : Movie} (valid : MovieValid validator movie)
    (changes : UpdateMovieDto validator) :
    MovieValid validator (movie.merge changes) := by
  intro field value isValue
  rw [Movie.merge_get] at isValue
  cases supplied : changesGet changes field with
  | undefined =>
      rw [supplied] at isValue
      exact valid field value isValue
  | null =>
      rw [supplied] at isValue
      cases isValue
  | value given =>
      rw [supplied] at isValue
      cases isValue
      exact changesGet_valid supplied

theorem diff_valid {movie : Movie} (valid : MovieValid validator movie)
    {row : MovieRow} {patch : MoviePatch}
    (differs : MovieRow.diff movie row = some patch) :
    PatchValid validator patch := by
  intro field value isValue
  rw [MovieRow.diff_get differs field] at isValue
  unfold changed at isValue
  split at isValue
  · cases isValue
  · exact valid field value (Option.some.inj isValue)

theorem overlay_valid {patch : MoviePatch} (changes : PatchValid validator patch)
    {row : MovieRow} (valid : MovieValid validator row.hydrate) :
    MovieValid validator (MovieRow.overlay patch row) := by
  intro field value isValue
  rw [MovieRow.overlay_get] at isValue
  cases written : patch.get field with
  | none =>
      rw [written] at isValue
      exact valid field value isValue
  | some given =>
      rw [written] at isValue
      exact changes field value (written.trans (congrArg some isValue))

/-- The table stores a valid movie as it is. -/
theorem build_valid {movie : Movie} (valid : MovieValid validator movie)
    {id : ℤ} {now : Nat} {row : MovieRow}
    (built : MovieRow.build movie id now = .ok row) :
    MovieValid validator row.hydrate := by
  have cents : ∀ price, movie.ticketPrice = some price →
      (price * 10 ^ 2).den = 1 := by
    intro price isPrice
    exact (valid .ticketPrice price isPrice).2.2
  intro field value isValue
  rw [MovieRow.get_build built cents] at isValue
  exact valid field value isValue

/-! ## The invariant -/

/-- A movie table of the catalog. -/
structure Catalogue (validator : Validator)
    (movies : Table MovieRow movieSchema.key) : Prop where
  valid : ∀ row ∈ movies.rows, MovieValid validator row.hydrate
  fresh : movies.Fresh
  unique : movieSchema.Unique movies

theorem catalogue_empty : Catalogue validator ∅ where
  valid _ member := absurd member List.not_mem_nil
  fresh _ member := absurd member List.not_mem_nil
  unique _ member := absurd member List.not_mem_nil

/-- What a statement carries is valid. -/
def Carries (validator : Validator) :
    SqlCall MovieRow Movie MoviePatch → Prop
  | .insert movie | .save _ movie | .reinsert _ movie =>
      MovieValid validator movie
  | .update _ patch => PatchValid validator patch
  | .select _ _ | .reread _ | .delete _ => True

theorem conflicts_symmetric (left right : MovieRow)
    (conflicting : movieSchema.conflicts left right = true) :
    movieSchema.conflicts right left = true := by
  have both : left.title = right.title ∧
      left.releaseYear = right.releaseYear := by
    simpa [movieSchema, MovieRow.conflicts] using conflicting
  simp [movieSchema, MovieRow.conflicts, both.1, both.2]

/-- One statement on a movie table of the catalog. -/
theorem Catalogue.effect {now : Nat}
    {statement : SqlCall MovieRow Movie MoviePatch}
    {movies after : Table MovieRow movieSchema.key}
    (catalogue : Catalogue validator movies)
    (carries : Carries validator statement)
    (effect : Schema.Effect movieSchema now statement movies after) :
    Catalogue validator after := by
  refine ⟨?_, effect.fresh catalogue.fresh,
    effect.unique conflicts_symmetric catalogue.unique⟩
  intro row member
  cases effect with
  | unchanged rows nextId =>
      rw [rows] at member
      exact catalogue.valid row member
  | inserted isInsert built absent unique =>
      rcases List.mem_append.mp member with old | new
      · exact catalogue.valid row old
      · rw [List.mem_singleton.mp new]
        rcases isInsert with rfl | ⟨id, rfl | rfl⟩
        · exact build_valid carries built
        · exact build_valid carries built
        · exact build_valid carries built
  | updated isUpdate found built unique =>
      rcases Table.mem_replace.mp member with ⟨rfl, _⟩ | ⟨old, _⟩
      · have stored := catalogue.valid _ (Table.find?_eq_some.mp found).1
        rcases isUpdate with rfl | ⟨entity, rfl, differs⟩
        · exact build_valid (overlay_valid carries stored) built
        · exact build_valid (overlay_valid (diff_valid carries differs) stored)
            built
      · exact catalogue.valid row old
  | deleted isDelete =>
      exact catalogue.valid row (Table.mem_erase.mp member).1

/-- One call, whoever makes it. -/
theorem catalogue_exec {surroundings : Surroundings} {call : BackendCall}
    {databases : Databases} (catalogue : Catalogue validator databases.movies)
    (carries : ∀ statement, call = .movies statement →
      Carries validator statement) :
    Catalogue validator
      (exec validator surroundings call databases).2.movies := by
  cases call with
  | movies statement =>
      cases fault : surroundings.fault with
      | some thrown =>
          rw [exec_faulty_movies fault]
          exact catalogue
      | none =>
          rw [exec_movies fault]
          exact catalogue.effect (carries statement rfl)
            (movieSchema.exec_effect surroundings.now statement
              databases.movies)
  | orders statement => exact catalogue
  | findOneMovie payload => exact catalogue

/-- The protocol of the catalog: it stores valid movies. -/
def stocking (validator : Validator) :
    Protocol Message Databases Surroundings BackendCall Thrown Answer where
  conduct := .any
  inv databases := Catalogue validator databases.movies
  rely _ _ := True
  guarantee _ _ _ after := Catalogue validator after.movies
  post _ _ _ _ := True

section Stocking

variable {request : Message} {arrival store : Databases}

private abbrev Stocks (validator : Validator) (request : Message)
    (arrival : Databases) :
    Program BackendCall BackendReply Thrown Answer → Databases → Prop :=
  (stocking validator).Meets (exec validator) request arrival

/-- A statement followed by a program that keeps the protocol from any later
catalogue on. -/
private theorem stocks_call {statement : SqlCall MovieRow Movie MoviePatch}
    {next : SqlReply statement →
      Program BackendCall BackendReply Thrown Answer}
    (carries : Carries validator statement)
    (continues : ∀ databases surroundings reply,
      Catalogue validator databases.movies →
      (exec validator surroundings (.movies statement) databases).1 =
        .ok reply →
      ∀ later, Stocks validator request arrival (next reply) later) :
    Stocks validator request arrival (.call (.movies statement) next) store := by
  intro now _ catalogue surroundings _
  refine ⟨?_, ?_, fun _ _ _ _ _ => trivial⟩
  · apply catalogue_exec catalogue
    intro _ same
    cases same
    exact carries
  · intro reply replied
    exact continues now surroundings reply catalogue replied _

private theorem stocks_done {program :
      Program BackendCall BackendReply Thrown Answer}
    {outcome : Except Thrown Answer} (ended : program.outcome = some outcome) :
    Stocks validator request arrival program store := by
  cases program with
  | done answer => exact fun _ _ _ => trivial
  | fail thrown => exact fun _ _ _ => trivial
  | call call next => cases ended

private theorem stocks_saveMerged {row : MovieRow}
    (valid : MovieValid validator row.hydrate)
    (changes : UpdateMovieDto validator) :
    Stocks validator request arrival (saveMerged granularity row changes)
      store := by
  have merged := merge_valid valid changes
  cases granularity with
  | atomicSave =>
      rw [saveMerged_atomic]
      apply stocks_call
      · exact merged
      · intro _ _ _ _ _ later
        exact stocks_done rfl
  | statements =>
      rw [saveMerged_statements]
      apply stocks_call
      · trivial
      · intro _ _ stored _ _ later
        cases stored with
        | none =>
            apply stocks_call
            · exact merged
            · intro _ _ _ _ _ last
              exact stocks_done rfl
        | some stored =>
            dsimp only
            split
            · exact stocks_done rfl
            · rename_i patch differs
              apply stocks_call
              · exact diff_valid merged differs
              · intro _ _ _ _ _ last
                exact stocks_done rfl

private theorem stocks_update (payload : Json) :
    Stocks validator request arrival
      (handle validator arithmetic granularity
        (.catalog .UPDATE_MOVIE payload)) store := by
  cases valid : UpdateMoviePayload.validate validator payload with
  | error thrown =>
      rw [handle_refused (.catalog .UPDATE_MOVIE _) valid]
      exact stocks_done rfl
  | ok dto =>
      rw [handle_update valid]
      apply stocks_call
      · trivial
      · intro databases _ rows catalogue replied later
        have read := exec_select_eq_ok replied
        cases isHead : rows.head? with
        | none => exact stocks_done rfl
        | some row =>
            have member : row ∈ databases.movies.rows := by
              have selected := List.mem_of_head? isHead
              rw [read] at selected
              exact (List.mem_filter.mp selected).1
            have valid := catalogue.valid row member
            by_cases renames : Renames row dto.changes
            · simp only [if_pos renames]
              apply stocks_call
              · trivial
              · intro _ _ others _ _ last
                cases others with
                | nil => exact stocks_saveMerged valid dto.changes
                | cons other others => exact stocks_done rfl
            · simp only [if_neg renames]
              exact stocks_saveMerged valid dto.changes

/-- A call that writes nothing but valid new movies. -/
private def Harmless (validator : Validator) (call : BackendCall) : Prop :=
  ∀ statement, call = .movies statement → Carries validator statement

private theorem stocks_of_uses {program :
      Program BackendCall BackendReply Thrown Answer}
    (uses : program.Uses (Harmless validator)) :
    Stocks validator request arrival program store := by
  refine Protocol.meets_of_uses ?_ (fun _ _ => trivial) uses
  intro call harmless surroundings databases catalogue _
  exact catalogue_exec catalogue harmless

private theorem stocks_remove (payload : Json) :
    Stocks validator request arrival
      (handle validator arithmetic granularity
        (.catalog .DELETE_MOVIE payload)) store := by
  cases valid : IdPayload.validate validator payload with
  | error thrown =>
      rw [handle_refused (.catalog .DELETE_MOVIE _) valid]
      exact stocks_done rfl
  | ok dto =>
      rw [handle_remove valid]
      apply stocks_call
      · trivial
      · intro _ _ affected _ _ later
        by_cases nothing : affected = 0
        · rw [if_pos nothing]
          exact stocks_done rfl
        · rw [if_neg nothing]
          exact stocks_done rfl

private theorem harmless_handle {message : Message}
    (notUpdate : ∀ payload, message ≠ .catalog .UPDATE_MOVIE payload)
    (notDelete : ∀ payload, message ≠ .catalog .DELETE_MOVIE payload) :
    (handle validator arithmetic granularity message).Uses
      (Harmless validator) := by
  cases message with
  | catalog pattern payload =>
      apply Program.Uses.map
      apply MoviesController.uses_handle_insert
      · intro parameters condition
        refine ⟨?_, fun _ => trivial⟩
        intro statement same
        cases same
        trivial
      · intro dto
        refine ⟨?_, fun _ => trivial⟩
        intro statement same
        cases same
        exact create_valid dto
      · intro same
        subst same
        exact notUpdate payload rfl
      · intro same
        subst same
        exact notDelete payload rfl
  | orders pattern payload =>
      apply (uses_orders pattern payload).mono
      intro call foreign statement same
      exact absurd same (foreign statement)

private theorem stocks_handle (message : Message) :
    Stocks validator request arrival
      (handle validator arithmetic granularity message) store := by
  by_cases isUpdate : ∃ payload, message = .catalog .UPDATE_MOVIE payload
  · obtain ⟨payload, rfl⟩ := isUpdate
    exact stocks_update payload
  · by_cases isDelete : ∃ payload, message = .catalog .DELETE_MOVIE payload
    · obtain ⟨payload, rfl⟩ := isDelete
      exact stocks_remove payload
    · apply stocks_of_uses
      apply harmless_handle
      · exact fun payload same => isUpdate ⟨payload, same⟩
      · exact fun payload same => isDelete ⟨payload, same⟩

theorem stocking_sound :
    (stocking validator).Sound (backend validator arithmetic granularity) where
  refl _ := trivial
  trans _ _ := trivial
  keeps _ guaranteed := guaranteed
  tolerated _ _ := trivial
  handlers request _ _ _ := stocks_handle request

end Stocking

/-! ## Writes come last -/

/-- A call of a request, with what follows it: unless the call only reads, or
deletes nothing, the request succeeds with it. -/
inductive Concludes : (call : BackendCall) →
    (BackendReply call → Program BackendCall BackendReply Thrown Answer) → Prop
    where
  | selects {parameters condition next} :
      Concludes (.movies (.select parameters condition)) next
  | rereads {id next} : Concludes (.movies (.reread id)) next
  | elsewhere {call next} (foreign : ∀ statement, call ≠ .movies statement) :
      Concludes call next
  | deletes {id next} (succeeds : ∀ affected, affected ≠ 0 →
      ∃ answer, (next affected).outcome = some (.ok answer)) :
      Concludes (.movies (.delete id)) next
  | writes {statement next} (succeeds : ∀ reply,
      ∃ answer, (next reply).outcome = some (.ok answer)) :
      Concludes (.movies statement) next

private abbrev Concluding
    (program : Program BackendCall BackendReply Thrown Answer) : Prop :=
  program.Every (fun _ _ => True) Concludes

private theorem concluding_done
    {program : Program BackendCall BackendReply Thrown Answer}
    {outcome : Except Thrown Answer}
    (ended : program.outcome = some outcome) : Concluding program := by
  cases program with
  | done answer => trivial
  | fail thrown => trivial
  | call call next => cases ended

/-- The last statement of a request. -/
private theorem concluding_write {statement : SqlCall MovieRow Movie MoviePatch}
    {next : SqlReply statement →
      Program BackendCall BackendReply Thrown Answer}
    (succeeds : ∀ reply, ∃ answer,
      (next reply).outcome = some (.ok answer)) :
    Concluding (.call (.movies statement) next) := by
  refine ⟨.writes succeeds, fun reply _ => ?_⟩
  obtain ⟨answer, ended⟩ := succeeds reply
  exact concluding_done ended

private theorem concluding_saveMerged (row : MovieRow)
    (changes : UpdateMovieDto validator) :
    Concluding (saveMerged granularity row changes) := by
  cases granularity with
  | atomicSave =>
      rw [saveMerged_atomic]
      exact concluding_write fun reply => ⟨_, rfl⟩
  | statements =>
      rw [saveMerged_statements]
      refine ⟨.rereads, fun stored _ => ?_⟩
      cases stored with
      | none => exact concluding_write fun reply => ⟨_, rfl⟩
      | some stored =>
          dsimp only
          split
          · exact concluding_done rfl
          · exact concluding_write fun reply => ⟨_, rfl⟩

private theorem concluding_update (payload : Json) :
    Concluding (handle validator arithmetic granularity
      (.catalog .UPDATE_MOVIE payload)) := by
  cases valid : UpdateMoviePayload.validate validator payload with
  | error thrown =>
      rw [handle_refused (.catalog .UPDATE_MOVIE _) valid]
      exact concluding_done rfl
  | ok dto =>
      rw [handle_update valid]
      refine ⟨.selects, fun rows _ => ?_⟩
      dsimp only
      cases rows.head? with
      | none => exact concluding_done rfl
      | some row =>
          by_cases renames : Renames row dto.changes
          · simp only [if_pos renames]
            refine ⟨.selects, fun others _ => ?_⟩
            cases others with
            | nil => exact concluding_saveMerged row dto.changes
            | cons other others => exact concluding_done rfl
          · simp only [if_neg renames]
            exact concluding_saveMerged row dto.changes

private theorem concluding_create (payload : Json) :
    Concluding (handle validator arithmetic granularity
      (.catalog .CREATE_MOVIE payload)) := by
  cases valid : CreateMovieDto.validate validator payload with
  | error thrown =>
      rw [handle_refused (.catalog .CREATE_MOVIE _) valid]
      exact concluding_done rfl
  | ok dto =>
      rw [handle_createMovie valid]
      refine ⟨.selects, fun others _ => ?_⟩
      cases others with
      | nil => exact concluding_write fun row => ⟨_, rfl⟩
      | cons other others => exact concluding_done rfl

private theorem concluding_remove (payload : Json) :
    Concluding (handle validator arithmetic granularity
      (.catalog .DELETE_MOVIE payload)) := by
  cases valid : IdPayload.validate validator payload with
  | error thrown =>
      rw [handle_refused (.catalog .DELETE_MOVIE _) valid]
      exact concluding_done rfl
  | ok dto =>
      rw [handle_remove valid]
      refine ⟨.deletes ?_, fun affected _ => ?_⟩
      · intro affected some
        exact ⟨_, by rw [if_neg some]; rfl⟩
      · by_cases nothing : affected = 0
        · simp only [if_pos nothing]
          exact concluding_done rfl
        · simp only [if_neg nothing]
          exact concluding_done rfl

theorem concluding_handle (message : Message) :
    (handle validator arithmetic granularity message).Every (fun _ _ => True)
      Concludes := by
  cases message with
  | catalog pattern payload =>
      cases pattern with
      | CREATE_MOVIE => exact concluding_create payload
      | UPDATE_MOVIE => exact concluding_update payload
      | DELETE_MOVIE => exact concluding_remove payload
      | FIND_ALL_MOVIES => exact ⟨.selects, fun _ _ => trivial⟩
      | FIND_ONE_MOVIE =>
          cases valid : IdPayload.validate validator payload with
          | error thrown =>
              simp only [handle, MoviesController.handle,
                MoviesController.findOne, valid]
              exact concluding_done rfl
          | ok dto =>
              simp only [handle, MoviesController.handle,
                MoviesController.findOne, valid]
              refine ⟨.selects, fun rows _ => ?_⟩
              cases rows with
              | nil => exact concluding_done rfl
              | cons row rest => exact concluding_done rfl
  | orders pattern payload =>
      apply (uses_orders pattern payload).every
      intro call next foreign
      exact .elsewhere foreign

/-- A call that changes the table is the last one of a request that
succeeds. -/
theorem Concludes.succeeds {call : BackendCall}
    {next : BackendReply call →
      Program BackendCall BackendReply Thrown Answer}
    (concludes : Concludes call next) {surroundings : Surroundings}
    {databases : Databases}
    (changes : (exec validator surroundings call databases).2.movies.rows ≠
      databases.movies.rows) :
    ∃ answer, (Program.resume next
      (exec validator surroundings call databases).1).outcome =
        some (.ok answer) := by
  have statementSucceeds : ∀ statement, call = .movies statement →
      ∃ reply, (exec validator surroundings call databases).1 = .ok reply := by
    intro statement same
    subst same
    cases result :
        (exec validator surroundings (.movies statement) databases).1 with
    | ok reply => exact ⟨reply, rfl⟩
    | error thrown => exact absurd (exec_movies_error result) changes
  cases concludes with
  | @selects parameters condition next =>
      obtain ⟨rows, replied⟩ := statementSucceeds _ rfl
      rw [(exec_movies_eq_ok replied).2] at changes
      refine absurd ?_ changes
      simp only [Schema.exec]
      split <;> rfl
  | @rereads id next =>
      obtain ⟨stored, replied⟩ := statementSucceeds _ rfl
      rw [(exec_movies_eq_ok replied).2] at changes
      exact absurd rfl changes
  | elsewhere foreign =>
      cases call with
      | movies statement => exact absurd rfl (foreign statement)
      | orders statement => exact absurd rfl changes
      | findOneMovie payload => exact absurd rfl changes
  | @deletes id next succeeds =>
      obtain ⟨affected, replied⟩ := statementSucceeds _ rfl
      obtain ⟨deletes, after⟩ := exec_movies_eq_ok replied
      obtain ⟨erased, counted⟩ := movieSchema.exec_delete_eq_ok deletes
      rw [replied]
      apply succeeds
      intro same
      subst same
      have absent : ¬ databases.movies.Has id := by
        intro has
        rw [if_pos has] at counted
        cases counted
      rw [after, erased] at changes
      exact changes (Table.erase_rows_of_not_has absent)
  | writes succeeds =>
      obtain ⟨reply, replied⟩ := statementSucceeds _ rfl
      rw [replied]
      exact succeeds reply

/-! ## Every run -/

theorem catalogue_of_runs {initial : Databases}
    (start : Catalogue validator initial.movies)
    {pool : Pool Message Databases BackendCall BackendReply Thrown Answer}
    (runs : (backend validator arithmetic granularity).Runs .any
      (.start initial) pool) :
    Catalogue validator pool.store.movies := by
  have coherent : (stocking validator).Coherent
      (backend validator arithmetic granularity) (.start initial) :=
    Protocol.coherent_start start
  exact (coherent.run stocking_sound runs).inv

/-- Ids are handed out in ascending order. -/
theorem nextId_exec {surroundings : Surroundings} {call : BackendCall}
    {databases : Databases} :
    databases.movies.nextId ≤
      (exec validator surroundings call databases).2.movies.nextId := by
  cases call with
  | movies statement =>
      cases fault : surroundings.fault with
      | some thrown => rw [exec_faulty_movies fault]
      | none =>
          rw [exec_movies fault]
          exact (movieSchema.exec_effect surroundings.now statement
            databases.movies).nextId
  | orders statement => exact le_rfl
  | findOneMovie payload => exact le_rfl

/-- The first id is 1. -/
theorem nextId_of_runs {orders : Table OrderRow orderSchema.key}
    {pool : Pool Message Databases BackendCall BackendReply Thrown Answer}
    (runs : (backend validator arithmetic granularity).Runs .any
      (.start { movies := ∅, orders }) pool) :
    1 ≤ pool.store.movies.nextId := by
  apply Service.Runs.preserves (fun pool => 1 ≤ pool.store.movies.nextId) _ runs
  · exact le_refl (1 : ℤ)
  · intro before after positive steps
    cases steps with
    | arrive => exact positive
    | perform => exact le_trans positive nextId_exec

theorem failures_change_nothing {initial : Databases}
    {pool : Pool Message Databases BackendCall BackendReply Thrown Answer}
    (runs : (backend validator arithmetic granularity).Runs .any
      (.start initial) pool) :
    FailuresChangeNothing (backend validator arithmetic granularity) pool := by
  intro index thread surroundings call next later ended thrown found pending
    onward last failed
  by_contra changes
  have every := Service.Runs.every
    (fun message _ => concluding_handle message) (fun _ _ _ _ _ => trivial)
    runs (by simp [Pool.start]) thread (List.mem_of_getElem? found)
  rw [pending] at every
  obtain ⟨answer, succeeds⟩ := every.1.succeeds changes
  have ends := onward.outcome_of_perform found succeeds last
  rw [ends] at failed
  cases failed

/-- Every movie stored in a run obeys the rules, and a request that ends with
an error has not changed the table. -/
theorem catalog_rules
    {orders : Table OrderRow orderSchema.key}
    {pool : Pool Message Databases BackendCall BackendReply Thrown Answer}
    (runs : (backend validator arithmetic granularity).Runs .any
      (.start { movies := ∅, orders }) pool) :
    (∀ row ∈ pool.store.movies.rows, ObeysRules validator row) ∧
      FailuresChangeNothing (backend validator arithmetic granularity) pool := by
  refine ⟨?_, failures_change_nothing runs⟩
  intro row member
  have catalogue := catalogue_of_runs catalogue_empty runs
  exact obeysRules_of_valid (catalogue.valid row member)

/-- The same movie is created twice at once. -/
theorem catalog_rules_example :
    ∃ pool : Pool Message Databases BackendCall BackendReply Thrown Answer,
      pool.finished = [0, 1] ∧ (∃ row ∈ pool.store.movies.rows,
        ObeysRules .plain row) ∧
      FailuresChangeNothing (backend .plain .exact .statements) pool := by
  have played : (((backend .plain .exact .statements).playFreely
      (.start ⟨∅, ∅⟩)
      [.arrive premiereMessage, .arrive premiereMessage, .perform 0 (calm 1),
        .perform 1 (calm 2), .perform 0 (calm 3), .perform 1 (calm 4)]).any
      fun pool => pool.finished = [0, 1] &&
        !pool.store.movies.rows.isEmpty) = true := by decide +kernel
  obtain ⟨pool, reached, both⟩ := (Option.any_eq_true _ _).mp played
  obtain ⟨finished, stored⟩ := Bool.and_eq_true_iff.mp both
  have rules := catalog_rules (Service.runs_of_playFreely reached)
  refine ⟨pool, of_decide_eq_true finished, ?_, rules.2⟩
  cases isRows : pool.store.movies.rows with
  | nil => simp [isRows] at stored
  | cons row rest =>
      refine ⟨row, List.mem_cons_self, ?_⟩
      apply rules.1
      simp [isRows]

end Cinema.Catalog
