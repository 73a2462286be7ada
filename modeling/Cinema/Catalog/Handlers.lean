import Cinema.Backend

/-!
# The handlers of the catalog service, call by call

For a payload that passes validation a deletion is one call; an update reads
the movie, looks for another one with the new title and year if they change,
and saves what it has read with the changes over it.
-/

namespace Cinema.Backend

open Interleaving Relational Shared Catalog Orders

variable {validator : Validator} {arithmetic : Arithmetic}
  {granularity : Granularity} {payload : Json}

def answerMovie (movie : Movie) : Answer := .catalog (.movie movie)

/-- `{ id }` -/
def movieCriteria (id : ℤ) : List (Option (Criterion MovieRow)) :=
  [Criterion.integer (fun row => row.id.val) (some id)]

theorem handle_remove {dto : IdPayload}
    (valid : IdPayload.validate validator payload = .ok dto) :
    handle validator arithmetic granularity (.catalog .DELETE_MOVIE payload) =
      .call (.movies (.delete dto.id)) fun affected =>
        if affected = 0 then
          .fail (notFoundException s!"Movie {dto.id} not found")
        else .done (.catalog (.deleted dto.id)) := by
  simp only [handle, MoviesController.handle, MoviesController.remove, valid]
  refine congrArg (Program.call _) (funext fun affected => ?_)
  by_cases nothing : affected = 0
  · simp [Program.bind, nothing]
  · simp [Program.bind, nothing]

/-- The rest of `update` once the new title is known to be free. -/
def saveMerged (granularity : Granularity) (row : MovieRow)
    (changes : UpdateMovieDto validator) :
    Program BackendCall BackendReply Thrown Answer :=
  .catalog <$> (.movie <$> (movies granularity).save (row.hydrate.merge changes))

/-- The update changes the title or the year of the movie. -/
def Renames (row : MovieRow) (changes : UpdateMovieDto validator) : Prop :=
  changes.title.coalesce row.hydrate.title ≠ row.hydrate.title ∨
    changes.releaseYear.coalesce row.hydrate.releaseYear ≠
      row.hydrate.releaseYear

instance (row : MovieRow) (changes : UpdateMovieDto validator) :
    Decidable (Renames row changes) :=
  inferInstanceAs (Decidable (_ ∨ _))

/-- Another movie with the title and the year that the update leaves. -/
def sameTitleCriteria (id : ℤ) (row : MovieRow)
    (changes : UpdateMovieDto validator) : List (Option (Criterion MovieRow)) :=
  [Criterion.text (fun row => row.title.val)
      (changes.title.coalesce row.hydrate.title),
    Criterion.smallint (fun row => row.releaseYear.val)
      (changes.releaseYear.coalesce row.hydrate.releaseYear),
    Criterion.notInteger (fun row => row.id.val)
      ((some id).filter fun id => id ≠ 0)]

def titleTaken (row : MovieRow) (changes : UpdateMovieDto validator) :
    Thrown :=
  let shownTitle :=
    (changes.title.coalesce row.hydrate.title).getD "null"
  let shownYear :=
    (changes.releaseYear.coalesce row.hydrate.releaseYear).getD 0
  conflictException s!"Movie \"{shownTitle}\" ({shownYear}) already exists"

theorem handle_update {dto : UpdateMoviePayload validator}
    (valid : UpdateMoviePayload.validate validator payload = .ok dto) :
    handle validator arithmetic granularity (.catalog .UPDATE_MOVIE payload) =
      .call (.movies (.matching (movieCriteria dto.id))) fun rows =>
        match rows.head? with
        | none => .fail (notFoundException s!"Movie {dto.id} not found")
        | some row =>
            if Renames row dto.changes then
              .call (.movies (.matching
                  (sameTitleCriteria dto.id row dto.changes))) fun others =>
                if others.isEmpty then saveMerged granularity row dto.changes
                else .fail (titleTaken row dto.changes)
            else saveMerged granularity row dto.changes := by
  simp only [handle, MoviesController.handle, MoviesController.update, valid]
  refine congrArg (Program.call _) (funext fun rows => ?_)
  cases rows with
  | nil => rfl
  | cons row rest =>
      change ((if Renames row dto.changes then _ else _ :
        Program BackendCall BackendReply Thrown Movie).bind _).bind _ = _
      by_cases renames : Renames row dto.changes
      · simp only [List.head?_cons, if_pos renames]
        refine congrArg (Program.call _) (funext fun others => ?_)
        cases others with
        | nil => rfl
        | cons other others => rfl
      · simp only [List.head?_cons, if_neg renames]
        rfl

/-- A movie with a title and a year, other than the excluded one. -/
def pairCriteria (title : String) (releaseYear : ℤ) (excluded : Option ℤ) :
    List (Option (Criterion MovieRow)) :=
  [Criterion.text (fun row => row.title.val) (some title),
    Criterion.smallint (fun row => row.releaseYear.val) (some releaseYear),
    Criterion.notInteger (fun row => row.id.val) excluded]

def newTitleTaken (dto : CreateMovieDto validator) : Thrown :=
  conflictException
    s!"Movie \"{dto.title}\" ({dto.releaseYear}) already exists"

theorem handle_createMovie {dto : CreateMovieDto validator}
    (valid : CreateMovieDto.validate validator payload = .ok dto) :
    handle validator arithmetic granularity (.catalog .CREATE_MOVIE payload) =
      .call (.movies (.matching
          (pairCriteria dto.title dto.releaseYear none))) fun others =>
        if others.isEmpty then
          .call (.movies (.insert (Movie.create dto))) fun row =>
            .done (answerMovie (MovieRow.refresh (Movie.create dto) row))
        else .fail (newTitleTaken dto) := by
  simp only [handle, MoviesController.handle, MoviesController.create, valid]
  refine congrArg (Program.call _) (funext fun others => ?_)
  cases others with
  | nil => rfl
  | cons other others => rfl

theorem saveMerged_atomic (row : MovieRow)
    (changes : UpdateMovieDto validator) :
    saveMerged .atomicSave row changes =
      .call (.movies (.save row.id.val (row.hydrate.merge changes)))
        fun written => .done (answerMovie
          (written.elim (row.hydrate.merge changes)
            (MovieRow.refresh (row.hydrate.merge changes)))) :=
  rfl

theorem saveMerged_statements (row : MovieRow)
    (changes : UpdateMovieDto validator) :
    saveMerged .statements row changes =
      .call (.movies (.reread row.id.val)) fun stored =>
        match stored with
        | none =>
            .call (.movies (.reinsert row.id.val (row.hydrate.merge changes)))
              fun written => .done (answerMovie
                (MovieRow.refresh (row.hydrate.merge changes) written))
        | some stored =>
            match MovieRow.diff (row.hydrate.merge changes) stored with
            | none => .done (answerMovie (row.hydrate.merge changes))
            | some patch =>
                .call (.movies (.update row.id.val patch)) fun written =>
                  .done (answerMovie (written.elim (row.hydrate.merge changes)
                    (MovieRow.refresh (row.hydrate.merge changes)))) := by
  refine congrArg (Program.call _) (funext fun stored => ?_)
  cases stored with
  | none => rfl
  | some stored =>
      cases differs : MovieRow.diff (row.hydrate.merge changes) stored with
      | none =>
          have same : movieSchema.diff (row.hydrate.merge changes) stored =
              none := differs
          simp only [Program.bind, same, differs]
          rfl
      | some patch =>
          have same : movieSchema.diff (row.hydrate.merge changes) stored =
              some patch := differs
          simp only [Program.bind, same, differs]
          rfl

/-- The order service makes no statement on the movies. -/
theorem uses_orders (pattern : OrderPatterns) (payload : Json) :
    (handle validator arithmetic granularity (.orders pattern payload)).Uses
      fun call => ∀ statement, call ≠ .movies statement := by
  apply Program.Uses.map
  apply OrdersController.uses_handle
  · intro call
    exact ⟨by simp, fun _ => trivial⟩
  · intro payload
    exact ⟨by simp, fun _ => trivial⟩

end Cinema.Backend
