import Cinema.Catalog.Movie

/-!
# The catalog service

`MoviesService` over the injected repository, and the message handlers of its
controller, which validate the payload first.
-/

namespace Cinema.Catalog

open Cinema.Interleaving Cinema.Relational Cinema.Shared

variable {Call : Type} {Reply : Call → Type} {validator : Validator}

namespace MoviesService

variable (movies : Repository movieSchema Call Reply Thrown)

/-- All movies, by id. -/
def findAll : Program Call Reply Thrown (List Movie) :=
  movies.find [] fun left right => left.id.val ≤ right.id.val

/-- A missing movie is reported with its id. -/
def findOne (id : ℤ) : Program Call Reply Thrown Movie := do
  match ← movies.findOneBy [Criterion.integer (fun row => row.id.val) (some id)] with
  | none => .fail (notFoundException s!"Movie {id} not found")
  | some movie => return movie

/-- Is there another movie with the title and the year?  A criterion that is
undefined is left out of the query, and so is an `excludeId` of zero. -/
def assertTitleIsFree (title : Option String) (releaseYear excludeId : Option ℤ) :
    Program Call Reply Thrown Unit := do
  let found ← movies.existsBy
    [Criterion.text (fun row => row.title.val) title,
      Criterion.smallint (fun row => row.releaseYear.val) releaseYear,
      Criterion.notInteger (fun row => row.id.val) (excludeId.filter fun id => id ≠ 0)]
  let shownTitle := title.getD "null"
  let shownYear := releaseYear.getD 0
  if found then
    .fail (conflictException
      s!"Movie \"{shownTitle}\" ({shownYear}) already exists")
  else return ()

/-- The check and the insertion are separate statements. -/
def create (dto : CreateMovieDto validator) :
    Program Call Reply Thrown Movie := do
  assertTitleIsFree movies (some dto.title) (some dto.releaseYear) none
  movies.save (Movie.create dto)

/-- The title is checked only where it or the year changes; then the entity that
was read is saved with the changes over it. -/
def update (id : ℤ) (changes : UpdateMovieDto validator) :
    Program Call Reply Thrown Movie := do
  let movie ← findOne movies id
  let title := changes.title.coalesce movie.title
  let releaseYear := changes.releaseYear.coalesce movie.releaseYear
  if title ≠ movie.title ∨ releaseYear ≠ movie.releaseYear then
    assertTitleIsFree movies title releaseYear (some id)
  movies.save (movie.merge changes)

/-- One statement, which reports how many rows it has deleted. -/
def remove (id : ℤ) : Program Call Reply Thrown Unit := do
  let affected ← movies.delete id
  if affected = 0 then
    .fail (notFoundException s!"Movie {id} not found")
  else return ()

end MoviesService

/-! ## Messages -/

/-- The messages of the service. -/
inductive CatalogPatterns where
  | FIND_ALL_MOVIES
  | FIND_ONE_MOVIE
  | CREATE_MOVIE
  | UPDATE_MOVIE
  | DELETE_MOVIE
  deriving DecidableEq

def CatalogPatterns.value : CatalogPatterns → String
  | .FIND_ALL_MOVIES => "catalog.movies.find_all"
  | .FIND_ONE_MOVIE => "catalog.movies.find_one"
  | .CREATE_MOVIE => "catalog.movies.create"
  | .UPDATE_MOVIE => "catalog.movies.update"
  | .DELETE_MOVIE => "catalog.movies.delete"

/-- What the handlers return. -/
inductive CatalogAnswer where
  | movies (movies : List Movie)
  | movie (movie : Movie)
  | deleted (id : ℤ)
  deriving DecidableEq

namespace MoviesController

variable (validator) (movies : Repository movieSchema Call Reply Thrown)

/-- The pipe first, then the service. -/
def findOne (payload : Json) : Program Call Reply Thrown Movie := do
  let dto ← .ofExcept (IdPayload.validate validator payload)
  MoviesService.findOne movies dto.id

/-- The body of the message is the movie itself. -/
def create (payload : Json) : Program Call Reply Thrown Movie := do
  let dto ← .ofExcept (CreateMovieDto.validate validator payload)
  MoviesService.create movies dto

/-- The id and the changes arrive in one payload. -/
def update (payload : Json) : Program Call Reply Thrown Movie := do
  let dto ← .ofExcept (UpdateMoviePayload.validate validator payload)
  MoviesService.update movies dto.id dto.changes

/-- The answer repeats the id. -/
def remove (payload : Json) : Program Call Reply Thrown ℤ := do
  let dto ← .ofExcept (IdPayload.validate validator payload)
  MoviesService.remove movies dto.id
  return dto.id

/-- The handler of a message. -/
def handle (pattern : CatalogPatterns) (payload : Json) :
    Program Call Reply Thrown CatalogAnswer :=
  match pattern with
  | .FIND_ALL_MOVIES => .movies <$> MoviesService.findAll movies
  | .FIND_ONE_MOVIE => .movie <$> findOne validator movies payload
  | .CREATE_MOVIE => .movie <$> create validator movies payload
  | .UPDATE_MOVIE => .movie <$> update validator movies payload
  | .DELETE_MOVIE => .deleted <$> remove validator movies payload

/-- The pipe of the handler throws on the payload. -/
def Refuses : CatalogPatterns → Json → Thrown → Prop
  | .FIND_ALL_MOVIES, _, _ => False
  | .FIND_ONE_MOVIE, payload, thrown | .DELETE_MOVIE, payload, thrown =>
      IdPayload.validate validator payload = .error thrown
  | .CREATE_MOVIE, payload, thrown =>
      CreateMovieDto.validate validator payload = .error thrown
  | .UPDATE_MOVIE, payload, thrown =>
      UpdateMoviePayload.validate validator payload = .error thrown

variable {validator} {movies} in
theorem handle_refused {pattern : CatalogPatterns} {payload : Json}
    {thrown : Thrown} (refused : Refuses validator pattern payload thrown) :
    handle validator movies pattern payload = .fail thrown := by
  cases pattern with
  | FIND_ALL_MOVIES => cases refused
  | FIND_ONE_MOVIE | CREATE_MOVIE | UPDATE_MOVIE | DELETE_MOVIE =>
      exact Program.map_bind_refused refused _ _

section Uses

variable {validator} {movies} {allowed : Call → Prop}

private theorem uses_assertTitleIsFree
    (selects : ∀ parameters condition,
      (movies.statement (.select parameters condition)).Uses allowed)
    (title : Option String) (releaseYear excludeId : Option ℤ) :
    (MoviesService.assertTitleIsFree movies title releaseYear
      excludeId).Uses allowed := by
  refine (Repository.uses_existsBy (selects _ _)).bind fun found => ?_
  cases found <;> trivial

private theorem uses_findOne
    (selects : ∀ parameters condition,
      (movies.statement (.select parameters condition)).Uses allowed)
    (id : ℤ) : (MoviesService.findOne movies id).Uses allowed := by
  refine (Repository.uses_findOneBy (selects _ _)).bind fun movie => ?_
  cases movie <;> trivial

/-- To find or to create a movie takes selections and insertions. -/
theorem uses_handle_insert
    (selects : ∀ parameters condition,
      (movies.statement (.select parameters condition)).Uses allowed)
    (inserts : ∀ dto : CreateMovieDto validator,
      (movies.statement (.insert (Movie.create dto))).Uses allowed)
    {pattern : CatalogPatterns} (notUpdate : pattern ≠ .UPDATE_MOVIE)
    (notDelete : pattern ≠ .DELETE_MOVIE) (payload : Json) :
    (handle validator movies pattern payload).Uses allowed := by
  cases pattern with
  | FIND_ALL_MOVIES => exact (Repository.uses_find (selects _ _) _).map _
  | FIND_ONE_MOVIE =>
      exact ((Program.uses_ofExcept _).bind fun dto =>
        uses_findOne selects _).map _
  | CREATE_MOVIE =>
      refine ((Program.uses_ofExcept _).bind fun dto => ?_).map _
      exact (uses_assertTitleIsFree selects _ _ _).bind fun _ =>
        Repository.uses_save_new rfl (inserts _)
  | UPDATE_MOVIE => exact absurd rfl notUpdate
  | DELETE_MOVIE => exact absurd rfl notDelete

/-- The catalog only issues statements to its own repository. -/
theorem uses_handle (issued : ∀ call, (movies.statement call).Uses allowed)
    (pattern : CatalogPatterns) (payload : Json) :
    (handle validator movies pattern payload).Uses allowed := by
  have selects : ∀ parameters condition,
      (movies.statement (.select parameters condition)).Uses allowed :=
    fun _ _ => issued _
  cases pattern with
  | UPDATE_MOVIE =>
      refine ((Program.uses_ofExcept _).bind fun dto => ?_).map _
      refine (uses_findOne selects dto.id).bind fun movie => ?_
      dsimp only
      split
      · exact (uses_assertTitleIsFree selects _ _ _).bind fun _ =>
          Repository.uses_save issued _
      · exact Repository.uses_save issued _
  | DELETE_MOVIE =>
      refine ((Program.uses_ofExcept _).bind fun dto => ?_).map _
      refine Program.Uses.bind ?_ fun _ => trivial
      refine (issued _).bind fun affected => ?_
      split <;> trivial
  | _ =>
      exact uses_handle_insert selects (fun _ => issued _) (by simp) (by simp)
        payload

end Uses

end MoviesController

end Cinema.Catalog
