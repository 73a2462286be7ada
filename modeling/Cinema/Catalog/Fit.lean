import Cinema.Catalog.Conflicts

/-!
# Whether a validated movie fits its table

The validators and the columns describe a movie twice.  They differ in three
ways: a partial update may set a column to `null`, the validators count fewer
characters than the table, and they accept the NUL character.
-/

namespace Cinema.Catalog

open Interleaving Relational Shared Orders Backend

/-- Every column but the id accepts its value. -/
structure Fits (movie : Movie) : Prop where
  title : ∃ title, movie.title = some title ∧ '\x00' ∉ title.toList ∧
    title.length ≤ 255
  description : ∀ text, movie.description = some text → '\x00' ∉ text.toList
  releaseYear : ∃ releaseYear, movie.releaseYear = some releaseYear ∧
    -32768 ≤ releaseYear ∧ releaseYear ≤ 32767
  durationMinutes : ∃ durationMinutes,
    movie.durationMinutes = some durationMinutes ∧ 0 < durationMinutes ∧
      durationMinutes ≤ 32767
  ticketPrice : ∃ price, movie.ticketPrice = some price ∧
    0 ≤ Numeric.round (price * 10 ^ 2) ∧
      Numeric.round (price * 10 ^ 2) < 10 ^ 10

/-- The answer is a success or a client error. -/
def Acceptable (outcome : Except Thrown Answer) : Prop :=
  ∀ thrown, outcome = .error thrown → ∃ status,
    thrown.statusCode = some status ∧ 400 ≤ status ∧ status < 500

/-- What the validators of a new movie leave open. -/
structure FittingDto {validator : Validator}
    (dto : CreateMovieDto validator) : Prop where
  titleClean : '\x00' ∉ dto.title.toList
  titleShort : dto.title.length ≤ 255
  descriptionClean : ∀ text, dto.description = .value text →
    '\x00' ∉ text.toList

/-- What the validators of an update leave open. -/
structure FittingChanges {validator : Validator}
    (changes : UpdateMovieDto validator) : Prop where
  titleKept : changes.title ≠ .null
  releaseYearKept : changes.releaseYear ≠ .null
  durationMinutesKept : changes.durationMinutes ≠ .null
  ticketPriceKept : changes.ticketPrice ≠ .null
  titleClean : ∀ title, changes.title = .value title → '\x00' ∉ title.toList
  titleShort : ∀ title, changes.title = .value title → title.length ≤ 255
  descriptionClean : ∀ text, changes.description = .value text →
    '\x00' ∉ text.toList

variable {validator : Validator} {arithmetic : Arithmetic}
  {granularity : Granularity} {payload : Json}
  {environments : Nat → Surroundings} {databases : Databases}

/-! ## A title of `null` -/

private def eraseTitlePayload : Json :=
  .obj [("id", .num 1), ("changes", .obj [("title", .null)])]

/-- The validators skip the `null`, and the table refuses it. -/
theorem title_null_fails :
    ∃ pool dto row,
      (backend .plain .exact .statements).Runs .any (.start ⟨∅, ∅⟩) pool ∧
      UpdateMoviePayload.validate .plain eraseTitlePayload = .ok dto ∧
      pool.store.movies.find? dto.id = some row ∧
      ¬ Fits (row.hydrate.merge dto.changes) ∧
      ¬ Acceptable (alone .plain .exact .statements calm
        (.catalog .UPDATE_MOVIE eraseTitlePayload) pool.store) := by
  have played : (((backend .plain .exact .statements).playFreely
      (.start ⟨∅, ∅⟩)
      [.arrive premiereMessage, .perform 0 (calm 1), .perform 0 (calm 2)]).any
      fun pool =>
        (UpdateMoviePayload.validate .plain eraseTitlePayload).toOption.any
          (fun dto => dto.changes.title = .null &&
            (pool.store.movies.find? dto.id).isSome) &&
        match alone .plain .exact .statements calm
          (.catalog .UPDATE_MOVIE eraseTitlePayload) pool.store with
        | .ok _ => false
        | .error thrown => thrown.statusCode = some 500) = true := by
    decide +kernel
  obtain ⟨pool, reached, fails⟩ := (Option.any_eq_true _ _).mp played
  obtain ⟨isThere, serverError⟩ := Bool.and_eq_true_iff.mp fails
  obtain ⟨dto, isDto, both⟩ := (Option.any_eq_true _ _).mp isThere
  obtain ⟨isNull, found⟩ := Bool.and_eq_true_iff.mp both
  obtain ⟨row, stored⟩ := Option.isSome_iff_exists.mp found
  refine ⟨pool, dto, row, Service.runs_of_playFreely reached,
    toOption_eq_some.mp isDto, stored, ?_, ?_⟩
  · intro fits
    obtain ⟨title, isTitle, _⟩ := fits.title
    simp [Movie.merge, of_decide_eq_true isNull, assigned] at isTitle
  · intro acceptable
    cases ended : alone .plain .exact .statements calm
        (.catalog .UPDATE_MOVIE eraseTitlePayload) pool.store with
    | ok answer => simp [ended] at serverError
    | error thrown =>
        obtain ⟨status, reported, _, below⟩ := acceptable thrown ended
        simp only [ended, decide_eq_true_eq] at serverError
        rw [serverError] at reported
        cases reported
        norm_num at below

/-! ## Rows and movies that fit -/

/-- The table builds a row of the movies that fit, and of no other ones. -/
theorem build_isOk {movie : Movie} {id : ℤ} {now : Nat} :
    (∃ row, MovieRow.build movie id now = .ok row) ↔
      (-2147483648 ≤ id ∧ id ≤ 2147483647) ∧ Fits movie := by
  constructor
  · rintro ⟨row, built⟩
    obtain ⟨isId, title, description, releaseYear, durationMinutes,
      ⟨price, isPrice, written⟩, _, _⟩ := MovieRow.build_eq_ok built
    have isRounded := Numeric.write_eq_ok.mp written
    constructor
    · rw [← isId]
      exact row.id.inRange
    · exact {
        title := ⟨_, title, row.title.clean, row.title.short⟩
        description := by
          intro text isText
          rw [description] at isText
          obtain ⟨stored, _, rfl⟩ := Option.map_eq_some_iff.mp isText
          exact stored.clean
        releaseYear := ⟨_, releaseYear, row.releaseYear.inRange⟩
        durationMinutes := ⟨_, durationMinutes, row.durationPositive,
          row.durationMinutes.inRange.2⟩
        ticketPrice := ⟨price, isPrice, by
          rw [← isRounded]
          exact ⟨row.priceNonneg, (abs_lt.mp row.ticketPrice.inRange).2⟩⟩ }
  · rintro ⟨idFits, fits⟩
    obtain ⟨title, isTitle, clean, short⟩ := fits.title
    obtain ⟨releaseYear, isYear, yearFits⟩ := fits.releaseYear
    obtain ⟨minutes, isMinutes, positive, minutesFit⟩ := fits.durationMinutes
    obtain ⟨price, isPrice, nonneg, priceFits⟩ := fits.ticketPrice
    have writesId : Ranged.write _ _ id = .ok ⟨id, idFits⟩ :=
      Ranged.write_eq_ok.mpr rfl
    have writesTitle : notNull (Varchar.write 255) movie.title =
        .ok ⟨title, clean, short⟩ :=
      notNull_eq_ok.mpr ⟨title, isTitle, Varchar.write_eq_ok.mpr rfl⟩
    have writesYear :
        notNull (Ranged.write (-32768) 32767) movie.releaseYear =
        .ok ⟨releaseYear, yearFits⟩ :=
      notNull_eq_ok.mpr ⟨releaseYear, isYear, Ranged.write_eq_ok.mpr rfl⟩
    have writesMinutes :
        notNull (Ranged.write (-32768) 32767) movie.durationMinutes =
          .ok ⟨minutes, by omega, minutesFit⟩ :=
      notNull_eq_ok.mpr ⟨minutes, isMinutes, Ranged.write_eq_ok.mpr rfl⟩
    have writesPrice : notNull (Numeric.write 10 2) movie.ticketPrice =
        .ok ⟨_, abs_lt.mpr ⟨lt_of_lt_of_le (by norm_num) nonneg, priceFits⟩⟩ :=
      notNull_eq_ok.mpr ⟨price, isPrice, Numeric.write_eq_ok.mpr rfl⟩
    obtain ⟨description, writesDescription⟩ :
        ∃ description, nullable Text.write movie.description =
          .ok description := by
      cases isText : movie.description with
      | none => exact ⟨none, rfl⟩
      | some text =>
          have written : Text.write text =
              .ok ⟨text, fits.description text isText⟩ :=
            Text.write_eq_ok.mpr rfl
          exact ⟨_, by rw [nullable, written]; rfl⟩
    unfold MovieRow.build
    simp only [writesId, writesTitle, writesYear, writesMinutes, writesPrice,
      writesDescription, bind, Except.bind, dif_pos positive, dif_pos nonneg]
    exact ⟨_, rfl⟩

theorem Fits.congr {left right : Movie}
    (same : ∀ field, left.get field = right.get field) (fits : Fits left) :
    Fits right := by
  obtain ⟨title, description, releaseYear, durationMinutes, ticketPrice⟩ := fits
  have sameTitle : left.title = right.title := same .title
  have sameDescription : left.description = right.description :=
    same .description
  have sameYear : left.releaseYear = right.releaseYear := same .releaseYear
  have sameMinutes : left.durationMinutes = right.durationMinutes :=
    same .durationMinutes
  have samePrice : left.ticketPrice = right.ticketPrice := same .ticketPrice
  exact {
    title := sameTitle ▸ title
    description := sameDescription ▸ description
    releaseYear := sameYear ▸ releaseYear
    durationMinutes := sameMinutes ▸ durationMinutes
    ticketPrice := samePrice ▸ ticketPrice }

theorem fits_hydrate (row : MovieRow) : Fits row.hydrate :=
  (build_isOk.mp ⟨row, MovieRow.build_hydrate row 0⟩).2

/-- A valid price is a number of cents the column can hold. -/
private theorem price_fits {price : ℚ}
    (valid : CreateMovieDto.ValidTicketPrice price) :
    0 ≤ Numeric.round (price * 10 ^ 2) ∧
      Numeric.round (price * 10 ^ 2) < 10 ^ 10 := by
  obtain ⟨nonneg, atMost, whole⟩ := valid
  have cents : ((price * 10 ^ 2).num : ℚ) = price * 10 ^ 2 :=
    Rat.coe_int_num_of_den_eq_one whole
  rw [← cents, Numeric.round_intCast]
  have lower : (0 : ℚ) ≤ (price * 10 ^ 2).num := by
    rw [cents]
    positivity
  have upper : ((price * 10 ^ 2).num : ℚ) < 10 ^ 10 := by
    rw [cents]
    linarith
  exact ⟨by exact_mod_cast lower, by exact_mod_cast upper⟩

/-- The validators promise all that the table asks, but for three things. -/
theorem fits_create {dto : CreateMovieDto validator} :
    Fits (Movie.create dto) ↔ FittingDto dto := by
  constructor
  · intro fits
    obtain ⟨title, isTitle, clean, short⟩ := fits.title
    cases isTitle
    refine ⟨clean, short, ?_⟩
    intro text supplied
    apply fits.description
    simp [Movie.create, supplied, assigned]
  · intro fitting
    have years := dto.releaseYearValid
    have minutes := dto.durationMinutesValid
    simp only [CreateMovieDto.ValidReleaseYear] at years
    simp only [CreateMovieDto.ValidDurationMinutes] at minutes
    exact {
      title := ⟨_, rfl, fitting.titleClean, fitting.titleShort⟩
      description := by
        intro text isText
        exact fitting.descriptionClean text (eq_value_of_assigned isText)
      releaseYear := ⟨_, rfl, by omega, by omega⟩
      durationMinutes := ⟨_, rfl, by omega, by omega⟩
      ticketPrice := ⟨_, rfl, price_fits dto.ticketPriceValid⟩ }

private theorem ne_null_of_assigned {α : Type} {supplied : Supplied α}
    {current : Option α} {value : α}
    (assigns : assigned supplied current = some value) : supplied ≠ .null := by
  intro same
  subst same
  cases assigns

/-- A column keeps a value that fits if the values it is given fit. -/
private theorem fits_assigned {α : Type} {fits : α → Prop}
    {supplied : Supplied α} {current : Option α} (kept : supplied ≠ .null)
    (stored : ∃ value, current = some value ∧ fits value)
    (given : ∀ value, supplied = .value value → fits value) :
    ∃ value, assigned supplied current = some value ∧ fits value := by
  cases supplied with
  | null => exact absurd rfl kept
  | undefined => exact stored
  | value value => exact ⟨value, rfl, given value rfl⟩

theorem fits_merge {row : MovieRow} {changes : UpdateMovieDto validator} :
    Fits (row.hydrate.merge changes) ↔ FittingChanges changes := by
  constructor
  · intro fits
    obtain ⟨title, isTitle, clean, short⟩ := fits.title
    obtain ⟨_, isYear, _⟩ := fits.releaseYear
    obtain ⟨_, isMinutes, _⟩ := fits.durationMinutes
    obtain ⟨_, isPrice, _⟩ := fits.ticketPrice
    have given : ∀ text, changes.title = .value text → text = title := by
      intro text supplied
      simpa [Movie.merge, supplied, assigned] using isTitle
    exact {
      titleKept := ne_null_of_assigned isTitle
      releaseYearKept := ne_null_of_assigned isYear
      durationMinutesKept := ne_null_of_assigned isMinutes
      ticketPriceKept := ne_null_of_assigned isPrice
      titleClean := fun text supplied => given text supplied ▸ clean
      titleShort := fun text supplied => given text supplied ▸ short
      descriptionClean := by
        intro text supplied
        apply fits.description
        simp [Movie.merge, supplied, assigned] }
  · intro fitting
    have stored := fits_hydrate row
    refine ⟨?_, ?_, ?_, ?_, ?_⟩
    · exact fits_assigned fitting.titleKept stored.title
        fun title supplied => ⟨fitting.titleClean title supplied,
          fitting.titleShort title supplied⟩
    · intro text isText
      cases supplied : changes.description with
      | null => simp [Movie.merge, supplied, assigned] at isText
      | undefined =>
          apply stored.description
          simpa [Movie.merge, supplied, assigned] using isText
      | value given =>
          have same : given = text := by
            simpa [Movie.merge, supplied, assigned] using isText
          exact same ▸ fitting.descriptionClean given supplied
    · apply fits_assigned fitting.releaseYearKept stored.releaseYear
      intro year supplied
      have valid := changes.releaseYearValid year supplied
      simp only [CreateMovieDto.ValidReleaseYear] at valid
      exact ⟨by omega, by omega⟩
    · apply fits_assigned fitting.durationMinutesKept stored.durationMinutes
      intro minutes supplied
      have valid := changes.durationMinutesValid minutes supplied
      simp only [CreateMovieDto.ValidDurationMinutes] at valid
      exact ⟨by omega, by omega⟩
    · apply fits_assigned fitting.ticketPriceKept stored.ticketPrice
      intro price supplied
      exact price_fits (changes.ticketPriceValid price supplied)

/-! ## Answers -/

theorem EndsLike.acceptable_iff {written : Except SqlError MovieRow}
    {outcome : Except Thrown Answer} (ends : EndsLike written outcome) :
    Acceptable outcome ↔
      ∀ error, written = .error error → error = .uniqueViolation := by
  cases written with
  | ok row =>
      obtain ⟨answer, rfl⟩ := ends
      simp [Acceptable]
  | error error =>
      obtain ⟨statement, rfl⟩ := ends
      constructor
      · intro acceptable failure same
        cases same
        obtain ⟨status, reported, atLeast, below⟩ := acceptable _ rfl
        by_contra notDuplicate
        have serverError :
            (queryFailed movieSchema statement error).statusCode =
              some 500 := by
          cases error with
          | uniqueViolation => exact absurd rfl notDuplicate
          | _ => rfl
        rw [serverError] at reported
        cases reported
        norm_num at below
      · intro duplicate thrown same
        cases same
        rw [duplicate error rfl]
        exact ⟨409, rfl, by norm_num, by norm_num⟩

private theorem acceptable_conflict (message : String) :
    Acceptable (.error (conflictException message)) := by
  intro thrown same
  cases same
  exact ⟨409, rfl, by norm_num, by norm_num⟩

private theorem not_acceptable_invalidText
    {statement : SqlCall MovieRow Movie MoviePatch}
    {outcome : Except Thrown Answer}
    (failed : outcome =
      .error (queryFailed movieSchema statement .invalidText)) :
    ¬ Acceptable outcome := by
  have ends : EndsLike (.error .invalidText) outcome := ⟨statement, failed⟩
  intro acceptable
  cases ends.acceptable_iff.mp acceptable _ rfl

theorem create_acceptable {dto : CreateMovieDto validator}
    (valid : CreateMovieDto.validate validator payload = .ok dto)
    (calm : Calm environments) (positive : 1 ≤ databases.movies.nextId) :
    Acceptable (alone validator arithmetic granularity environments
        (.catalog .CREATE_MOVIE payload) databases) ↔
      '\x00' ∉ dto.title.toList ∧
        (Taken databases.movies dto.title dto.releaseYear none ∨
          FittingDto dto ∧ databases.movies.nextId ≤ 2147483647) := by
  have spec := @alone_create validator arithmetic granularity payload
    environments dto valid calm databases
  rcases spec with
    ⟨taken, refused⟩ | ⟨free, ⟨clean, now, ends⟩ | ⟨unclean, _, failed⟩⟩
  · have clean : '\x00' ∉ dto.title.toList := by
      obtain ⟨other, _, _, isTitle, _⟩ := taken
      rw [← isTitle]
      exact other.title.clean
    rw [refused]
    exact ⟨fun _ => ⟨clean, .inl taken⟩, fun _ => acceptable_conflict _⟩
  · rw [ends.acceptable_iff, movieSchema.insertRow_refuses_duplicates
      (MovieRow.build_ne_uniqueViolation _ _ _)]
    change (∃ row, MovieRow.build _ _ _ = .ok row) ↔ _
    rw [build_isOk, fits_create]
    constructor
    · rintro ⟨⟨_, room⟩, fitting⟩
      exact ⟨clean, .inr ⟨fitting, room⟩⟩
    · rintro ⟨_, taken | ⟨fitting, room⟩⟩
      · exact absurd taken free
      · exact ⟨⟨by omega, room⟩, fitting⟩
  · constructor
    · intro acceptable
      exact absurd acceptable (not_acceptable_invalidText failed)
    · rintro ⟨clean, _⟩
      exact absurd unclean clean

theorem update_acceptable {dto : UpdateMoviePayload validator}
    (unique : movieSchema.Unique databases.movies)
    (valid : UpdateMoviePayload.validate validator payload = .ok dto)
    (calm : Calm environments) {row : MovieRow}
    (stored : databases.movies.find? dto.id = some row) :
    Acceptable (alone validator arithmetic granularity environments
        (.catalog .UPDATE_MOVIE payload) databases) ↔
      '\x00' ∉ (dto.changes.title.getD row.title.val).toList ∧
        (Taken databases.movies (dto.changes.title.getD row.title.val)
            (dto.changes.releaseYear.getD row.releaseYear.val)
            (some dto.id) ∨ FittingChanges dto.changes) := by
  have spec := @alone_update validator arithmetic granularity payload
    environments databases dto valid calm row stored unique
  rcases spec with
    ⟨taken, refused⟩ |
      ⟨free, ⟨clean, ⟨same, answer, answered⟩ | ⟨patch, now, differs, ends⟩⟩ |
        ⟨unclean, _, failed⟩⟩
  · have clean :
        '\x00' ∉ (dto.changes.title.getD row.title.val).toList := by
      obtain ⟨other, _, _, isTitle, _⟩ := taken
      rw [← isTitle]
      exact other.title.clean
    rw [refused]
    exact ⟨fun _ => ⟨clean, .inl taken⟩, fun _ => acceptable_conflict _⟩
  · have fits : Fits (row.hydrate.merge dto.changes) :=
      (fits_hydrate row).congr (MovieRow.diff_eq_none same)
    refine ⟨fun _ => ⟨clean, .inr (fits_merge.mp fits)⟩, fun _ => ?_⟩
    intro thrown failed
    rw [answered] at failed
    cases failed
  · rw [ends.acceptable_iff, movieSchema.updateRow_refuses_duplicates
      (MovieRow.build_ne_uniqueViolation _ _ _)]
    change (∃ written, MovieRow.build _ _ _ = .ok written) ↔ _
    rw [build_isOk]
    constructor
    · rintro ⟨_, fits⟩
      exact ⟨clean, .inr (fits_merge.mp
        (fits.congr (MovieRow.overlay_diff differs)))⟩
    · rintro ⟨_, taken | fitting⟩
      · exact absurd taken free
      · have fits : Fits (row.hydrate.merge dto.changes) :=
          fits_merge.mpr fitting
        refine ⟨row.id.inRange, fits.congr ?_⟩
        exact fun field => (MovieRow.overlay_diff differs field).symm
  · constructor
    · intro acceptable
      exact absurd acceptable (not_acceptable_invalidText failed)
    · rintro ⟨clean, _⟩
      exact absurd unclean clean

/-- Exactly which validated movies fit the table and are answered with a
success or a client error. -/
theorem writes_fit {orders : Table OrderRow orderSchema.key}
    {pool : Pool Message Databases BackendCall BackendReply Thrown Answer}
    (runs : (backend validator arithmetic granularity).Runs .any
      (.start { movies := ∅, orders }) pool) :
    (∀ payload dto environments,
      CreateMovieDto.validate validator payload = .ok dto →
      Calm environments →
        (Fits (Movie.create dto) ∧
            Acceptable (alone validator arithmetic granularity environments
              (.catalog .CREATE_MOVIE payload) pool.store) ↔
          FittingDto dto ∧
            (Taken pool.store.movies dto.title dto.releaseYear none ∨
              pool.store.movies.nextId ≤ 2147483647)) ∧
        (Acceptable (alone validator arithmetic granularity environments
            (.catalog .CREATE_MOVIE payload) pool.store) ↔
          '\x00' ∉ dto.title.toList ∧
            (Taken pool.store.movies dto.title dto.releaseYear none ∨
              FittingDto dto ∧ pool.store.movies.nextId ≤ 2147483647))) ∧
    (∀ payload dto environments row,
      UpdateMoviePayload.validate validator payload = .ok dto →
      pool.store.movies.find? dto.id = some row →
      Calm environments →
        (Fits (row.hydrate.merge dto.changes) ∧
            Acceptable (alone validator arithmetic granularity environments
              (.catalog .UPDATE_MOVIE payload) pool.store) ↔
          FittingChanges dto.changes) ∧
        (Acceptable (alone validator arithmetic granularity environments
            (.catalog .UPDATE_MOVIE payload) pool.store) ↔
          '\x00' ∉ (dto.changes.title.getD row.title.val).toList ∧
            (Taken pool.store.movies (dto.changes.title.getD row.title.val)
                (dto.changes.releaseYear.getD row.releaseYear.val)
                (some dto.id) ∨ FittingChanges dto.changes))) := by
  have catalogue := catalogue_of_runs catalogue_empty runs
  have positive : 1 ≤ pool.store.movies.nextId := nextId_of_runs runs
  constructor
  · intro payload dto environments valid calm
    have acceptable := @create_acceptable validator arithmetic granularity
      payload environments pool.store dto valid calm positive
    refine ⟨?_, acceptable⟩
    rw [acceptable, fits_create]
    constructor
    · rintro ⟨fitting, _, taken | ⟨_, room⟩⟩
      · exact ⟨fitting, .inl taken⟩
      · exact ⟨fitting, .inr room⟩
    · rintro ⟨fitting, taken | room⟩
      · exact ⟨fitting, fitting.titleClean, .inl taken⟩
      · exact ⟨fitting, fitting.titleClean, .inr ⟨fitting, room⟩⟩
  · intro payload dto environments row valid stored calm
    have acceptable := @update_acceptable validator arithmetic granularity
      payload environments pool.store dto catalogue.unique valid calm row
      stored
    refine ⟨?_, acceptable⟩
    rw [acceptable, fits_merge]
    constructor
    · exact fun both => both.1
    · intro fitting
      refine ⟨fitting, ?_, .inr fitting⟩
      cases supplied : dto.changes.title with
      | null => exact absurd supplied fitting.titleKept
      | undefined => exact row.title.clean
      | value title => exact fitting.titleClean title supplied

private def renamePayload : Json :=
  .obj [("id", .num 1), ("changes", .obj [("title", .str "Aliens")])]

/-- The changes give a title, and nothing else. -/
private def onlyTitle (changes : UpdateMovieDto validator) (title : String) :
    Bool :=
  changes.title = .value title && changes.description = .undefined &&
    changes.releaseYear = .undefined && changes.durationMinutes = .undefined &&
    changes.ticketPrice = .undefined

private theorem fitting_of_onlyTitle {changes : UpdateMovieDto validator}
    {title : String} (only : onlyTitle changes title = true)
    (clean : '\x00' ∉ title.toList) (short : title.length ≤ 255) :
    FittingChanges changes := by
  simp only [onlyTitle, Bool.and_eq_true, decide_eq_true_eq] at only
  obtain ⟨⟨⟨⟨isTitle, description⟩, year⟩, minutes⟩, price⟩ := only
  constructor
  · simp [isTitle]
  · simp [year]
  · simp [minutes]
  · simp [price]
  · intro other isOther
    cases isTitle.symm.trans isOther
    exact clean
  · intro other isOther
    cases isTitle.symm.trans isOther
    exact short
  · intro text isText
    cases description.symm.trans isText

/-- A movie is created in an empty catalog and then gets another title. -/
theorem writes_fit_example :
    (∃ dto, CreateMovieDto.validate .plain premierePayload = .ok dto ∧
      Fits (Movie.create dto) ∧
      Acceptable (alone .plain .exact .statements calm premiereMessage
        ⟨∅, ∅⟩)) ∧
    ∃ (pool : Pool Message Databases BackendCall BackendReply Thrown Answer)
      (dto : UpdateMoviePayload .plain) (row : MovieRow),
      UpdateMoviePayload.validate .plain renamePayload = .ok dto ∧
      pool.store.movies.find? dto.id = some row ∧
      Fits (row.hydrate.merge dto.changes) ∧
      Acceptable (alone .plain .exact .statements calm
        (.catalog .UPDATE_MOVIE renamePayload) pool.store) := by
  constructor
  · have checked : ((CreateMovieDto.validate .plain
        premierePayload).toOption.any fun dto =>
          '\x00' ∉ dto.title.toList && dto.title.length ≤ 255 &&
            dto.description = .undefined) = true := by decide +kernel
    obtain ⟨dto, isDto, both⟩ := (Option.any_eq_true _ _).mp checked
    obtain ⟨title, undescribed⟩ := Bool.and_eq_true_iff.mp both
    obtain ⟨clean, short⟩ := Bool.and_eq_true_iff.mp title
    have valid := toOption_eq_some.mp isDto
    have fitting : FittingDto dto := by
      refine ⟨of_decide_eq_true clean, of_decide_eq_true short, ?_⟩
      intro text supplied
      rw [of_decide_eq_true undescribed] at supplied
      cases supplied
    have runs : (backend .plain .exact .statements).Runs .any (.start ⟨∅, ∅⟩)
        (.start ⟨∅, ∅⟩) := .refl _
    have fit := (writes_fit runs).1 premierePayload dto calm valid fun n => rfl
    exact ⟨dto, valid, fit.1.mpr ⟨fitting, .inr (by decide)⟩⟩
  · have played : (((backend .plain .exact .statements).playFreely
        (.start ⟨∅, ∅⟩)
        [.arrive premiereMessage, .perform 0 (calm 1), .perform 0 (calm 2)]).any
        fun pool =>
          (UpdateMoviePayload.validate .plain renamePayload).toOption.any
            fun dto => onlyTitle dto.changes "Aliens" &&
              (pool.store.movies.find? dto.id).isSome) = true := by
      decide +kernel
    obtain ⟨pool, reached, checked⟩ := (Option.any_eq_true _ _).mp played
    obtain ⟨dto, isDto, both⟩ := (Option.any_eq_true _ _).mp checked
    obtain ⟨only, found⟩ := Bool.and_eq_true_iff.mp both
    obtain ⟨row, stored⟩ := Option.isSome_iff_exists.mp found
    have valid := toOption_eq_some.mp isDto
    have fit := (writes_fit (Service.runs_of_playFreely reached)).2
      renamePayload dto calm row valid stored fun n => rfl
    exact ⟨pool, dto, row, valid, stored,
      fit.1.mpr (fitting_of_onlyTitle only (by decide) (by decide))⟩

end Cinema.Catalog
