import Mathlib.Logic.Basic

/-!
# Request handlers as programs

A handler is a sequence of calls: every call leaves the process and comes back
with a reply, and what lies between two calls runs without interruption.
`Program` keeps exactly this structure, so that an interleaving is a choice of
which handler performs its next call.
-/

namespace Cinema.Interleaving

inductive Program (Call : Type) (Reply : Call → Type) (Err α : Type) :
    Type where
  | done (value : α)
  | fail (error : Err)
  | call (request : Call)
      (next : Reply request → Program Call Reply Err α)

namespace Program

variable {Call : Type} {Reply : Call → Type} {Err α β : Type}

def bind (program : Program Call Reply Err α)
    (rest : α → Program Call Reply Err β) : Program Call Reply Err β :=
  match program with
  | .done value => rest value
  | .fail error => .fail error
  | .call request next => .call request fun reply => (next reply).bind rest

instance : Monad (Program Call Reply Err) where
  pure := .done
  bind := .bind

/-- Issue one call and return its reply. -/
def perform (request : Call) : Program Call Reply Err (Reply request) :=
  .call request .done

/-- A computation without calls, such as the validation of a payload. -/
def ofExcept : Except Err α → Program Call Reply Err α
  | .ok value => .done value
  | .error error => .fail error

@[simp] theorem pure_eq (value : α) :
    (pure value : Program Call Reply Err α) = .done value := rfl

@[simp] theorem done_bind (value : α)
    (rest : α → Program Call Reply Err β) :
    (.done value : Program Call Reply Err α) >>= rest = rest value := rfl

@[simp] theorem fail_bind (error : Err)
    (rest : α → Program Call Reply Err β) :
    (.fail error : Program Call Reply Err α) >>= rest = .fail error := rfl

@[simp] theorem call_bind (request : Call)
    (next : Reply request → Program Call Reply Err α)
    (rest : α → Program Call Reply Err β) :
    (.call request next : Program Call Reply Err α) >>= rest =
      .call request fun reply => next reply >>= rest := rfl

@[simp] theorem perform_bind (request : Call)
    (rest : Reply request → Program Call Reply Err β) :
    (perform request : Program Call Reply Err (Reply request)) >>= rest =
      .call request rest := rfl

@[simp] theorem ofExcept_ok (value : α) :
    (ofExcept (.ok value) : Program Call Reply Err α) = .done value := rfl

@[simp] theorem ofExcept_error (error : Err) :
    (ofExcept (.error error) : Program Call Reply Err α) = .fail error := rfl

/-- A program that starts with a value it cannot get fails. -/
theorem map_bind_refused {δ : Type} {source : Except Err δ} {error : Err}
    (refused : source = .error error) (wrap : α → β)
    (rest : δ → Program Call Reply Err α) :
    (wrap <$> (ofExcept source >>= rest)) = .fail error := by
  rw [refused]
  rfl

@[simp] theorem map_done (f : α → β) (value : α) :
    f <$> (.done value : Program Call Reply Err α) = .done (f value) := rfl

@[simp] theorem map_fail (f : α → β) (error : Err) :
    f <$> (.fail error : Program Call Reply Err α) = .fail error := rfl

@[simp] theorem map_call (f : α → β) (request : Call)
    (next : Reply request → Program Call Reply Err α) :
    f <$> (.call request next : Program Call Reply Err α) =
      .call request fun reply => f <$> next reply := rfl

/-- The outcome of a program that has nothing left to call. -/
def outcome : Program Call Reply Err α → Option (Except Err α)
  | .done value => some (.ok value)
  | .fail error => some (.error error)
  | .call _ _ => none

@[simp] theorem outcome_done (value : α) :
    (.done value : Program Call Reply Err α).outcome = some (.ok value) := rfl

@[simp] theorem outcome_fail (error : Err) :
    (.fail error : Program Call Reply Err α).outcome = some (.error error) :=
  rfl

@[simp] theorem outcome_call (request : Call)
    (next : Reply request → Program Call Reply Err α) :
    (.call request next : Program Call Reply Err α).outcome = none := rfl

/-- What is left of a program after the reply to its pending call. -/
def resume {request : Call} (next : Reply request → Program Call Reply Err α) :
    Except Err (Reply request) → Program Call Reply Err α
  | .ok reply => next reply
  | .error error => .fail error

@[simp] theorem resume_ok {request : Call}
    (next : Reply request → Program Call Reply Err α)
    (reply : Reply request) : resume next (.ok reply) = next reply := rfl

@[simp] theorem resume_error {request : Call}
    (next : Reply request → Program Call Reply Err α) (error : Err) :
    resume next (.error error) = .fail error := rfl

theorem outcome_resume_ok {request : Call}
    {next : Reply request → Program Call Reply Err α}
    {reply : Except Err (Reply request)} {value : α}
    (ends : (resume next reply).outcome = some (.ok value)) :
    ∃ answer, reply = .ok answer ∧ (next answer).outcome = some (.ok value) := by
  cases reply with
  | ok answer => exact ⟨answer, rfl, ends⟩
  | error error => cases ends

/-! ## Facts about every call of a program -/

/-- `shape` holds of every call the program can reach as long as the replies
are honest: the call together with what follows it. -/
def Every (honest : (request : Call) → Reply request → Prop)
    (shape : (request : Call) →
      (Reply request → Program Call Reply Err α) → Prop) :
    Program Call Reply Err α → Prop
  | .done _ => True
  | .fail _ => True
  | .call request next => shape request next ∧
      ∀ reply, honest request reply → (next reply).Every honest shape

section Every

variable {honest : (request : Call) → Reply request → Prop}
  {shape : (request : Call) → (Reply request → Program Call Reply Err α) → Prop}

@[simp] theorem every_done (value : α) :
    (.done value : Program Call Reply Err α).Every honest shape := trivial

@[simp] theorem every_fail (error : Err) :
    (.fail error : Program Call Reply Err α).Every honest shape := trivial

@[simp] theorem every_call (request : Call)
    (next : Reply request → Program Call Reply Err α) :
    (Program.call request next).Every honest shape ↔
      shape request next ∧
        ∀ reply, honest request reply → (next reply).Every honest shape :=
  Iff.rfl

theorem Every.resume {request : Call}
    {next : Reply request → Program Call Reply Err α}
    (every : (Program.call request next).Every honest shape)
    {result : Except Err (Reply request)}
    (replies : ∀ reply, result = .ok reply → honest request reply) :
    (Program.resume next result).Every honest shape := by
  cases result with
  | ok reply => exact every.2 reply (replies reply rfl)
  | error error => trivial

/-- A shape that every call has. -/
theorem every_of_forall
    (holds : ∀ request next, shape request next) :
    ∀ program : Program Call Reply Err α, program.Every honest shape
  | .done _ => trivial
  | .fail _ => trivial
  | .call request next =>
      ⟨holds request next, fun reply _ => every_of_forall holds (next reply)⟩

theorem Every.mono {weaker : (request : Call) →
      (Reply request → Program Call Reply Err α) → Prop}
    (implies : ∀ request next, shape request next → weaker request next) :
    ∀ {program : Program Call Reply Err α},
      program.Every honest shape → program.Every honest weaker
  | .done _, _ => trivial
  | .fail _, _ => trivial
  | .call request next, every =>
      ⟨implies request next every.1,
        fun reply isHonest => (every.2 reply isHonest).mono implies⟩

end Every

/-- Every call the program can make satisfies `allowed`. -/
def Uses (allowed : Call → Prop) : Program Call Reply Err α → Prop
  | .done _ => True
  | .fail _ => True
  | .call request next => allowed request ∧ ∀ reply, (next reply).Uses allowed

section Uses

variable {allowed : Call → Prop}

@[simp] theorem uses_done (value : α) :
    (.done value : Program Call Reply Err α).Uses allowed := trivial

@[simp] theorem uses_fail (error : Err) :
    (.fail error : Program Call Reply Err α).Uses allowed := trivial

@[simp] theorem uses_call (request : Call)
    (next : Reply request → Program Call Reply Err α) :
    (Program.call request next).Uses allowed ↔
      allowed request ∧ ∀ reply, (next reply).Uses allowed := Iff.rfl

@[simp] theorem uses_ofExcept (result : Except Err α) :
    (ofExcept result : Program Call Reply Err α).Uses allowed := by
  cases result <;> trivial

theorem uses_of_forall (holds : ∀ request, allowed request) :
    ∀ program : Program Call Reply Err α, program.Uses allowed
  | .done _ => trivial
  | .fail _ => trivial
  | .call request next =>
      ⟨holds request, fun reply => uses_of_forall holds (next reply)⟩

/-- A shape that every call with an allowed request has. -/
theorem Uses.every {honest : (request : Call) → Reply request → Prop}
    {shape : (request : Call) →
      (Reply request → Program Call Reply Err α) → Prop}
    (implies : ∀ request next, allowed request → shape request next) :
    ∀ {program : Program Call Reply Err α},
      program.Uses allowed → program.Every honest shape
  | .done _, _ => trivial
  | .fail _, _ => trivial
  | .call request next, uses =>
      ⟨implies request next uses.1, fun reply _ => (uses.2 reply).every implies⟩

theorem Uses.bind {program : Program Call Reply Err α}
    {rest : α → Program Call Reply Err β}
    (first : program.Uses allowed) (later : ∀ value, (rest value).Uses allowed) :
    (program >>= rest).Uses allowed := by
  induction program with
  | done value => exact later value
  | fail error => trivial
  | call request next ih =>
      exact ⟨first.1, fun reply => ih reply (first.2 reply)⟩

theorem Uses.map {program : Program Call Reply Err α} (f : α → β)
    (uses : program.Uses allowed) : (f <$> program).Uses allowed :=
  uses.bind fun _ => trivial

theorem Uses.mono {program : Program Call Reply Err α} {weaker : Call → Prop}
    (implies : ∀ request, allowed request → weaker request)
    (uses : program.Uses allowed) : program.Uses weaker := by
  induction program with
  | done value => trivial
  | fail error => trivial
  | call request next ih =>
      exact ⟨implies request uses.1, fun reply => ih reply (uses.2 reply)⟩

end Uses

/-! ## What a program costs -/

/-- The program spends at most `budget` when a call costs its `price`. -/
def Spends (price : Call → Nat) : Program Call Reply Err α → Nat → Prop
  | .done _, _ => True
  | .fail _, _ => True
  | .call request next, budget => price request ≤ budget ∧
      ∀ reply, (next reply).Spends price (budget - price request)

section Spends

variable {price : Call → Nat} {budget extra : Nat}

theorem Spends.mono {program : Program Call Reply Err α}
    (spends : program.Spends price budget) (more : budget ≤ extra) :
    program.Spends price extra := by
  induction program generalizing budget extra with
  | done value => trivial
  | fail error => trivial
  | call request next ih =>
      obtain ⟨enough, rest⟩ := spends
      refine ⟨Nat.le_trans enough more, fun reply => ?_⟩
      apply ih reply (rest reply)
      omega

/-- A computation without calls costs nothing. -/
theorem spends_ofExcept_bind {result : Except Err α}
    {rest : α → Program Call Reply Err β}
    (later : ∀ value, (rest value).Spends price budget) :
    (ofExcept result >>= rest).Spends price budget := by
  cases result with
  | ok value => exact later value
  | error error => trivial

theorem spends_perform {request : Call} (enough : price request ≤ budget) :
    (perform request : Program Call Reply Err _).Spends price budget :=
  ⟨enough, fun _ => trivial⟩

/-- One after the other. -/
theorem Spends.bind {program : Program Call Reply Err α}
    {rest : α → Program Call Reply Err β}
    (first : program.Spends price budget)
    (later : ∀ value, (rest value).Spends price extra) :
    (program >>= rest).Spends price (budget + extra) := by
  induction program generalizing budget with
  | done value => exact (later value).mono (Nat.le_add_left _ _)
  | fail error => trivial
  | call request next ih =>
      refine ⟨Nat.le_trans first.1 (Nat.le_add_right _ _), fun reply => ?_⟩
      have enough := first.1
      have left : budget + extra - price request =
          budget - price request + extra := by omega
      rw [left]
      exact ih reply (first.2 reply)

theorem Spends.map {program : Program Call Reply Err α} (f : α → β)
    (spends : program.Spends price budget) :
    (f <$> program).Spends price budget := by
  have mapped : (f <$> program).Spends price (budget + 0) :=
    spends.bind fun _ => trivial
  exact mapped

theorem Spends.resume {request : Call}
    {next : Reply request → Program Call Reply Err α}
    (spends : ∀ reply, (next reply).Spends price budget)
    (result : Except Err (Reply request)) :
    (Program.resume next result).Spends price budget := by
  cases result with
  | ok reply => exact spends reply
  | error error => trivial

end Spends

/-! ## What a program can fail with -/

/-- The program fails with `fine` errors only, when a call fails with one of
its `fails`. -/
def Throws (fails : Call → Err → Prop) (fine : Err → Prop) :
    Program Call Reply Err α → Prop
  | .done _ => True
  | .fail error => fine error
  | .call request next => (∀ error, fails request error → fine error) ∧
      ∀ reply, (next reply).Throws fails fine

section Throws

variable {fails : Call → Err → Prop} {fine weaker : Err → Prop}

theorem Throws.mono {program : Program Call Reply Err α}
    (throws : program.Throws fails fine)
    (implies : ∀ error, fine error → weaker error) :
    program.Throws fails weaker := by
  induction program with
  | done value => trivial
  | fail error => exact implies error throws
  | call request next ih =>
      obtain ⟨first, rest⟩ := throws
      exact ⟨fun error failed => implies error (first error failed),
        fun reply => ih reply (rest reply)⟩

theorem Throws.bind {program : Program Call Reply Err α}
    {rest : α → Program Call Reply Err β}
    (first : program.Throws fails fine)
    (later : ∀ value, (rest value).Throws fails fine) :
    (program >>= rest).Throws fails fine := by
  induction program with
  | done value => exact later value
  | fail error => exact first
  | call request next ih =>
      exact ⟨first.1, fun reply => ih reply (first.2 reply)⟩

theorem Throws.map {program : Program Call Reply Err α} (f : α → β)
    (throws : program.Throws fails fine) :
    (f <$> program).Throws fails fine :=
  throws.bind fun _ => trivial

/-- A computation without calls fails with its error. -/
theorem throws_ofExcept_bind {result : Except Err α}
    {rest : α → Program Call Reply Err β}
    (refused : ∀ error, result = .error error → fine error)
    (later : ∀ value, result = .ok value → (rest value).Throws fails fine) :
    (ofExcept result >>= rest).Throws fails fine := by
  cases result with
  | ok value => exact later value rfl
  | error error => exact refused error rfl

theorem throws_perform {request : Call}
    (implies : ∀ error, fails request error → fine error) :
    (perform request : Program Call Reply Err _).Throws fails fine :=
  ⟨implies, fun _ => trivial⟩

theorem Throws.resume {request : Call}
    {next : Reply request → Program Call Reply Err α}
    (throws : (Program.call request next).Throws fails fine)
    {result : Except Err (Reply request)}
    (failed : ∀ error, result = .error error → fails request error) :
    (Program.resume next result).Throws fails fine := by
  cases result with
  | ok reply => exact throws.2 reply
  | error error => exact throws.1 error (failed error rfl)

end Throws

/-! ## Running a program alone -/

/-- Run a program to its end with nothing in between: the `n`-th call is
performed in the environment `environments n`. -/
def run {Env Store : Type}
    (exec : Env → (request : Call) → Store →
      Except Err (Reply request) × Store) :
    Program Call Reply Err α → (Nat → Env) → Store → Except Err α × Store
  | .done value, _, store => (.ok value, store)
  | .fail error, _, store => (.error error, store)
  | .call request next, environments, store =>
      match exec (environments 0) request store with
      | (.ok reply, after) =>
          (next reply).run exec (fun n => environments (n + 1)) after
      | (.error error, after) => (.error error, after)

end Program

end Cinema.Interleaving
