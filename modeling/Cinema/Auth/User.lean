import Cinema.Relational.Repository
import Cinema.Shared.Json

/-!
# Accounts

The row of the `users` table with its unique e-mail address, the entity in
memory, and the mapping between them.
-/

namespace Cinema.Auth

open Cinema.Relational Cinema.Shared

inductive Role where
  | USER
  | ADMIN
  deriving DecidableEq

def Role.value : Role → String
  | .USER => "USER"
  | .ADMIN => "ADMIN"

@[ext]
structure UserRow where
  id : Integer
  email : Varchar 255
  passwordHash : Relational.Text
  role : Role
  createdAt : Nat
  updatedAt : Nat

instance : DecidableEq UserRow := fun _ _ =>
  decidable_of_iff' _ UserRow.ext_iff

/-- The entity: `none` is `undefined`. -/
structure User where
  id : Option ℤ
  email : Option String
  passwordHash : Option String
  role : Option Role
  createdAt : Option Nat
  updatedAt : Option Nat
  deriving DecidableEq

/-- `users.create({ email, passwordHash, role })` -/
def User.create (email passwordHash : String) (role : Role) : User where
  id := none
  email := some email
  passwordHash := some passwordHash
  role := some role
  createdAt := none
  updatedAt := none

namespace UserRow

/-- The hash is never loaded unless explicitly selected. -/
def hydrate (row : UserRow) : User where
  id := some row.id.val
  email := some row.email.val
  passwordHash := none
  role := some row.role
  createdAt := some row.createdAt
  updatedAt := some row.updatedAt

/-- `addSelect("user.passwordHash")` -/
def hydrateSelected (row : UserRow) : User :=
  { row.hydrate with passwordHash := some row.passwordHash.val }

def build (user : User) (id : ℤ) (now : Nat) : Except SqlError UserRow := do
  let id ← Ranged.write _ _ id
  let email ← notNull (Varchar.write 255) user.email
  let passwordHash ← notNull Text.write user.passwordHash
  return { id, email, passwordHash, role := user.role.getD .USER,
           createdAt := user.createdAt.getD now,
           updatedAt := user.updatedAt.getD now }

/-- What the database accepts, column by column. -/
theorem build_eq_ok {user : User} {id : ℤ} {now : Nat} {row : UserRow}
    (built : build user id now = .ok row) :
    row.id.val = id ∧ user.email = some row.email.val ∧
      user.passwordHash = some row.passwordHash.val ∧
      row.role = user.role.getD .USER ∧
      row.createdAt = user.createdAt.getD now ∧
      row.updatedAt = user.updatedAt.getD now := by
  unfold build at built
  obtain ⟨id, idWritten, built⟩ := bind_eq_ok.mp built
  obtain ⟨email, emailWritten, built⟩ := bind_eq_ok.mp built
  obtain ⟨passwordHash, hashWritten, built⟩ := bind_eq_ok.mp built
  obtain ⟨emailGiven, hasEmail, emailWritten⟩ := notNull_eq_ok.mp emailWritten
  obtain ⟨hashGiven, hasHash, hashWritten⟩ := notNull_eq_ok.mp hashWritten
  cases built
  exact ⟨Ranged.write_eq_ok.mp idWritten,
    by rw [hasEmail, Varchar.write_eq_ok.mp emailWritten],
    by rw [hasHash, Text.write_eq_ok.mp hashWritten], rfl, rfl, rfl⟩

/-- A new account has the time of its insertion. -/
theorem build_create {passwordHash : String}
    (clean : '\x00' ∉ passwordHash.toList) (email : String) (role : Role)
    (id : ℤ) (now : Nat) :
    build (User.create email passwordHash role) id now =
      (Ranged.write _ _ id).bind fun key =>
        (Varchar.write 255 email).map fun address =>
          ⟨key, address, ⟨passwordHash, clean⟩, role, now, now⟩ := by
  have written : Text.write passwordHash = .ok ⟨passwordHash, clean⟩ :=
    dif_pos clean
  simp only [build, User.create, notNull, written]
  cases Ranged.write (-2147483648) 2147483647 id with
  | error error => rfl
  | ok key => cases Varchar.write 255 email <;> rfl

/-- A single row is never refused as a duplicate. -/
theorem build_ne_uniqueViolation (user : User) (id : ℤ) (now : Nat) :
    build user id now ≠ .error .uniqueViolation := by
  intro failed
  unfold build at failed
  rcases bind_eq_error.mp failed with idFails | ⟨id, _, failed⟩
  · exact Ranged.write_ne_uniqueViolation _ idFails
  rcases bind_eq_error.mp failed with emailFails | ⟨email, _, failed⟩
  · exact notNull_ne_uniqueViolation Varchar.write_ne_uniqueViolation _
      emailFails
  rcases bind_eq_error.mp failed with hashFails | ⟨passwordHash, _, failed⟩
  · exact notNull_ne_uniqueViolation Text.write_ne_uniqueViolation _ hashFails
  · cases failed

/-- `UQ_users_email` -/
def conflicts (left right : UserRow) : Bool :=
  left.email.val = right.email.val

/-- The generated columns that an insertion returns. -/
def refresh (user : User) (row : UserRow) : User :=
  { user with
    id := some row.id.val
    role := some (user.role.getD row.role)
    createdAt := some (user.createdAt.getD row.createdAt)
    updatedAt := some row.updatedAt }

def parameters (user : User) : List Parameter :=
  [user.email.map .text, user.passwordHash.map .text,
    user.role.map fun role => .text role.value,
    user.createdAt.map .timestamp, user.updatedAt.map .timestamp].reduceOption

end UserRow

/-- A loaded account is never saved again, so there is nothing to update. -/
def userSchema : Schema UserRow User Empty where
  key row := row.id.val
  conflicts := UserRow.conflicts
  idOf := User.id
  hydrate := UserRow.hydrate
  refresh := UserRow.refresh
  diff _ _ := none
  overlay patch _ := patch.elim
  build := UserRow.build
  key_build built := (UserRow.build_eq_ok built).1
  parameters := UserRow.parameters
  patchParameters patch := patch.elim

abbrev UserTable : Type := Table UserRow userSchema.key

abbrev UserStatement : Type := SqlCall UserRow User Empty

/-- `{ email }` -/
def emailCriteria (email : String) : List (Option (Criterion UserRow)) :=
  [Criterion.text (fun row => row.email.val) (some email)]

theorem matches_email {email : String} {row : UserRow} :
    matchesAll (emailCriteria email) row = true ↔ row.email.val = email := by
  simp [matchesAll, emailCriteria, Criterion.text, List.reduceOption]

end Cinema.Auth
