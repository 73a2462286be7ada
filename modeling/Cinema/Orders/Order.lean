import Cinema.Relational.Repository

/-!
# Orders

The row of the `orders` table with its constraints, the entity in memory, and
the mapping between them.  The columns of the snapshot are declared
`update: false`, so no update writes them.
-/

namespace Cinema.Orders

open Cinema.Relational

inductive OrderStatus where
  | CONFIRMED
  | CANCELLED
  deriving DecidableEq

def OrderStatus.value : OrderStatus → String
  | .CONFIRMED => "CONFIRMED"
  | .CANCELLED => "CANCELLED"

/-- A row that satisfies the constraints of its columns and of the table. -/
@[ext]
structure OrderRow where
  id : Integer
  userId : Integer
  movieId : Integer
  movieTitle : Varchar 255
  movieReleaseYear : Smallint
  ticketPrice : Numeric 10 2
  quantity : Smallint
  totalPrice : Numeric 12 2
  status : OrderStatus
  createdAt : Nat
  updatedAt : Nat
  /-- `CHK_orders_quantity` -/
  quantityPositive : 0 < quantity.val
  /-- `CHK_orders_total_price` -/
  totalNonneg : 0 ≤ totalPrice.units

instance : DecidableEq OrderRow := fun _ _ =>
  decidable_of_iff' _ OrderRow.ext_iff

/-- The entity: `none` is `undefined`. -/
structure Order where
  id : Option ℤ
  userId : Option ℤ
  movieId : Option ℤ
  movieTitle : Option String
  movieReleaseYear : Option ℤ
  ticketPrice : Option ℚ
  quantity : Option ℤ
  totalPrice : Option ℚ
  status : Option OrderStatus
  createdAt : Option Nat
  updatedAt : Option Nat
  deriving DecidableEq

/-- The updatable columns an update writes; `none` leaves a column out. -/
structure OrderPatch where
  userId : Option ℤ
  movieId : Option ℤ
  status : Option OrderStatus
  createdAt : Option Nat
  updatedAt : Option Nat
  deriving DecidableEq

def OrderPatch.none : OrderPatch := ⟨.none, .none, .none, .none, .none⟩

/-- The value to write if an entity defines a column and differs in it. -/
def changed {α : Type} [DecidableEq α] (entity : Option α) (row : α) :
    Option α :=
  if entity = some row then none else entity

theorem changed_getD {α : Type} [DecidableEq α] (entity : Option α) (row : α) :
    (changed entity row).getD row = entity.getD row := by
  unfold changed
  split
  · rename_i same
    rw [same]
    rfl
  · rfl

/-- A column the entity leaves undefined gets its default. -/
def defaulted {α : Type} (fallback : α) (value : Option α) :
    Except SqlError α := .ok (value.getD fallback)

namespace OrderRow

/-- The entity that is made of a row. -/
def hydrate (row : OrderRow) : Order where
  id := some row.id.val
  userId := some row.userId.val
  movieId := some row.movieId.val
  movieTitle := some row.movieTitle.val
  movieReleaseYear := some row.movieReleaseYear.val
  ticketPrice := some row.ticketPrice.read
  quantity := some row.quantity.val
  totalPrice := some row.totalPrice.read
  status := some row.status
  createdAt := some row.createdAt
  updatedAt := some row.updatedAt

/-- Only the updatable columns are compared. -/
def diff (order : Order) (row : OrderRow) : Option OrderPatch :=
  let patch : OrderPatch := {
    userId := changed order.userId row.userId.val
    movieId := changed order.movieId row.movieId.val
    status := changed order.status row.status
    createdAt := changed order.createdAt row.createdAt
    updatedAt := changed order.updatedAt row.updatedAt }
  if patch = OrderPatch.none then none else some patch

/-- The row with an update over it; the columns of the snapshot stay. -/
def overlay (patch : OrderPatch) (row : OrderRow) : Order :=
  { row.hydrate with
    userId := some (patch.userId.getD row.userId.val)
    movieId := some (patch.movieId.getD row.movieId.val)
    status := some (patch.status.getD row.status)
    createdAt := some (patch.createdAt.getD row.createdAt)
    updatedAt := patch.updatedAt }

/-- The columns are checked before the table's own constraints. -/
def build (order : Order) (id : ℤ) (now : Nat) : Except SqlError OrderRow := do
  let id ← Ranged.write _ _ id
  let userId ← notNull (Ranged.write _ _) order.userId
  let movieId ← notNull (Ranged.write _ _) order.movieId
  let movieTitle ← notNull (Varchar.write 255) order.movieTitle
  let movieReleaseYear ← notNull (Ranged.write _ _) order.movieReleaseYear
  let ticketPrice ← notNull (Numeric.write 10 2) order.ticketPrice
  let quantity ← notNull (Ranged.write _ _) order.quantity
  let totalPrice ← notNull (Numeric.write 12 2) order.totalPrice
  let status ← defaulted OrderStatus.CONFIRMED order.status
  if quantityPositive : 0 < quantity.val then
    if totalNonneg : 0 ≤ totalPrice.units then
      return { id, userId, movieId, movieTitle, movieReleaseYear, ticketPrice,
               quantity, totalPrice, status,
               createdAt := order.createdAt.getD now,
               updatedAt := order.updatedAt.getD now, quantityPositive,
               totalNonneg }
    else throw .checkViolation
  else throw .checkViolation

/-- What the database accepts, column by column. -/
theorem build_eq_ok {order : Order} {id : ℤ} {now : Nat} {row : OrderRow}
    (built : build order id now = .ok row) :
    row.id.val = id ∧ order.userId = some row.userId.val ∧
      order.movieId = some row.movieId.val ∧
      order.movieTitle = some row.movieTitle.val ∧
      order.movieReleaseYear = some row.movieReleaseYear.val ∧
      (∃ price, order.ticketPrice = some price ∧
        Numeric.write 10 2 price = .ok row.ticketPrice) ∧
      order.quantity = some row.quantity.val ∧
      (∃ total, order.totalPrice = some total ∧
        Numeric.write 12 2 total = .ok row.totalPrice) ∧
      row.status = order.status.getD .CONFIRMED ∧
      row.createdAt = order.createdAt.getD now ∧
      row.updatedAt = order.updatedAt.getD now := by
  unfold build at built
  obtain ⟨id, idWritten, built⟩ := bind_eq_ok.mp built
  obtain ⟨userId, userWritten, built⟩ := bind_eq_ok.mp built
  obtain ⟨movieId, movieWritten, built⟩ := bind_eq_ok.mp built
  obtain ⟨movieTitle, titleWritten, built⟩ := bind_eq_ok.mp built
  obtain ⟨releaseYear, yearWritten, built⟩ := bind_eq_ok.mp built
  obtain ⟨ticketPrice, priceWritten, built⟩ := bind_eq_ok.mp built
  obtain ⟨quantity, quantityWritten, built⟩ := bind_eq_ok.mp built
  obtain ⟨totalPrice, totalWritten, built⟩ := bind_eq_ok.mp built
  obtain ⟨status, statusWritten, built⟩ := bind_eq_ok.mp built
  cases statusWritten
  obtain ⟨user, hasUser, userWritten⟩ := notNull_eq_ok.mp userWritten
  obtain ⟨movie, hasMovie, movieWritten⟩ := notNull_eq_ok.mp movieWritten
  obtain ⟨title, hasTitle, titleWritten⟩ := notNull_eq_ok.mp titleWritten
  obtain ⟨year, hasYear, yearWritten⟩ := notNull_eq_ok.mp yearWritten
  obtain ⟨count, hasQuantity, quantityWritten⟩ :=
    notNull_eq_ok.mp quantityWritten
  split at built
  · split at built
    · cases built
      exact ⟨Ranged.write_eq_ok.mp idWritten,
        by rw [hasUser, Ranged.write_eq_ok.mp userWritten],
        by rw [hasMovie, Ranged.write_eq_ok.mp movieWritten],
        by rw [hasTitle, Varchar.write_eq_ok.mp titleWritten],
        by rw [hasYear, Ranged.write_eq_ok.mp yearWritten],
        notNull_eq_ok.mp priceWritten,
        by rw [hasQuantity, Ranged.write_eq_ok.mp quantityWritten],
        notNull_eq_ok.mp totalWritten, rfl, rfl, rfl⟩
    · cases built
  · cases built

/-- Everything but the status and the time of the last update. -/
structure SameTerms (left right : OrderRow) : Prop where
  id : left.id = right.id
  userId : left.userId = right.userId
  movieId : left.movieId = right.movieId
  movieTitle : left.movieTitle = right.movieTitle
  movieReleaseYear : left.movieReleaseYear = right.movieReleaseYear
  ticketPrice : left.ticketPrice = right.ticketPrice
  quantity : left.quantity = right.quantity
  totalPrice : left.totalPrice = right.totalPrice
  createdAt : left.createdAt = right.createdAt

theorem SameTerms.refl (row : OrderRow) : row.SameTerms row :=
  ⟨rfl, rfl, rfl, rfl, rfl, rfl, rfl, rfl, rfl⟩

theorem SameTerms.trans {first second third : OrderRow}
    (left : first.SameTerms second) (right : second.SameTerms third) :
    first.SameTerms third where
  id := left.id.trans right.id
  userId := left.userId.trans right.userId
  movieId := left.movieId.trans right.movieId
  movieTitle := left.movieTitle.trans right.movieTitle
  movieReleaseYear := left.movieReleaseYear.trans right.movieReleaseYear
  ticketPrice := left.ticketPrice.trans right.ticketPrice
  quantity := left.quantity.trans right.quantity
  totalPrice := left.totalPrice.trans right.totalPrice
  createdAt := left.createdAt.trans right.createdAt

/-- The generated columns that a write returns. -/
def refresh (order : Order) (row : OrderRow) : Order :=
  { order with
    id := some row.id.val
    status := some (order.status.getD row.status)
    createdAt := some (order.createdAt.getD row.createdAt)
    updatedAt := some row.updatedAt }

/-- The values an insertion binds. -/
def parameters (order : Order) : List Parameter :=
  [order.userId.map .integer, order.movieId.map .integer,
    order.movieTitle.map .text, order.movieReleaseYear.map .smallint,
    order.ticketPrice.map .numeric, order.quantity.map .smallint,
    order.totalPrice.map .numeric,
    order.status.map fun status => .text status.value,
    order.createdAt.map .timestamp, order.updatedAt.map .timestamp].reduceOption

/-- The values an update binds. -/
def patchParameters (patch : OrderPatch) : List Parameter :=
  [patch.userId.map .integer, patch.movieId.map .integer,
    patch.status.map fun status => .text status.value,
    patch.createdAt.map .timestamp, patch.updatedAt.map .timestamp].reduceOption

end OrderRow

/-- `order.entity.ts`; no column but the key is unique. -/
def orderSchema : Schema OrderRow Order OrderPatch where
  key row := row.id.val
  conflicts _ _ := false
  idOf := Order.id
  hydrate := OrderRow.hydrate
  refresh := OrderRow.refresh
  diff := OrderRow.diff
  overlay := OrderRow.overlay
  build := OrderRow.build
  key_build built := (OrderRow.build_eq_ok built).1
  parameters := OrderRow.parameters
  patchParameters := OrderRow.patchParameters

end Cinema.Orders
