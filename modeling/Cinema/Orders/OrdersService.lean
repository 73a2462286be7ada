import Cinema.Catalog.MoviesService
import Cinema.Orders.Order

/-!
# The order service

`OrdersService` over the injected repository and catalog client, and the
message handlers of its controller.
-/

namespace Cinema.Orders

open Cinema.Interleaving Cinema.Relational Cinema.Shared
open Cinema.Catalog (Movie)

/-- The operations on numbers whose results are rounded. -/
structure Arithmetic where
  mul : ℚ → ℚ → ℚ
  div : ℚ → ℚ → ℚ

/-- Arithmetic without rounding, for examples. -/
def Arithmetic.exact : Arithmetic := ⟨fun x y => x * y, fun x y => x / y⟩

/-- Monetary arithmetic is done in integer cents. -/
def toCents (arithmetic : Arithmetic) (amount : ℚ) : ℚ :=
  ⌊arithmetic.mul amount 100 + 1 / 2⌋

/-- The quotient may be rounded. -/
def fromCents (arithmetic : Arithmetic) (cents : ℚ) : ℚ :=
  arithmetic.div cents 100

variable {Call : Type} {Reply : Call → Type}

/-- The client of the catalog: what a lookup of one movie answers. -/
abbrev CatalogClient (Call : Type) (Reply : Call → Type) : Type :=
  Json → Program Call Reply Thrown Movie

/-- The payload of a lookup. -/
def idMessage (id : ℤ) : Json := .obj [("id", .num id)]

namespace OrdersService

section Create

variable (arithmetic : Arithmetic)

/-- `orders.create({ ... })` with the data of a movie. -/
def newOrder (dto : CreateOrderPayload) (movie : Movie) : Order where
  id := none
  userId := some dto.userId
  movieId := movie.id
  movieTitle := movie.title
  movieReleaseYear := movie.releaseYear
  ticketPrice := movie.ticketPrice
  quantity := some dto.quantity
  totalPrice := movie.ticketPrice.map fun price =>
    fromCents arithmetic
      (arithmetic.mul (toCents arithmetic price) dto.quantity)
  status := some .CONFIRMED
  createdAt := none
  updatedAt := none

/-- The movie is looked up first, and its data is copied into the order. -/
def create (orders : Repository orderSchema Call Reply Thrown)
    (catalog : CatalogClient Call Reply) (dto : CreateOrderPayload) :
    Program Call Reply Thrown Order := do
  let movie ← catalog (idMessage dto.movieId)
  orders.save (newOrder arithmetic dto movie)

end Create

variable (orders : Repository orderSchema Call Reply Thrown)

/-- Newest first. -/
def Newer (left right : OrderRow) : Prop :=
  right.createdAt < left.createdAt ∨
    (right.createdAt = left.createdAt ∧ right.id.val ≤ left.id.val)

instance : DecidableRel Newer := fun left right =>
  inferInstanceAs (Decidable (right.createdAt < left.createdAt ∨
    (right.createdAt = left.createdAt ∧ right.id.val ≤ left.id.val)))

def findAllForUser (userId : ℤ) : Program Call Reply Thrown (List Order) :=
  orders.find
    [Criterion.integer (fun row => row.userId.val) (some userId)] Newer

/-- Someone else's order is as missing as one that was never made. -/
def findOneForUser (userId orderId : ℤ) : Program Call Reply Thrown Order := do
  match ← orders.findOneBy
    [Criterion.integer (fun row => row.id.val) (some orderId),
      Criterion.integer (fun row => row.userId.val) (some userId)] with
  | none => .fail (notFoundException s!"Order {orderId} not found")
  | some order => return order

/-- The status is checked on what was read, before `save` reads the row again. -/
def cancel (userId orderId : ℤ) : Program Call Reply Thrown Order := do
  let order ← findOneForUser orders userId orderId
  if order.status = some .CANCELLED then
    .fail (conflictException s!"Order {orderId} is already cancelled")
  else
    orders.save { order with status := some .CANCELLED }

end OrdersService

/-! ## Messages -/

/-- The messages of the service. -/
inductive OrderPatterns where
  | CREATE_ORDER
  | FIND_USER_ORDERS
  | FIND_USER_ORDER
  | CANCEL_USER_ORDER
  deriving DecidableEq

def OrderPatterns.value : OrderPatterns → String
  | .CREATE_ORDER => "orders.create"
  | .FIND_USER_ORDERS => "orders.find_by_user"
  | .FIND_USER_ORDER => "orders.find_one_by_user"
  | .CANCEL_USER_ORDER => "orders.cancel"

/-- What the handlers return. -/
inductive OrderAnswer where
  | orders (orders : List Order)
  | order (order : Order)
  deriving DecidableEq

namespace OrdersController

variable (validator : Validator)

def create (arithmetic : Arithmetic)
    (orders : Repository orderSchema Call Reply Thrown)
    (catalog : CatalogClient Call Reply) (payload : Json) :
    Program Call Reply Thrown Order := do
  let dto ← .ofExcept (CreateOrderPayload.validate validator payload)
  OrdersService.create arithmetic orders catalog dto

variable (orders : Repository orderSchema Call Reply Thrown)

def findAll (payload : Json) : Program Call Reply Thrown (List Order) := do
  let dto ← .ofExcept (UserIdPayload.validate validator payload)
  OrdersService.findAllForUser orders dto.userId

def findOne (payload : Json) : Program Call Reply Thrown Order := do
  let dto ← .ofExcept (UserOrderPayload.validate validator payload)
  OrdersService.findOneForUser orders dto.userId dto.orderId

def cancel (payload : Json) : Program Call Reply Thrown Order := do
  let dto ← .ofExcept (UserOrderPayload.validate validator payload)
  OrdersService.cancel orders dto.userId dto.orderId

/-- The handler of a message. -/
def handle (arithmetic : Arithmetic) (catalog : CatalogClient Call Reply)
    (pattern : OrderPatterns) (payload : Json) :
    Program Call Reply Thrown OrderAnswer :=
  match pattern with
  | .CREATE_ORDER =>
      .order <$> create validator arithmetic orders catalog payload
  | .FIND_USER_ORDERS => .orders <$> findAll validator orders payload
  | .FIND_USER_ORDER => .order <$> findOne validator orders payload
  | .CANCEL_USER_ORDER => .order <$> cancel validator orders payload

/-- The pipe of the handler throws on the payload. -/
def Refuses : OrderPatterns → Json → Thrown → Prop
  | .CREATE_ORDER, payload, thrown =>
      CreateOrderPayload.validate validator payload = .error thrown
  | .FIND_USER_ORDERS, payload, thrown =>
      UserIdPayload.validate validator payload = .error thrown
  | .FIND_USER_ORDER, payload, thrown | .CANCEL_USER_ORDER, payload, thrown =>
      UserOrderPayload.validate validator payload = .error thrown

variable {validator} {orders} in
theorem handle_refused {arithmetic : Arithmetic}
    {catalog : CatalogClient Call Reply} {pattern : OrderPatterns}
    {payload : Json} {thrown : Thrown}
    (refused : Refuses validator pattern payload thrown) :
    handle validator orders arithmetic catalog pattern payload =
      .fail thrown := by
  cases pattern with
  | CREATE_ORDER | FIND_USER_ORDERS | FIND_USER_ORDER | CANCEL_USER_ORDER =>
      exact Program.map_bind_refused refused _ _

section Uses

variable {validator} {orders} {arithmetic : Arithmetic}
  {catalog : CatalogClient Call Reply} {allowed : Call → Prop}

private theorem uses_findOneForUser
    (issued : ∀ call, (orders.statement call).Uses allowed)
    (userId orderId : ℤ) :
    (OrdersService.findOneForUser orders userId orderId).Uses allowed := by
  refine (Repository.uses_findOneBy (issued _)).bind fun order => ?_
  cases order <;> trivial

/-- The order service issues statements to its own repository and looks
movies up. -/
theorem uses_handle (issued : ∀ call, (orders.statement call).Uses allowed)
    (looked : ∀ payload, (catalog payload).Uses allowed)
    (pattern : OrderPatterns) (payload : Json) :
    (handle validator orders arithmetic catalog pattern payload).Uses
      allowed := by
  cases pattern with
  | CREATE_ORDER =>
      refine ((Program.uses_ofExcept _).bind fun dto => ?_).map _
      exact (looked _).bind fun movie => Repository.uses_save issued _
  | FIND_USER_ORDERS =>
      exact ((Program.uses_ofExcept _).bind fun dto =>
        Repository.uses_find (issued _) _).map _
  | FIND_USER_ORDER =>
      exact ((Program.uses_ofExcept _).bind fun dto =>
        uses_findOneForUser issued _ _).map _
  | CANCEL_USER_ORDER =>
      refine ((Program.uses_ofExcept _).bind fun dto => ?_).map _
      refine (uses_findOneForUser issued _ _).bind fun order => ?_
      split
      · trivial
      · exact Repository.uses_save issued _

end Uses

end OrdersController

end Cinema.Orders
