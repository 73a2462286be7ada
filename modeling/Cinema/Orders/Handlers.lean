import Cinema.Backend
import Cinema.Orders.OrderTable

/-!
# The handlers of the order service, call by call

For a payload that passes validation each handler is a fixed sequence of
calls; for any other payload it makes none.
-/

namespace Cinema.Backend

open Interleaving Relational Shared Catalog Orders

variable {validator : Validator} {arithmetic : Arithmetic}
  {granularity : Granularity} {payload : Json}

/-- `{ id: orderId, userId }` -/
def ownedCriteria (dto : UserOrderPayload) :
    List (Option (Criterion OrderRow)) :=
  [Criterion.integer (fun row => row.id.val) (some dto.orderId),
    Criterion.integer (fun row => row.userId.val) (some dto.userId)]

def answerOrder (order : Order) : Answer := .orders (.order order)

theorem handle_create {dto : CreateOrderPayload}
    (valid : CreateOrderPayload.validate validator payload = .ok dto) :
    handle validator arithmetic granularity (.orders .CREATE_ORDER payload) =
      .call (.findOneMovie (idMessage dto.movieId)) fun movie =>
        .call (.orders (.insert (OrdersService.newOrder arithmetic dto movie)))
          fun row => .done (answerOrder (OrderRow.refresh
            (OrdersService.newOrder arithmetic dto movie) row)) := by
  simp only [handle, OrdersController.handle, OrdersController.create, valid]
  rfl

/-- The rest of `cancel` once it has read a confirmed order. -/
def saveCancelled (granularity : Granularity) (row : OrderRow) :
    Program BackendCall BackendReply Thrown Answer :=
  .orders <$> (.order <$> (orders granularity).save (cancelled row))

theorem handle_cancel {dto : UserOrderPayload}
    (valid : UserOrderPayload.validate validator payload = .ok dto) :
    handle validator arithmetic granularity
        (.orders .CANCEL_USER_ORDER payload) =
      .call (.orders (.matching (ownedCriteria dto))) fun rows =>
        match rows.head? with
        | none =>
            .fail (notFoundException s!"Order {dto.orderId} not found")
        | some row =>
            if row.status = .CANCELLED then
              .fail (conflictException
                s!"Order {dto.orderId} is already cancelled")
            else saveCancelled granularity row := by
  simp only [handle, OrdersController.handle, OrdersController.cancel, valid]
  refine congrArg (Program.call _) (funext fun rows => ?_)
  cases rows with
  | nil => rfl
  | cons row rest =>
      by_cases already : row.status = .CANCELLED
      · simp [Program.bind, orderSchema, OrderRow.hydrate, already]
      · simp [Program.bind, orderSchema, OrderRow.hydrate, already]
        rfl

theorem handle_findOne {dto : UserOrderPayload}
    (valid : UserOrderPayload.validate validator payload = .ok dto) :
    handle validator arithmetic granularity
        (.orders .FIND_USER_ORDER payload) =
      .call (.orders (.matching (ownedCriteria dto))) fun rows =>
        match rows.head? with
        | none =>
            .fail (notFoundException s!"Order {dto.orderId} not found")
        | some row => .done (answerOrder row.hydrate) := by
  simp only [handle, OrdersController.handle, OrdersController.findOne, valid]
  refine congrArg (Program.call _) (funext fun rows => ?_)
  cases rows with
  | nil => rfl
  | cons row rest => rfl

theorem handle_findAll {dto : UserIdPayload}
    (valid : UserIdPayload.validate validator payload = .ok dto) :
    handle validator arithmetic granularity
        (.orders .FIND_USER_ORDERS payload) =
      .call (.orders (.matching
        [Criterion.integer (fun row => row.userId.val) (some dto.userId)]))
        fun rows => .done (.orders (.orders
          ((rows.insertionSort OrdersService.Newer).map OrderRow.hydrate))) := by
  simp only [handle, OrdersController.handle, OrdersController.findAll, valid]
  rfl

theorem saveCancelled_atomic (row : OrderRow) :
    saveCancelled .atomicSave row =
      .call (.orders (.save row.id.val (cancelled row))) fun written =>
        .done (answerOrder
          (written.elim (cancelled row) (OrderRow.refresh (cancelled row)))) :=
  rfl

theorem saveCancelled_statements (row : OrderRow) :
    saveCancelled .statements row =
      .call (.orders (.reread row.id.val)) fun reread =>
        match reread with
        | none =>
            .call (.orders (.reinsert row.id.val (cancelled row)))
              fun written => .done
                (answerOrder (OrderRow.refresh (cancelled row) written))
        | some current =>
            match OrderRow.diff (cancelled row) current with
            | none => .done (answerOrder (cancelled row))
            | some patch =>
                .call (.orders (.update row.id.val patch)) fun written =>
                  .done (answerOrder (written.elim (cancelled row)
                    (OrderRow.refresh (cancelled row)))) := by
  refine congrArg (Program.call _) (funext fun reread => ?_)
  cases reread with
  | none => rfl
  | some current =>
      cases differs : orderSchema.diff (cancelled row) current with
      | none =>
          have noPatch : OrderRow.diff (cancelled row) current = none := differs
          simp [Program.bind, differs, noPatch, answerOrder]
      | some patch =>
          have hasPatch : OrderRow.diff (cancelled row) current = some patch :=
            differs
          simp [Program.bind, differs, hasPatch]
          rfl

end Cinema.Backend
