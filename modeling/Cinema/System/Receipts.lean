import Cinema.System.Changes
import Cinema.System.Writes

/-!
# What an answer to a purchase means

Whatever is given up and however late a reply comes, a purchase inserts one row
at most, and its answer tells whether it has.  The inserted rows are the new
ones of the table: each of them stays, at most cancelled, and no order gets
into the table in another way.
-/

namespace Cinema.System

open Interleaving Relational Shared Catalog Orders Gateway
open Backend (ownedCriteria)

variable {deployment : Deployment}

/-! ## Who inserts an order -/

variable (deployment) in
/-- A call after which no order has a new id. -/
def Unordering (call : SystemCall deployment.validator) : Prop :=
  ∀ circumstances store id,
    (exec deployment circumstances call store).2.databases.orders.Has id →
      store.databases.orders.Has id

private theorem unordering_of_elsewhere {call : SystemCall deployment.validator}
    (elsewhere : Elsewhere deployment call) : Unordering deployment call := by
  intro circumstances store id has
  cases call with
  | send message => exact has
  | _ =>
      rw [elsewhere rfl] at has
      exact has

private theorem unordering_of_idle {call : SystemCall deployment.validator}
    (idle : Program.Idle Changes call) : Unordering deployment call := by
  intro circumstances store id has
  have same : SameRows store (exec deployment circumstances call store).2 :=
    exec_same_rows fun reply _ => idle reply
  unfold Table.Has at has ⊢
  rwa [same.orders] at has

/-- Nothing but a purchase or a cancellation can leave a new order. -/
private theorem uses_unordering {message : SystemMessage deployment.validator}
    (notPurchase : ∀ payload,
      message ≠ .service (.orders .CREATE_ORDER payload))
    (notCancel : ∀ payload,
      message ≠ .service (.orders .CANCEL_USER_ORDER payload)) :
    (handle deployment message).Uses (Unordering deployment) := by
  cases message with
  | http | start =>
      exact (uses_elsewhere _ rfl).mono fun _ => unordering_of_elsewhere
  | service message =>
      cases message with
      | auth pattern payload =>
          exact (uses_elsewhere _ rfl).mono fun _ => unordering_of_elsewhere
      | catalog pattern payload =>
          apply uses_catalog
          intro statement circumstances store id has
          exact has
      | orders pattern payload =>
          cases pattern with
          | CREATE_ORDER => exact absurd rfl (notPurchase payload)
          | CANCEL_USER_ORDER => exact absurd rfl (notCancel payload)
          | FIND_USER_ORDERS | FIND_USER_ORDER =>
              exact (idle_reading rfl).mono fun _ => unordering_of_idle

section Inserts

variable {store : SystemStore deployment.validator}
  {traffic later : SystemTraffic deployment} {index : Nat}
  {job : SystemJob deployment}
  (runs : (system deployment).Runs anyClients (.start store) traffic)
include runs

section Cancellation

variable (found : traffic.jobs[index]? = some job)
include found

private theorem performed_before
    {front back : List (SystemExchange deployment)}
    {exchange : SystemExchange deployment} {circumstances : Circumstances}
    (calls : job.calls = front ++ exchange :: back)
    (performed : exchange.means = .performed circumstances) :
    ∃ moment next, (system deployment).PerformedAt anyClients (.start store)
      traffic index front circumstances exchange moment next :=
  runs.performedAt_new (Nat.zero_le _) found calls performed

private theorem performed_of_made (exchange : SystemExchange deployment)
    (made : exchange ∈ job.calls) (isLocal : remote exchange.call = none) :
    ∃ circumstances, exchange.means = .performed circumstances :=
  ((Network.Runs.traced Network.traced_start runs job
    (List.mem_of_getElem? found)).meant exchange made).performed isLocal

/-- An order that was read is still there. -/
private theorem read_stays {criteria : List (Option (Criterion OrderRow))}
    {rows : List OrderRow} {means : Means Circumstances ClientFailure}
    {back : List (SystemExchange deployment)}
    (calls : job.calls =
      ⟨.orders (.matching criteria), .ok rows, means⟩ :: back)
    {read : OrderRow} (member : read ∈ rows) :
    traffic.store.databases.orders.Has read.id.val := by
  obtain ⟨circumstances, isPerformed⟩ := performed_of_made runs found
    ⟨.orders (.matching criteria), .ok rows, means⟩ (by simp [calls]) rfl
  obtain ⟨moment, next, performed⟩ :=
    performed_before runs found (calls.trans (List.nil_append _).symm)
      isPerformed
  have isRows := (selects_orders criteria).found performed.result.symm
  subst isRows
  obtain ⟨kept, keptMember, same⟩ :=
    orders_evolve performed.before performed.onward read
      (List.mem_filter.mp member).1
  exact ⟨kept, keptMember, (congrArg Ranged.val same.terms.id).symm⟩

private theorem rereads_it {criteria : List (Option (Criterion OrderRow))}
    {rows : List OrderRow} {means how : Means Circumstances ClientFailure}
    {read : OrderRow} (member : read ∈ rows) {reread : Option OrderRow}
    {back : List (SystemExchange deployment)}
    (calls : job.calls =
      ⟨.orders (.matching criteria), .ok rows, means⟩ ::
        ⟨.orders (.reread read.id.val), .ok reread, how⟩ :: back) :
    reread ≠ none := by
  obtain ⟨circumstances, isPerformed⟩ := performed_of_made runs found
    ⟨.orders (.reread read.id.val), .ok reread, how⟩ (by simp [calls]) rfl
  have split : job.calls = [⟨.orders (.matching criteria), .ok rows, means⟩] ++
      ⟨.orders (.reread read.id.val), .ok reread, how⟩ :: back := calls
  obtain ⟨moment, next, performed⟩ :=
    performed_before runs found split isPerformed
  obtain ⟨waiting, waitingFound, before⟩ := performed.past
  obtain ⟨row, rowMember, isRow⟩ :=
    read_stays performed.before waitingFound before member
  obtain ⟨result, _⟩ := execStatement_eq_ok performed.result.symm
  have isFound : moment.store.databases.orders.find? read.id.val = some row :=
    Table.find?_eq_some.mpr ⟨rowMember, isRow⟩
  simp only [Schema.exec, isFound] at result
  cases result
  simp

private theorem saving_inserts_none
    {criteria : List (Option (Criterion OrderRow))} {rows : List OrderRow}
    {means : Means Circumstances ClientFailure} {read : OrderRow}
    (member : read ∈ rows) {since : List (SystemExchange deployment)}
    (calls : job.calls =
      ⟨.orders (.matching criteria), .ok rows, means⟩ :: since)
    {statement : SqlCall OrderRow Order OrderPatch}
    {next : SqlReply statement → SystemProgram deployment}
    (reached : Program.Reaches (savingCancelled deployment read) since
      (.call (.orders statement) next)) :
    ¬ orderSchema.Inserts traffic.store.databases.orders statement := by
  cases granularity : deployment.granularity with
  | atomicSave =>
      rw [savingCancelled_atomic granularity] at reached
      rcases reached.pending with ⟨_, same⟩ | ⟨_, _, _, _, ended⟩
      · cases same
        have present := read_stays runs found calls member
        exact fun absent => absent present
      · cases ended.of_done.2
  | statements =>
      rw [savingCancelled_statements granularity] at reached
      rcases reached.pending with ⟨_, same⟩ | ⟨reread, how, later, rfl, onward⟩
      · cases same
        exact id
      cases reread with
      | none => exact absurd rfl (rereads_it runs found member calls)
      | some current =>
          cases differs : OrderRow.diff (cancelled read) current with
          | none =>
              simp only [differs] at onward
              cases onward.of_done.2
          | some patch =>
              simp only [differs] at onward
              rcases onward.pending with ⟨_, same⟩ | ⟨_, _, _, _, ended⟩
              · cases same
                exact id
              · cases ended.of_done.2

/-- A cancellation never comes to insert what it has read. -/
private theorem cancellation_inserts_none {payload : Json}
    (isMessage : job.message = .service (.orders .CANCEL_USER_ORDER payload))
    {statement : SqlCall OrderRow Order OrderPatch}
    {next : SqlReply statement → SystemProgram deployment}
    (pending : job.program = some (.call (.orders statement) next)) :
    ¬ orderSchema.Inserts traffic.store.databases.orders statement := by
  have traced := Network.Runs.traced Network.traced_start runs job
    (List.mem_of_getElem? found)
  have reached := reached_handler traced isMessage pending
  cases valid : UserOrderPayload.validate deployment.validator payload with
  | error thrown =>
      rw [handle_refused (.orders .CANCEL_USER_ORDER _) valid] at reached
      cases reached.of_fail.2
  | ok dto =>
      rw [handle_cancellation valid] at reached
      rcases reached.pending with
        ⟨_, same⟩ | ⟨rows, means, since, calls, onward⟩
      · cases same
        exact id
      cases first : rows.head? with
      | none =>
          simp only [first] at onward
          cases onward.of_fail.2
      | some read =>
          simp only [first] at onward
          by_cases already : read.status = .CANCELLED
          · rw [if_pos already] at onward
            cases onward.of_fail.2
          · rw [if_neg already] at onward
            exact saving_inserts_none runs found (List.mem_of_head? first)
              calls onward

end Cancellation

/-- An order that is new after a step was written for a purchase. -/
private theorem purchase_of_new
    (step : (system deployment).Steps anyClients traffic later) {row : OrderRow}
    (member : row ∈ later.store.databases.orders.rows)
    (new : ¬ traffic.store.databases.orders.Has row.id.val) :
    ∃ (index : Nat) (job : SystemJob deployment) (payload : Json),
      later.jobs[index]? = some job ∧
      job.message = .service (.orders .CREATE_ORDER payload) ∧
      row ∈ writtenRows job := by
  have absent : row ∉ traffic.store.databases.orders.rows :=
    fun old => new ⟨row, old, rfl⟩
  rcases step.store with same | ⟨index, job, after, call, next, circumstances,
    found, afterFound, pending, calls, same⟩
  · rw [same] at member
    exact absurd member absent
  rw [same] at member
  have has : (exec deployment circumstances call
      traffic.store).2.databases.orders.Has row.id.val := ⟨row, member, rfl⟩
  have written := (mem_exec_orders member).resolve_left absent
  obtain ⟨again, againFound, continues⟩ := step.extends index job found
  rw [afterFound] at againFound
  cases againFound
  by_cases purchase : ∃ payload,
      job.message = .service (.orders .CREATE_ORDER payload)
  · obtain ⟨payload, isMessage⟩ := purchase
    refine ⟨index, after, payload, afterFound,
      continues.message.trans isMessage, ?_⟩
    rw [writtenRows, calls, List.filterMap_append]
    exact List.mem_append_right _ (List.mem_filterMap.mpr
      ⟨_, List.mem_singleton_self _, written⟩)
  exfalso
  by_cases cancel : ∃ payload,
      job.message = .service (.orders .CANCEL_USER_ORDER payload)
  · obtain ⟨payload, isMessage⟩ := cancel
    cases call with
    | orders statement =>
        rcases has_of_execStatement has with old | inserts
        · exact new old
        · exact cancellation_inserts_none runs found isMessage pending inserts
    | _ => cases written
  · have traced := Network.Runs.traced Network.traced_start runs job
      (List.mem_of_getElem? found)
    have uses := (traced.reached _ pending).uses (uses_unordering
      (not_exists.mp purchase) (not_exists.mp cancel))
    exact new (uses.1.1 circumstances traffic.store _ has)

/-! ## The orders of the table -/

/-- Every row that a call has written stays in the table, at most cancelled. -/
theorem written_stays (found : traffic.jobs[index]? = some job)
    {row : OrderRow} (written : row ∈ writtenRows job) :
    ∃ kept ∈ traffic.store.databases.orders.rows, row.Kept kept := by
  obtain ⟨exchange, made, isRow⟩ := List.mem_filterMap.mp written
  obtain ⟨front, back, calls⟩ := List.append_of_mem made
  obtain ⟨call, result, means⟩ := exchange
  cases call with
  | orders statement =>
      cases result with
      | error thrown => cases isRow
      | ok reply =>
          obtain ⟨circumstances, isPerformed⟩ :=
            performed_of_made runs found ⟨.orders statement, .ok reply, means⟩
              made rfl
          obtain ⟨moment, next, performed⟩ :=
            performed_before runs found calls isPerformed
          have executed : (execStatement orderSchema
              circumstances.toSurroundings statement
              moment.store.databases.orders).1 = .ok reply :=
            performed.result.symm
          have present := mem_of_written executed isRow
          have isNext : next.store.databases.orders =
              (execStatement orderSchema circumstances.toSurroundings statement
                moment.store.databases.orders).2 := by
            rw [performed.store]
            rfl
          rw [← isNext] at present
          exact orders_evolve (performed.before.step performed.step)
            performed.after row present
  | _ => cases isRow

private theorem rowsFor_of_written (found : traffic.jobs[index]? = some job)
    {payload : Json}
    (isMessage : job.message = .service (.orders .CREATE_ORDER payload))
    {row : OrderRow} (written : row ∈ writtenRows job) :
    ∃ (root : Nat) (asking : SystemJob deployment) (request : HttpRequest)
      (body : Json), traffic.jobs[root]? = some asking ∧
        asking.message = .http request ∧ request.route = .createOrder body ∧
        row ∈ rowsFor traffic root := by
  rcases runs.source found with
    ⟨earlier, _, admitted, _⟩ | ⟨asking, member, sent⟩
  · change fromOutside job.message at admitted
    rw [isMessage] at admitted
    cases admitted
  · obtain ⟨root, rootFound⟩ := List.getElem?_of_mem member
    obtain ⟨message, sends, carrier, carrierFound, carries⟩ :=
      sent_by_job runs rootFound sent
    rw [found] at carrierFound
    cases carrierFound
    rw [isMessage] at carries
    cases carries
    cases isAsking : asking.message with
    | http request =>
        obtain ⟨user, _, forwards⟩ := forwards_of_sent
          (Network.Runs.traced Network.traced_start runs asking member)
          isAsking sent ⟨job, found, isMessage⟩
        have isPurchase : ∃ body, request.route = .createOrder body := by
          generalize request.route = route at forwards
          cases forwards
          exact ⟨_, rfl⟩
        obtain ⟨body, isPurchase⟩ := isPurchase
        refine ⟨root, asking, request, body, rootFound, isAsking, isPurchase,
          ?_⟩
        simp only [rowsFor, rootFound]
        refine List.mem_flatMap.mpr ⟨index, sent, ?_⟩
        simp only [found]
        exact written
    | start config =>
        rw [isAsking] at sends
        cases sends
    | service other =>
        rw [isAsking] at sends
        cases other <;> cases sends

end Inserts

/-- The order was inserted for the purchase `root`, and at most cancelled
since. -/
def InsertedFor (traffic : SystemTraffic deployment) (root : Nat)
    (row : OrderRow) : Prop :=
  ∃ (asking : SystemJob deployment) (request : HttpRequest) (body : Json)
    (inserted : OrderRow), traffic.jobs[root]? = some asking ∧
      asking.message = .http request ∧ request.route = .createOrder body ∧
      inserted ∈ rowsFor traffic root ∧ inserted.Kept row

/-- The orders of the table are those that were there, and those inserted for
purchases. -/
structure Accounted (store : SystemStore deployment.validator)
    (traffic : SystemTraffic deployment) : Prop where
  stays : ∀ root, ∀ row ∈ rowsFor traffic root,
    ∃ kept ∈ traffic.store.databases.orders.rows, row.Kept kept
  origin : ∀ row ∈ traffic.store.databases.orders.rows,
    (∃ old ∈ store.databases.orders.rows, old.Kept row) ∨
      ∃ root, InsertedFor traffic root row

section Accounted

variable {store : SystemStore deployment.validator}
  {traffic : SystemTraffic deployment}
  (runs : (system deployment).Runs anyClients (.start store) traffic)
include runs

private theorem rowsFor_stay {root : Nat} {row : OrderRow}
    (member : row ∈ rowsFor traffic root) :
    ∃ kept ∈ traffic.store.databases.orders.rows, row.Kept kept := by
  unfold rowsFor at member
  split at member
  · cases member
  · obtain ⟨child, _, written⟩ := List.mem_flatMap.mp member
    split at written
    · cases written
    · rename_i other found
      exact written_stays runs found written

omit runs in
private theorem kept_of_id {before : SystemTraffic deployment}
    (reached : (system deployment).Runs anyClients (.start store) before)
    (onward : (system deployment).Runs anyClients before traffic)
    {old row : OrderRow} (oldMember : old ∈ before.store.databases.orders.rows)
    (member : row ∈ traffic.store.databases.orders.rows)
    (sameId : old.id.val = row.id.val) : old.Kept row := by
  obtain ⟨kept, keptMember, same⟩ :=
    orders_evolve reached onward old oldMember
  have isRow : kept = row := OrderTable.eq_of_id keptMember member
    ((congrArg Ranged.val same.terms.id).symm.trans sameId)
  rwa [← isRow]

/-- An order was there, or a purchase has inserted it when its id was new. -/
private theorem origin_of_order {row : OrderRow}
    (member : row ∈ traffic.store.databases.orders.rows) :
    (∃ old ∈ store.databases.orders.rows, old.Kept row) ∨
      ∃ root, InsertedFor traffic root row := by
  by_cases present : store.databases.orders.Has row.id.val
  · obtain ⟨old, oldMember, isOld⟩ := present
    exact .inl ⟨old, oldMember,
      kept_of_id (Network.Runs.refl _) runs oldMember member isOld⟩
  · obtain ⟨before, after, reached, step, onward, absent, appeared⟩ :=
      @Network.Runs.loses _ _ _ _ _ _ _ _ _ _ _ _
        (fun traffic => ¬ traffic.store.databases.orders.Has row.id.val) runs
        present (fun absent => absent ⟨row, member, rfl⟩)
    obtain ⟨first, firstMember, isFirst⟩ := not_not.mp appeared
    have isFirst : first.id.val = row.id.val := isFirst
    obtain ⟨index, job, payload, found, isMessage, written⟩ :=
      purchase_of_new reached step firstMember (by rwa [isFirst])
    obtain ⟨later, laterFound, continues⟩ := onward.extends index job found
    obtain ⟨root, asking, request, body, rootFound, isRequest, isPurchase,
      inserted⟩ := rowsFor_of_written runs laterFound
        (continues.message.trans isMessage)
        ((continues.calls.filterMap writtenRow).subset written)
    exact .inr ⟨root, asking, request, body, first, rootFound, isRequest,
      isPurchase, inserted,
      kept_of_id (reached.step step) onward firstMember member isFirst⟩

theorem accounted : Accounted store traffic :=
  ⟨fun _ _ => rowsFor_stay runs, fun _ => origin_of_order runs⟩

end Accounted

/-! ## The answer -/

section Answer

variable {traffic later : SystemTraffic deployment}
  {job : SystemJob deployment}

private theorem written_for {store : SystemStore deployment.validator}
    (runs : (system deployment).Runs anyClients (.start store) traffic)
    (member : job ∈ traffic.jobs) {payload : Json}
    (isMessage : job.message = .service (.orders .CREATE_ORDER payload)) :
    (writtenRows job).length ≤ 1 ∧
    (∀ answer, job.outcome = some (.ok answer) → ∃ order row,
      answer = .orders (.order order) ∧ writtenRows job = [row] ∧
        Shows order row) ∧
    ((∃ thrown, job.outcome = some (.error thrown)) ∨
        (∃ exchange ∈ job.calls, ∃ lookup failure,
          exchange.means = .abandoned lookup failure) →
      writtenRows job = []) := by
  have traced := runs.traced Network.traced_start
  cases order_stage (traced job member) isMessage with
  | unwritten nothing notOk => simp [nothing, notOk]
  | @written dto movie row lookup other circumstances calls found carries
      looked outcome =>
      obtain ⟨movieRow, rfl⟩ := looked_movie
        (traced other (List.mem_of_getElem? found)) carries looked
      obtain ⟨holds, _⟩ :=
        runs.holds storedOrders_sound Network.traced_start trivial
      obtain ⟨position, jobFound⟩ := List.getElem?_of_mem member
      obtain ⟨id, now, built⟩ := holds.recorded position job
        (Nat.zero_le _) jobFound
        (.orders (.insert (OrdersService.newOrder deployment.arithmetic dto
          movieRow.hydrate))) (.ok row) circumstances (by simp [calls])
      have rows : writtenRows job = [row] := by
        rw [writtenRows, calls]
        rfl
      refine ⟨by simp [rows], ?_, ?_⟩
      · intro answer ends
        rw [outcome] at ends
        cases ends
        exact ⟨_, row, rfl, rows, shows_of_build built⟩
      · rintro (⟨thrown, failed⟩ | ⟨exchange, exchangeMember, child, failure,
          abandoned⟩)
        · rw [outcome] at failed
          cases failed
        · rw [calls] at exchangeMember
          simp only [List.mem_cons, List.not_mem_nil, or_false]
            at exchangeMember
          rcases exchangeMember with rfl | rfl <;> cases abandoned

private theorem rowsFor_nil {index : Nat} (found : traffic.jobs[index]? = some job)
    (nothing : job.sent = []) : rowsFor traffic index = [] := by
  simp [rowsFor, found, nothing]

private theorem rowsFor_singleton {index child : Nat}
    {other : SystemJob deployment} (found : traffic.jobs[index]? = some job)
    (sent : job.sent = [child]) (childFound : traffic.jobs[child]? = some other) :
    rowsFor traffic index = writtenRows other := by
  simp [rowsFor, found, sent, childFound]

private theorem only_child {child : Nat} {handler : SystemJob deployment}
    (childFound : traffic.jobs[child]? = some handler)
    {stops : SystemJob deployment → Prop} {result : Prop}
    (known : stops handler → result) :
    ∀ index ∈ [child], ∀ other, traffic.jobs[index]? = some other →
      stops other → result := by
  intro index isChild other otherFound stopped
  obtain rfl := List.mem_singleton.mp isChild
  rw [childFound] at otherFound
  cases otherFound
  exact known stopped

private theorem forwards_purchase {request : HttpRequest} {body : Json}
    (isPurchase : request.route = .createOrder body) {user : Option AuthUser}
    {message : ServiceMessage}
    (forwards : Forwards deployment.validator deployment.mapping request.route
      user message) :
    ∃ payload, message = .orders .CREATE_ORDER payload := by
  rw [isPurchase] at forwards
  cases forwards
  exact ⟨_, rfl⟩

private theorem purchase_now {store : SystemStore deployment.validator}
    (runs : (system deployment).Runs anyClients (.start store) traffic)
    {index : Nat} (found : traffic.jobs[index]? = some job)
    {request : HttpRequest} (isRequest : job.message = .http request)
    {body : Json} (isPurchase : request.route = .createOrder body) :
    (rowsFor traffic index).length ≤ 1 ∧
    (∀ answer, job.outcome = some (.ok answer) → ∃ order row,
      answer = .http (.orders (.order order)) ∧
        rowsFor traffic index = [row] ∧ Shows order row) ∧
    (∀ thrown, job.outcome = some (.error thrown) →
      rowsFor traffic index = [] ∨
        ∃ failure, thrown = gaveUp .order failure) ∧
    ∀ child ∈ job.sent, ∀ other, traffic.jobs[child]? = some other →
      ((∃ thrown, other.outcome = some (.error thrown)) ∨
        ∃ exchange ∈ other.calls, ∃ lookup failure,
          exchange.means = .abandoned lookup failure) →
      rowsFor traffic index = [] := by
  have traced := runs.traced Network.traced_start
  cases http_stage (traced job (List.mem_of_getElem? found)) isRequest with
  | unsent nothing notOk =>
      have none := rowsFor_nil found nothing
      simp [none, nothing, notOk]
  | @waiting user message child identified forwards sent carries pending =>
      obtain ⟨payload, rfl⟩ := forwards_purchase isPurchase forwards
      obtain ⟨handler, handlerFound, isMessage⟩ := carries
      obtain ⟨single, _, none⟩ :=
        written_for runs (List.mem_of_getElem? handlerFound) isMessage
      rw [rowsFor_singleton found sent handlerFound, sent, pending]
      exact ⟨single, by simp, by simp, only_child handlerFound none⟩
  | @answered user message child handler outcome identified forwards sent
      handlerFound isMessage ends passedOn =>
      obtain ⟨payload, rfl⟩ := forwards_purchase isPurchase forwards
      obtain ⟨single, shown, none⟩ :=
        written_for runs (List.mem_of_getElem? handlerFound) isMessage
      rw [rowsFor_singleton found sent handlerFound, sent, passedOn]
      refine ⟨single, ?_, ?_, ?_⟩
      · intro answer same
        cases outcome with
        | error thrown => cases same
        | ok reply =>
            obtain ⟨order, row, rfl, rows, shows⟩ := shown reply ends
            cases same
            exact ⟨order, row, rfl, rows, shows⟩
      · intro thrown same
        cases outcome with
        | error failure => exact .inl (none (.inl ⟨failure, ends⟩))
        | ok reply =>
            obtain ⟨order, row, rfl, _⟩ := shown reply ends
            cases same
      · exact only_child handlerFound none
  | @abandoned user message child failure identified forwards sent carries
      failed =>
      obtain ⟨payload, rfl⟩ := forwards_purchase isPurchase forwards
      have gave : ∀ thrown, job.outcome = some (.error thrown) →
          ∃ failure, thrown = gaveUp .order failure := by
        intro thrown same
        rw [failed] at same
        cases same
        exact ⟨failure, rfl⟩
      have notOk : ∀ answer, job.outcome ≠ some (.ok answer) := by
        simp [failed]
      cases child with
      | none =>
          have nothing := rowsFor_nil found sent
          simp [nothing, notOk]
      | some child =>
          obtain ⟨handler, handlerFound, isMessage⟩ := carries child rfl
          obtain ⟨single, _, none⟩ :=
            written_for runs (List.mem_of_getElem? handlerFound) isMessage
          have sent : job.sent = [child] := sent
          rw [rowsFor_singleton found sent handlerFound, sent]
          exact ⟨single, fun answer same => absurd same (notOk answer),
            fun thrown same => .inr (gave thrown same),
            only_child handlerFound none⟩

/-- What the answer to a purchase says about the rows written for it, then and
later, and that these rows account for the table.  In `traffic` the request
has its answer, or a message of its own has ended without a row; `later` is any
later moment. -/
theorem purchase_answered {store : SystemStore deployment.validator}
    (runs : (system deployment).Runs anyClients (.start store) traffic)
    {index : Nat} (found : traffic.jobs[index]? = some job)
    {request : HttpRequest} (isRequest : job.message = .http request)
    {body : Json} (isPurchase : request.route = .createOrder body)
    (onward : (system deployment).Runs anyClients traffic later) :
    (rowsFor later index).length ≤ 1 ∧
    (∀ answer, job.outcome = some (.ok answer) → ∃ order row,
      answer = .http (.orders (.order order)) ∧
        rowsFor later index = [row] ∧ Shows order row) ∧
    (∀ thrown, job.outcome = some (.error thrown) →
      rowsFor later index = [] ∨
        ∃ failure, thrown = gaveUp .order failure) ∧
    (∀ child ∈ job.sent, ∀ other, traffic.jobs[child]? = some other →
      ((∃ thrown, other.outcome = some (.error thrown)) ∨
        ∃ exchange ∈ other.calls, ∃ lookup failure,
          exchange.means = .abandoned lookup failure) →
      rowsFor later index = []) ∧
    Accounted store later := by
  obtain ⟨laterJob, laterFound, continues⟩ := onward.extends index job found
  obtain ⟨single, shown, failed, stopped⟩ := purchase_now (runs.trans onward)
    laterFound (continues.message.trans isRequest) isPurchase
  refine ⟨single, ?_, ?_, ?_, accounted (runs.trans onward)⟩
  · intro answer ends
    obtain rfl := continues.settled (by simp [ends])
    exact shown answer ends
  · intro thrown ends
    obtain rfl := continues.settled (by simp [ends])
    exact failed thrown ends
  · intro child sent other otherFound ended
    obtain ⟨laterOther, laterOtherFound, otherContinues⟩ :=
      onward.extends child other otherFound
    apply stopped child (continues.sent.subset sent) laterOther laterOtherFound
    rcases ended with ⟨thrown, ends⟩ | ⟨exchange, made, gaveUp⟩
    · obtain rfl := otherContinues.settled (by simp [ends])
      exact .inl ⟨thrown, ends⟩
    · exact .inr ⟨exchange, otherContinues.calls.subset made, gaveUp⟩

end Answer

/-- Two tickets are ordered and the order is answered. -/
theorem purchase_answered_example :
    ∃ (traffic : SystemTraffic
        (sampleDeployment (.sample 7 "ripley@example.com" .USER)))
      (order : Order) (row : OrderRow),
      rowsFor traffic 0 = [row] ∧ Shows order row ∧
        ∃ kept ∈ traffic.store.databases.orders.rows, row.Kept kept := by
  let deployment := sampleDeployment (.sample 7 "ripley@example.com" .USER)
  let request : HttpRequest := {
    authorization := some "Bearer token"
    route := .createOrder (.obj [("movieId", .num 1), ("quantity", .num 2)]) }
  let moment : Circumstances := ⟨calm 1, 0, 0⟩
  let store : SystemStore deployment.validator := ⟨∅, sampleDatabases, []⟩
  let message : SystemMessage deployment.validator := .http request
  let purchase : SystemJob deployment := .travelling message
  let first : SystemTraffic deployment := ⟨store, [purchase]⟩
  have arrives : (system deployment).Runs anyClients (.start store) first :=
    Relation.ReflTransGen.single (.arrive message trivial)
  have played : (play first
      [.act 0 .deliver, .act 0 (.perform moment), .act 0 .send,
        .act 1 .deliver, .act 1 .send, .act 2 .deliver,
        .act 2 (.perform moment), .act 1 .answer, .act 1 (.perform moment),
        .act 0 .answer]).any (fun traffic =>
      traffic.jobs[0]?.any fun job =>
        job.outcome.any fun outcome => outcome.toOption.isSome) = true := by
    decide +kernel
  obtain ⟨traffic, played, checked⟩ := (Option.any_eq_true _ _).mp played
  obtain ⟨job, found, checked⟩ := (Option.any_eq_true _ _).mp checked
  obtain ⟨outcome, ends, isOk⟩ := (Option.any_eq_true _ _).mp checked
  have runs := runs_of_play played
  obtain ⟨later, laterFound, continues⟩ := runs.extends 0 purchase rfl
  rw [found] at laterFound
  cases laterFound
  obtain ⟨_, shown, _, _, table⟩ := purchase_answered (arrives.trans runs) found
    continues.message rfl (.refl traffic)
  cases outcome with
  | error thrown => cases isOk
  | ok answer =>
      obtain ⟨order, row, _, rows, shows⟩ := shown answer ends
      exact ⟨traffic, order, row, rows, shows,
        table.stays 0 row (by simp [rows])⟩

end Cinema.System
