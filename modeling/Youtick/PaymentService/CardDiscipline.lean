import Youtick.PaymentService.CardInvariant

/-!
# Card path: what requests rely on and guarantee

Only the operator signs and sends, so its runs rely on the transactions staying as they are except
for what the chain does with them, and on an order keeping its pending transaction and its attempts
as long as it keeps its status (`OthersMove`). Webhooks, signatures and new orders rely on nothing:
each of their operations is harmless by itself (`Harmless`).

Every operation guarantees that an issue is sent only when every other issue of its ticket that was
ever sent is known to have failed (`SendRule`).
-/

set_option autoImplicit false

namespace Youtick.PaymentService

open Youtick.Lib Youtick.MarketV2

/-! ## The relations -/

/-- How an order moves while the operator is elsewhere. -/
structure RowMove (r r' : CardOrderRow) : Prop where
  same : SameOrder r r'
  pending : r'.pendingTxHash = r.pendingTxHash
  issueTx : r'.issueTxHash = r.issueTxHash
  rank : r.status.rank ≤ r'.status.rank
  attempts : r'.status = r.status → r'.attempts = r.attempts
  queued : r.status = .voidPending → r'.status = .voidPending

theorem RowMove.refl (r : CardOrderRow) : RowMove r r :=
  ⟨.refl r, rfl, rfl, le_rfl, fun _ => rfl, id⟩

theorem RowMove.trans {r r' r'' : CardOrderRow} (h : RowMove r r') (h' : RowMove r' r'') :
    RowMove r r'' where
  same := h.same.trans h'.same
  pending := h'.pending.trans h.pending
  issueTx := h'.issueTx.trans h.issueTx
  rank := h.rank.trans h'.rank
  attempts hs := by
    -- an order never moves backwards, so it kept its status all along
    have hmid : r'.status = r.status := by
      refine OrderStatus.rank_injective (Nat.le_antisymm ?_ h.rank)
      exact hs ▸ h'.rank
    exact (h'.attempts (hs.trans hmid.symm)).trans (h.attempts hmid)
  queued hs := h'.queued (h.queued hs)

theorem OtherUpdate.rowMove {r r' : CardOrderRow} (h : OtherUpdate r r') : RowMove r r' where
  same := h.same
  pending := h.pending
  issueTx := h.issueTx
  rank := by
    rcases h.moves with ⟨hs, -⟩ | ⟨hlt, -⟩ | ⟨hle, -, hs⟩ | ⟨hs, hs', -⟩
    · rw [hs]
    · exact hlt.le
    · rw [hs]
      exact hle.trans (by decide)
    · rw [hs']
      rcases hs with hs | hs <;> rw [hs] <;> decide
  attempts hsame := by
    rcases h.moves with ⟨-, ha⟩ | ⟨-, -, ha⟩ | ⟨hle, -, hs⟩ | ⟨hs, hs', -⟩
    · exact ha
    · exact ha
    · exact absurd (hsame.symm.trans hs) (OrderStatus.early hle).2.2.2
    · rw [hsame] at hs'
      rcases hs with hs | hs <;> cases hs.symm.trans hs'
  queued hq := by
    rcases h.moves with ⟨hs, -⟩ | ⟨hlt, hle, -⟩ | ⟨hle, -⟩ | ⟨-, hs', -⟩
    · exact hs.trans hq
    · exact absurd hq (OrderStatus.early (hlt.le.trans hle)).2.1
    · exact absurd hq (OrderStatus.early hle).2.1
    · exact hs'

/-- What the operator's transactions do while it waits: they may execute, nothing else. -/
structure Chain.Moves (c c' : Chain) : Prop where
  transactions : ∀ hash tx, c.transactions.find hash = some tx →
    ∃ tx', c'.transactions.find hash = some tx' ∧ tx'.call = tx.call ∧ tx'.sent = tx.sent ∧
      tx'.knownFailed = tx.knownFailed ∧ tx'.answered = tx.answered
  fresh : ∀ hash, c.transactions.find hash = none → c'.transactions.find hash = none
  issueSends : ∀ ticketId, c'.issueSends ticketId = c.issueSends ticketId
  voidSends : ∀ ticketId, c'.voidSends ticketId = c.voidSends ticketId
  seen : c'.seen = c.seen
  tickets : ∀ ticketId, ∀ ticket ∈ c.tickets ticketId, ticket ∈ c'.tickets ticketId

namespace Chain.Moves

variable {c c' c'' : Chain}

theorem refl (c : Chain) : c.Moves c :=
  ⟨fun _ tx htx => ⟨tx, htx, rfl, rfl, rfl, rfl⟩, fun _ => id, fun _ => rfl, fun _ => rfl, rfl,
    fun _ _ => id⟩

theorem trans (h : c.Moves c') (h' : c'.Moves c'') : c.Moves c'' where
  transactions hash tx htx := by
    obtain ⟨tx', htx', hcall, hsent, hknown, hanswered⟩ := h.transactions hash tx htx
    obtain ⟨tx'', htx'', hcall', hsent', hknown', hanswered'⟩ := h'.transactions hash tx' htx'
    exact ⟨tx'', htx'', hcall'.trans hcall, hsent'.trans hsent, hknown'.trans hknown,
      hanswered'.trans hanswered⟩
  fresh hash hnone := h'.fresh hash (h.fresh hash hnone)
  issueSends ticketId := (h'.issueSends ticketId).trans (h.issueSends ticketId)
  voidSends ticketId := (h'.voidSends ticketId).trans (h.voidSends ticketId)
  seen := h'.seen.trans h.seen
  tickets ticketId ticket hmem := h'.tickets ticketId ticket (h.tickets ticketId ticket hmem)

theorem later (h : c.Moves c') : c.Later c' where
  transactions hash tx' htx' := by
    cases htx : c.transactions.find hash with
    | none => cases (h.fresh hash htx).symm.trans htx'
    | some tx =>
      obtain ⟨tx'', htx'', hcall, hsent, hknown, -⟩ := h.transactions hash tx htx
      obtain rfl := Option.some.inj (htx''.symm.trans htx')
      exact ⟨tx, rfl, hcall, hsent, fun hk => hknown ▸ hk⟩
  issueSends ticketId := (h.issueSends ticketId).le
  voidSends ticketId := (h.voidSends ticketId).le
  seen ticketId := (congrFun h.seen ticketId).ge
  tickets := h.tickets

theorem push (c : Chain) (ticketId : String) (ticket : ChainTicket) :
    c.Moves (c.push ticketId ticket) :=
  { refl c with tickets := fun _ _ hmem => Chain.mem_push.mpr (.inl hmem) }

theorem execute (c : Chain) (hash : String) (execution : Execution) :
    c.Moves (c.execute hash execution) where
  transactions hash' tx htx := by
    obtain ⟨tx', htx', ⟨rfl, -⟩ | ⟨rfl, -⟩⟩ := Table.find_modify_of_find (k := hash)
      (f := fun tx => { tx with execution := some execution }) htx
    · exact ⟨_, htx', rfl, rfl, rfl, rfl⟩
    · exact ⟨_, htx', rfl, rfl, rfl, rfl⟩
  fresh hash' hnone := by
    unfold Chain.execute
    rw [Table.find_modify, hnone]
    exact ite_self _
  issueSends ticketId := Table.count_modify_eq (p := fun _ tx => countsAsIssue ticketId tx)
    (f := fun tx => { tx with execution := some execution }) fun _ _ => rfl
  voidSends ticketId := Table.count_modify_eq (p := fun _ tx => countsAsVoid ticketId tx)
    (f := fun tx => { tx with execution := some execution }) fun _ _ => rfl
  seen := rfl
  tickets _ _ hmem := hmem

/-- What the chain does by itself. -/
theorem ofMove {m : ChainMove} (h : c.move m = some c') : c.Moves c' := by
  cases m with
  | execute hash outcome =>
    obtain ⟨tx, -, hland⟩ := Option.bind_eq_some_iff.mp h
    unfold Chain.land at hland
    split at hland
    · cases hland
    · split at hland
      · cases hland
      · obtain ⟨ticket, -, rfl⟩ := Option.map_eq_some_iff.mp hland
        exact (push c _ ticket).trans (execute _ hash _)
      · cases hland
        exact execute c hash _
  | purchase ticketId =>
    simp only [Chain.move] at h
    split at h
    · cases h
      exact push c ticketId _
    · cases h
  | advance ticketId status =>
    obtain ⟨t, -, hadvance⟩ := Option.bind_eq_some_iff.mp h
    split at hadvance
    · cases hadvance
      exact push c ticketId _
    · cases hadvance

end Chain.Moves

/-- What the operator relies on while it waits. -/
structure OthersMove (w w' : World) : Prop where
  orders : ∀ o r, w.orders.find o = some r → ∃ r', w'.orders.find o = some r' ∧ RowMove r r'
  chain : w.chain.Moves w'.chain

theorem OthersMove.refl (w : World) : OthersMove w w :=
  ⟨fun _ r hr => ⟨r, hr, .refl r⟩, .refl _⟩

theorem OthersMove.trans {w w' w'' : World} (h : OthersMove w w') (h' : OthersMove w' w'') :
    OthersMove w w'' where
  orders o r hr := by
    obtain ⟨r', hr', hmove⟩ := h.orders o r hr
    obtain ⟨r'', hr'', hmove'⟩ := h'.orders o r' hr'
    exact ⟨r'', hr'', hmove.trans hmove'⟩
  chain := h.chain.trans h'.chain

/-- An issue is sent only when every other issue of its ticket that was sent is known to have
failed for good. -/
def SendRule (c c' : Chain) : Prop :=
  ∀ hash tx', c'.transactions.find hash = some tx' → tx'.call.isIssue = true → tx'.sent = true →
    (∀ tx, c.transactions.find hash = some tx → tx.sent = false) →
    ∀ hash' tx, c.transactions.find hash' = some tx → hash' ≠ hash → tx.call.isIssue = true →
      tx.call.ticketId = tx'.call.ticketId → tx.sent = true → tx.knownFailed = true

/-- Where nothing is sent the rule holds. -/
theorem Chain.Later.sendRule {c c' : Chain} (h : c.Later c') : SendRule c c' := by
  intro hash tx' htx' _ hsent hnew
  obtain ⟨tx, htx, -, hs, -⟩ := h.transactions hash tx' htx'
  cases (hnew tx htx).symm.trans (hs.symm.trans hsent)

/-! ## Operations that are harmless by themselves -/

/-- The operations of webhooks, signatures and new orders. -/
def Harmless : {β : Type} → CardOp β → Prop
  | _, .updateOrder _ guard fields _ =>
    ∀ nowMs r, guard.admits r = true → OtherUpdate r (fields.assign nowMs r)
  | _, .insertOrder orderId row => ∃ order : NewOrder, orderId = order.orderId ∧ row = order.row
  | _, .getTicket _ => False
  | _, .txStatus _ => False
  | _, .sign _ => False
  | _, .broadcast _ => False
  | _, .outcome _ => False
  | _, _ => True

/-- An update of one order. -/
theorem OthersMove.update {w : World} {o : String} {r : CardOrderRow}
    {f : CardOrderRow → CardOrderRow} (hr : w.orders.find o = some r) (hmove : RowMove r (f r)) :
    OthersMove w { w with orders := w.orders.modify o f } where
  orders o' r' hr' := by
    obtain ⟨q, hq, ⟨rfl, rfl⟩ | ⟨rfl, -⟩⟩ := Table.find_modify_of_find (k := o) (f := f) hr'
    · obtain rfl := Option.some.inj (hr'.symm.trans hr)
      exact ⟨_, hq, hmove⟩
    · exact ⟨_, hq, .refl _⟩
  chain := .refl _

theorem Harmless.exec {β : Type} {op : CardOp β} (h : Harmless op) {i : Input} {t u : World}
    {b : β} (ht : CardInv t) (hx : World.exec _ op i t = some (b, u)) :
    CardInv u ∧ OthersMove t u := by
  cases op with
  | updateOrder orderId guard fields nowMs =>
    rcases World.exec_updateOrder hx with ⟨r, hr, hallowed, -, rfl⟩ | ⟨-, -, rfl⟩
    · have hother := h (nowMs.getD i.nowMs) r hallowed
      exact ⟨ht.update hr hother.same (hother.safe (ht.orders _ r hr)),
        .update hr hother.rowMove⟩
    · exact ⟨ht, .refl _⟩
  | insertOrder orderId row =>
    obtain ⟨order, rfl, rfl⟩ := h
    obtain rfl := congrArg Prod.snd (Option.some.inj hx)
    refine ⟨ht.insertOrder order, ?_⟩
    unfold World.insertOrder
    split
    · exact .refl t
    · refine ⟨fun o r hr => ⟨r, ?_, .refl r⟩, .refl _⟩
      show (Table.insertOrIgnore _ _ _).find o = some r
      rw [Table.find_insertOrIgnore]
      split
      · next ho => rw [← ho, hr]; rfl
      · exact hr
  | insertLedger | insertEvent =>
    cases hx
    exact ⟨⟨ht.unique, ht.owned, ht.orders, ht.chain⟩, fun _ r hr => ⟨r, hr, .refl r⟩, .refl _⟩
  | selectEvent | selectProviderOrder | selectOrder | selectWaiting | countWaiting | now =>
    cases hx
    exact ⟨ht, .refl _⟩
  | getTicket | txStatus | sign | broadcast | outcome => exact h.elim

/-! ## Webhooks, signatures and new orders -/

/-- A purchase pays an order that is open. -/
theorem harmless_pay (o : String) (paidAtMs : Int) (nowMs : Option Nat) :
    Harmless (.updateOrder o { statuses := [.created, .awaitingPayment] }
      { status := some .paid, paidAtMs := some paidAtMs } nowMs) := by
  intro nowMs r hallowed
  refine ⟨sameOrder_assign _ _ _, rfl, rfl, .inr (.inl ⟨?_, le_rfl, rfl⟩)⟩
  simp only [OrderGuard.admits, Bool.and_eq_true, decide_eq_true_eq] at hallowed
  show r.status.rank < 2
  rcases List.mem_pair.mp hallowed.1 with hs | hs <;> rw [hs] <;> decide

/-- The first update of `close` cancels an order before any send. -/
theorem harmless_cancel (o : String) {status : OrderStatus} (hstatus : status.rank ≤ 2)
    (reason : VoidReason) (nowMs : Option Nat) :
    Harmless (.updateOrder o { statuses := [status], pendingNull := true }
      { status := some .cancelled, voidReason := some reason } nowMs) := by
  intro nowMs r hallowed
  simp only [OrderGuard.admits, Bool.and_eq_true, decide_eq_true_eq, List.mem_singleton,
    Bool.not_true, Bool.false_or, Option.isNone_iff_eq_none] at hallowed
  exact ⟨sameOrder_assign _ _ _, rfl, rfl, .inr (.inr (.inl ⟨hallowed.1 ▸ hstatus, hallowed.2, rfl⟩))⟩

/-- The second update of `close` queues a void, whose attempts start from none. -/
theorem harmless_queueVoid (o : String) (reason : VoidReason) (nowMs : Nat) :
    Harmless (queueVoid o reason nowMs) := by
  intro nowMs r hallowed
  simp only [OrderGuard.admits, Bool.and_eq_true, decide_eq_true_eq] at hallowed
  exact ⟨sameOrder_assign _ _ _, rfl, rfl,
    .inr (.inr (.inr ⟨List.mem_pair.mp hallowed.1, rfl, rfl⟩))⟩

/-- A signature moves a created order to `awaitingPayment` and no other. -/
theorem harmless_sign (o : String) (status : OrderStatus)
    (device : Option (String × String × Nat × String)) (nowMs : Option Nat) :
    Harmless (.updateOrder o { statuses := [status], pendingNull := true }
      { status := some (if status = .created then .awaitingPayment else status),
        lastError := some none, device := device } nowMs) := by
  intro nowMs r hallowed
  simp only [OrderGuard.admits, Bool.and_eq_true, decide_eq_true_eq, List.mem_singleton] at hallowed
  refine ⟨sameOrder_assign _ _ _, rfl, rfl, ?_⟩
  by_cases hcreated : status = .created
  · right; left
    have hs : r.status = .created := hallowed.1.trans hcreated
    refine ⟨?_, ?_, rfl⟩
    · simp [OrderFields.assign, hcreated, hs, OrderStatus.rank]
    · simp [OrderFields.assign, hcreated, OrderStatus.rank]
  · left
    exact ⟨(if_neg hcreated).trans hallowed.1.symm, rfl⟩

theorem close_uses (o : String) (r : CardOrderRow) (reason : VoidReason) (nowMs : Nat) :
    (close o r reason nowMs).Uses Harmless := by
  have hqueue : (perform (queueVoid o reason nowMs)).Uses Harmless :=
    Handler.Uses.perform (harmless_queueVoid o reason nowMs)
  unfold close
  split
  · next hcond =>
      have hrank : r.status.rank ≤ 2 := by
        rcases hcond with hs | hs | ⟨hs, -⟩ <;> rw [hs] <;> decide
      refine ⟨harmless_cancel o hrank reason _, fun cancelled => ?_, trivial⟩
      cases cancelled with
      | true => trivial
      | false => exact hqueue
  · exact hqueue

theorem settleEvent_uses (provider : String) (e : CardEvent) (o : String) (r : CardOrderRow)
    (nowMs : Nat) : (settleEvent provider e o r nowMs).Uses Harmless := by
  unfold settleEvent
  cases e.kind with
  | purchase =>
    simp only
    split
    · trivial
    · exact ⟨trivial, fun _ => ⟨harmless_pay o _ _, fun _ => trivial, trivial⟩, trivial⟩
  | refund =>
    exact ⟨trivial, fun _ => (close_uses o r _ nowMs).bind fun _ => trivial, trivial⟩
  | chargebackLost =>
    exact ⟨trivial, fun _ => (close_uses o r _ nowMs).bind fun _ => trivial, trivial⟩
  | chargebackOpened | chargebackWon => trivial

theorem applyCardEvent_uses (provider : String) (e : CardEvent) (nowMs : Nat) :
    (applyCardEvent provider e nowMs).Uses Harmless := by
  unfold applyCardEvent
  split
  · trivial
  · refine ⟨trivial, fun seen => ?_, trivial⟩
    show Handler.Uses _ (ite _ _ _)
    split
    · trivial
    · refine ⟨trivial, fun found => ?_, trivial⟩
      cases found with
      | none => exact ⟨trivial, fun _ => trivial, trivial⟩
      | some found =>
        exact (settleEvent_uses provider e _ _ nowMs).bind fun _ =>
          ⟨trivial, fun _ => trivial, trivial⟩

theorem signCardOrder_uses (verify : String → Bytes → Bytes → Option Bool) (context : SignContext)
    (orderId : String) (device : DeviceInput) :
    (signCardOrder verify context orderId device).Uses Harmless := by
  unfold signCardOrder
  refine .check fun _ => ⟨trivial, fun found => ?_, trivial⟩
  cases found with
  | none => trivial
  | some r =>
    refine .check fun _ => .check fun _ => .check fun _ => .check fun _ =>
      ⟨harmless_sign orderId r.status _ _, fun updated => ?_, trivial⟩
    show Handler.Uses _ (ite _ _ _)
    split <;> trivial

theorem storeCardOrder_uses (order : NewOrder) : (storeCardOrder order).Uses Harmless := by
  refine ⟨⟨order, rfl, rfl⟩, fun stored => ?_, trivial⟩
  show Handler.Uses _ (ite _ _ _)
  split <;> trivial

end Youtick.PaymentService
