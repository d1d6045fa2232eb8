import Youtick.PaymentService.CardChain
import Youtick.PaymentService.CardDeliveries

/-!
# Card path: the invariant of the order book

What is true of an order and its transactions at every moment, whatever is in flight (`OrderSafe`):
an issue that was sent and is not known to have failed is either the order's pending transaction, or
its ticket has been seen; a void is signed only for a ticket that has been seen; the sends of a
phase are within its attempts.

An update of an order by a webhook or a signature (`OtherUpdate`) keeps an order safe by itself; the
operator's own updates are in the next module.
-/

set_option autoImplicit false

namespace Youtick.PaymentService

open Youtick.Lib Youtick.MarketV2

/-! ## The invariant -/

/-- An order against the operator's transactions. -/
structure OrderSafe (c : Chain) (r : CardOrderRow) : Prop where
  accounted : ∀ hash tx, c.transactions.find hash = some tx → tx.call.isIssue = true →
    tx.call.ticketId = r.ticketId → tx.sent = true → tx.knownFailed = false →
      r.pendingTxHash = some hash ∨ (0 < c.seen r.ticketId ∧
        (r.status = .issued ∨ r.status = .voidPending ∨ r.status = .voided))
  pending : r.pendingTxHash ≠ none → r.status = .paid ∨ r.status = .voidPending
  voids : ∀ hash tx, c.transactions.find hash = some tx → tx.call.isIssue = false →
    tx.call.ticketId = r.ticketId →
      0 < c.seen r.ticketId ∧ (r.status = .voidPending ∨ r.status = .voided)
  issueSends : c.issueSends r.ticketId ≤ maxSendAttempts ∧
    (r.status.rank ≤ 2 → c.issueSends r.ticketId ≤ r.attempts)
  voidSends : c.voidSends r.ticketId ≤ maxSendAttempts ∧
    (r.status = .voidPending → c.voidSends r.ticketId ≤ r.attempts)
  voided : r.status = .voided → ∃ ticket ∈ c.tickets r.ticketId, ticket.status = .voided ∧
    ticket.rail = .card ∧ ticket.card = some r.paymentReferenceHmac

structure CardInv (w : World) : Prop where
  unique : w.UniqueOrders
  owned : ∀ hash tx, w.chain.transactions.find hash = some tx → ∃ o r,
    w.orders.find o = some r ∧ tx.call.ticketId = r.ticketId ∧
      (tx.call.isIssue = true → tx.call.reference = some r.paymentReferenceHmac)
  orders : ∀ o r, w.orders.find o = some r → OrderSafe w.chain r
  chain : ChainSafe w.chain

/-! ## Orders -/

namespace OrderSafe

variable {c c' : Chain} {r r' : CardOrderRow}

/-- The columns the invariant reads. -/
theorem congr (h : OrderSafe c r) (hsame : SameOrder r r') (hstatus : r'.status = r.status)
    (hpending : r'.pendingTxHash = r.pendingTxHash) (hattempts : r'.attempts = r.attempts) :
    OrderSafe c r' where
  accounted := by
    rw [hsame.ticketId, hpending, hstatus]
    exact h.accounted
  pending := by
    rw [hpending, hstatus]
    exact h.pending
  voids := by
    rw [hsame.ticketId, hstatus]
    exact h.voids
  issueSends := by
    rw [hsame.ticketId, hstatus, hattempts]
    exact h.issueSends
  voidSends := by
    rw [hsame.ticketId, hstatus, hattempts]
    exact h.voidSends
  voided := by
    rw [hsame.ticketId, hstatus, hsame.paymentReferenceHmac]
    exact h.voided

/-- Before a void is due there is none. -/
theorem no_voids (h : OrderSafe c r) (hstatus : r.status ≠ .voidPending ∧ r.status ≠ .voided) :
    c.NoVoids r.ticketId := by
  intro hash tx htx hvoid hticket
  exact (h.voids hash tx htx hvoid hticket).2.elim hstatus.1 hstatus.2

/-- Without a pending transaction and before any ticket was seen, every issue has failed. -/
theorem all_failed (h : OrderSafe c r) (hpending : r.pendingTxHash = none)
    (hunseen : c.seen r.ticketId = 0 ∨ r.status.rank ≤ 2 ∨ r.status = .cancelled) :
    c.IssuesFailed r.ticketId := by
  intro hash tx htx hissue hticket hsent
  by_contra hknown
  rw [Bool.not_eq_true] at hknown
  rcases h.accounted hash tx htx hissue hticket hsent hknown with hp | ⟨hseen, hstatus⟩
  · rw [hpending] at hp
    cases hp
  · rcases hunseen with h0 | hrank | hcancelled
    · omega
    · obtain ⟨hi, hp, hv, -⟩ := OrderStatus.early hrank
      exact hstatus.elim hi (·.elim hp hv)
    · rcases hstatus with hs | hs | hs <;> cases hs.symm.trans hcancelled

end OrderSafe

/-- A new order, with no transaction for its ticket. -/
theorem OrderSafe.ofNew {c : Chain} {order : NewOrder}
    (h : ∀ hash tx, c.transactions.find hash = some tx → tx.call.ticketId ≠ order.ticketId) :
    OrderSafe c order.row where
  accounted hash tx htx _ hticket := absurd hticket (h hash tx htx)
  pending hp := absurd rfl hp
  voids hash tx htx _ hticket := absurd hticket (h hash tx htx)
  issueSends := by
    have h0 : c.issueSends order.row.ticketId = 0 := Chain.issueSends_eq_zero h
    rw [h0]
    exact ⟨Nat.zero_le _, fun _ => Nat.zero_le _⟩
  voidSends := by
    have h0 : c.voidSends order.row.ticketId = 0 :=
      Chain.voidSends_eq_zero fun hash tx htx _ => h hash tx htx
    rw [h0]
    exact ⟨Nat.zero_le _, fun _ => Nat.zero_le _⟩
  voided hs := nomatch hs

/-! ## Updates by webhooks and signatures -/

/-- What webhooks and signatures do to an order. -/
structure OtherUpdate (r r' : CardOrderRow) : Prop where
  same : SameOrder r r'
  pending : r'.pendingTxHash = r.pendingTxHash
  issueTx : r'.issueTxHash = r.issueTxHash
  moves : (r'.status = r.status ∧ r'.attempts = r.attempts) ∨
    (r.status.rank < r'.status.rank ∧ r'.status.rank ≤ 2 ∧ r'.attempts = r.attempts) ∨
    (r.status.rank ≤ 2 ∧ r.pendingTxHash = none ∧ r'.status = .cancelled) ∨
    ((r.status = .paid ∨ r.status = .issued) ∧ r'.status = .voidPending ∧ r'.attempts = 0)

theorem OtherUpdate.safe {c : Chain} {r r' : CardOrderRow} (h : OtherUpdate r r')
    (hr : OrderSafe c r) : OrderSafe c r' := by
  have hticket := h.same.ticketId
  rcases h.moves with ⟨hs, ha⟩ | ⟨hlt, hle, ha⟩ | ⟨hle, hnone, hs⟩ | ⟨hs, hs', ha⟩
  · exact hr.congr h.same hs h.pending ha
  · -- a purchase or a first signature: nothing has been sent
    have hpending : r.pendingTxHash = none := by
      by_contra hp
      have hrank : 2 ≤ r.status.rank := by
        rcases hr.pending hp with hs | hs <;> rw [hs] <;> decide
      omega
    have hrank : r.status.rank ≤ 2 := by omega
    have hfailed := hr.all_failed hpending (.inr (.inl hrank))
    have hearly := OrderStatus.early hrank
    have hvoids := hr.no_voids ⟨hearly.2.1, hearly.2.2.1⟩
    have hearly' := OrderStatus.early hle
    refine ⟨?_, ?_, ?_, ⟨hticket ▸ hr.issueSends.1, fun _ => ?_⟩, ⟨hticket ▸ hr.voidSends.1, ?_⟩, ?_⟩
    · intro hash tx htx hissue hof hsent hknown
      cases (hfailed hash tx htx hissue (hof.trans hticket) hsent).symm.trans hknown
    · intro hp
      exact absurd (h.pending.trans hpending) hp
    · intro hash tx htx hvoid hof
      exact absurd (hof.trans hticket) (hvoids hash tx htx hvoid)
    · rw [hticket, ha]
      exact hr.issueSends.2 hrank
    · exact fun hs => absurd hs hearly'.2.1
    · exact fun hs => absurd hs hearly'.2.2.1
  · -- cancelled before any send, or after every send has failed
    have hfailed := hr.all_failed hnone (.inr (.inl hle))
    have hearly := OrderStatus.early hle
    have hvoids := hr.no_voids ⟨hearly.2.1, hearly.2.2.1⟩
    refine ⟨?_, ?_, ?_, ⟨hticket ▸ hr.issueSends.1, ?_⟩, ⟨hticket ▸ hr.voidSends.1, ?_⟩, ?_⟩
    · intro hash tx htx hissue hof hsent hknown
      cases (hfailed hash tx htx hissue (hof.trans hticket) hsent).symm.trans hknown
    · intro hp
      exact absurd (h.pending.trans hnone) hp
    · intro hash tx htx hvoid hof
      exact absurd (hof.trans hticket) (hvoids hash tx htx hvoid)
    · exact fun hrank => absurd hs (OrderStatus.early hrank).2.2.2
    · exact fun hs' => nomatch hs.symm.trans hs'
    · exact fun hs' => nomatch hs.symm.trans hs'
  · -- a void is due: the sends of the void phase start from none
    have hvoids : c.NoVoids r.ticketId := by
      refine hr.no_voids ⟨fun hv => ?_, fun hv => ?_⟩
      · rcases hs with hs | hs <;> cases hs.symm.trans hv
      · rcases hs with hs | hs <;> cases hs.symm.trans hv
    refine ⟨?_, fun _ => .inr hs', ?_, ⟨hticket ▸ hr.issueSends.1, ?_⟩,
      ⟨hticket ▸ hr.voidSends.1, fun _ => ?_⟩, fun hv => (nomatch hs'.symm.trans hv)⟩
    · intro hash tx htx hissue hof hsent hknown
      rw [h.pending, hticket]
      rcases hr.accounted hash tx htx hissue (hof.trans hticket) hsent hknown with hp | ⟨hseen, -⟩
      · exact .inl hp
      · exact .inr ⟨hseen, .inr (.inl hs')⟩
    · intro hash tx htx hvoid hof
      exact absurd (hof.trans hticket) (hvoids hash tx htx hvoid)
    · exact fun hrank => absurd hs' (OrderStatus.early hrank).2.1
    · rw [hticket, Chain.voidSends_eq_zero hvoids]
      exact Nat.zero_le _

/-! ## Worlds -/

theorem SameOrder.collides {r r' q q' : CardOrderRow} (h : SameOrder r r') (h' : SameOrder q q') :
    PaymentService.collides r' q' = PaymentService.collides r q := by
  unfold PaymentService.collides
  rw [h.provider, h.providerOrderId, h.paymentReferenceHmac, h.ticketId, h'.provider,
    h'.providerOrderId, h'.paymentReferenceHmac, h'.ticketId]

/-- An order's row may be changed as long as the order stays safe. -/
theorem CardInv.update {w : World} (h : CardInv w) {o : String} {r : CardOrderRow}
    {f : CardOrderRow → CardOrderRow} (hr : w.orders.find o = some r) (hsame : SameOrder r (f r))
    (hsafe : OrderSafe w.chain (f r)) : CardInv { w with orders := w.orders.modify o f } := by
  -- every row is a row of before, with the same unique columns
  have hback : ∀ o' q', (w.orders.modify o f).find o' = some q' →
      ∃ q, w.orders.find o' = some q ∧ SameOrder q q' := by
    intro o' q' hq'
    obtain ⟨q, hq, ⟨rfl, rfl⟩ | ⟨rfl, -⟩⟩ := Table.of_find_modify hq'
    · obtain rfl : q = r := Option.some.inj (hq.symm.trans hr)
      exact ⟨q, hq, hsame⟩
    · exact ⟨_, hq, .refl _⟩
  refine ⟨fun o₁ o₂ q₁' q₂' h₁ h₂ hcollide => ?_, fun hash tx htx => ?_, fun o' q' hq' => ?_, h.chain⟩
  · obtain ⟨q₁, hq₁, hs₁⟩ := hback o₁ q₁' h₁
    obtain ⟨q₂, hq₂, hs₂⟩ := hback o₂ q₂' h₂
    exact h.unique o₁ o₂ q₁ q₂ hq₁ hq₂ ((hs₁.collides hs₂).symm.trans hcollide)
  · obtain ⟨o', q, hq, hticket, href⟩ := h.owned hash tx htx
    obtain ⟨q', hq', ⟨rfl, rfl⟩ | ⟨rfl, -⟩⟩ := Table.find_modify_of_find (k := o) (f := f) hq
    · obtain rfl : q = r := Option.some.inj (hq.symm.trans hr)
      refine ⟨o', f q, hq', hticket.trans hsame.ticketId.symm, fun hissue => ?_⟩
      rw [hsame.paymentReferenceHmac]
      exact href hissue
    · exact ⟨o', _, hq', hticket, href⟩
  · obtain ⟨q, hq, ⟨rfl, rfl⟩ | ⟨rfl, -⟩⟩ := Table.of_find_modify hq'
    · obtain rfl : q = r := Option.some.inj (hq.symm.trans hr)
      exact hsafe
    · exact h.orders o' _ hq

/-- Orders with one ticket are one order. -/
theorem CardInv.order_of_ticket {w : World} (h : CardInv w) {o o' : String} {r r' : CardOrderRow}
    (hr : w.orders.find o = some r) (hr' : w.orders.find o' = some r')
    (hticket : r.ticketId = r'.ticketId) : o = o' :=
  h.unique o o' r r' hr hr' (by simp [collides, hticket])

theorem collides_comm (a b : CardOrderRow) : collides a b = collides b a := by
  unfold collides
  simp only [eq_comm]

/-- A new order has no transaction, and its unique columns are its own. -/
theorem CardInv.insertOrder {w : World} (h : CardInv w) (order : NewOrder) :
    CardInv (w.insertOrder order.orderId order.row).2 := by
  unfold World.insertOrder
  split
  · exact h
  · next hfree =>
      simp only [not_or, List.any_eq_true, not_exists, not_and, Bool.not_eq_true,
        Option.isSome_eq_false_iff, Option.isNone_iff_eq_none] at hfree
      obtain ⟨hnone, hcollide⟩ := hfree
      have hfresh : ∀ o r, w.orders.find o = some r → collides order.row r = false :=
        fun o r hr => hcollide (o, r) (Table.mem_rows_iff.mpr hr)
      have hfind : ∀ o, (w.orders.insertOrIgnore order.orderId order.row).find o =
          if o = order.orderId then some order.row else w.orders.find o := by
        intro o
        rw [Table.find_insertOrIgnore, hnone]
        rfl
      refine ⟨fun o o' r r' hr hr' hc => ?_, fun hash tx htx => ?_, fun o r hr => ?_, h.chain⟩
      · simp only [hfind] at hr hr'
        split at hr <;> split at hr'
        · next ho ho' => exact ho.trans ho'.symm
        · cases hr
          cases (hfresh o' r' hr').symm.trans hc
        · cases hr'
          cases (hfresh o r hr).symm.trans ((collides_comm _ _).trans hc)
        · exact h.unique o o' r r' hr hr' hc
      · obtain ⟨o, r, hr, hticket⟩ := h.owned hash tx htx
        refine ⟨o, r, ?_, hticket⟩
        rw [hfind, if_neg, hr]
        rintro rfl
        cases hnone.symm.trans hr
      · rw [hfind] at hr
        split at hr
        · cases hr
          refine OrderSafe.ofNew fun hash tx htx hticket => ?_
          obtain ⟨o', r', hr', hticket', -⟩ := h.owned hash tx htx
          have hc := hfresh o' r' hr'
          simp [collides, NewOrder.row, ← hticket', hticket] at hc
        · exact h.orders o r hr

theorem OrderSafe.later {c c' : Chain} {r : CardOrderRow} (h : OrderSafe c r)
    (hlater : c.Later c') : OrderSafe c' r where
  accounted hash tx' htx' hissue hticket hsent hknown := by
    obtain ⟨tx, htx, hcall, hsent', hknown'⟩ := hlater.transactions hash tx' htx'
    rw [hcall] at hissue hticket
    have haccounted := h.accounted hash tx htx hissue hticket (hsent'.symm.trans hsent)
      (hknown' hknown)
    exact haccounted.imp_right fun hseen => ⟨hseen.1.trans_le (hlater.seen _), hseen.2⟩
  pending := h.pending
  voids hash tx' htx' hvoid hticket := by
    obtain ⟨tx, htx, hcall, -, -⟩ := hlater.transactions hash tx' htx'
    rw [hcall] at hvoid hticket
    obtain ⟨hseen, hstatus⟩ := h.voids hash tx htx hvoid hticket
    exact ⟨hseen.trans_le (hlater.seen _), hstatus⟩
  issueSends := ⟨(hlater.issueSends _).trans h.issueSends.1,
    fun hrank => (hlater.issueSends _).trans (h.issueSends.2 hrank)⟩
  voidSends := ⟨(hlater.voidSends _).trans h.voidSends.1,
    fun hs => (hlater.voidSends _).trans (h.voidSends.2 hs)⟩
  voided hs := by
    obtain ⟨ticket, hmem, hticket⟩ := h.voided hs
    exact ⟨ticket, hlater.tickets _ ticket hmem, hticket⟩

/-- A void is signed only when it is due and its ticket has been seen. -/
theorem OrderSafe.signed {c : Chain} {r : CardOrderRow} (h : OrderSafe c r) {hash : String}
    {call : Call} (hfresh : hash ∉ c.transactions.rows.map Prod.fst)
    (hvoid : call.isIssue = false → call.ticketId = r.ticketId →
      0 < c.seen r.ticketId ∧ (r.status = .voidPending ∨ r.status = .voided)) :
    OrderSafe (c.signed hash call hfresh) r := by
  have hback : ∀ hash' tx', (c.signed hash call hfresh).transactions.find hash' = some tx' →
      (tx'.call = call ∧ tx'.sent = false) ∨ c.transactions.find hash' = some tx' := by
    intro hash' tx' htx'
    rw [Chain.signed, Table.find_add] at htx'
    split at htx'
    · cases htx'
      exact .inl ⟨rfl, rfl⟩
    · exact .inr htx'
  have hissueSends : (c.signed hash call hfresh).issueSends r.ticketId =
      c.issueSends r.ticketId := by
    unfold Chain.issueSends Chain.signed
    rw [Table.count_add]
    simp [countsAsIssue]
  have hvoidSends : (c.signed hash call hfresh).voidSends r.ticketId = c.voidSends r.ticketId := by
    unfold Chain.voidSends Chain.signed
    rw [Table.count_add]
    simp [countsAsVoid]
  refine ⟨?_, h.pending, ?_, hissueSends ▸ h.issueSends, hvoidSends ▸ h.voidSends, h.voided⟩
  · intro hash' tx' htx' hissue hticket hsent hknown
    rcases hback hash' tx' htx' with ⟨-, hs⟩ | hold
    · cases hs.symm.trans hsent
    · exact h.accounted hash' tx' hold hissue hticket hsent hknown
  · intro hash' tx' htx' hv hticket
    rcases hback hash' tx' htx' with ⟨hcall, -⟩ | hold
    · exact hvoid (hcall ▸ hv) (hcall ▸ hticket)
    · exact h.voids hash' tx' hold hv hticket

/-- The order's pending transaction is sent within its attempts. -/
structure MaySend (c : Chain) (r : CardOrderRow) (hash : String) (call : Call) : Prop where
  pending : call.isIssue = true → r.pendingTxHash = some hash
  issueSends : call.isIssue = true → c.issueSends r.ticketId < maxSendAttempts ∧
    (r.status.rank ≤ 2 → c.issueSends r.ticketId < r.attempts)
  voidSends : call.isIssue = false → c.voidSends r.ticketId < maxSendAttempts ∧
    (r.status = .voidPending → c.voidSends r.ticketId < r.attempts)

theorem OrderSafe.broadcast {c : Chain} {r : CardOrderRow} (h : OrderSafe c r) {hash : String}
    {tx : Transaction} (htx : c.transactions.find hash = some tx)
    (hmay : tx.call.ticketId = r.ticketId → MaySend c r hash tx.call) :
    OrderSafe (c.broadcast hash) r := by
  have hback : ∀ hash' tx', (c.broadcast hash).transactions.find hash' = some tx' →
      ∃ old, c.transactions.find hash' = some old ∧ tx'.call = old.call ∧
        tx'.knownFailed = old.knownFailed ∧
        (hash' = hash ∧ old = tx ∨ tx'.sent = old.sent) := by
    intro hash' tx' htx'
    obtain ⟨old, hold, ⟨rfl, rfl⟩ | ⟨rfl, -⟩⟩ := Table.of_find_modify htx'
    · exact ⟨old, hold, rfl, rfl, .inl ⟨rfl, Option.some.inj (hold.symm.trans htx)⟩⟩
    · exact ⟨_, hold, rfl, rfl, .inr rfl⟩
  -- one more send at most, and only of the kind of the call
  have hissueSends : (tx.call.isIssue = true ∧ tx.call.ticketId = r.ticketId ∧
      (c.broadcast hash).issueSends r.ticketId ≤ c.issueSends r.ticketId + 1) ∨
      (c.broadcast hash).issueSends r.ticketId ≤ c.issueSends r.ticketId := by
    have hcount : (c.broadcast hash).issueSends r.ticketId + (countsAsIssue r.ticketId tx).toNat =
        c.issueSends r.ticketId + (countsAsIssue r.ticketId { tx with sent := true }).toNat :=
      Table.count_modify (fun _ tx => countsAsIssue r.ticketId tx) (fun tx => { tx with sent := true }) htx
    by_cases hof : tx.call.isIssue = true ∧ tx.call.ticketId = r.ticketId
    · refine .inl ⟨hof.1, hof.2, ?_⟩
      have hle := Bool.toNat_le (countsAsIssue r.ticketId { tx with sent := true })
      omega
    · have h0 : countsAsIssue r.ticketId { tx with sent := true } = false := by
        rw [Bool.eq_false_iff]
        simp only [countsAsIssue, ne_eq, Bool.and_eq_true, decide_eq_true_eq]
        exact fun hx => hof hx.1.1
      rw [h0, Bool.toNat_false] at hcount
      exact .inr (by omega)
  have hvoidSends : (tx.call.isIssue = false ∧ tx.call.ticketId = r.ticketId ∧
      (c.broadcast hash).voidSends r.ticketId ≤ c.voidSends r.ticketId + 1) ∨
      (c.broadcast hash).voidSends r.ticketId ≤ c.voidSends r.ticketId := by
    have hcount : (c.broadcast hash).voidSends r.ticketId + (countsAsVoid r.ticketId tx).toNat =
        c.voidSends r.ticketId + (countsAsVoid r.ticketId { tx with sent := true }).toNat :=
      Table.count_modify (fun _ tx => countsAsVoid r.ticketId tx) (fun tx => { tx with sent := true }) htx
    by_cases hof : tx.call.isIssue = false ∧ tx.call.ticketId = r.ticketId
    · refine .inl ⟨hof.1, hof.2, ?_⟩
      have hle := Bool.toNat_le (countsAsVoid r.ticketId { tx with sent := true })
      omega
    · have h0 : countsAsVoid r.ticketId { tx with sent := true } = false := by
        rw [Bool.eq_false_iff]
        simp only [countsAsVoid, ne_eq, Bool.and_eq_true, Bool.not_eq_true', decide_eq_true_eq]
        exact fun hx => hof hx.1
      rw [h0, Bool.toNat_false] at hcount
      exact .inr (by omega)
  refine ⟨?_, h.pending, ?_, ?_, ?_, h.voided⟩
  · intro hash' tx' htx' hissue hticket hsent hknown
    obtain ⟨old, hold, hcall, hk, ⟨rfl, rfl⟩ | hs⟩ := hback hash' tx' htx'
    · rw [hcall] at hissue hticket
      exact .inl ((hmay hticket).pending hissue)
    · rw [hcall] at hissue hticket
      exact h.accounted hash' old hold hissue hticket (hs ▸ hsent) (hk ▸ hknown)
  · intro hash' tx' htx' hv hticket
    obtain ⟨old, hold, hcall, -, -⟩ := hback hash' tx' htx'
    rw [hcall] at hv hticket
    exact h.voids hash' old hold hv hticket
  · rcases hissueSends with ⟨hissue, hticket, hle⟩ | hle
    · obtain ⟨hmax, hattempts⟩ := (hmay hticket).issueSends hissue
      exact ⟨hle.trans hmax, fun hrank => hle.trans (hattempts hrank)⟩
    · exact ⟨hle.trans h.issueSends.1, fun hrank => hle.trans (h.issueSends.2 hrank)⟩
  · rcases hvoidSends with ⟨hv, hticket, hle⟩ | hle
    · obtain ⟨hmax, hattempts⟩ := (hmay hticket).voidSends hv
      exact ⟨hle.trans hmax, fun hs => hle.trans (hattempts hs)⟩
    · exact ⟨hle.trans h.voidSends.1, fun hs => hle.trans (h.voidSends.2 hs)⟩

/-- A transaction is signed for an order. -/
theorem CardInv.signed {w : World} (h : CardInv w) {o : String} {r : CardOrderRow} {hash : String}
    {call : Call} (hfresh : hash ∉ w.chain.transactions.rows.map Prod.fst)
    (hr : w.orders.find o = some r) (hticket : call.ticketId = r.ticketId)
    (href : call.isIssue = true → call.reference = some r.paymentReferenceHmac)
    (hvoid : call.isIssue = false →
      0 < w.chain.seen r.ticketId ∧ (r.status = .voidPending ∨ r.status = .voided)) :
    CardInv { w with chain := w.chain.signed hash call hfresh } where
  unique := h.unique
  owned hash' tx' htx' := by
    simp only [Chain.signed, Table.find_add] at htx'
    split at htx'
    · cases htx'
      exact ⟨o, r, hr, hticket, href⟩
    · exact h.owned hash' tx' htx'
  orders o' r' hr' := by
    refine (h.orders o' r' hr').signed hfresh fun hv hof => ?_
    obtain rfl := h.order_of_ticket hr hr' (hticket.symm.trans hof)
    obtain rfl := Option.some.inj (hr.symm.trans hr')
    exact hvoid hv
  chain := h.chain.signed hfresh

/-- The transaction of an order is sent. -/
theorem CardInv.broadcast {w : World} (h : CardInv w) {o : String} {r : CardOrderRow}
    {hash : String} {tx : Transaction} (htx : w.chain.transactions.find hash = some tx)
    (hr : w.orders.find o = some r) (hticket : tx.call.ticketId = r.ticketId)
    (hmay : MaySend w.chain r hash tx.call)
    (hfree : tx.call.isIssue = true → ∀ hash' tx', w.chain.transactions.find hash' = some tx' →
      hash' ≠ hash → tx'.call.isIssue = true → tx'.call.ticketId = r.ticketId → tx'.sent = true →
      tx'.knownFailed = true) :
    CardInv { w with chain := w.chain.broadcast hash } where
  unique := h.unique
  owned hash' tx' htx' := by
    obtain ⟨old, hold, ⟨rfl, rfl⟩ | ⟨rfl, -⟩⟩ := Table.of_find_modify htx'
    · exact h.owned _ old hold
    · exact h.owned hash' _ hold
  orders o' r' hr' := by
    refine (h.orders o' r' hr').broadcast htx fun hof => ?_
    obtain rfl := h.order_of_ticket hr hr' (hticket.symm.trans hof)
    obtain rfl := Option.some.inj (hr.symm.trans hr')
    exact hmay
  chain := by
    refine h.chain.broadcast fun old hold hissue hash' tx' htx' hne hissue' hof => ?_
    obtain rfl := Option.some.inj (htx.symm.trans hold)
    exact hfree hissue hash' tx' htx' hne hissue' (hof.trans hticket)

theorem CardInv.later {w : World} (h : CardInv w) {c : Chain} (hlater : w.chain.Later c)
    (hsafe : ChainSafe c) : CardInv { w with chain := c } where
  unique := h.unique
  owned hash tx' htx' := by
    obtain ⟨tx, htx, hcall, -, -⟩ := hlater.transactions hash tx' htx'
    rw [hcall]
    exact h.owned hash tx htx
  orders o r hr := (h.orders o r hr).later hlater
  chain := hsafe

end Youtick.PaymentService
