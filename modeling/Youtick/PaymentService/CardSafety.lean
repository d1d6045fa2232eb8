import Youtick.PaymentService.CardDiscipline

/-!
# Card path: safety of the operator

A run of the operator keeps the invariant of the order book whatever happens meanwhile. The proof
follows the program branch by branch: each read leaves a fact that survives what the operator relies
on (`Onward`), and each write needs the facts of the reads before it.

Together with the harmless requests this gives, over every run: a cancelled order has no ticket and
none of its transactions can still land, an issue is sent only when every other one of its order is
known to have failed, at most five counted sends are made in each phase, and an order has at most
one ticket.
-/

set_option autoImplicit false

namespace Youtick.PaymentService

open Youtick.Lib Youtick.MarketV2

/-! ## The discipline -/

section Discipline

variable (verify : String → Bytes → Bytes → Option Bool)

/-- Requests keep the invariant and the rule of sends; all but the operator leave its transactions
alone and move orders only forward. -/
def cardDiscipline : Discipline (cardSystem verify) where
  inv := CardInv
  meets _ _ := True
  rely request w w' := request = .operate → OthersMove w w'
  guar request w w' := SendRule w.chain w'.chain ∧ (request ≠ .operate → OthersMove w w')
  rely_refl _ w _ := .refl w
  rely_trans _ _ _ _ h h' hop := (h hop).trans (h' hop)
  guar_rely request request' w w' halone _ hguar hop := by
    refine hguar.2 fun hop' => ?_
    subst hop hop'
    cases halone
  world e w w' hw hmove := by
    obtain ⟨c, hc, rfl⟩ := Option.map_eq_some_iff.mp hmove
    obtain ⟨hsafe, hlater⟩ := hw.chain.move hc
    exact ⟨hw.later hlater hsafe, fun _ _ => ⟨fun _ r hr => ⟨r, hr, .refl r⟩, .ofMove hc⟩⟩

/-- The rows of all orders but one only move as others move them. -/
def Aside (orderId : String) (w w' : World) : Prop :=
  ∀ o r, o ≠ orderId → w.orders.find o = some r →
    ∃ r', w'.orders.find o = some r' ∧ RowMove r r'

/-- The operator at work on one order. -/
abbrev OpSafe (orderId : String) {α : Type} (p : CardHandler α) (w : World) : Prop :=
  ((cardDiscipline verify).strengthen (Aside orderId)).Safe .operate Discipline.Anywhere p w

end Discipline

theorem Aside.refl (orderId : String) (w : World) : Aside orderId w w :=
  fun _ r _ hr => ⟨r, hr, .refl r⟩

theorem Aside.trans {orderId : String} {w w' w'' : World} (h : Aside orderId w w')
    (h' : Aside orderId w' w'') : Aside orderId w w'' := by
  intro o r hne hr
  obtain ⟨r', hr', hmove⟩ := h o r hne hr
  obtain ⟨r'', hr'', hmove'⟩ := h' o r' hne hr'
  exact ⟨r'', hr'', hmove.trans hmove'⟩

/-- An update of the order itself. -/
theorem Aside.modify (orderId : String) (w : World) (f : CardOrderRow → CardOrderRow) :
    Aside orderId w { w with orders := w.orders.modify orderId f } := by
  intro o r hne hr
  refine ⟨r, ?_, .refl r⟩
  rw [← hr]
  exact Table.find_modify_of_ne _ _ hne

/-! ## What the operator knows -/

/-- The order's row is the one read, or as others moved it since. -/
def Held (orderId : String) (order : CardOrderRow) (w : World) : Prop :=
  ∃ r, w.orders.find orderId = some r ∧ RowMove order r

/-- What happens while the operator waits, and what its own operations on the chain do. -/
structure Onward (w w' : World) : Prop where
  orders : ∀ o r, w.orders.find o = some r → ∃ r', w'.orders.find o = some r' ∧ RowMove r r'
  seen : ∀ ticketId, w.chain.seen ticketId ≤ w'.chain.seen ticketId
  tickets : ∀ ticketId, ∀ ticket ∈ w.chain.tickets ticketId, ticket ∈ w'.chain.tickets ticketId

theorem Onward.trans {w w' w'' : World} (h : Onward w w') (h' : Onward w' w'') : Onward w w'' where
  orders o r hr := by
    obtain ⟨r', hr', hmove⟩ := h.orders o r hr
    obtain ⟨r'', hr'', hmove'⟩ := h'.orders o r' hr'
    exact ⟨r'', hr'', hmove.trans hmove'⟩
  seen ticketId := (h.seen ticketId).trans (h'.seen ticketId)
  tickets ticketId ticket hmem := h'.tickets ticketId ticket (h.tickets ticketId ticket hmem)

theorem OthersMove.onward {w w' : World} (h : OthersMove w w') : Onward w w' :=
  ⟨h.orders, h.chain.later.seen, h.chain.later.tickets⟩

/-- Only the chain has gone on. -/
theorem Onward.read {w : World} {c : Chain} (hlater : w.chain.Later c) :
    Onward w { w with chain := c } :=
  ⟨fun _ r hr => ⟨r, hr, .refl r⟩, hlater.seen, hlater.tickets⟩

/-- Only the transactions have changed. -/
theorem Onward.transact (w : World) (transactions : Table String Transaction) :
    Onward w { w with chain := { w.chain with transactions := transactions } } :=
  ⟨fun _ r hr => ⟨r, hr, .refl r⟩, fun _ => le_rfl, fun _ _ hmem => hmem⟩

theorem Held.onward {orderId : String} {order : CardOrderRow} {w w' : World}
    (h : Held orderId order w) (hon : Onward w w') : Held orderId order w' := by
  obtain ⟨r, hr, hmove⟩ := h
  obtain ⟨r', hr', hmove'⟩ := hon.orders orderId r hr
  exact ⟨r', hr', hmove.trans hmove'⟩

/-- The row of the order, wherever it is looked up later. -/
theorem Held.row {orderId : String} {order r : CardOrderRow} {w w' : World}
    (h : Held orderId order w) (hon : Onward w w') (hr : w'.orders.find orderId = some r) :
    RowMove order r := by
  obtain ⟨r', hr', hmove⟩ := h.onward hon
  exact Option.some.inj (hr'.symm.trans hr) ▸ hmove

/-- What a view of a ticket says. -/
def Shown (c : Chain) (ticketId : String) : Option ChainTicket → Prop
  | none => c.seen ticketId = 0
  | some ticket => 0 < c.seen ticketId ∧ ticket ∈ c.tickets ticketId

/-- The ticket of an order is on chain. -/
def Chain.HasTicket (c : Chain) (order : CardOrderRow) : Prop :=
  0 < c.seen order.ticketId ∧ ∃ ticket ∈ c.tickets order.ticketId, ticket.rail = .card ∧
    ticket.card = some order.paymentReferenceHmac

theorem Chain.HasTicket.onward {w w' : World} {order : CardOrderRow}
    (h : w.chain.HasTicket order) (hon : Onward w w') : w'.chain.HasTicket order := by
  obtain ⟨hseen, ticket, hmem, hticket⟩ := h
  exact ⟨hseen.trans_le (hon.seen _), ticket, hon.tickets _ ticket hmem, hticket⟩

/-- A view that shows the order's own ticket. -/
theorem Shown.hasTicket {c : Chain} {order : CardOrderRow} {shown : Option ChainTicket}
    (h : Shown c order.ticketId shown) (hours : ours shown order = true) : c.HasTicket order := by
  obtain ⟨ticket, rfl, hticket⟩ := (Option.any_eq_true _ _).mp hours
  exact ⟨h.1, ticket, h.2, of_decide_eq_true hticket⟩

/-- Once the order's ticket is on chain, a view shows it. -/
theorem Chain.HasTicket.ours {c : Chain} {order : CardOrderRow} {shown : Option ChainTicket}
    (h : c.HasTicket order) (hc : ChainSafe c) (hshown : Shown c order.ticketId shown) :
    ours shown order = true := by
  obtain ⟨hseen, ticket, hmem, hrail, hcard⟩ := h
  cases shown with
  | none => exact absurd (show c.seen order.ticketId = 0 from hshown) hseen.ne'
  | some other =>
    obtain ⟨hrail', hcard'⟩ := hc.one _ other hshown.2 ticket hmem
    exact decide_eq_true ⟨hrail'.trans hrail, hcard'.trans hcard⟩

/-- A signed transaction that has not been sent. -/
def Chain.Unsent (c : Chain) (hash : String) (call : Call) : Prop :=
  ∃ tx, c.transactions.find hash = some tx ∧ tx.call = call ∧ tx.sent = false ∧ tx.answered = none

section Signed

variable {c : Chain} {hash : String} {call : Call}
  (hfresh : hash ∉ c.transactions.rows.map Prod.fst)

theorem Chain.find_signed (hash' : String) : (c.signed hash call hfresh).transactions.find hash' =
    if hash' = hash then some ⟨call, false, none, none, false⟩ else c.transactions.find hash' :=
  Table.find_add _ _ _ _ hfresh

theorem Chain.IssuesFailed.signed {ticketId : String} (h : c.IssuesFailed ticketId) :
    (c.signed hash call hfresh).IssuesFailed ticketId := by
  intro hash' tx htx hissue hticket hsent
  rw [Chain.find_signed] at htx
  split at htx
  · cases htx
    cases hsent
  · exact h hash' tx htx hissue hticket hsent

/-- A signature sends nothing. -/
theorem Chain.signed_sendRule : SendRule c (c.signed hash call hfresh) := by
  intro hash' tx' htx' _ hsent hnew
  rw [Chain.find_signed] at htx'
  split at htx'
  · cases htx'
    cases hsent
  · cases (hnew tx' htx').symm.trans hsent

end Signed

/-- An issue may be sent once every one sent before has failed. -/
theorem Chain.broadcast_sendRule {c : Chain} {hash : String} {tx : Transaction}
    (htx : c.transactions.find hash = some tx)
    (h : tx.call.isIssue = true → c.IssuesFailed tx.call.ticketId) :
    SendRule c (c.broadcast hash) := by
  intro hash' tx' htx' hissue hsent hnew hash'' tx'' htx'' _ hissue'' hticket'' hsent''
  obtain ⟨old, hold, ⟨rfl, rfl⟩ | ⟨rfl, -⟩⟩ := Table.of_find_modify htx'
  · obtain rfl := Option.some.inj (hold.symm.trans htx)
    exact h hissue hash'' tx'' htx'' hissue'' hticket'' hsent''
  · cases (hnew _ hold).symm.trans hsent

/-- A transaction that was sent and not answered yet, next to those sent before. -/
structure Chain.InFlight (c : Chain) (order : CardOrderRow) (hash : String) (call : Call) :
    Prop where
  sent : ∃ tx, c.transactions.find hash = some tx ∧ tx.call = call ∧ tx.sent = true ∧
    tx.answered = none
  failed : call.isIssue = true → ∀ hash' tx, c.transactions.find hash' = some tx → hash' ≠ hash →
    tx.call.isIssue = true → tx.call.ticketId = order.ticketId → tx.sent = true →
    tx.knownFailed = true
  sends : call.isIssue = true → c.issueSends order.ticketId ≤ order.attempts + 1

theorem Chain.InFlight.ofBroadcast {c : Chain} {order : CardOrderRow} {hash : String}
    {tx : Transaction} (htx : c.transactions.find hash = some tx) (hanswered : tx.answered = none)
    (hfailed : tx.call.isIssue = true → c.IssuesFailed order.ticketId)
    (hsends : tx.call.isIssue = true → c.issueSends order.ticketId ≤ order.attempts) :
    (c.broadcast hash).InFlight order hash tx.call where
  sent := by
    obtain ⟨tx', htx', ⟨rfl, -⟩ | ⟨-, hne⟩⟩ := Table.find_modify_of_find (k := hash)
      (f := fun tx => { tx with sent := true }) htx
    · exact ⟨_, htx', rfl, rfl, hanswered⟩
    · exact absurd rfl hne
  failed hi hash' tx' htx' hne hissue hticket hsent := by
    obtain ⟨old, hold, ⟨-, heq⟩ | ⟨rfl, -⟩⟩ := Table.of_find_modify htx'
    · exact absurd heq hne
    · exact hfailed hi hash' _ hold hissue hticket hsent
  sends hi := by
    -- one more send at most
    have hcount : (c.broadcast hash).issueSends order.ticketId +
        (countsAsIssue order.ticketId tx).toNat = c.issueSends order.ticketId +
        (countsAsIssue order.ticketId { tx with sent := true }).toNat :=
      Table.count_modify (fun _ tx => countsAsIssue order.ticketId tx)
        (fun tx => { tx with sent := true }) htx
    have hle := Bool.toNat_le (countsAsIssue order.ticketId { tx with sent := true })
    have hbefore := hsends hi
    omega

theorem Chain.InFlight.moves {c c' : Chain} {order : CardOrderRow} {hash : String} {call : Call}
    (h : c.InFlight order hash call) (hmoves : c.Moves c') : c'.InFlight order hash call where
  sent := by
    obtain ⟨tx, htx, hcall, hsent, hanswered⟩ := h.sent
    obtain ⟨tx', htx', hcall', hsent', -, hanswered'⟩ := hmoves.transactions hash tx htx
    exact ⟨tx', htx', hcall'.trans hcall, hsent'.trans hsent, hanswered'.trans hanswered⟩
  failed hi hash' tx' htx' hne hissue hticket hsent := by
    obtain ⟨tx, htx, hcall, hs, hknown⟩ := hmoves.later.transactions hash' tx' htx'
    rw [hcall] at hissue hticket
    have hfailed := h.failed hi hash' tx htx hne hissue hticket (hs ▸ hsent)
    rw [← Bool.not_eq_false]
    exact fun hk => Bool.eq_false_iff.mp (hknown hk) hfailed
  sends hi := (hmoves.issueSends _).le.trans (h.sends hi)

/-- What the answer to the send of an issue says. -/
structure Chain.Answered (c : Chain) (order : CardOrderRow) (said : SendOutcome) : Prop where
  success : said = .success → c.HasTicket order
  failed : failed said = true → c.IssuesFailed order.ticketId
  uncounted : said = .reserveExhausted → c.issueSends order.ticketId ≤ order.attempts

theorem Chain.Answered.unknown (c : Chain) (order : CardOrderRow) : c.Answered order .unknown :=
  ⟨fun h => (nomatch h), fun h => (nomatch h), fun h => (nomatch h)⟩

theorem Chain.Answered.later {w w' : World} {order : CardOrderRow} {said : SendOutcome}
    (h : w.chain.Answered order said) (hon : Onward w w') (hlater : w.chain.Later w'.chain) :
    w'.chain.Answered order said :=
  ⟨fun hs => (h.success hs).onward hon, fun hf => (h.failed hf).later hlater,
    fun hu => (hlater.issueSends _).trans (h.uncounted hu)⟩

/-- What the network says of an issue in flight. -/
theorem Chain.InFlight.answered {c c' : Chain} {order : CardOrderRow} {hash : String}
    {call : Call} {said : SendOutcome} (h : c.InFlight order hash call) (hc : ChainSafe c)
    (hticket : call.ticketId = order.ticketId) (hissue : call.isIssue = true)
    (href : call.reference = some order.paymentReferenceHmac)
    (hreport : c.report hash said = some c') : (c'.answer hash said).Answered order said := by
  obtain ⟨tx, htx, rfl, hsent, hanswered⟩ := h.sent
  rcases Chain.report_cases hreport with ⟨rfl, rfl⟩ | ⟨tx', execution, htx', hex, rfl, -, rfl⟩
  · exact .unknown _ _
  · obtain rfl := Option.some.inj (htx'.symm.trans htx)
    obtain ⟨learned, hlearned, ⟨rfl, -⟩ | ⟨-, hne⟩⟩ := Table.find_modify_of_find (k := hash)
      (f := fun tx => { tx with knownFailed := PaymentService.failed execution.outcome }) htx
    · refine ⟨fun hsuccess => ?_, fun hfailed => ?_, fun hreserve => ?_⟩
      · obtain ⟨hafter, ticket, hmem, hrail, hcard⟩ :=
          hc.issued hash tx' execution htx hissue hex hsuccess
        refine ⟨?_, ticket, hticket ▸ hmem, hrail, hcard.trans href⟩
        show 0 < Function.update c.seen tx'.call.ticketId _ order.ticketId
        rw [← hticket, Function.update_self]
        exact hafter.trans_le (le_max_right _ _)
      · intro hash' tx'' htx'' hissue'' hticket'' hsent''
        obtain ⟨mid, hmid, ⟨rfl, rfl⟩ | ⟨rfl, hne⟩⟩ := Table.of_find_modify htx''
        · obtain rfl := Option.some.inj (hmid.symm.trans hlearned)
          exact hfailed
        · obtain ⟨old, hold, ⟨-, heq⟩ | ⟨rfl, -⟩⟩ := Table.of_find_modify hmid
          · exact absurd heq hne
          · exact h.failed hissue hash' _ hold hne hissue'' hticket'' hsent''
      · -- the send is counted until its answer, and not after
        have hcount := Table.count_modify (fun _ tx => countsAsIssue order.ticketId tx)
          (fun tx => { tx with answered := tx.answered.or (some execution.outcome) }) hlearned
        have hcounted : countsAsIssue order.ticketId
            { tx' with knownFailed := PaymentService.failed execution.outcome } = true := by
          simp [countsAsIssue, hissue, hticket, hsent, hanswered]
        have huncounted : countsAsIssue order.ticketId
            { tx' with
              answered := tx'.answered.or (some execution.outcome)
              knownFailed := PaymentService.failed execution.outcome } = false := by
          simp [countsAsIssue, hanswered, hreserve]
        simp only [hcounted, huncounted, Bool.toNat_true, Bool.toNat_false] at hcount
        have hbefore : (c.learn hash tx' execution).issueSends order.ticketId ≤ order.attempts + 1 :=
          ((hc.learn htx hex).2.issueSends _).trans (h.sends hissue)
        exact Nat.le_of_lt_succ (Nat.lt_of_lt_of_le (Nat.lt_of_succ_le hcount.le) hbefore)
    · exact absurd rfl hne

/-! ## The operations of the operator -/

section Operations

variable {verify : String → Bytes → Bytes → Option Bool} {orderId : String}

/-- An operation on the chain. -/
private theorem chain_safe {β α : Type} {op : CardOp β} {f : β → CardHandler α} {w : World}
    (h : ∀ t, OthersMove w t → CardInv t → ∀ i b u, World.exec _ op i t = some (b, u) →
      u.orders = t.orders ∧ CardInv u ∧ SendRule t.chain u.chain ∧ OpSafe verify orderId (f b) u) :
    OpSafe verify orderId (perform op >>= f) w := by
  refine Discipline.Safe.perform_anywhere fun t hwt ht i b u _ hx => ?_
  obtain ⟨horders, hu, hrule, hnext⟩ := h t (hwt rfl) ht i b u hx
  refine ⟨hu, ⟨⟨hrule, fun hne => absurd rfl hne⟩, fun o r _ hr => ⟨r, ?_, .refl r⟩⟩, hnext⟩
  rw [horders]
  exact hr

/-- A view of the ticket. -/
theorem getTicket_safe {α : Type} {ticketId : String} {f : Option ChainTicket → CardHandler α}
    {w : World} (h : ∀ u shown, Onward w u → w.chain.Later u.chain → CardInv u →
      Shown u.chain ticketId shown → OpSafe verify orderId (f shown) u) :
    OpSafe verify orderId (perform (.getTicket ticketId) >>= f) w := by
  refine chain_safe fun t hwt ht i b u hx => ?_
  simp only [World.exec] at hx
  split at hx
  · next hfresh =>
      cases hx
      have hlater := Chain.Later.observe t.chain ticketId i.states
      have hinv := ht.later hlater (ht.chain.observe ticketId i.states)
      refine ⟨rfl, hinv, hlater.sendRule, h _ _ (hwt.onward.trans (.read hlater))
        (hwt.chain.later.trans hlater) hinv ?_⟩
      -- no state at all means that nothing final has been seen either
      have hseen : (t.chain.observe ticketId i.states).seen ticketId = i.states := by
        simp [Chain.observe, hfresh.1]
      cases hn : i.states with
      | zero =>
        rw [hn] at hseen
        exact hseen
      | succ n =>
        have hlt : n < (t.chain.tickets ticketId).length := by omega
        show Shown _ _ (t.chain.tickets ticketId)[n]?
        rw [List.getElem?_eq_getElem hlt]
        refine ⟨?_, List.getElem_mem hlt⟩
        rw [← hn, hseen, hn]
        exact Nat.succ_pos n
  · cases hx

/-- What the network says of a transaction. -/
private theorem report_later {t : World} (ht : CardInv t) {hash : String} {said : SendOutcome}
    {c : Chain} (hreport : t.chain.report hash said = some c) :
    CardInv { t with chain := c } ∧ t.chain.Later c ∧
      (failed said = true → ∀ tx, c.transactions.find hash = some tx → tx.knownFailed = true) := by
  obtain ⟨hsafe, hlater⟩ := ht.chain.report hreport
  refine ⟨ht.later hlater hsafe, hlater, fun hfailed tx htx => ?_⟩
  rcases Chain.report_cases hreport with ⟨rfl, -⟩ | ⟨tx', execution, -, -, rfl, -, rfl⟩
  · cases hfailed
  · obtain ⟨old, -, ⟨rfl, -⟩ | ⟨-, hne⟩⟩ := Table.of_find_modify htx
    · exact hfailed
    · exact absurd rfl hne

/-- An order without a ticket whose pending transaction has failed has no issue left. -/
private theorem released {t : World} (ht : CardInv t) {order : CardOrderRow} {hash : String}
    {c : Chain} (hheld : Held orderId order t) (hpending : order.pendingTxHash = some hash)
    (hunseen : t.chain.seen order.ticketId = 0) (hlater : t.chain.Later c)
    (hknown : ∀ tx, c.transactions.find hash = some tx → tx.knownFailed = true) :
    c.IssuesFailed order.ticketId := by
  intro hash' tx' htx' hissue hticket hsent
  obtain ⟨tx, htx, hcall, hs, hkeep⟩ := hlater.transactions hash' tx' htx'
  obtain ⟨r, hr, hmove⟩ := hheld
  by_contra hfalse
  rw [Bool.not_eq_true] at hfalse
  rw [hcall] at hissue hticket
  rcases (ht.orders orderId r hr).accounted hash' tx htx hissue
    (hticket.trans hmove.same.ticketId.symm) (hs ▸ hsent) (hkeep hfalse) with hp | ⟨hseen, -⟩
  · obtain rfl := Option.some.inj (hp.symm.trans (hmove.pending.trans hpending))
    cases (hknown tx' htx').symm.trans hfalse
  · rw [hmove.same.ticketId] at hseen
    exact absurd hunseen hseen.ne'

/-- The status of the order's pending transaction, when no ticket was seen. -/
theorem txStatus_safe {α : Type} {order : CardOrderRow} {hash : String}
    {f : SendOutcome → CardHandler α} {w : World} (hheld : Held orderId order w)
    (hpending : order.pendingTxHash = some hash) (hunseen : w.chain.seen order.ticketId = 0)
    (h : ∀ u said, Onward w u → w.chain.Later u.chain → CardInv u →
      (failed said = true → u.chain.IssuesFailed order.ticketId) →
      OpSafe verify orderId (f said) u) : OpSafe verify orderId (txStatus hash >>= f) w := by
  intro t hwt ht
  have hon := (hwt rfl).onward
  have hlater := (hwt rfl).chain.later
  -- a failing network is an unknown outcome
  have hunknown : ∀ u, Onward w u → w.chain.Later u.chain → CardInv u →
      OpSafe verify orderId (f .unknown) u :=
    fun u hu hl hinv => h u .unknown hu hl hinv fun hfailed => (nomatch hfailed)
  refine ⟨hunknown t hon hlater ht, fun i b u _ hx => ?_⟩
  obtain ⟨c, hreport, hout⟩ := Option.map_eq_some_iff.mp hx
  cases hout
  obtain ⟨hinv, hl, hknown⟩ := report_later ht hreport
  have honu := hon.trans (.read hl)
  have hlu := hlater.trans hl
  refine ⟨hinv, ⟨⟨hl.sendRule, fun hne => absurd rfl hne⟩, fun o r _ hr => ⟨r, hr, .refl r⟩⟩,
    h _ _ honu hlu hinv fun hfailed => ?_, hunknown _ honu hlu hinv⟩
  refine released ht (hheld.onward hon) hpending ?_ hl (hknown hfailed)
  rw [(hwt rfl).chain.seen]
  exact hunseen

/-- The clock. -/
theorem now_safe {α : Type} {f : Nat → CardHandler α} {w : World}
    (h : ∀ u nowMs, OthersMove w u → CardInv u → OpSafe verify orderId (f nowMs) u) :
    OpSafe verify orderId (perform .now >>= f) w := by
  refine chain_safe fun t hwt ht i b u hx => ?_
  cases hx
  exact ⟨rfl, ht, (Chain.Later.refl _).sendRule, h t i.nowMs hwt ht⟩

/-- An update of the order at work: what it writes must be safe, should the order still have its
status. -/
theorem update_safe {α : Type} {order : CardOrderRow} {fields : OrderFields}
    {f : Bool → CardHandler α} {w : World}
    (hit : ∀ t r nowMs, OthersMove w t → CardInv t → t.orders.find orderId = some r →
      r.status = order.status → SameOrder r (fields.assign nowMs r) →
      OrderSafe t.chain (fields.assign nowMs r) ∧ ∀ u, u.chain = t.chain →
        u.orders.find orderId = some (fields.assign nowMs r) → CardInv u →
        OpSafe verify orderId (f true) u)
    (miss : ∀ t, OthersMove w t → CardInv t → OpSafe verify orderId (f false) t) :
    OpSafe verify orderId (update orderId order fields >>= f) w := by
  refine Discipline.Safe.perform_anywhere fun t hwt ht i b u _ hx => ?_
  have hx' : World.exec _ (.updateOrder orderId { statuses := [order.status] } fields none) i t =
      some (b, u) := hx
  rcases World.exec_updateOrder hx' with ⟨r, hr, hallowed, rfl, rfl⟩ | ⟨-, rfl, rfl⟩
  · simp only [OrderGuard.admits, Bool.and_eq_true, decide_eq_true_eq, List.mem_singleton]
      at hallowed
    have hsame := sameOrder_assign fields i.nowMs r
    obtain ⟨hsafe, hnext⟩ := hit t r i.nowMs (hwt rfl) ht hr hallowed.1 hsame
    have hinv := ht.update hr hsame hsafe
    refine ⟨hinv, ⟨⟨(Chain.Later.refl _).sendRule, fun hne => absurd rfl hne⟩,
      Aside.modify orderId t _⟩, hnext _ rfl ?_ hinv⟩
    exact (Table.find_modify_self _ _ _).trans (congrArg (Option.map _) hr)
  · exact ⟨ht, ⟨⟨(Chain.Later.refl _).sendRule, fun hne => absurd rfl hne⟩, Aside.refl _ _⟩,
      miss _ (hwt rfl) ht⟩

/-- The last update of a program. -/
theorem update_last {α : Type} {order : CardOrderRow} {fields : OrderFields} {a : α} {w : World}
    (hit : ∀ t r nowMs, OthersMove w t → CardInv t → t.orders.find orderId = some r →
      r.status = order.status → SameOrder r (fields.assign nowMs r) →
      OrderSafe t.chain (fields.assign nowMs r)) :
    OpSafe verify orderId (update orderId order fields >>= fun _ => pure a) w :=
  update_safe (fun t r nowMs hwt ht hr hs hsame => ⟨hit t r nowMs hwt ht hr hs hsame,
    fun _ _ _ _ => trivial⟩) fun _ _ _ => trivial

/-- To wait with a reason is always safe. -/
theorem park_last {α : Type} {order : CardOrderRow} {error : OperatorError} {a : α} {w : World} :
    OpSafe verify orderId (park orderId order error >>= fun _ => pure a) w :=
  update_last fun _ r _ _ ht hr _ hsame => (ht.orders orderId r hr).congr hsame rfl rfl rfl

/-- A signature, before anything is sent. -/
theorem sign_safe {α : Type} {call : Call} {order : CardOrderRow} {f : String → CardHandler α}
    {w : World} (hheld : Held orderId order w) (hticket : call.ticketId = order.ticketId)
    (href : call.isIssue = true → call.reference = some order.paymentReferenceHmac)
    (hvoid : call.isIssue = false → order.status = .voidPending ∧ w.chain.HasTicket order)
    (hissue : call.isIssue = true → w.chain.IssuesFailed order.ticketId)
    (h : ∀ u hash, Onward w u → CardInv u → u.chain.Unsent hash call →
      (call.isIssue = true → u.chain.IssuesFailed order.ticketId) →
      OpSafe verify orderId (f hash) u) : OpSafe verify orderId (perform (.sign call) >>= f) w := by
  refine chain_safe fun t hwt ht i b u hx => ?_
  simp only [World.exec] at hx
  split at hx
  · cases hx
  · next hfresh =>
      cases hx
      obtain ⟨r, hr, hmove⟩ := hheld.onward hwt.onward
      have hid := hmove.same.ticketId
      have hinv : CardInv { t with chain := t.chain.signed i.hash call hfresh } := by
        refine ht.signed hfresh hr (hticket.trans hid.symm) (fun hi => ?_) fun hv => ?_
        · rw [hmove.same.paymentReferenceHmac]
          exact href hi
        · obtain ⟨hstatus, hhas⟩ := hvoid hv
          exact ⟨hid.symm ▸ (hhas.onward hwt.onward).1, .inl (hmove.queued hstatus)⟩
      refine ⟨rfl, hinv, Chain.signed_sendRule hfresh, h _ _ (hwt.onward.trans (.transact t _)) hinv
        ⟨_, (Chain.find_signed hfresh _).trans (if_pos rfl), rfl, rfl, rfl⟩ fun hi => ?_⟩
      exact ((hissue hi).later hwt.chain.later).signed hfresh

/-- A send: the transaction leaves, and its answer may be lost. -/
theorem send_safe {α : Type} {hash : String} {call : Call} {order stored : CardOrderRow}
    {f : SendOutcome → CardHandler α} {w : World} (hheld : Held orderId stored w)
    (hunsent : w.chain.Unsent hash call) (hsame : SameOrder order stored)
    (hticket : call.ticketId = order.ticketId)
    (href : call.isIssue = true → call.reference = some order.paymentReferenceHmac)
    (hissue : call.isIssue = true → w.chain.IssuesFailed order.ticketId ∧
      w.chain.issueSends order.ticketId ≤ order.attempts)
    (hmay : ∀ t r, OthersMove w t → CardInv t → t.orders.find orderId = some r →
      RowMove stored r → MaySend t.chain r hash call)
    (h : ∀ u said, Onward w u → CardInv u →
      (call.isIssue = true → u.chain.Answered order said) → OpSafe verify orderId (f said) u) :
    OpSafe verify orderId (send hash >>= f) w := by
  intro t hwt ht
  have hmove := hwt rfl
  -- a failing network is an unknown outcome
  have hunknown : ∀ u, Onward w u → CardInv u → OpSafe verify orderId (f .unknown) u :=
    fun u hu hinv => h u .unknown hu hinv fun _ => .unknown _ _
  refine ⟨hunknown t hmove.onward ht, fun i b u _ hx => ?_⟩
  cases hx
  -- the transaction is still unsent, and every issue sent before has failed
  obtain ⟨tx₀, htx₀, hcall₀, hsent₀, hanswered₀⟩ := hunsent
  obtain ⟨tx, htx, hcall, hsent, -, hanswered⟩ := hmove.chain.transactions hash tx₀ htx₀
  obtain ⟨r, hr, hrow⟩ := hheld.onward hmove.onward
  have hid : order.ticketId = r.ticketId := (hsame.trans hrow.same).ticketId.symm
  obtain rfl : call = tx.call := (hcall.trans hcall₀).symm
  have hfailed : tx.call.isIssue = true → t.chain.IssuesFailed order.ticketId :=
    fun hi => (hissue hi).1.later hmove.chain.later
  have hinv : CardInv { t with chain := t.chain.broadcast hash } := by
    refine ht.broadcast htx hr (hticket.trans hid) (hmay t r hmove ht hr hrow) ?_
    intro hi hash' tx' htx' _ hissue' hof hsent'
    exact hfailed hi hash' tx' htx' hissue' (hof.trans hid.symm) hsent'
  have hrule : SendRule t.chain (t.chain.broadcast hash) :=
    Chain.broadcast_sendRule htx fun hi => hticket ▸ hfailed hi
  have hon : Onward w { t with chain := t.chain.broadcast hash } :=
    hmove.onward.trans (.transact t _)
  refine ⟨hinv, ⟨⟨hrule, fun hne => absurd rfl hne⟩, fun o r' _ hr' => ⟨r', hr', .refl r'⟩⟩, ?_,
    hunknown _ hon hinv⟩
  have hflight : (t.chain.broadcast hash).InFlight order hash tx.call :=
    .ofBroadcast htx (hanswered.trans hanswered₀) hfailed fun hi =>
      (hmove.chain.issueSends order.ticketId).le.trans (hissue hi).2
  intro t' hut ht'
  have hmove' := hut rfl
  have hon' := hon.trans hmove'.onward
  refine ⟨hunknown t' hon' ht', fun i' said v _ hx' => ?_⟩
  obtain ⟨c, hreport, hout⟩ := Option.map_eq_some_iff.mp hx'
  cases hout
  obtain ⟨hinvc, hlater, -⟩ := report_later ht' hreport
  obtain ⟨hsafea, hlatera⟩ := hinvc.chain.answer hash i'.said
  have hinva := hinvc.later hlatera hsafea
  have hlaterv : t'.chain.Later (c.answer hash i'.said) := hlater.trans hlatera
  refine ⟨hinva, ⟨⟨hlaterv.sendRule, fun hne => absurd rfl hne⟩, fun o r' _ hr' =>
    ⟨r', hr', .refl r'⟩⟩, h _ _ (hon'.trans (.read hlaterv)) hinva fun hi => ?_,
    hunknown _ (hon'.trans (.read hlaterv)) hinva⟩
  exact (hflight.moves hmove'.chain).answered ht'.chain hticket hi (href hi) hreport

/-- An order that stops and waits for its operator. -/
theorem OrderSafe.stopped {c : Chain} {r r' : CardOrderRow} (h : OrderSafe c r)
    (hsame : SameOrder r r') (hs : r'.status = r.status)
    (hpending : r'.pendingTxHash = r.pendingTxHash) (ha : r'.attempts = maxSendAttempts) :
    OrderSafe c r' := by
  have hid := hsame.ticketId
  refine ⟨?_, ?_, ?_, ⟨hid ▸ h.issueSends.1, fun _ => ?_⟩, ⟨hid ▸ h.voidSends.1, fun _ => ?_⟩, ?_⟩
  · rw [hid, hpending, hs]
    exact h.accounted
  · rw [hpending, hs]
    exact h.pending
  · rw [hid, hs]
    exact h.voids
  · rw [hid, ha]
    exact h.issueSends.1
  · rw [hid, ha]
    exact h.voidSends.1
  · rw [hid, hs, hsame.paymentReferenceHmac]
    exact h.voided

/-! ## Issuing -/

/-- The order's ticket is on chain, so the order is issued. -/
theorem safe_issued {t : World} (ht : CardInv t) {order r r' : CardOrderRow}
    (hr : t.orders.find orderId = some r) (hstatus : r.status = .paid) (horder : SameOrder order r)
    (hsame : SameOrder r r') (hs : r'.status = .issued) (hpending : r'.pendingTxHash = none)
    (hhas : t.chain.HasTicket order) : OrderSafe t.chain r' := by
  have hid := hsame.ticketId
  have hsafe := ht.orders orderId r hr
  have hvoids := hsafe.no_voids ⟨by rw [hstatus]; decide, by rw [hstatus]; decide⟩
  have hseen : 0 < t.chain.seen r'.ticketId := by
    rw [hid, horder.ticketId]
    exact hhas.1
  refine ⟨fun _ _ _ _ _ _ _ => .inr ⟨hseen, .inl hs⟩, fun hp => absurd hpending hp,
    fun hash tx htx hv hof => absurd (hof.trans hid) (hvoids hash tx htx hv),
    ⟨hid ▸ hsafe.issueSends.1, fun hrank => absurd hs (OrderStatus.early hrank).1⟩,
    ⟨hid ▸ hsafe.voidSends.1, fun hv => (nomatch hs.symm.trans hv)⟩,
    fun hv => (nomatch hs.symm.trans hv)⟩

/-- A paid order whose issues have all failed, with whatever is pending. -/
theorem safe_paid {t : World} (ht : CardInv t) {r r' : CardOrderRow}
    (hr : t.orders.find orderId = some r) (hstatus : r.status = .paid) (hsame : SameOrder r r')
    (hs : r'.status = r.status) (hfailed : t.chain.IssuesFailed r.ticketId)
    (hsends : t.chain.issueSends r.ticketId ≤ r'.attempts) : OrderSafe t.chain r' := by
  have hid := hsame.ticketId
  have hs' : r'.status = .paid := hs.trans hstatus
  have hsafe := ht.orders orderId r hr
  have hvoids := hsafe.no_voids ⟨by rw [hstatus]; decide, by rw [hstatus]; decide⟩
  refine ⟨fun hash tx htx hi hof hsent hk => ?_, fun _ => .inl hs',
    fun hash tx htx hv hof => absurd (hof.trans hid) (hvoids hash tx htx hv),
    ⟨hid ▸ hsafe.issueSends.1, fun _ => hid ▸ hsends⟩,
    ⟨hid ▸ hsafe.voidSends.1, fun hv => (nomatch hs'.symm.trans hv)⟩,
    fun hv => (nomatch hs'.symm.trans hv)⟩
  cases (hfailed hash tx htx hi (hof.trans hid) hsent).symm.trans hk

theorem settleIssue_safe {order stored : CardOrderRow} {hash : String} {outcome : SendOutcome}
    {after : Option ChainTicket} {w : World} (hw : CardInv w) (hpaid : order.status = .paid)
    (hheld : Held orderId stored w) (hstored : SameOrder order stored)
    (hanswered : w.chain.Answered order outcome) (hshown : Shown w.chain order.ticketId after) :
    OpSafe verify orderId (settleIssue orderId order hash outcome after) w := by
  unfold settleIssue
  cases hours : ours after order with
  | true =>
    refine update_last fun t r nowMs hwt ht hr hs hsame => ?_
    exact safe_issued ht hr (hs.trans hpaid) (hstored.trans (hheld.row hwt.onward hr).same) hsame
      rfl rfl ((hshown.hasTicket hours).onward hwt.onward)
  | false =>
    have hfailed : failed outcome = true → ∀ t r, OthersMove w t →
        t.orders.find orderId = some r → t.chain.IssuesFailed r.ticketId := by
      intro hf t r hwt hr
      rw [(hstored.trans (hheld.row hwt.onward hr).same).ticketId]
      exact (hanswered.failed hf).later hwt.chain.later
    cases outcome with
    | unknown => exact park_last
    | success =>
      -- a successful issue has been seen, and its ticket is the order's
      cases hours.symm.trans ((hanswered.success rfl).ours hw.chain hshown)
    | failure =>
      refine update_last fun t r nowMs hwt ht hr hs hsame => ?_
      refine safe_paid ht hr (hs.trans hpaid) hsame rfl (hfailed rfl t r hwt hr) ?_
      exact (ht.orders orderId r hr).issueSends.2 (by rw [hs.trans hpaid]; decide)
    | reserveExhausted =>
      refine update_last fun t r nowMs hwt ht hr hs hsame => ?_
      refine safe_paid ht hr (hs.trans hpaid) hsame rfl (hfailed rfl t r hwt hr) ?_
      rw [(hstored.trans (hheld.row hwt.onward hr).same).ticketId, hwt.chain.issueSends]
      exact hanswered.uncounted rfl

/-- The row once a send is stored. -/
def CardOrderRow.stored (order : CardOrderRow) (hash : String) : CardOrderRow :=
  { order with pendingTxHash := some hash, attempts := order.attempts + 1 }

theorem sameOrder_stored (order : CardOrderRow) (hash : String) :
    SameOrder order (order.stored hash) := by
  constructor <;> rfl

/-- The update that stores a send. -/
theorem rowMove_stored {order r : CardOrderRow} {hash : String} (hmove : RowMove order r)
    (nowMs : Nat) :
    RowMove (order.stored hash) (OrderFields.assign
      { pendingTxHash := some (some hash), attempts := some (order.attempts + 1) } nowMs r) where
  same := ((sameOrder_stored order hash).symm.trans hmove.same).trans (sameOrder_assign _ _ _)
  pending := rfl
  issueTx := hmove.issueTx
  rank := hmove.rank
  attempts _ := rfl
  queued := hmove.queued

theorem sendIssue_safe {order : CardOrderRow} {call : Call} {w : World}
    (hpaid : order.status = .paid) (hattempts : order.attempts < maxSendAttempts)
    (hheld : Held orderId order w) (hfailed : w.chain.IssuesFailed order.ticketId)
    (hissue : call.isIssue = true) (hticket : call.ticketId = order.ticketId)
    (href : call.reference = some order.paymentReferenceHmac) :
    OpSafe verify orderId (sendIssue orderId order call) w := by
  refine sign_safe hheld hticket (fun _ => href) (fun hv => ?_) (fun _ => hfailed)
    fun u hash hwu hu hunsent hfailed => ?_
  · cases hissue.symm.trans hv
  have hheldu := hheld.onward hwu
  have hfailedu := hfailed hissue
  refine update_safe (fun t r nowMs hut ht hr hs hsame => ?_) fun _ _ _ => trivial
  have hrow := hheldu.row hut.onward hr
  have hid : r.ticketId = order.ticketId := hrow.same.ticketId
  have hsends : t.chain.issueSends order.ticketId ≤ order.attempts := by
    rw [← hrow.attempts hs, ← hid]
    exact (ht.orders orderId r hr).issueSends.2 (by rw [hs.trans hpaid]; decide)
  have hfailedt := hfailedu.later hut.chain.later
  refine ⟨safe_paid ht hr (hs.trans hpaid) hsame rfl (hid ▸ hfailedt) ?_, ?_⟩
  · rw [hid]
    exact hsends.trans (Nat.le_succ _)
  intro v hchain hv hinv
  have hheldv : Held orderId (order.stored hash) v := ⟨_, hv, rowMove_stored hrow nowMs⟩
  obtain ⟨tx, htx, hcall, hsent, hanswered⟩ := hunsent
  obtain ⟨tx', htx', hcall', hsent', -, hanswered'⟩ := hut.chain.transactions hash tx htx
  have hunsentv : v.chain.Unsent hash call := by
    rw [hchain]
    exact ⟨tx', htx', hcall'.trans hcall, hsent'.trans hsent, hanswered'.trans hanswered⟩
  refine send_safe hheldv hunsentv (sameOrder_stored order hash) hticket
    (fun _ => href) (fun _ => ?_) (fun t' r' hvt ht' hr' hrow' => ?_)
    fun x said hvx hx hanswer => ?_
  · rw [hchain]
    exact ⟨hfailedt, hsends⟩
  · have hsends' : t'.chain.issueSends r'.ticketId ≤ order.attempts := by
      rw [hrow'.same.ticketId, hvt.chain.issueSends, hchain]
      exact hsends
    refine ⟨fun _ => hrow'.pending, fun _ => ⟨hsends'.trans_lt hattempts, fun hrank => ?_⟩,
      fun hv => (nomatch hissue.symm.trans hv)⟩
    -- the order is still paid, so it still has the attempts that were stored
    have hs' : r'.status = (order.stored hash).status := by
      refine OrderStatus.rank_injective (le_antisymm ?_ hrow'.rank)
      rw [show (order.stored hash).status = .paid from hpaid]
      exact hrank
    rw [hrow'.attempts hs']
    exact Nat.lt_succ_of_le hsends'
  · have hheldx := hheldv.onward hvx
    refine getTicket_safe fun y shown hxy hlater hy hshown => ?_
    exact settleIssue_safe hy hpaid (hheldx.onward hxy) (sameOrder_stored order hash)
      ((hanswer hissue).later hxy hlater) hshown

theorem signIssue_safe {order : CardOrderRow} {w : World} (hpaid : order.status = .paid)
    (hattempts : order.attempts < maxSendAttempts) (hheld : Held orderId order w)
    (hfailed : w.chain.IssuesFailed order.ticketId) :
    OpSafe verify orderId (signIssue orderId order) w := by
  unfold signIssue
  split
  · refine now_safe fun u nowMs hwu hu => ?_
    split
    · exact park_last
    · exact sendIssue_safe hpaid hattempts (hheld.onward hwu.onward)
        (hfailed.later hwu.chain.later) rfl rfl rfl
  · exact park_last

/-- The order's pending transaction has failed, so it no longer blocks a new send. -/
theorem rowMove_release {order r : CardOrderRow} (hmove : RowMove order r) (nowMs : Nat) :
    RowMove { order with pendingTxHash := none }
      (OrderFields.assign { pendingTxHash := some none } nowMs r) where
  same := by
    have hsame : SameOrder { order with pendingTxHash := none } order := by constructor <;> rfl
    exact (hsame.trans hmove.same).trans (sameOrder_assign _ _ _)
  pending := rfl
  issueTx := hmove.issueTx
  rank := hmove.rank
  attempts := hmove.attempts
  queued := hmove.queued

theorem issue_safe {order : CardOrderRow} {w : World} (hpaid : order.status = .paid)
    (hattempts : order.attempts < maxSendAttempts) (hheld : Held orderId order w) :
    OpSafe verify orderId (issue orderId order) w := by
  refine getTicket_safe fun u shown hwu _ hu hshown => ?_
  have hheldu := hheld.onward hwu
  cases shown with
  | some ticket =>
    cases hours : ours (some ticket) order with
    | true =>
      show OpSafe verify orderId (update orderId order _ >>= fun _ => pure false) u
      refine update_last fun t r nowMs hut ht hr hs hsame => ?_
      exact safe_issued ht hr (hs.trans hpaid) (hheldu.row hut.onward hr).same hsame rfl rfl
        ((hshown.hasTicket hours).onward hut.onward)
    | false =>
      -- the key has a ticket of another payment; the order stops here
      show OpSafe verify orderId (update orderId order _ >>= fun _ => pure false) u
      refine update_last fun t r nowMs hut ht hr hs hsame => ?_
      exact (ht.orders orderId r hr).stopped hsame rfl rfl rfl
  | none =>
    cases hpending : order.pendingTxHash with
    | none =>
      -- no ticket and nothing pending: nothing that was sent can land
      show OpSafe verify orderId (signIssue orderId order) u
      refine signIssue_safe hpaid hattempts hheldu ?_
      obtain ⟨r, hr, hmove⟩ := hheldu
      rw [← hmove.same.ticketId]
      refine (hu.orders orderId r hr).all_failed (hmove.pending.trans hpending) (.inl ?_)
      rw [hmove.same.ticketId]
      exact hshown
    | some hash =>
      show OpSafe verify orderId (txStatus hash >>= fun outcome => _) u
      refine txStatus_safe hheldu hpending hshown fun v outcome huv _ hv hreleased => ?_
      cases hfailed : failed outcome with
      | false => exact park_last
      | true =>
        have hissues := hreleased hfailed
        show OpSafe verify orderId (update orderId order _ >>= fun released => _) v
        refine update_safe (fun t r nowMs hvt ht hr hs hsame => ?_) fun _ _ _ => trivial
        have hrow := (hheldu.onward huv).row hvt.onward hr
        have hissuest := hissues.later hvt.chain.later
        refine ⟨safe_paid ht hr (hs.trans hpaid) hsame rfl (hrow.same.ticketId ▸ hissuest) ?_,
          fun x hchain hx hinv => ?_⟩
        · exact (ht.orders orderId r hr).issueSends.2 (by rw [hs.trans hpaid]; decide)
        · exact signIssue_safe hpaid hattempts ⟨_, hx, rowMove_release hrow nowMs⟩
            (hchain ▸ hissuest)

/-! ## Voiding -/

/-- The order's ticket is voided on chain. -/
def Chain.HasVoided (c : Chain) (order : CardOrderRow) : Prop :=
  0 < c.seen order.ticketId ∧ ∃ ticket ∈ c.tickets order.ticketId, ticket.status = .voided ∧
    ticket.rail = .card ∧ ticket.card = some order.paymentReferenceHmac

theorem Chain.HasVoided.onward {w w' : World} {order : CardOrderRow}
    (h : w.chain.HasVoided order) (hon : Onward w w') : w'.chain.HasVoided order := by
  obtain ⟨hseen, ticket, hmem, hticket⟩ := h
  exact ⟨hseen.trans_le (hon.seen _), ticket, hon.tickets _ ticket hmem, hticket⟩

/-- The order's ticket is voided on chain, so the order is voided. -/
theorem safe_voided {t : World} (ht : CardInv t) {order r r' : CardOrderRow}
    (hr : t.orders.find orderId = some r) (horder : SameOrder order r) (hsame : SameOrder r r')
    (hs : r'.status = .voided) (hpending : r'.pendingTxHash = none)
    (hhas : t.chain.HasVoided order) : OrderSafe t.chain r' := by
  have hid := hsame.ticketId
  have hid' : r'.ticketId = order.ticketId := hid.trans horder.ticketId
  have hsafe := ht.orders orderId r hr
  obtain ⟨hseen, ticket, hmem, hticket, hrail, hcard⟩ := hhas
  have hseen' : 0 < t.chain.seen r'.ticketId := hid' ▸ hseen
  refine ⟨fun _ _ _ _ _ _ _ => .inr ⟨hseen', .inr (.inr hs)⟩, fun hp => absurd hpending hp,
    fun _ _ _ _ _ => ⟨hseen', .inr hs⟩,
    ⟨hid ▸ hsafe.issueSends.1, fun hrank => absurd hs (OrderStatus.early hrank).2.2.1⟩,
    ⟨hid ▸ hsafe.voidSends.1, fun hv => (nomatch hs.symm.trans hv)⟩, fun _ => ?_⟩
  refine ⟨ticket, hid' ▸ hmem, hticket, hrail, hcard.trans ?_⟩
  rw [(horder.trans hsame).paymentReferenceHmac]

/-- No ticket and nothing that can land: the order is cancelled. -/
theorem safe_cancelled {t : World} (ht : CardInv t) {r r' : CardOrderRow}
    (hr : t.orders.find orderId = some r) (hsame : SameOrder r r') (hs : r'.status = .cancelled)
    (hpending : r'.pendingTxHash = none) (hfailed : t.chain.IssuesFailed r.ticketId)
    (hvoids : t.chain.NoVoids r.ticketId) : OrderSafe t.chain r' := by
  have hid := hsame.ticketId
  have hsafe := ht.orders orderId r hr
  refine ⟨fun hash tx htx hi hof hsent hk => ?_, fun hp => absurd hpending hp,
    fun hash tx htx hv hof => absurd (hof.trans hid) (hvoids hash tx htx hv),
    ⟨hid ▸ hsafe.issueSends.1, fun hrank => absurd hs (OrderStatus.early hrank).2.2.2⟩,
    ⟨hid ▸ hsafe.voidSends.1, fun hv => (nomatch hs.symm.trans hv)⟩,
    fun hv => (nomatch hs.symm.trans hv)⟩
  cases (hfailed hash tx htx hi (hof.trans hid) hsent).symm.trans hk

theorem cancelUnissued_safe {order : CardOrderRow} {w : World} (hw : CardInv w)
    (hheld : Held orderId order w) (hunseen : w.chain.seen order.ticketId = 0) :
    OpSafe verify orderId (cancelUnissued orderId order) w := by
  -- before any ticket was seen no void has been signed
  have hvoids : w.chain.NoVoids order.ticketId := by
    intro hash tx htx hv hof
    obtain ⟨r, hr, hmove⟩ := hheld
    have hseen := ((hw.orders orderId r hr).voids hash tx htx hv
      (hof.trans hmove.same.ticketId.symm)).1
    rw [hmove.same.ticketId] at hseen
    exact absurd hunseen hseen.ne'
  have hcancel : ∀ u, Onward w u → w.chain.Later u.chain →
      u.chain.IssuesFailed order.ticketId → OpSafe verify orderId (update orderId order {
        status := some .cancelled, pendingTxHash := some none, lastError := some none } >>=
        fun _ => pure ()) u := by
    intro u hwu hlater hfailed
    refine update_last fun t r nowMs hut ht hr hs hsame => ?_
    have hid := ((hheld.onward hwu).row hut.onward hr).same.ticketId
    exact safe_cancelled ht hr hsame rfl rfl (hid ▸ hfailed.later hut.chain.later)
      (hid ▸ hvoids.later (hlater.trans hut.chain.later))
  unfold cancelUnissued
  cases hpending : order.pendingTxHash with
  | none =>
    obtain ⟨r, hr, hmove⟩ := hheld
    refine hcancel w ⟨fun _ r hr => ⟨r, hr, .refl r⟩, fun _ => le_rfl, fun _ _ h => h⟩ (.refl _) ?_
    rw [← hmove.same.ticketId]
    refine (hw.orders orderId r hr).all_failed (hmove.pending.trans hpending) (.inl ?_)
    rw [hmove.same.ticketId]
    exact hunseen
  | some hash =>
    show OpSafe verify orderId (txStatus hash >>= fun outcome =>
      if failed outcome = true then _ >>= fun _ => pure () else _ >>= fun _ => pure ()) w
    refine txStatus_safe hheld hpending hunseen fun u outcome hwu hlater _ hreleased => ?_
    cases hfailed : failed outcome with
    | true => exact hcancel u hwu hlater (hreleased hfailed)
    | false => exact park_last

/-- A void that is due and whose ticket was seen may be stored as pending. -/
theorem safe_pendingVoid {t : World} (ht : CardInv t) {r r' : CardOrderRow}
    (hr : t.orders.find orderId = some r) (hstatus : r.status = .voidPending)
    (hsame : SameOrder r r') (hs : r'.status = r.status) (hseen : 0 < t.chain.seen r.ticketId)
    (hsends : t.chain.voidSends r.ticketId ≤ r'.attempts) : OrderSafe t.chain r' := by
  have hid := hsame.ticketId
  have hs' : r'.status = .voidPending := hs.trans hstatus
  have hseen' : 0 < t.chain.seen r'.ticketId := hid ▸ hseen
  have hsafe := ht.orders orderId r hr
  exact ⟨fun _ _ _ _ _ _ _ => .inr ⟨hseen', .inr (.inl hs')⟩, fun _ => .inr hs',
    fun _ _ _ _ _ => ⟨hseen', .inl hs'⟩,
    ⟨hid ▸ hsafe.issueSends.1, fun hrank => absurd hs' (OrderStatus.early hrank).2.1⟩,
    ⟨hid ▸ hsafe.voidSends.1, fun _ => hid ▸ hsends⟩, fun hv => (nomatch hs'.symm.trans hv)⟩

/-- A view that shows the ticket voided. -/
theorem Shown.hasVoided {w : World} {order : CardOrderRow} {shown : Option ChainTicket}
    (hw : CardInv w) (hhas : w.chain.HasTicket order) (hshown : Shown w.chain order.ticketId shown)
    (hvoided : shown.any (fun ticket => ticket.status = .voided) = true) :
    w.chain.HasVoided order := by
  obtain ⟨ticket, rfl, hstatus⟩ := (Option.any_eq_true _ _).mp hvoided
  obtain ⟨hrail, hcard⟩ := of_decide_eq_true (hhas.ours hw.chain hshown)
  exact ⟨hshown.1, ticket, hshown.2, of_decide_eq_true hstatus, hrail, hcard⟩

theorem sendVoid_safe {order : CardOrderRow} {w : World} (hvoid : order.status = .voidPending)
    (hattempts : order.attempts < maxSendAttempts) (hheld : Held orderId order w)
    (hhas : w.chain.HasTicket order) : OpSafe verify orderId (sendVoid orderId order) w := by
  refine sign_safe hheld rfl (fun hi => (nomatch hi)) (fun _ => ⟨hvoid, hhas⟩)
    (fun hi => (nomatch hi)) fun u hash hwu hu hunsent _ => ?_
  have hheldu := hheld.onward hwu
  have hhasu := hhas.onward hwu
  refine update_safe (fun t r nowMs hut ht hr hs hsame => ?_) fun _ _ _ => trivial
  have hrow := hheldu.row hut.onward hr
  have hid : r.ticketId = order.ticketId := hrow.same.ticketId
  have hsends : t.chain.voidSends order.ticketId ≤ order.attempts := by
    rw [← hrow.attempts hs, ← hid]
    exact (ht.orders orderId r hr).voidSends.2 (hs.trans hvoid)
  have hhast := hhasu.onward hut.onward
  refine ⟨safe_pendingVoid ht hr (hs.trans hvoid) hsame rfl (hid ▸ hhast.1) ?_, ?_⟩
  · rw [hid]
    exact hsends.trans (Nat.le_succ _)
  intro v hchain hv hinv
  have hheldv : Held orderId (order.stored hash) v := ⟨_, hv, rowMove_stored hrow nowMs⟩
  have hhasv : v.chain.HasTicket order := hchain ▸ hhast
  have hunsentv : v.chain.Unsent hash (.void order.ticketId (order.voidReason.getD .refund)) := by
    obtain ⟨tx, htx, hcall, hsent, hanswered⟩ := hunsent
    obtain ⟨tx', htx', hcall', hsent', -, hanswered'⟩ := hut.chain.transactions hash tx htx
    rw [hchain]
    exact ⟨tx', htx', hcall'.trans hcall, hsent'.trans hsent, hanswered'.trans hanswered⟩
  refine send_safe hheldv hunsentv (sameOrder_stored order hash) rfl (fun hi => (nomatch hi))
    (fun hi => (nomatch hi)) (fun t' r' hvt ht' hr' hrow' => ?_) fun x said hvx hx _ => ?_
  · have hsends' : t'.chain.voidSends r'.ticketId ≤ order.attempts := by
      rw [hrow'.same.ticketId, hvt.chain.voidSends, hchain]
      exact hsends
    refine ⟨fun hi => (nomatch hi), fun hi => (nomatch hi),
      fun _ => ⟨hsends'.trans_lt hattempts, fun hs' => ?_⟩⟩
    rw [hrow'.attempts (hs'.trans hvoid.symm)]
    exact Nat.lt_succ_of_le hsends'
  · refine getTicket_safe fun y shown hxy hlater hy hshown => ?_
    cases hvoided : shown.any fun ticket => decide (ticket.status = .voided) with
    | true =>
      have hhasy := hshown.hasVoided hy ((hhasv.onward hvx).onward hxy) hvoided
      refine update_last fun z r' nowMs' hyz hz hr' hs' hsame' => ?_
      have hheldy := (hheldv.onward hvx).onward hxy
      exact safe_voided hz hr' ((sameOrder_stored order hash).trans
        (hheldy.row hyz.onward hr').same) hsame' rfl rfl (hhasy.onward hyz.onward)
    | false => exact park_last

theorem voidTicket_safe {order : CardOrderRow} {w : World} (hvoid : order.status = .voidPending)
    (hattempts : order.attempts < maxSendAttempts) (hheld : Held orderId order w) :
    OpSafe verify orderId (voidTicket orderId order) w := by
  refine getTicket_safe fun u shown hwu _ hu hshown => ?_
  have hheldu := hheld.onward hwu
  show OpSafe verify orderId (ite _ _ _) u
  split
  · next hnone =>
      rw [hnone.1] at hshown
      exact cancelUnissued_safe hu hheldu hshown
  · split
    · next hdone =>
        refine update_last fun t r nowMs hut ht hr hs hsame => ?_
        exact safe_voided ht hr (hheldu.row hut.onward hr).same hsame rfl rfl
          ((hshown.hasVoided hu (hshown.hasTicket hdone.1) hdone.2).onward hut.onward)
    · split
      · refine update_last fun t r nowMs hut ht hr hs hsame => ?_
        exact (ht.orders orderId r hr).stopped hsame rfl rfl rfl
      · next hlive =>
          push Not at hlive
          exact sendVoid_safe hvoid hattempts hheldu
            (hshown.hasTicket (by simpa using hlive.1))

end Operations

/-! ## The run -/

section Run

variable {verify : String → Bytes → Bytes → Option Bool}

/-- One order of a batch: the rows of the others only move as others move them. -/
theorem workOn_safe {orderId : String} {order : CardOrderRow} {w : World} (hw : CardInv w)
    (hstatus : order.status = .paid ∨ order.status = .voidPending)
    (hattempts : order.attempts < maxSendAttempts) (hheld : Held orderId order w) :
    (cardDiscipline verify).Safe .operate (fun _ t => Aside orderId w t) (workOn orderId order) w := by
  have hsafe : OpSafe verify orderId (workOn orderId order) w := by
    refine Discipline.Safe.rescue (Q := Discipline.Anywhere) ?_ hw (fun _ _ _ _ => trivial) ?_
    · by_cases hpaid : order.status = .paid
      · rw [if_pos hpaid]
        exact (issue_safe hpaid hattempts hheld).bind hw (fun _ _ _ _ => trivial)
          fun _ _ _ _ => trivial
      · rw [if_neg hpaid]
        exact (voidTicket_safe (hstatus.resolve_left hpaid) hattempts hheld).bind hw
          (fun _ _ _ _ => trivial) fun _ _ _ _ => trivial
    · intro e t ht _
      -- the order keeps waiting, if the store can say so
      refine Discipline.Safe.bind (Q := Discipline.Anywhere) ?_ ht (fun _ _ _ _ => trivial)
        fun _ _ _ _ => trivial
      exact Discipline.Safe.rescue (Q := Discipline.Anywhere) (park_last (a := false)) ht
        (fun _ _ _ _ => trivial) fun _ _ _ _ => trivial
  have hrely : ∀ s t, (cardDiscipline verify).rely .operate s t → Aside orderId s t :=
    fun s t hst o r _ hr => (hst rfl).orders o r hr
  have hguar : ∀ s t, ((cardDiscipline verify).strengthen (Aside orderId)).guar .operate s t →
      Aside orderId s t := fun s t hst => hst.2
  have htrail := Discipline.Safe.trail (D := (cardDiscipline verify).strengthen (Aside orderId))
    (Aside.refl orderId) (fun _ _ _ => Aside.trans) hrely hguar hsafe
  exact htrail.relax.mono fun _ _ h => h.2

/-- The orders of a batch are worked on in turn. -/
theorem workThrough_safe (rows : List (String × CardOrderRow)) {w : World} (hw : CardInv w)
    (hrows : ∀ row ∈ rows, waits maxSendAttempts row.2 = true)
    (hnodup : (rows.map Prod.fst).Nodup) (hheld : ∀ row ∈ rows, Held row.1 row.2 w) :
    (cardDiscipline verify).Safe .operate Discipline.Anywhere (workThrough rows) w := by
  induction rows generalizing w with
  | nil => trivial
  | cons row rest ih =>
    obtain ⟨orderId, order⟩ := row
    have hwaits := hrows _ List.mem_cons_self
    simp only [waits, Bool.and_eq_true, decide_eq_true_eq] at hwaits
    rw [List.map_cons, List.nodup_cons] at hnodup
    refine (workOn_safe hw hwaits.1 hwaits.2 (hheld _ List.mem_cons_self)).bind hw
      (fun worked t ht haside => ?_) fun _ _ _ _ => trivial
    refine (ih ht (fun row hrow => hrows row (List.mem_cons_of_mem _ hrow)) hnodup.2
      fun row hrow => ?_).bind ht (fun _ _ _ _ => trivial) fun _ _ _ _ => trivial
    -- the rows of the rest are other orders
    obtain ⟨r, hr, hmove⟩ := hheld row (List.mem_cons_of_mem _ hrow)
    have hne : row.1 ≠ orderId := by
      rintro rfl
      exact hnodup.1 (List.mem_map.mpr ⟨row, hrow, rfl⟩)
    obtain ⟨r', hr', hmove'⟩ := haside row.1 r hne hr
    exact ⟨r', hr', hmove.trans hmove'⟩

/-- The batch of a run: waiting rows as they are, each once. -/
theorem selectWaiting_rows {w : World} {i : Input} {rows : List (String × CardOrderRow)}
    {u : World} (hx : World.exec _ (.selectWaiting maxSendAttempts batch) i w = some (rows, u)) :
    u = w ∧ (∀ row ∈ rows, w.orders.find row.1 = some row.2 ∧
      waits maxSendAttempts row.2 = true) ∧ (rows.map Prod.fst).Nodup := by
  obtain ⟨rfl, rfl⟩ := Prod.mk.inj (Option.some.inj hx)
  have hperm := List.perm_insertionSort
    (fun a b : String × CardOrderRow => a.2.updatedAtMs ≤ b.2.updatedAtMs)
    (w.orders.select fun _ row => waits maxSendAttempts row)
  refine ⟨rfl, fun row hrow => ?_, ?_⟩
  · exact Table.mem_select.mp (hperm.subset (List.mem_of_mem_take hrow))
  · refine List.Nodup.sublist ((List.take_sublist _ _).map Prod.fst) ?_
    refine (hperm.map Prod.fst).nodup_iff.mpr ?_
    exact w.orders.nodup.sublist (List.filter_sublist.map Prod.fst)

theorem runCardOperator_safe {w : World} :
    (cardDiscipline verify).Safe .operate Discipline.Anywhere runCardOperator w := by
  refine Discipline.Safe.perform_anywhere fun t _ ht i rows u _ hx => ?_
  obtain ⟨rfl, hrows, hnodup⟩ := selectWaiting_rows (i := i) hx
  refine ⟨ht, ⟨(Chain.Later.refl _).sendRule, fun hne => absurd rfl hne⟩, ?_⟩
  refine (workThrough_safe rows ht (fun row hrow => (hrows row hrow).2) hnodup
    fun row hrow => ⟨_, (hrows row hrow).1, .refl _⟩).bind ht (fun _ v _ _ => ?_) fun _ _ _ _ =>
      trivial
  -- the count at the end only reads
  refine Discipline.Safe.perform_anywhere fun v' _ hv' i waiting x _ hx => ?_
  cases hx
  exact ⟨hv', ⟨(Chain.Later.refl _).sendRule, fun hne => absurd rfl hne⟩, trivial⟩

/-- Every request is safe. -/
theorem handle_safe (request : CardRequest) (w : World) (hw : CardInv w) :
    (cardDiscipline verify).Safe request Discipline.Anywhere (handle verify request) w := by
  have hother : request ≠ .operate → ∀ {β : Type} (op : CardOp β), Harmless op → ∀ i t b u,
      CardInv t → True → World.exec _ op i t = some (b, u) →
      CardInv u ∧ (cardDiscipline verify).guar request t u := by
    intro hne β op hop i t b u ht _ hx
    obtain ⟨hu, hmove⟩ := hop.exec ht hx
    exact ⟨hu, hmove.chain.later.sendRule, fun _ => hmove⟩
  cases request with
  | event provider event nowMs =>
    exact Discipline.safe_of_uses (hother (fun h => (nomatch h)))
      ((applyCardEvent_uses provider event nowMs).bind fun _ => trivial)
  | sign context orderId device =>
    exact Discipline.safe_of_uses (hother (fun h => (nomatch h)))
      ((signCardOrder_uses verify context orderId device).bind fun _ => trivial)
  | store order =>
    exact Discipline.safe_of_uses (hother (fun h => (nomatch h)))
      ((storeCardOrder_uses order).bind fun _ => trivial)
  | operate =>
    exact runCardOperator_safe.bind hw (fun _ _ _ _ => trivial) fun _ _ _ _ => trivial

end Run

/-! ## Main result -/

/-- No ticket has the payment reference, and no transaction with it can still land. -/
def Chain.NeverLands (c : Chain) (reference : String) : Prop :=
  (∀ ticketId, ∀ ticket ∈ c.tickets ticketId, ticket.card ≠ some reference) ∧
    ∀ hash tx, c.transactions.find hash = some tx → tx.call.reference = some reference →
      ∀ outcome, c.move (.execute hash outcome) = none

/-- At most one ticket has the payment reference, and at most one issue with it succeeded. -/
structure Chain.OneTicket (c : Chain) (reference : String) : Prop where
  ticket : ∀ ticketId ticketId', ∀ t ∈ c.tickets ticketId, ∀ t' ∈ c.tickets ticketId',
    t.card = some reference → t'.card = some reference → ticketId = ticketId'
  issue : ∀ hash hash' tx tx' e e', c.transactions.find hash = some tx →
    c.transactions.find hash' = some tx' → tx.call.reference = some reference →
    tx'.call.reference = some reference → tx.execution = some e → tx'.execution = some e' →
    e.outcome = .success → e'.outcome = .success → hash = hash'

namespace CardInv

variable {w : World} {o : String} {r : CardOrderRow}

theorem initial : CardInv World.initial where
  unique o o' r r' hr := nomatch hr
  owned hash tx htx := nomatch htx
  orders o r hr := nomatch hr
  chain := by
    refine ⟨?_, ?_, ?_, ?_, ?_, ?_, ?_, ?_⟩
    · exact fun hash tx htx => (nomatch htx)
    · exact fun hash tx htx => (nomatch htx)
    · exact fun hash tx execution htx => (nomatch htx)
    · exact fun ticketId ticket hmem => absurd hmem List.not_mem_nil
    · exact fun ticketId ticket hmem => absurd hmem List.not_mem_nil
    · exact fun ticketId t ht => absurd ht List.not_mem_nil
    · exact fun ticketId t ht => absurd ht List.not_mem_nil
    · exact fun hash hash' tx tx' htx => (nomatch htx)

/-- A transaction with the payment reference of an order is an issue of its ticket. -/
theorem issue_of_reference (h : CardInv w) (hr : w.orders.find o = some r) {hash : String}
    {tx : Transaction} (htx : w.chain.transactions.find hash = some tx)
    (href : tx.call.reference = some r.paymentReferenceHmac) :
    tx.call.isIssue = true ∧ tx.call.ticketId = r.ticketId := by
  have hissue : tx.call.isIssue = true := by
    unfold Call.isIssue
    rw [href]
    rfl
  obtain ⟨o', r', hr', hticket, href'⟩ := h.owned hash tx htx
  have hsame : r.paymentReferenceHmac = r'.paymentReferenceHmac :=
    Option.some.inj (href.symm.trans (href' hissue))
  obtain rfl := h.unique o o' r r' hr hr' (by simp [collides, hsame])
  obtain rfl := Option.some.inj (hr.symm.trans hr')
  exact ⟨hissue, hticket⟩

/-- A ticket with the payment reference of an order was written by one of its issues. -/
theorem issue_of_ticket (h : CardInv w) (hr : w.orders.find o = some r) {ticketId : String}
    {ticket : ChainTicket} (hmem : ticket ∈ w.chain.tickets ticketId)
    (hcard : ticket.card = some r.paymentReferenceHmac) :
    ticketId = r.ticketId ∧ ∃ hash tx e, w.chain.transactions.find hash = some tx ∧
      tx.call.isIssue = true ∧ tx.call.ticketId = r.ticketId ∧ tx.execution = some e ∧
      e.outcome = .success := by
  have hrail := h.chain.rail ticketId ticket hmem (by rw [hcard]; exact Option.some_ne_none _)
  obtain ⟨hash, tx, e, htx, -, hticket, href, he, hs⟩ := h.chain.card ticketId ticket hmem hrail
  obtain ⟨hissue, hof⟩ := h.issue_of_reference hr htx (href.trans hcard)
  exact ⟨hticket.symm.trans hof, hash, tx, e, htx, hissue, hof, he, hs⟩

theorem cancelled (h : CardInv w) (hr : w.orders.find o = some r)
    (hs : r.status = .cancelled) : w.chain.NeverLands r.paymentReferenceHmac := by
  have hsafe := h.orders o r hr
  have hpending : r.pendingTxHash = none := by
    by_contra hp
    rcases hsafe.pending hp with hp | hp <;> cases hs.symm.trans hp
  have hfailed := hsafe.all_failed hpending (.inr (.inr hs))
  constructor
  · intro ticketId ticket hmem hcard
    obtain ⟨-, hash, tx, e, htx, hissue, hticket, he, hsuccess⟩ := h.issue_of_ticket hr hmem hcard
    have hsent := h.chain.sent hash tx htx (by rw [he]; exact Option.some_ne_none e)
    obtain ⟨e', he', hfail⟩ := h.chain.failed hash tx htx (hfailed hash tx htx hissue hticket hsent)
    cases he.symm.trans he'
    rw [hsuccess] at hfail
    cases hfail
  · intro hash tx htx href outcome
    obtain ⟨hissue, hticket⟩ := h.issue_of_reference hr htx href
    show (w.chain.transactions.find hash).bind (w.chain.land hash outcome) = none
    rw [htx]
    refine if_pos ?_
    by_cases hsent : tx.sent = true
    · obtain ⟨e, he, -⟩ := h.chain.failed hash tx htx (hfailed hash tx htx hissue hticket hsent)
      exact .inr (by rw [he]; rfl)
    · exact .inl (Bool.not_eq_true _ ▸ hsent)

theorem oneTicket (h : CardInv w) (hr : w.orders.find o = some r) :
    w.chain.OneTicket r.paymentReferenceHmac where
  ticket ticketId ticketId' t ht t' ht' hcard hcard' :=
    (h.issue_of_ticket hr ht hcard).1.trans (h.issue_of_ticket hr ht' hcard').1.symm
  issue hash hash' tx tx' e e' htx htx' href href' he he' hs hs' := by
    obtain ⟨hissue, hticket⟩ := h.issue_of_reference hr htx href
    obtain ⟨hissue', hticket'⟩ := h.issue_of_reference hr htx' href'
    have hlive : ∀ hash tx e, w.chain.transactions.find hash = some tx → tx.execution = some e →
        e.outcome = .success → tx.sent = true ∧ tx.knownFailed = false := by
      intro hash tx e htx he hs
      refine ⟨h.chain.sent hash tx htx (by rw [he]; exact Option.some_ne_none e), ?_⟩
      rw [Bool.eq_false_iff]
      intro hk
      obtain ⟨e', he', hfail⟩ := h.chain.failed hash tx htx hk
      cases he.symm.trans he'
      rw [hs] at hfail
      cases hfail
    obtain ⟨hsent, hk⟩ := hlive hash tx e htx he hs
    obtain ⟨hsent', hk'⟩ := hlive hash' tx' e' htx' he' hs'
    exact h.chain.sole hash hash' tx tx' htx htx' hissue hissue' (hticket.trans hticket'.symm)
      hsent hsent' hk hk'

end CardInv

/-- What holds of every order at every moment. -/
structure OperatorSafe (c : Chain) (r : CardOrderRow) : Prop where
  cancelled : r.status = .cancelled → c.NeverLands r.paymentReferenceHmac
  issueSends : c.issueSends r.ticketId ≤ maxSendAttempts
  voidSends : c.voidSends r.ticketId ≤ maxSendAttempts
  one : c.OneTicket r.paymentReferenceHmac

section Main

variable (verify : String → Bytes → Bytes → Option Bool)

/-- In every run every configuration keeps the invariant, and every event keeps the rule of
sends. -/
theorem card_run {tr : List (Transition CardConfig (Event Input CardRequest ChainMove))}
    {d : CardConfig} (h : Trace (ExecStep (cardSystem verify).next) CardConfig.initial tr d) :
    CardInv d.shared ∧
      ∀ x ∈ tr, CardInv x.pre.shared ∧ SendRule x.pre.shared.chain x.post.shared.chain := by
  obtain ⟨hsound, hall⟩ := Discipline.run (D := cardDiscipline verify) handle_safe
    (Discipline.sound_idle CardInv.initial) h fun _ _ _ _ _ _ _ => trivial
  refine ⟨hsound.inv, fun x hx => ?_⟩
  obtain ⟨hpre, hmove⟩ := hall x hx
  refine ⟨hpre.inv, ?_⟩
  cases hmove with
  | still h =>
    rw [h]
    exact (Chain.Later.refl _).sendRule
  | world m _ h =>
    obtain ⟨c, hc, hpost⟩ := Option.map_eq_some_iff.mp h
    rw [← hpost]
    exact (hpre.inv.chain.move hc).2.sendRule
  | acted request h => exact h.1

end Main

namespace Vectors

def cardInput : Input := ⟨1000, 0, .unknown, "tx-1"⟩

/-- One request alone, from its start to its answer. -/
def alone (request : CardRequest) (operations : Nat) : List (Event Input CardRequest ChainMove) :=
  .start request :: List.replicate operations (.run 0 cardInput) ++ [.stop 0]

/-- An order is stored and refunded before anything was sent; the operator finds nothing to do. -/
def refundedRun : List (Event Input CardRequest ChainMove) :=
  alone (.store cardOrder) 1 ++ alone (.event "cleeng" refund 3000) 5 ++ alone .operate 2

end Vectors

end Youtick.PaymentService
