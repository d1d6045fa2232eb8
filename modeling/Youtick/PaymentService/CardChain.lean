import Youtick.PaymentService.CardSystem

/-!
# Card path: the operator's transactions and the tickets

What holds of the chain at every moment (`ChainSafe`): only sent transactions execute, a known
failure is a real one, a card ticket comes from an issue that succeeded, the states of a ticket are
states of one ticket and a voided one is its last, and at most one issue of a ticket may still
succeed. Each operation on the chain keeps it; sending an issue does when every other issue of the
ticket has failed.
-/

set_option autoImplicit false

namespace Youtick.PaymentService

open Youtick.Lib Youtick.MarketV2

/-! ## Counting sends -/

/-- A send of the issue phase that used up an attempt. -/
def countsAsIssue (ticketId : String) (tx : Transaction) : Bool :=
  tx.call.isIssue && decide (tx.call.ticketId = ticketId) && tx.sent &&
    decide (tx.answered ≠ some .reserveExhausted)

/-- A send of the void phase. -/
def countsAsVoid (ticketId : String) (tx : Transaction) : Bool :=
  !tx.call.isIssue && decide (tx.call.ticketId = ticketId) && tx.sent

namespace Chain

def issueSends (c : Chain) (ticketId : String) : Nat :=
  c.transactions.count fun _ tx => countsAsIssue ticketId tx

def voidSends (c : Chain) (ticketId : String) : Nat :=
  c.transactions.count fun _ tx => countsAsVoid ticketId tx

end Chain

theorem Chain.voidSends_eq_zero {c : Chain} {ticketId : String}
    (h : ∀ hash tx, c.transactions.find hash = some tx → tx.call.isIssue = false →
      tx.call.ticketId ≠ ticketId) : c.voidSends ticketId = 0 := by
  refine List.countP_eq_zero.mpr fun entry hentry hcounts => ?_
  obtain ⟨hash, tx⟩ := entry
  simp only [countsAsVoid, Bool.and_eq_true, Bool.not_eq_true', decide_eq_true_eq] at hcounts
  exact h hash tx (Table.mem_rows_iff.mp hentry) hcounts.1.1 hcounts.1.2

theorem Chain.issueSends_eq_zero {c : Chain} {ticketId : String}
    (h : ∀ hash tx, c.transactions.find hash = some tx → tx.call.ticketId ≠ ticketId) :
    c.issueSends ticketId = 0 := by
  refine List.countP_eq_zero.mpr fun entry hentry hcounts => ?_
  obtain ⟨hash, tx⟩ := entry
  simp only [countsAsIssue, Bool.and_eq_true, decide_eq_true_eq] at hcounts
  exact h hash tx (Table.mem_rows_iff.mp hentry) hcounts.1.1.2

/-! ## Later moments -/

/-- A later moment of the chain: outcomes are learned, final states are seen, tickets move on, but
no transaction is signed or sent. -/
structure Chain.Later (c c' : Chain) : Prop where
  transactions : ∀ hash tx', c'.transactions.find hash = some tx' →
    ∃ tx, c.transactions.find hash = some tx ∧ tx'.call = tx.call ∧ tx'.sent = tx.sent ∧
      (tx'.knownFailed = false → tx.knownFailed = false)
  issueSends : ∀ ticketId, c'.issueSends ticketId ≤ c.issueSends ticketId
  voidSends : ∀ ticketId, c'.voidSends ticketId ≤ c.voidSends ticketId
  seen : ∀ ticketId, c.seen ticketId ≤ c'.seen ticketId
  tickets : ∀ ticketId, ∀ ticket ∈ c.tickets ticketId, ticket ∈ c'.tickets ticketId

namespace Chain

variable {c c' c'' : Chain}

theorem Later.refl (c : Chain) : c.Later c where
  transactions _ tx htx := ⟨tx, htx, rfl, rfl, id⟩
  issueSends _ := le_rfl
  voidSends _ := le_rfl
  seen _ := le_rfl
  tickets _ _ hmem := hmem

theorem Later.trans (h : c.Later c') (h' : c'.Later c'') : c.Later c'' where
  transactions hash tx'' htx'' := by
    obtain ⟨tx', htx', hcall', hsent', hknown'⟩ := h'.transactions hash tx'' htx''
    obtain ⟨tx, htx, hcall, hsent, hknown⟩ := h.transactions hash tx' htx'
    exact ⟨tx, htx, hcall'.trans hcall, hsent'.trans hsent, fun hk => hknown (hknown' hk)⟩
  issueSends ticketId := (h'.issueSends ticketId).trans (h.issueSends ticketId)
  voidSends ticketId := (h'.voidSends ticketId).trans (h.voidSends ticketId)
  seen ticketId := (h.seen ticketId).trans (h'.seen ticketId)
  tickets ticketId ticket hmem := h'.tickets ticketId ticket (h.tickets ticketId ticket hmem)

theorem Later.observe (c : Chain) (ticketId : String) (n : Nat) : c.Later (c.observe ticketId n) :=
  { Later.refl c with
    seen := fun ticketId' => by
      unfold Chain.observe
      by_cases h : ticketId' = ticketId
      · subst h
        simp
      · simp [Function.update_of_ne h] }

theorem Later.push (c : Chain) (ticketId : String) (ticket : ChainTicket) :
    c.Later (c.push ticketId ticket) :=
  { Later.refl c with
    tickets := fun ticketId' t hmem => by
      unfold Chain.push
      by_cases h : ticketId' = ticketId
      · subst h
        simp [hmem]
      · simpa [Function.update_of_ne h] using hmem }

/-- A transaction's record changes, but neither its call nor whether it was sent. -/
theorem Later.modify (c : Chain) (hash : String) {g : Transaction → Transaction}
    (hg : ∀ tx, (g tx).call = tx.call ∧ (g tx).sent = tx.sent)
    (hknown : ∀ tx, c.transactions.find hash = some tx → (g tx).knownFailed = false →
      tx.knownFailed = false)
    (hanswered : ∀ tx, c.transactions.find hash = some tx →
      (g tx).answered ≠ some .reserveExhausted → tx.answered ≠ some .reserveExhausted) :
    c.Later { c with transactions := c.transactions.modify hash g } where
  transactions hash' tx' htx' := by
    obtain ⟨tx, htx, ⟨rfl, rfl⟩ | ⟨rfl, -⟩⟩ := Table.of_find_modify htx'
    · exact ⟨tx, htx, (hg tx).1, (hg tx).2, hknown tx htx⟩
    · exact ⟨_, htx, rfl, rfl, id⟩
  issueSends ticketId := by
    refine Table.count_modify_le fun tx htx hcounts => ?_
    simp only [countsAsIssue, (hg tx).1, (hg tx).2, Bool.and_eq_true, decide_eq_true_eq]
      at hcounts ⊢
    exact ⟨hcounts.1, hanswered tx htx hcounts.2⟩
  voidSends ticketId := by
    refine Table.count_modify_le fun tx htx hcounts => ?_
    simpa only [countsAsVoid, (hg tx).1, (hg tx).2] using hcounts
  seen _ := le_rfl
  tickets _ _ hmem := hmem

/-- What the network says: nothing, or how a transaction has ended. -/
theorem report_cases {hash : String} {said : SendOutcome} (h : c.report hash said = some c') :
    (said = .unknown ∧ c' = c) ∨ ∃ tx execution, c.transactions.find hash = some tx ∧
      tx.execution = some execution ∧ execution.outcome = said ∧ said ≠ .unknown ∧
      c' = c.learn hash tx execution := by
  unfold report at h
  split at h
  · next hsaid => exact .inl ⟨hsaid, (Option.some.inj h).symm⟩
  · next hsaid =>
      split at h
      · cases h
      · next tx htx =>
          split at h
          · cases h
          · next execution hexecution =>
              split at h
              · next houtcome =>
                  exact .inr ⟨tx, execution, htx, hexecution, houtcome, hsaid,
                    (Option.some.inj h).symm⟩
              · cases h

end Chain

/-- Every issue of the ticket that was sent is known to have failed. -/
def Chain.IssuesFailed (c : Chain) (ticketId : String) : Prop :=
  ∀ hash tx, c.transactions.find hash = some tx → tx.call.isIssue = true →
    tx.call.ticketId = ticketId → tx.sent = true → tx.knownFailed = true

/-- No void of the ticket was signed. -/
def Chain.NoVoids (c : Chain) (ticketId : String) : Prop :=
  ∀ hash tx, c.transactions.find hash = some tx → tx.call.isIssue = false →
    tx.call.ticketId ≠ ticketId

theorem Chain.IssuesFailed.later {c c' : Chain} {ticketId : String} (h : c.IssuesFailed ticketId)
    (hlater : c.Later c') : c'.IssuesFailed ticketId := by
  intro hash tx' htx' hissue hticket hsent
  obtain ⟨tx, htx, hcall, hs, hknown⟩ := hlater.transactions hash tx' htx'
  rw [hcall] at hissue hticket
  have hfailed := h hash tx htx hissue hticket (hs ▸ hsent)
  rw [← Bool.not_eq_false]
  exact fun hk => Bool.eq_false_iff.mp (hknown hk) hfailed

theorem Chain.NoVoids.later {c c' : Chain} {ticketId : String} (h : c.NoVoids ticketId)
    (hlater : c.Later c') : c'.NoVoids ticketId := by
  intro hash tx' htx' hvoid
  obtain ⟨tx, htx, hcall, -, -⟩ := hlater.transactions hash tx' htx'
  rw [hcall] at hvoid ⊢
  exact h hash tx htx hvoid

/-! ## The invariant of the chain -/

/-- The operator's transactions against the tickets. -/
structure ChainSafe (c : Chain) : Prop where
  sent : ∀ hash tx, c.transactions.find hash = some tx → tx.execution ≠ none → tx.sent = true
  failed : ∀ hash tx, c.transactions.find hash = some tx → tx.knownFailed = true →
    ∃ execution, tx.execution = some execution ∧ failed execution.outcome = true
  issued : ∀ hash tx execution, c.transactions.find hash = some tx → tx.call.isIssue = true →
    tx.execution = some execution → execution.outcome = .success → 0 < execution.after ∧
      ∃ ticket ∈ c.tickets tx.call.ticketId, ticket.rail = .card ∧ ticket.card = tx.call.reference
  card : ∀ ticketId, ∀ ticket ∈ c.tickets ticketId, ticket.rail = .card →
    ∃ hash tx execution, c.transactions.find hash = some tx ∧ tx.call.isIssue = true ∧
      tx.call.ticketId = ticketId ∧ tx.call.reference = ticket.card ∧
      tx.execution = some execution ∧ execution.outcome = .success
  rail : ∀ ticketId, ∀ ticket ∈ c.tickets ticketId, ticket.card ≠ none → ticket.rail = .card
  one : ∀ ticketId, ∀ t ∈ c.tickets ticketId, ∀ t' ∈ c.tickets ticketId,
    t.rail = t'.rail ∧ t.card = t'.card
  last : ∀ ticketId, ∀ t ∈ c.tickets ticketId, t.status = .voided →
    (c.tickets ticketId).getLast? = some t
  sole : ∀ hash hash' tx tx', c.transactions.find hash = some tx →
    c.transactions.find hash' = some tx' → tx.call.isIssue = true → tx'.call.isIssue = true →
    tx.call.ticketId = tx'.call.ticketId → tx.sent = true → tx'.sent = true →
    tx.knownFailed = false → tx'.knownFailed = false → hash = hash'

namespace ChainSafe

variable {c c' : Chain}

/-- Nothing but what has been seen changes. -/
theorem observe (h : ChainSafe c) (ticketId : String) (n : Nat) :
    ChainSafe (c.observe ticketId n) :=
  ⟨h.sent, h.failed, h.issued, h.card, h.rail, h.one, h.last, h.sole⟩

/-- A transaction's record changes, but neither its call, nor whether it was sent, nor how it ended;
what is known of it stays true. -/
theorem record (h : ChainSafe c) (hash : String) {g : Transaction → Transaction}
    (hg : ∀ tx, (g tx).call = tx.call ∧ (g tx).sent = tx.sent ∧ (g tx).execution = tx.execution)
    (hknown : ∀ tx, c.transactions.find hash = some tx →
      (tx.knownFailed = true → (g tx).knownFailed = true) ∧
      ((g tx).knownFailed = true → ∃ execution, tx.execution = some execution ∧
        PaymentService.failed execution.outcome = true)) :
    ChainSafe { c with transactions := c.transactions.modify hash g } := by
  have hback : ∀ hash' tx', (c.transactions.modify hash g).find hash' = some tx' →
      ∃ old, c.transactions.find hash' = some old ∧ tx'.call = old.call ∧ tx'.sent = old.sent ∧
        tx'.execution = old.execution ∧ (old.knownFailed = true → tx'.knownFailed = true) ∧
        (tx'.knownFailed = true → ∃ execution, old.execution = some execution ∧
          PaymentService.failed execution.outcome = true) := by
    intro hash' tx' htx'
    obtain ⟨old, hold, ⟨rfl, rfl⟩ | ⟨rfl, -⟩⟩ := Table.of_find_modify htx'
    · obtain ⟨hcall, hsent, hexec⟩ := hg old
      exact ⟨old, hold, hcall, hsent, hexec, (hknown old hold).1, (hknown old hold).2⟩
    · exact ⟨_, hold, rfl, rfl, rfl, id, fun hk => h.failed _ _ hold hk⟩
  refine ⟨?_, ?_, ?_, ?_, h.rail, h.one, h.last, ?_⟩
  · intro hash' tx' htx' hx
    obtain ⟨old, hold, -, hsent, hexec, -⟩ := hback hash' tx' htx'
    rw [hsent]
    exact h.sent hash' old hold (hexec ▸ hx)
  · intro hash' tx' htx' hk
    obtain ⟨old, hold, -, -, hexec, -, hfailed⟩ := hback hash' tx' htx'
    rw [hexec]
    exact hfailed hk
  · intro hash' tx' execution htx' hissue hx hsuccess
    obtain ⟨old, hold, hcall, -, hexec, -⟩ := hback hash' tx' htx'
    rw [hcall] at hissue ⊢
    exact h.issued hash' old execution hold hissue (hexec ▸ hx) hsuccess
  · intro ticketId ticket hmem hcard
    obtain ⟨hash', old, execution, hold, hissue, hticket, href, hx, hsuccess⟩ :=
      h.card ticketId ticket hmem hcard
    obtain ⟨tx', htx', ⟨rfl, -⟩ | ⟨rfl, -⟩⟩ := Table.find_modify_of_find (k := hash) (f := g) hold
    · obtain ⟨hcall, -, hexec⟩ := hg old
      exact ⟨hash', _, execution, htx', by rwa [hcall], by rwa [hcall], by rwa [hcall],
        by rwa [hexec], hsuccess⟩
    · exact ⟨hash', _, execution, htx', hissue, hticket, href, hx, hsuccess⟩
  · intro hash₁ hash₂ tx₁ tx₂ htx₁ htx₂ hissue₁ hissue₂ hticket hsent₁ hsent₂ hk₁ hk₂
    obtain ⟨old₁, hold₁, hcall₁, hs₁, -, hknown₁, -⟩ := hback hash₁ tx₁ htx₁
    obtain ⟨old₂, hold₂, hcall₂, hs₂, -, hknown₂, -⟩ := hback hash₂ tx₂ htx₂
    rw [hcall₁] at hissue₁ hticket
    rw [hcall₂] at hissue₂ hticket
    refine h.sole hash₁ hash₂ old₁ old₂ hold₁ hold₂ hissue₁ hissue₂ hticket (hs₁ ▸ hsent₁)
      (hs₂ ▸ hsent₂) ?_ ?_
    · exact Bool.eq_false_iff.mpr fun hk => Bool.eq_false_iff.mp hk₁ (hknown₁ hk)
    · exact Bool.eq_false_iff.mpr fun hk => Bool.eq_false_iff.mp hk₂ (hknown₂ hk)

/-- A known failure of an executed transaction is its real one. -/
theorem learn (h : ChainSafe c) {hash : String} {tx : Transaction} {execution : Execution}
    (htx : c.transactions.find hash = some tx) (hex : tx.execution = some execution) :
    ChainSafe (c.learn hash tx execution) ∧ c.Later (c.learn hash tx execution) := by
  have hreal : ∀ old, c.transactions.find hash = some old → old.execution = some execution ∧
      (old.knownFailed = true → PaymentService.failed execution.outcome = true) := by
    intro old hold
    obtain rfl : old = tx := Option.some.inj (hold.symm.trans htx)
    refine ⟨hex, fun hk => ?_⟩
    obtain ⟨execution', hex', hfailed⟩ := h.failed hash old hold hk
    cases hex.symm.trans hex'
    exact hfailed
  constructor
  · refine (h.observe tx.call.ticketId execution.after).record hash
      (fun _ => ⟨rfl, rfl, rfl⟩) fun old hold => ?_
    obtain ⟨hexec, hfailed⟩ := hreal old hold
    exact ⟨hfailed, fun hk => ⟨execution, hexec, hk⟩⟩
  · refine (Chain.Later.observe c tx.call.ticketId execution.after).trans
      (Chain.Later.modify _ hash (fun _ => ⟨rfl, rfl⟩) (fun old hold hk => ?_) fun _ _ h => h)
    exact Bool.eq_false_iff.mpr fun hk' => Bool.eq_false_iff.mp hk ((hreal old hold).2 hk')

/-- The answer to a broadcast is only recorded. -/
theorem answer (h : ChainSafe c) (hash : String) (said : SendOutcome) :
    ChainSafe (c.answer hash said) ∧ c.Later (c.answer hash said) := by
  constructor
  · exact h.record hash (fun _ => ⟨rfl, rfl, rfl⟩) fun tx htx => ⟨id, fun hk => h.failed hash tx htx hk⟩
  · refine Chain.Later.modify c hash (fun _ => ⟨rfl, rfl⟩) (fun _ _ hk => hk) fun old _ hne => ?_
    intro hanswered
    rw [hanswered] at hne
    exact hne rfl

/-- What the network says keeps the chain safe. -/
theorem report (h : ChainSafe c) {hash : String} {said : SendOutcome}
    (hreport : c.report hash said = some c') : ChainSafe c' ∧ c.Later c' := by
  rcases Chain.report_cases hreport with ⟨-, rfl⟩ | ⟨tx, execution, htx, hex, -, -, rfl⟩
  · exact ⟨h, .refl _⟩
  · exact h.learn htx hex

/-- A signed transaction is not sent yet. -/
theorem signed (h : ChainSafe c) {hash : String} {call : Call}
    (hfresh : hash ∉ c.transactions.rows.map Prod.fst) : ChainSafe (c.signed hash call hfresh) := by
  have hnone : c.transactions.find hash = none := Table.find_eq_none_iff.mpr hfresh
  have hback : ∀ hash' tx', (c.signed hash call hfresh).transactions.find hash' = some tx' →
      (tx'.sent = false ∧ tx'.execution = none ∧ tx'.knownFailed = false) ∨
        c.transactions.find hash' = some tx' := by
    intro hash' tx' htx'
    rw [Chain.signed, Table.find_add] at htx'
    split at htx'
    · cases htx'
      exact .inl ⟨rfl, rfl, rfl⟩
    · exact .inr htx'
  refine ⟨?_, ?_, ?_, ?_, h.rail, h.one, h.last, ?_⟩
  · intro hash' tx' htx' hx
    rcases hback hash' tx' htx' with ⟨-, hexec, -⟩ | hold
    · exact absurd hexec hx
    · exact h.sent hash' tx' hold hx
  · intro hash' tx' htx' hk
    rcases hback hash' tx' htx' with ⟨-, -, hknown⟩ | hold
    · cases hknown.symm.trans hk
    · exact h.failed hash' tx' hold hk
  · intro hash' tx' execution htx' hissue hx hsuccess
    rcases hback hash' tx' htx' with ⟨-, hexec, -⟩ | hold
    · cases hexec.symm.trans hx
    · exact h.issued hash' tx' execution hold hissue hx hsuccess
  · intro ticketId ticket hmem hcard
    obtain ⟨hash', tx, execution, htx, hrest⟩ := h.card ticketId ticket hmem hcard
    refine ⟨hash', tx, execution, ?_, hrest⟩
    rw [Chain.signed, Table.find_add, if_neg, htx]
    rintro rfl
    cases hnone.symm.trans htx
  · intro hash₁ hash₂ tx₁ tx₂ htx₁ htx₂ hissue₁ hissue₂ hticket hsent₁ hsent₂ hk₁ hk₂
    rcases hback hash₁ tx₁ htx₁ with ⟨hs₁, -, -⟩ | hold₁
    · cases hs₁.symm.trans hsent₁
    · rcases hback hash₂ tx₂ htx₂ with ⟨hs₂, -, -⟩ | hold₂
      · cases hs₂.symm.trans hsent₂
      · exact h.sole hash₁ hash₂ tx₁ tx₂ hold₁ hold₂ hissue₁ hissue₂ hticket hsent₁ hsent₂ hk₁ hk₂

/-- An issue may be sent when every other issue of its ticket that was sent has failed. -/
theorem broadcast (h : ChainSafe c) {hash : String}
    (hfree : ∀ tx, c.transactions.find hash = some tx → tx.call.isIssue = true →
      ∀ hash' tx', c.transactions.find hash' = some tx' → hash' ≠ hash →
        tx'.call.isIssue = true → tx'.call.ticketId = tx.call.ticketId → tx'.sent = true →
        tx'.knownFailed = true) : ChainSafe (c.broadcast hash) := by
  have hback : ∀ hash' tx', (c.broadcast hash).transactions.find hash' = some tx' →
      ∃ old, c.transactions.find hash' = some old ∧ tx'.call = old.call ∧
        (hash' = hash ∧ tx'.sent = true ∨ hash' ≠ hash ∧ tx'.sent = old.sent) ∧
        tx'.execution = old.execution ∧ tx'.knownFailed = old.knownFailed := by
    intro hash' tx' htx'
    obtain ⟨old, hold, ⟨rfl, rfl⟩ | ⟨rfl, hne⟩⟩ := Table.of_find_modify htx'
    · exact ⟨old, hold, rfl, .inl ⟨rfl, rfl⟩, rfl, rfl⟩
    · exact ⟨_, hold, rfl, .inr ⟨hne, rfl⟩, rfl, rfl⟩
  refine ⟨?_, ?_, ?_, ?_, h.rail, h.one, h.last, ?_⟩
  · intro hash' tx' htx' hx
    obtain ⟨old, hold, -, ⟨-, hsent⟩ | ⟨-, hsent⟩, hexec, -⟩ := hback hash' tx' htx'
    · exact hsent
    · rw [hsent]
      exact h.sent hash' old hold (hexec ▸ hx)
  · intro hash' tx' htx' hk
    obtain ⟨old, hold, -, -, hexec, hknown⟩ := hback hash' tx' htx'
    rw [hexec]
    exact h.failed hash' old hold (hknown ▸ hk)
  · intro hash' tx' execution htx' hissue hx hsuccess
    obtain ⟨old, hold, hcall, -, hexec, -⟩ := hback hash' tx' htx'
    rw [hcall] at hissue ⊢
    exact h.issued hash' old execution hold hissue (hexec ▸ hx) hsuccess
  · intro ticketId ticket hmem hcard
    obtain ⟨hash', old, execution, hold, hissue, hticket, href, hx, hsuccess⟩ :=
      h.card ticketId ticket hmem hcard
    obtain ⟨tx', htx', ⟨rfl, -⟩ | ⟨rfl, -⟩⟩ := Table.find_modify_of_find (k := hash)
      (f := fun tx => { tx with sent := true }) hold
    · exact ⟨hash', _, execution, htx', hissue, hticket, href, hx, hsuccess⟩
    · exact ⟨hash', _, execution, htx', hissue, hticket, href, hx, hsuccess⟩
  · intro hash₁ hash₂ tx₁ tx₂ htx₁ htx₂ hissue₁ hissue₂ hticket hsent₁ hsent₂ hk₁ hk₂
    obtain ⟨old₁, hold₁, hcall₁, hs₁, -, hknown₁⟩ := hback hash₁ tx₁ htx₁
    obtain ⟨old₂, hold₂, hcall₂, hs₂, -, hknown₂⟩ := hback hash₂ tx₂ htx₂
    rw [hcall₁] at hissue₁ hticket
    rw [hcall₂] at hissue₂ hticket
    rw [hknown₁] at hk₁
    rw [hknown₂] at hk₂
    rcases hs₁ with ⟨rfl, -⟩ | ⟨hne₁, hs₁⟩ <;> rcases hs₂ with ⟨rfl, -⟩ | ⟨hne₂, hs₂⟩
    · rfl
    · cases (hfree old₁ hold₁ hissue₁ hash₂ old₂ hold₂ hne₂ hissue₂ hticket.symm
        (hs₂ ▸ hsent₂)).symm.trans hk₂
    · cases (hfree old₂ hold₂ hissue₂ hash₁ old₁ hold₁ hne₁ hissue₁ hticket
        (hs₁ ▸ hsent₁)).symm.trans hk₁
    · exact h.sole hash₁ hash₂ old₁ old₂ hold₁ hold₂ hissue₁ hissue₂ hticket (hs₁ ▸ hsent₁)
        (hs₂ ▸ hsent₂) hk₁ hk₂

end ChainSafe

/-! ## The chain by itself -/

theorem Chain.mem_push {c : Chain} {ticketId ticketId' : String} {ticket t : ChainTicket} :
    t ∈ (c.push ticketId ticket).tickets ticketId' ↔
      t ∈ c.tickets ticketId' ∨ ticketId' = ticketId ∧ t = ticket := by
  unfold Chain.push
  by_cases h : ticketId' = ticketId
  · subst h
    simp
  · simp [h]

/-- The next state of a ticket that is not voided. -/
structure NextState (states : List ChainTicket) (ticket : ChainTicket) : Prop where
  same : ∀ t ∈ states, t.rail = ticket.rail ∧ t.card = ticket.card
  live : ∀ t ∈ states, t.status ≠ .voided

namespace NextState

variable {c : Chain} {ticketId : String} {ticket : ChainTicket}

theorem one (h : NextState (c.tickets ticketId) ticket) (hc : ChainSafe c) :
    ∀ ticketId', ∀ t ∈ (c.push ticketId ticket).tickets ticketId',
      ∀ t' ∈ (c.push ticketId ticket).tickets ticketId', t.rail = t'.rail ∧ t.card = t'.card := by
  intro ticketId' t ht t' ht'
  rcases Chain.mem_push.mp ht with hold | ⟨hid, hnew⟩ <;>
    rcases Chain.mem_push.mp ht' with hold' | ⟨hid', hnew'⟩
  · exact hc.one ticketId' t hold t' hold'
  · rw [hnew']
    exact h.same t (hid' ▸ hold)
  · rw [hnew]
    exact ⟨(h.same t' (hid ▸ hold')).1.symm, (h.same t' (hid ▸ hold')).2.symm⟩
  · rw [hnew, hnew']
    exact ⟨rfl, rfl⟩

theorem last (h : NextState (c.tickets ticketId) ticket) (hc : ChainSafe c) :
    ∀ ticketId', ∀ t ∈ (c.push ticketId ticket).tickets ticketId', t.status = .voided →
      ((c.push ticketId ticket).tickets ticketId').getLast? = some t := by
  intro ticketId' t ht hvoided
  by_cases hid : ticketId' = ticketId
  · subst hid
    rcases Chain.mem_push.mp ht with ht | ⟨-, rfl⟩
    · exact absurd hvoided (h.live t ht)
    · simp [Chain.push]
  · rcases Chain.mem_push.mp ht with ht | ⟨hid', -⟩
    · simpa [Chain.push, Function.update_of_ne hid] using hc.last ticketId' t ht hvoided
    · exact absurd hid' hid

/-- Nothing comes before the first state. -/
theorem first (h : c.tickets ticketId = []) : NextState (c.tickets ticketId) ticket := by
  rw [h]
  exact ⟨fun t ht => absurd ht List.not_mem_nil, fun t ht => absurd ht List.not_mem_nil⟩

/-- A ticket whose last state is not voided goes on. -/
theorem ofLast (hc : ChainSafe c) {t : ChainTicket}
    (hlast : (c.tickets ticketId).getLast? = some t) (hlive : t.status ≠ .voided)
    (status : TicketStatus) : NextState (c.tickets ticketId) { t with status := status } where
  same t' ht' := hc.one ticketId t' ht' t (List.mem_of_getLast? hlast)
  live t' ht' hvoided := by
    have hlast' := hc.last ticketId t' ht' hvoided
    cases hlast.symm.trans hlast'
    exact hlive hvoided

end NextState

namespace ChainSafe

variable {c c' : Chain}

/-- The Market's other calls move a ticket on. -/
theorem push (h : ChainSafe c) {ticketId : String} {ticket : ChainTicket}
    (hnext : NextState (c.tickets ticketId) ticket)
    (hcard : ticket.rail = .card → ∃ t ∈ c.tickets ticketId, t.rail = .card)
    (hreference : ticket.card ≠ none → ticket.rail = .card) :
    ChainSafe (c.push ticketId ticket) where
  sent := h.sent
  failed := h.failed
  issued hash tx execution htx hissue hx hsuccess := by
    obtain ⟨hafter, t, ht, hrail⟩ := h.issued hash tx execution htx hissue hx hsuccess
    exact ⟨hafter, t, Chain.mem_push.mpr (.inl ht), hrail⟩
  card ticketId' t ht hrail := by
    rcases Chain.mem_push.mp ht with ht | ⟨rfl, rfl⟩
    · exact h.card ticketId' t ht hrail
    · obtain ⟨t', ht', hrail'⟩ := hcard hrail
      obtain ⟨hash, tx, execution, htx, hissue, hticket, href, hx⟩ := h.card ticketId' t' ht' hrail'
      exact ⟨hash, tx, execution, htx, hissue, hticket, href.trans (hnext.same t' ht').2, hx⟩
  rail ticketId' t ht hsome := by
    rcases Chain.mem_push.mp ht with ht | ⟨-, rfl⟩
    · exact h.rail ticketId' t ht hsome
    · exact hreference hsome
  one := hnext.one h
  last := hnext.last h
  sole := h.sole

/-- A transaction has executed, and the tickets are now `tickets`: what it wrote is among them, and
every other card ticket was there before. -/
theorem execute (h : ChainSafe c) {hash : String} {tx : Transaction} {execution : Execution}
    {tickets : String → List ChainTicket} (htx : c.transactions.find hash = some tx)
    (hsent : tx.sent = true) (hnone : tx.execution = none)
    (hkeep : ∀ ticketId, ∀ t ∈ c.tickets ticketId, t ∈ tickets ticketId)
    (hcard : ∀ ticketId, ∀ t ∈ tickets ticketId, t.rail = .card →
      (∃ t' ∈ c.tickets ticketId, t'.rail = .card ∧ t'.card = t.card) ∨
        (tx.call.isIssue = true ∧ tx.call.ticketId = ticketId ∧ tx.call.reference = t.card ∧
          execution.outcome = .success))
    (hrail : ∀ ticketId, ∀ t ∈ tickets ticketId, t.card ≠ none → t.rail = .card)
    (hone : ∀ ticketId, ∀ t ∈ tickets ticketId, ∀ t' ∈ tickets ticketId,
      t.rail = t'.rail ∧ t.card = t'.card)
    (hlast : ∀ ticketId, ∀ t ∈ tickets ticketId, t.status = .voided →
      (tickets ticketId).getLast? = some t)
    (hissued : tx.call.isIssue = true → execution.outcome = .success → 0 < execution.after ∧
      ∃ ticket ∈ tickets tx.call.ticketId, ticket.rail = .card ∧ ticket.card = tx.call.reference) :
    ChainSafe (({ c with tickets := tickets } : Chain).execute hash execution) := by
  have hback : ∀ hash' tx', (c.execute hash execution).transactions.find hash' = some tx' →
      ∃ old, c.transactions.find hash' = some old ∧ tx'.call = old.call ∧ tx'.sent = old.sent ∧
        tx'.knownFailed = old.knownFailed ∧ (tx'.execution = some execution ∧ old = tx ∨
          tx'.execution = old.execution) := by
    intro hash' tx' htx'
    obtain ⟨old, hold, ⟨rfl, rfl⟩ | ⟨rfl, hne⟩⟩ := Table.of_find_modify htx'
    · exact ⟨old, hold, rfl, rfl, rfl, .inl ⟨rfl, Option.some.inj (hold.symm.trans htx)⟩⟩
    · exact ⟨_, hold, rfl, rfl, rfl, .inr rfl⟩
  refine ⟨?_, ?_, ?_, ?_, hrail, hone, hlast, ?_⟩
  · intro hash' tx' htx' hx
    obtain ⟨old, hold, -, hs, -, ⟨-, rfl⟩ | hexec⟩ := hback hash' tx' htx'
    · exact hs.trans hsent
    · exact hs.trans (h.sent hash' old hold (hexec ▸ hx))
  · intro hash' tx' htx' hk
    obtain ⟨old, hold, -, -, hknown, hexec⟩ := hback hash' tx' htx'
    obtain ⟨execution', hx, hfailed⟩ := h.failed hash' old hold (hknown ▸ hk)
    rcases hexec with ⟨-, rfl⟩ | hexec
    · cases hnone.symm.trans hx
    · exact ⟨execution', hexec.trans hx, hfailed⟩
  · intro hash' tx' execution' htx' hissue hx hsuccess
    obtain ⟨old, hold, hcall, -, -, ⟨hexec, rfl⟩ | hexec⟩ := hback hash' tx' htx'
    · cases hexec.symm.trans hx
      rw [hcall] at hissue ⊢
      exact hissued hissue hsuccess
    · rw [hcall] at hissue ⊢
      obtain ⟨hafter, t, ht, hrail⟩ :=
        h.issued hash' old execution' hold hissue (hexec ▸ hx) hsuccess
      exact ⟨hafter, t, hkeep _ t ht, hrail⟩
  · intro ticketId ticket hmem hrail
    rcases hcard ticketId ticket hmem hrail with ⟨t, ht, hrail', href'⟩ | ⟨hissue, hid, href, hs⟩
    · obtain ⟨hash', old, execution', hold, hissue, hticket, href, hx, hsuccess⟩ :=
        h.card ticketId t ht hrail'
      obtain ⟨tx', htx', ⟨rfl, rfl⟩ | ⟨rfl, -⟩⟩ := Table.find_modify_of_find (k := hash)
        (f := fun tx => { tx with execution := some execution }) hold
      · obtain rfl : old = tx := Option.some.inj (hold.symm.trans htx)
        cases hnone.symm.trans hx
      · exact ⟨hash', _, execution', htx', hissue, hticket, href.trans href', hx, hsuccess⟩
    · obtain ⟨tx', htx', ⟨rfl, -⟩ | ⟨-, hne⟩⟩ := Table.find_modify_of_find (k := hash)
        (f := fun tx => { tx with execution := some execution }) htx
      · exact ⟨hash, _, execution, htx', hissue, hid, href, rfl, hs⟩
      · exact absurd rfl hne
  · intro hash₁ hash₂ tx₁ tx₂ htx₁ htx₂ hissue₁ hissue₂ hticket hsent₁ hsent₂ hk₁ hk₂
    obtain ⟨old₁, hold₁, hcall₁, hs₁, hknown₁, -⟩ := hback hash₁ tx₁ htx₁
    obtain ⟨old₂, hold₂, hcall₂, hs₂, hknown₂, -⟩ := hback hash₂ tx₂ htx₂
    rw [hcall₁] at hissue₁ hticket
    rw [hcall₂] at hissue₂ hticket
    exact h.sole hash₁ hash₂ old₁ old₂ hold₁ hold₂ hissue₁ hissue₂ hticket (hs₁ ▸ hsent₁)
      (hs₂ ▸ hsent₂) (hknown₁ ▸ hk₁) (hknown₂ ▸ hk₂)

/-- What an accepted call writes: the first state of a ticket, or the void of a card ticket. -/
theorem landing (h : ChainSafe c) {call : Call} {ticket : ChainTicket}
    (hlanding : c.landing call = some ticket) :
    NextState (c.tickets call.ticketId) ticket ∧ ticket.rail = .card ∧
      ((call.isIssue = true ∧ call.reference = ticket.card) ∨
        (call.isIssue = false ∧
          ∃ t ∈ c.tickets call.ticketId, t.rail = .card ∧ t.card = ticket.card)) := by
  cases call with
  | issue =>
    simp only [Chain.landing] at hlanding
    split at hlanding
    · next hnil =>
        cases hlanding
        exact ⟨.first hnil, rfl, .inl ⟨rfl, rfl⟩⟩
    · cases hlanding
  | void ticketId reason =>
    obtain ⟨t, ht, rfl⟩ := Option.map_eq_some_iff.mp hlanding
    obtain ⟨hlast, hlive⟩ := Option.filter_eq_some_iff.mp ht
    obtain ⟨hcard, hstatus⟩ := of_decide_eq_true hlive
    refine ⟨.ofLast h hlast ?_ .voided, hcard,
      .inr ⟨rfl, t, List.mem_of_getLast? hlast, hcard, rfl⟩⟩
    intro hvoided
    rcases hstatus with hs | hs <;> cases hs.symm.trans hvoided

/-- A transaction that executes keeps the chain safe. -/
theorem land (h : ChainSafe c) {hash : String} {outcome : SendOutcome} {tx : Transaction}
    (htx : c.transactions.find hash = some tx) (hland : c.land hash outcome tx = some c') :
    ChainSafe c' ∧ c.Later c' := by
  unfold Chain.land at hland
  split at hland
  · cases hland
  · next hready =>
      push Not at hready
      have hsent : tx.sent = true := Bool.not_eq_false _ ▸ hready.1
      have hnone : tx.execution = none := Option.not_isSome_iff_eq_none.mp hready.2
      have hfail : ∀ execution : Execution, execution.outcome ≠ .success →
          ChainSafe (c.execute hash execution) ∧ c.Later (c.execute hash execution) := by
        intro execution hne
        constructor
        · exact h.execute htx hsent hnone (fun _ _ ht => ht) (fun _ t ht hrail => .inl ⟨t, ht, hrail, rfl⟩)
            h.rail h.one h.last fun _ hs => absurd hs hne
        · exact Chain.Later.modify c hash (fun _ => ⟨rfl, rfl⟩) (fun _ _ hk => hk) fun _ _ ha => ha
      split at hland
      · cases hland
      · obtain ⟨ticket, hlanding, rfl⟩ := Option.map_eq_some_iff.mp hland
        obtain ⟨hnext, hrail, hcall⟩ := h.landing hlanding
        constructor
        · refine h.execute htx hsent hnone (fun _ t ht => Chain.mem_push.mpr (.inl ht)) ?_ ?_
            (hnext.one h) (hnext.last h) fun _ _ => ⟨Nat.succ_pos _, ticket,
              Chain.mem_push.mpr (.inr ⟨rfl, rfl⟩), hrail, ?_⟩
          · intro ticketId t ht hcard
            rcases Chain.mem_push.mp ht with ht | ⟨rfl, rfl⟩
            · exact .inl ⟨t, ht, hcard, rfl⟩
            · rcases hcall with ⟨hissue, href⟩ | ⟨-, t', ht', hrail', href⟩
              · exact .inr ⟨hissue, rfl, href, rfl⟩
              · exact .inl ⟨t', ht', hrail', href⟩
          · intro ticketId t ht hsome
            rcases Chain.mem_push.mp ht with ht | ⟨-, rfl⟩
            · exact h.rail ticketId t ht hsome
            · exact hrail
          · rcases hcall with ⟨-, href⟩ | ⟨hvoid, -⟩
            · exact href.symm
            · rename_i hissue _
              cases hvoid.symm.trans hissue
        · exact (Chain.Later.push c _ ticket).trans
            (Chain.Later.modify _ hash (fun _ => ⟨rfl, rfl⟩) (fun _ _ hk => hk) fun _ _ ha => ha)
      · next hsuccess =>
          cases hland
          exact hfail _ hsuccess

/-- What the chain does by itself keeps it safe. -/
theorem move (h : ChainSafe c) {m : ChainMove} (hmove : c.move m = some c') :
    ChainSafe c' ∧ c.Later c' := by
  cases m with
  | execute hash outcome =>
    obtain ⟨tx, htx, hland⟩ := Option.bind_eq_some_iff.mp hmove
    exact h.land htx hland
  | purchase ticketId =>
    simp only [Chain.move] at hmove
    split at hmove
    · next hnil =>
        cases hmove
        exact ⟨h.push (.first hnil) (fun hcard => (nomatch hcard)) fun hsome => absurd rfl hsome,
          .push c ticketId _⟩
    · cases hmove
  | advance ticketId status =>
    obtain ⟨t, hlast, hadvance⟩ := Option.bind_eq_some_iff.mp hmove
    split at hadvance
    · next hadvances =>
        cases hadvance
        have hlive : t.status ≠ .voided := by
          intro hvoided
          unfold Chain.advances at hadvances
          split at hadvances
          · cases hvoided.symm.trans (of_decide_eq_true hadvances).1
          · exact (of_decide_eq_true hadvances).1 hvoided
        have hmem := List.mem_of_getLast? hlast
        exact ⟨h.push (.ofLast h hlast hlive status) (fun hcard => ⟨t, hmem, hcard⟩)
          (h.rail ticketId t hmem), .push c _ _⟩
    · cases hadvance

end ChainSafe

end Youtick.PaymentService
