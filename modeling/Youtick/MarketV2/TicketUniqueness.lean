import Youtick.MarketV2.Ledger
import Youtick.MarketV2.SignedMessages
import Youtick.MarketV2.TicketRuns

/-!
# Market V2: one ticket to a key, one ticket to a payment reference

Tickets are created by two calls: a purchase with USDC and an issue for a card payment. Both store
the ticket under the SHA-256 of its key, and an issue also uses up its payment reference.
`Referenced` ties the three collections together: a reference is used exactly when one stored ticket
carries it. Since a ticket is never deleted and its terms never change, two tickets of one run never
share a key or a reference (`ticket_unique`). A purchase that creates no ticket gives everything
back, and an issue that creates none leaves no trace.
-/

set_option autoImplicit false

namespace Youtick.MarketV2

open Youtick.Lib

/-! ## References and tickets -/

/-- The ticket was issued under the payment reference. -/
def Ticket.Carries (ticket : Ticket) (paymentReferenceHmac : String) : Prop :=
  ticket.card.map (·.paymentReferenceHmac) = some paymentReferenceHmac

/-- Tickets are stored under the hash of their key, and the used references are those of the stored
tickets, each carried by one of them. -/
structure Referenced (host : Host) (t : Till) : Prop where
  keyed : ∀ k ticket, t.tickets.get k = some ticket →
    ∃ key, parseEd25519Key host ticket.ticketPublicKey = .ok key ∧ k = hexSha256 host key
  carried : ∀ k ticket hmac, t.tickets.get k = some ticket → ticket.Carries hmac →
    hmac ∈ t.cardReferences
  carrier : ∀ hmac ∈ t.cardReferences, ∃ k ticket, t.tickets.get k = some ticket ∧
    ticket.Carries hmac
  once : ∀ k k' ticket ticket' hmac, t.tickets.get k = some ticket →
    t.tickets.get k' = some ticket' → ticket.Carries hmac → ticket'.Carries hmac → k = k'

namespace Referenced

variable {host : Host} {t t' : Till}

theorem congr (h : Referenced host t) (htickets : t'.tickets = t.tickets)
    (hreferences : t'.cardReferences = t.cardReferences) : Referenced host t' where
  keyed := htickets ▸ h.keyed
  carried := by
    rw [htickets, hreferences]
    exact h.carried
  carrier := by
    rw [htickets, hreferences]
    exact h.carrier
  once := htickets ▸ h.once

/-- Overwriting a ticket by one with the same terms changes nothing here. -/
theorem overwrite (h : Referenced host t) {k : String} {old new : Ticket}
    (hget : t.tickets.get k = some old) (hterms : new.terms = old.terms) :
    Referenced host { t with tickets := t.tickets.insert k new } := by
  -- Every ticket stored now has the terms of the one stored under its id before.
  have hback : ∀ k' ticket', (t.tickets.insert k new).get k' = some ticket' →
      ∃ ticket, t.tickets.get k' = some ticket ∧
        ticket'.ticketPublicKey = ticket.ticketPublicKey ∧ ticket'.card = ticket.card := by
    intro k' ticket' hget'
    rw [LookupMap.get_insert] at hget'
    split at hget'
    · next hk =>
        obtain rfl := Option.some.inj hget'
        exact ⟨old, hk ▸ hget, congrArg TicketTerms.ticketPublicKey hterms,
          congrArg TicketTerms.card hterms⟩
    · exact ⟨ticket', hget', rfl, rfl⟩
  constructor
  · intro k' ticket' hget'
    obtain ⟨ticket, hold, hkey, -⟩ := hback k' ticket' hget'
    rw [hkey]
    exact h.keyed k' ticket hold
  · intro k' ticket' hmac hget' hcarries
    obtain ⟨ticket, hold, -, hcard⟩ := hback k' ticket' hget'
    exact h.carried k' ticket hmac hold (by rwa [Ticket.Carries, ← hcard])
  · intro hmac hmem
    obtain ⟨k', ticket, hold, hcarries⟩ := h.carrier hmac hmem
    by_cases hk : k' = k
    · subst hk
      obtain rfl := Option.some.inj (hget.symm.trans hold)
      refine ⟨k', new, LookupMap.get_insert_self _ _ _, ?_⟩
      rwa [Ticket.Carries, show new.card = old.card from congrArg TicketTerms.card hterms]
    · exact ⟨k', ticket, (LookupMap.get_insert_of_ne _ _ hk).trans hold, hcarries⟩
  · intro k₁ k₂ ticket₁ ticket₂ hmac hget₁ hget₂ hcarries₁ hcarries₂
    obtain ⟨old₁, hold₁, -, hcard₁⟩ := hback k₁ ticket₁ hget₁
    obtain ⟨old₂, hold₂, -, hcard₂⟩ := hback k₂ ticket₂ hget₂
    refine h.once k₁ k₂ old₁ old₂ hmac hold₁ hold₂ ?_ ?_
    · rwa [Ticket.Carries, ← hcard₁]
    · rwa [Ticket.Carries, ← hcard₂]

/-- A new ticket under the hash of its key, and the reference it uses up, if any. -/
theorem store (h : Referenced host t) {ticket : Ticket} {key : Bytes}
    (references : LookupSet String)
    (hfresh : t.tickets.get ticket.ticketId = none)
    (hkey : parseEd25519Key host ticket.ticketPublicKey = .ok key)
    (hid : ticket.ticketId = hexSha256 host key)
    (hreferences : ∀ hmac, hmac ∈ references ↔ hmac ∈ t.cardReferences ∨ ticket.Carries hmac)
    (hunused : ∀ hmac, ticket.Carries hmac → hmac ∉ t.cardReferences) :
    Referenced host { t with
      tickets := t.tickets.insert ticket.ticketId ticket
      cardReferences := references } := by
  -- The new ticket, or one stored before under another id.
  have hback : ∀ k' ticket', (t.tickets.insert ticket.ticketId ticket).get k' = some ticket' →
      (k' = ticket.ticketId ∧ ticket' = ticket) ∨ t.tickets.get k' = some ticket' := by
    intro k' ticket' hget'
    rw [LookupMap.get_insert] at hget'
    split at hget'
    · next hk => exact .inl ⟨hk, (Option.some.inj hget').symm⟩
    · exact .inr hget'
  constructor
  · intro k' ticket' hget'
    rcases hback k' ticket' hget' with ⟨rfl, rfl⟩ | hold
    · exact ⟨key, hkey, hid⟩
    · exact h.keyed k' ticket' hold
  · intro k' ticket' hmac hget' hcarries
    apply (hreferences hmac).mpr
    rcases hback k' ticket' hget' with ⟨-, rfl⟩ | hold
    · exact .inr hcarries
    · exact .inl (h.carried k' ticket' hmac hold hcarries)
  · intro hmac hmem
    rcases (hreferences hmac).mp hmem with hold | hcarries
    · obtain ⟨k', ticket', hget', hcarries⟩ := h.carrier hmac hold
      refine ⟨k', ticket', ?_, hcarries⟩
      rw [← hget']
      refine LookupMap.get_insert_of_ne _ _ ?_
      rintro rfl
      cases hfresh.symm.trans hget'
    · exact ⟨ticket.ticketId, ticket, LookupMap.get_insert_self _ _ _, hcarries⟩
  · intro k₁ k₂ ticket₁ ticket₂ hmac hget₁ hget₂ hcarries₁ hcarries₂
    rcases hback k₁ ticket₁ hget₁ with ⟨rfl, rfl⟩ | hold₁
    · rcases hback k₂ ticket₂ hget₂ with ⟨rfl, -⟩ | hold₂
      · rfl
      · exact absurd (h.carried k₂ ticket₂ hmac hold₂ hcarries₂) (hunused hmac hcarries₁)
    · rcases hback k₂ ticket₂ hget₂ with ⟨rfl, rfl⟩ | hold₂
      · exact absurd (h.carried k₁ ticket₁ hmac hold₁ hcarries₁) (hunused hmac hcarries₂)
      · exact h.once k₁ k₂ ticket₁ ticket₂ hmac hold₁ hold₂ hcarries₁ hcarries₂

/-- A reference is used exactly when one stored ticket carries it. -/
theorem used_iff (h : Referenced host t) (hmac : String) :
    hmac ∈ t.cardReferences ↔
      ∃! k, ∃ ticket, t.tickets.get k = some ticket ∧ ticket.Carries hmac := by
  constructor
  · intro hmem
    obtain ⟨k, ticket, hget, hcarries⟩ := h.carrier hmac hmem
    refine ⟨k, ⟨ticket, hget, hcarries⟩, ?_⟩
    rintro k' ⟨ticket', hget', hcarries'⟩
    exact h.once k' k ticket' ticket hmac hget' hget hcarries' hcarries
  · rintro ⟨k, ⟨ticket, hget, hcarries⟩, -⟩
    exact h.carried k ticket hmac hget hcarries

end Referenced

/-! ## One call -/

section Call

variable {env : Env} {s : Contract} {c : Call} {t t' : Till} {ps : List Promise}

@[simp] theorem Till.setBalance_cardReferences (amount : Nat) (pot : Pot) :
    (t.setBalance amount pot).cardReferences = t.cardReferences := by
  cases pot <;> rfl

@[simp] theorem Till.credit_cardReferences (pot : Pot) (amount : Nat) :
    (t.credit pot amount).cardReferences = t.cardReferences :=
  Till.setBalance_cardReferences _ pot

/-- A change of a stored ticket uses up no reference. -/
theorem TicketStep.apply_cardReferences {k : String} {old new : Ticket} {flow : Flow}
    (h : TicketStep env s c k (some old) new flow) (t : Till) :
    (flow.apply new t).cardReferences = t.cardReferences := by
  cases h <;> simp [Flow.apply]

theorem TillStep.referenced (h : TillStep env s c t ps t')
    (hreferences : t.cardReferences = s.cardReferences) (ht : Referenced env.toHost t) :
    Referenced env.toHost t' := by
  cases h with
  | quiet | withdrawalFinished => exact ht
  | vatKeyRevoked => exact ht.congr rfl rfl
  | jobFee | withdrawalRestored =>
    exact ht.congr (Till.credit_tickets _ _) (Till.credit_cardReferences _ _)
  | withdrawn =>
    exact ht.congr (Till.setBalance_tickets _ _) (Till.setBalance_cardReferences _ _)
  | @ticket _ k old new flow _ hget hstep hcovered =>
    cases old with
    | some old =>
      refine (ht.overwrite hget hstep.terms).congr Flow.apply_tickets ?_
      exact hstep.apply_cardReferences _
    | none =>
      cases hstep with
      | sold hsale =>
        obtain ⟨key, hkey, hid⟩ := hsale.key
        have hcard : ∀ hmac, ¬ new.Carries hmac := by
          intro hmac hcarries
          rw [Ticket.Carries, hsale.card] at hcarries
          cases hcarries
        refine (ht.store t.cardReferences hget hkey hid ?_ ?_).congr rfl rfl
        · intro hmac
          exact ⟨.inl, fun h => h.resolve_right (hcard hmac)⟩
        · intro hmac hcarries
          exact absurd hcarries (hcard hmac)
      | @issued _ _ hmac _ _ _ _ hissue =>
        obtain ⟨key, hkey, hid⟩ := hissue.key
        refine ht.store _ hget hkey hid ?_ ?_
        · intro hmac'
          rw [Finset.mem_insert, Ticket.Carries, hissue.card, Option.some.injEq]
          constructor
          · rintro (rfl | hmem)
            · exact .inr rfl
            · exact .inl hmem
          · rintro (hmem | rfl)
            · exact .inr hmem
            · exact .inl rfl
        · intro hmac' hcarries
          rw [Ticket.Carries, hissue.card, Option.some.injEq] at hcarries
          rw [← hcarries, hreferences]
          exact hissue.fresh

/-- A single release uses up no reference. -/
theorem TillStep.release_cardReferences {ids : List String}
    (h : TillStep env s (.releaseExpired ids) t [] t') :
    t'.cardReferences = t.cardReferences := by
  generalize hps : ([] : List Promise) = ps at h
  cases h with
  | quiet => rfl
  | withdrawn => cases hps
  | ticket hget hstep _ =>
    obtain ⟨ticket, rfl, -⟩ := hstep.release_inv
    exact hstep.apply_cardReferences _

theorem TillEffect.referenced (h : TillEffect env s c s.toTill ps t')
    (hs : Referenced env.toHost s.toTill) : Referenced env.toHost t' := by
  cases h with
  | once hstep => exact hstep.referenced rfl hs
  | @batch ids _ _ hrun =>
    have hboth : Referenced env.toHost t' ∧ t'.cardReferences = s.cardReferences := by
      induction hrun with
      | refl => exact ⟨hs, rfl⟩
      | tail _ hstep ih =>
        refine ⟨hstep.referenced ih.2 ih.1, ?_⟩
        exact hstep.release_cardReferences.trans ih.2
    exact hboth.1

end Call
/-! ## Losing calls -/

section Losing

variable {env : Env} {s : Contract}

/-- A purchase that goes through creates the ticket of its key, where there was none, or returns
everything and writes nothing. -/
theorem buyTicketV2_cases {amount : Nat} {purchase : PurchaseMessageV2} {o : Outcome Nat}
    (h : buyTicketV2 env s amount purchase = .ok o) :
    o = returnAll s amount ∨
      (o.value = 0 ∧ ∃ key ticket, parseEd25519Key env.toHost purchase.ticketPublicKey = .ok key ∧
        s.tickets.get (hexSha256 env.toHost key) = none ∧
        o.state.tickets.get (hexSha256 env.toHost key) = some ticket) := by
  simp only [buyTicketV2, bind_eq_ok] at h
  obtain ⟨_, -, _, -, key, hkey, _, -, _, -, _, -, _, -, vat, -, version, -, h⟩ := h
  rcases ite_eq_ok.mp h with ⟨-, h⟩ | ⟨-, h⟩
  · exact .inl (pure_eq_ok.mp h).symm
  · simp only [bind_eq_ok] at h
    obtain ⟨publication, -, h⟩ := h
    rcases ite_eq_ok.mp h with ⟨-, h⟩ | ⟨hsale, h⟩
    · exact .inl (pure_eq_ok.mp h).symm
    · simp only [not_or, not_not] at hsale
      simp only [bind_eq_ok, checkedAdd_eq_ok, pure_eq_ok] at h
      obtain ⟨_, -, _, -, _, -, _, -, _, -, _, -, _, -, split, -, first, -, _, ⟨-, rfl⟩, _, -, _,
        -, rfl⟩ := h
      exact .inr ⟨rfl, key, _, hkey, hsale.2.2, LookupMap.get_insert_self _ _ _⟩

/-- An issue that goes through creates the ticket of its key, where there was none, and uses up its
reference, which was unused. -/
theorem issueCardTicket_cases {ticketPublicKey publicationId hmac grossMinor currency : String}
    {device : SignedTicketDevice} {o : Outcome Ticket}
    (h : issueCardTicket env s ticketPublicKey publicationId device hmac grossMinor currency =
      .ok o) :
    ∃ key, parseEd25519Key env.toHost ticketPublicKey = .ok key ∧
      s.tickets.get (hexSha256 env.toHost key) = none ∧ hmac ∉ s.cardReferences ∧
      o.state.tickets.get (hexSha256 env.toHost key) = some o.value ∧ o.value.Carries hmac := by
  simp only [issueCardTicket, bind_eq_ok, expect_eq_ok, require_eq_ok, pure_eq_ok] at h
  obtain ⟨-, -, -, -, -, -, -, -, -, -, key, hkey, _, -, -, -, -, -, gross, -, -, -, -, -, _, -,
    publication, -, -, -, -, hfresh, -, hunused, _, -, _, -, -, -, _, -, first, -, -, -, rfl⟩ := h
  exact ⟨key, hkey, hfresh, hunused, LookupMap.get_insert_self _ _ _, rfl⟩

end Losing

/-! ## Runs -/

section Runs

variable {host : Host} {w₀ w w' : World} {l : Label} {tr : List (Transition World Label)}

theorem Initial.referenced (h : Initial host w) : Referenced host w.contract.toTill := by
  have hfresh := h.fresh.1
  constructor
  · intro k ticket hget
    rw [hfresh.tickets, LookupMap.get_empty] at hget
    cases hget
  · intro k ticket hmac hget
    rw [hfresh.tickets, LookupMap.get_empty] at hget
    cases hget
  · intro hmac hmem
    rw [hfresh.cardReferences] at hmem
    cases hmem
  · intro k k' ticket ticket' hmac hget
    rw [hfresh.tickets, LookupMap.get_empty] at hget
    cases hget

theorem World.Sound.referenced_step (hsound : w.Sound) (h : worldStep host w l w')
    (hw : Referenced host w.contract.toTill) : Referenced host w'.contract.toTill := by
  cases World.step_cases h with
  | ran _ _ hrun => exact ((Call.run_effect hrun).till hsound.books.keyed).referenced hw
  | panicked | landed | dropped => exact hw

theorem referenced_of_trace (h₀ : Initial host w₀) (h : Trace (worldStep host) w₀ tr w) :
    w.Sound ∧ Referenced host w.contract.toTill :=
  h.invariant (I := fun w => w.Sound ∧ Referenced host w.contract.toTill)
    (fun _ _ _ hw hst => ⟨hw.1.step hst, hw.1.referenced_step hst hw.2⟩)
    ⟨h₀.sound, h₀.referenced⟩

/-- The transition created the ticket. -/
def Created (x : Transition World Label) (ticket : Ticket) : Prop :=
  ∃ k, x.pre.ticket k = none ∧ x.post.ticket k = some ticket

/-- The tickets have different keys and no payment reference in common. -/
def Apart (host : Host) (ticket ticket' : Ticket) : Prop :=
  parseEd25519Key host ticket.ticketPublicKey ≠ parseEd25519Key host ticket'.ticketPublicKey ∧
    ∀ hmac, ticket.Carries hmac → ¬ ticket'.Carries hmac

theorem created_apart {x y : Transition World Label} {b : List (Transition World Label)}
    {ticket ticket' : Ticket} (hsound : x.post.Sound) (hx : Referenced host x.post.contract.toTill)
    (hb : Trace (worldStep host) x.post b y.pre) (hstep : worldStep host y.pre y.label y.post)
    (hcreated : Created x ticket) (hcreated' : Created y ticket') : Apart host ticket ticket' := by
  obtain ⟨k, -, hget⟩ := hcreated
  obtain ⟨k', hnone, hget'⟩ := hcreated'
  -- The first ticket is still there when the second is created, and afterwards.
  obtain ⟨kept, hkept, hterms⟩ := hsound.terms_trace hb hget
  obtain ⟨last, hlast, hterms'⟩ := hsound.terms_trace (hb.snoc hstep) hget
  have hpost := hb.snoc hstep |>.invariant
    (I := fun w => w.Sound ∧ Referenced host w.contract.toTill)
    (fun _ _ _ hw hst => ⟨hw.1.step hst, hw.1.referenced_step hst hw.2⟩) ⟨hsound, hx⟩
  have hne : k ≠ k' := by
    rintro rfl
    cases hnone.symm.trans hkept
  constructor
  · intro hsame
    obtain ⟨key, hkey, hk⟩ := hx.keyed k ticket hget
    obtain ⟨key', hkey', hk'⟩ := hpost.2.keyed k' ticket' hget'
    obtain rfl := Except.ok.inj (hkey.symm.trans (hsame.trans hkey'))
    exact hne (hk.trans hk'.symm)
  · intro hmac hcarries hcarries'
    have hcard : last.card = ticket.card := congrArg TicketTerms.card hterms'
    refine hne (hpost.2.once k k' last ticket' hmac hlast hget' ?_ hcarries')
    rwa [Ticket.Carries, hcard]

/-! ## Every run -/

/-- What `issue_card_ticket` writes before it compares the storage cost with the headroom. -/
def Contract.storeCardTicket (s : Contract) (k hmac : String) (ticket : Ticket) : Contract :=
  { s with
    tickets := s.tickets.insert k ticket
    cardReferences := insert hmac s.cardReferences }

/-- What it removes again by hand before it panics. -/
def Contract.dropCardTicket (s : Contract) (k hmac : String) : Contract :=
  { s with
    tickets := s.tickets.remove k
    cardReferences := s.cardReferences.erase hmac }

/-- A purchase that runs at `w` creates the ticket of its key and keeps the amount, or gives the
whole amount back and leaves the storage alone. -/
theorem purchase_wins_or_loses (w : World) (ctx : Context) (senderId : AccountId) (amount : Nat)
    {msg : String} {purchase : PurchaseMessageV2}
    (hmsg : IsPurchase ⟨host, ctx.fromToken host⟩ msg purchase) :
    let after := w.receive host (ctx.fromToken host) (.ftOnTransfer senderId amount msg) w.pending
    (givenBack host ctx w.contract senderId amount msg = 0 ∧
      ∃ key ticket, parseEd25519Key host purchase.ticketPublicKey = .ok key ∧
        w.ticket (hexSha256 host key) = none ∧ after.ticket (hexSha256 host key) = some ticket) ∨
    (givenBack host ctx w.contract senderId amount msg = amount ∧
      after.contract = w.contract) := by
  intro after
  rcases w.receive_transfer host ctx senderId amount msg with
    ⟨hback, hafter, -⟩ | ⟨o, hrun, hback, hafter, -⟩
  · exact .inr ⟨hback, hafter⟩
  · rcases buyTicketV2_cases (ftOnTransfer_purchase hrun hmsg) with
      rfl | ⟨hvalue, key, ticket, hkey, hnone, hsome⟩
    · exact .inr ⟨hback, hafter⟩
    · refine .inl ⟨hback.trans hvalue, key, ticket, hkey, hnone, ?_⟩
      rw [World.ticket, hafter]
      exact hsome

/-- An issue that runs at `w` creates the ticket of its key under its reference, both unused before,
or leaves the storage alone. -/
theorem issue_wins_or_loses (w : World) (ctx : Context)
    (ticketPublicKey publicationId : String) (device : SignedTicketDevice)
    (hmac grossMinor currency : String) :
    let after := w.receive host ctx
      (.issueCardTicket ticketPublicKey publicationId device hmac grossMinor currency) w.pending
    (∃ key ticket, parseEd25519Key host ticketPublicKey = .ok key ∧
      w.ticket (hexSha256 host key) = none ∧ hmac ∉ w.contract.cardReferences ∧
      after.ticket (hexSha256 host key) = some ticket ∧ ticket.Carries hmac) ∨
    after.contract = w.contract := by
  intro after
  cases hrun : Call.run ⟨host, ctx⟩ w.contract
      (.issueCardTicket ticketPublicKey publicationId device hmac grossMinor currency) with
  | error e => exact .inr (by simp [after, World.receive, hrun])
  | ok o =>
    have hafter : after.contract = o.state := by simp [after, World.receive, hrun]
    obtain ⟨_, -, hbody⟩ := bind_eq_ok.mp hrun
    obtain ⟨o', hissue, ho⟩ := bind_eq_ok.mp hbody
    cases pure_eq_ok.mp ho
    obtain ⟨key, hkey, hnone, hunused, hsome, hcarries⟩ := issueCardTicket_cases hissue
    refine .inl ⟨key, o'.value, hkey, hnone, hunused, ?_, hcarries⟩
    rw [World.ticket, hafter]
    exact hsome

/-- In every run a payment reference is used exactly when one stored ticket carries it, tickets are
stored under the SHA-256 of their keys, no two tickets are created for one key or one reference, and
a purchase or an issue that creates no ticket gives back everything and changes nothing, also where
the writes of a failed issue are undone by hand. -/
theorem ticket_unique (h₀ : Initial host w₀) (h : Trace (worldStep host) w₀ tr w) :
    (∀ hmac, hmac ∈ w.contract.cardReferences ↔
      ∃! k, ∃ ticket, w.ticket k = some ticket ∧ ticket.Carries hmac) ∧
    (∀ k ticket, w.ticket k = some ticket → ticket.ticketId = k ∧
      ∃ key, parseEd25519Key host ticket.ticketPublicKey = .ok key ∧ k = hexSha256 host key) ∧
    (∀ k k' ticket ticket', w.ticket k = some ticket → w.ticket k' = some ticket' →
      parseEd25519Key host ticket.ticketPublicKey = parseEd25519Key host ticket'.ticketPublicKey →
      k = k') ∧
    (tr.Pairwise fun x y => ∀ ticket ticket', Created x ticket → Created y ticket' →
      Apart host ticket ticket') ∧
    (∀ (ctx : Context) (senderId : AccountId) (amount : Nat) (msg : String)
      (purchase : PurchaseMessageV2), IsPurchase ⟨host, ctx.fromToken host⟩ msg purchase →
      let after := w.receive host (ctx.fromToken host) (.ftOnTransfer senderId amount msg) w.pending
      (givenBack host ctx w.contract senderId amount msg = 0 ∧
        ∃ key ticket, parseEd25519Key host purchase.ticketPublicKey = .ok key ∧
          w.ticket (hexSha256 host key) = none ∧ after.ticket (hexSha256 host key) = some ticket) ∨
      (givenBack host ctx w.contract senderId amount msg = amount ∧
        after.contract = w.contract)) ∧
    (∀ (ctx : Context) (ticketPublicKey publicationId : String) (device : SignedTicketDevice)
      (hmac grossMinor currency : String),
      let after := w.receive host ctx
        (.issueCardTicket ticketPublicKey publicationId device hmac grossMinor currency) w.pending
      (∃ key ticket, parseEd25519Key host ticketPublicKey = .ok key ∧
        w.ticket (hexSha256 host key) = none ∧ hmac ∉ w.contract.cardReferences ∧
        after.ticket (hexSha256 host key) = some ticket ∧ ticket.Carries hmac) ∨
      after.contract = w.contract) ∧
    ∀ k hmac ticket, w.ticket k = none → hmac ∉ w.contract.cardReferences →
      (w.contract.storeCardTicket k hmac ticket).dropCardTicket k hmac = w.contract := by
  obtain ⟨hsound, hreferenced⟩ := referenced_of_trace h₀ h
  refine ⟨hreferenced.used_iff, ?_, ?_, ?_, ?_, ?_, ?_⟩
  · intro k ticket hget
    exact ⟨hsound.books.keyed k ticket hget, hreferenced.keyed k ticket hget⟩
  · intro k k' ticket ticket' hget hget' hsame
    obtain ⟨key, hkey, rfl⟩ := hreferenced.keyed k ticket hget
    obtain ⟨key', hkey', rfl⟩ := hreferenced.keyed k' ticket' hget'
    rw [Except.ok.inj (hkey.symm.trans (hsame.trans hkey'))]
  · refine h.pairwise (I := fun w => w.Sound ∧ Referenced host w.contract.toTill)
      (fun _ _ _ hw hst => ⟨hw.1.step hst, hw.1.referenced_step hst hw.2⟩) ?_
      ⟨h₀.sound, h₀.referenced⟩
    intro x b y hx hxstep hb hystep ticket ticket' hcreated hcreated'
    exact created_apart (hx.1.step hxstep) (hx.1.referenced_step hxstep hx.2) hb hystep hcreated
      hcreated'
  · intro ctx senderId amount msg purchase hmsg
    exact purchase_wins_or_loses w ctx senderId amount hmsg
  · intro ctx ticketPublicKey publicationId device hmac grossMinor currency
    exact issue_wins_or_loses w ctx ticketPublicKey publicationId device hmac grossMinor currency
  · intro k hmac ticket hnone hunused
    have htickets : (w.contract.tickets.insert k ticket).remove k = w.contract.tickets :=
      LookupMap.remove_insert_of_fresh ticket hnone
    simp only [Contract.storeCardTicket, Contract.dropCardTicket, htickets,
      Finset.erase_insert hunused]

/-- A card ticket is issued once: the second issue under its reference fails. -/
theorem ticket_unique_cardIssue :
    ∃ w₀ tr w, Initial Vectors.host w₀ ∧ Trace (worldStep Vectors.host) w₀ tr w ∧
      Vectors.paymentReference ∈ w.contract.cardReferences ∧
      ∃! k, ∃ ticket, w.ticket k = some ticket ∧ ticket.Carries Vectors.paymentReference := by
  have hrun : (Vectors.worldRun Vectors.host (Vectors.sale ++ Vectors.cardIssue)).map
      (fun r => decide (Vectors.paymentReference ∈ r.2.contract.cardReferences)) =
        some true := by decide +kernel
  obtain ⟨w₀, tr, w, h₀, h, hused⟩ := Vectors.trace_of_worldRun hrun
  have hmem := of_decide_eq_true hused
  exact ⟨w₀, tr, w, h₀, h, hmem, ((ticket_unique h₀ h).1 _).mp hmem⟩

end Runs

end Youtick.MarketV2
