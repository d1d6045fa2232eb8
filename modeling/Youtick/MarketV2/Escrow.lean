import Youtick.MarketV2.Books

/-!
# Market V2: escrow is exact

In every reachable world the escrow balance is the gross amount of the tickets in escrow, and the
two subtractions from it never underflow.
-/

set_option autoImplicit false

namespace Youtick.MarketV2

open Youtick.Lib

/-- The panic message of both subtractions from escrow. -/
def escrowUnderflow : String := "Escrow balance underflow"

variable {env : Env} {s : Contract}

/-! ## Checks raise other messages -/

theorem networkId_avoids : Avoids escrowUnderflow (networkId env) :=
  avoids_ite (fun _ => avoids_ok _) fun _ =>
    avoids_ite (fun _ => avoids_ok _) fun _ => avoids_error (by decide)

theorem usdcContractId_avoids : Avoids escrowUnderflow (usdcContractId env) :=
  avoids_ite (fun _ => avoids_ok _) fun _ =>
    avoids_ite (fun _ => avoids_ok _) fun _ => avoids_error (by decide)

theorem parseEd25519Key_avoids {host : Host} {value : String} :
    Avoids escrowUnderflow (parseEd25519Key host value) := by
  refine avoids_bind (avoids_expect (by decide)) fun _ _ => ?_
  refine avoids_bind (avoids_expect (by decide)) fun _ _ => ?_
  refine avoids_bind (avoids_require (by decide)) fun _ _ => ?_
  exact avoids_bind (avoids_require (by decide)) fun _ _ => avoids_pure _

theorem parseSignatureExpiryWithin_avoids {value : String} {nowMs maxTtlMs : Nat} :
    Avoids escrowUnderflow (parseSignatureExpiryWithin value nowMs maxTtlMs) := by
  refine avoids_bind ?_ fun _ _ => ?_
  · refine avoids_bind (avoids_expect (by decide)) fun _ _ => ?_
    exact avoids_bind (avoids_require (by decide)) fun _ _ => avoids_pure _
  · refine avoids_bind (avoids_require (by decide)) fun _ _ => ?_
    exact avoids_bind (avoids_require (by decide)) fun _ _ => avoids_pure _

theorem signedLines_avoids {fields : List String} :
    Avoids escrowUnderflow (signedLines fields) :=
  avoids_bind (avoids_require (by decide)) fun _ _ => avoids_pure _

theorem verifyEd25519_avoids {host : Host} {signature message error : String} {publicKey : Bytes}
    (h : error ≠ escrowUnderflow) :
    Avoids escrowUnderflow (verifyEd25519 host signature message publicKey error) := by
  refine avoids_bind (avoids_expect h) fun _ _ => ?_
  exact avoids_bind (avoids_require h) fun _ _ => avoids_require h

theorem assertRunway_avoids : Avoids escrowUnderflow
    (assertRunway env s publicTestnetBetaEmergencyRunwayBytes) := by
  refine avoids_bind ?_ fun _ _ => avoids_require (by decide)
  refine avoids_bind (avoids_checkedMul (by decide)) fun _ _ => ?_
  refine avoids_bind (avoids_checkedAdd (by decide)) fun _ _ => ?_
  exact avoids_bind (avoids_checkedDiv (by decide)) fun _ _ => avoids_pure _

/-! ## The two subtractions -/

/-- A ticket in escrow is covered by the escrow balance. -/
theorem Books.covered {t : Till} {items : List Promise} (h : Books t items) {k : String}
    {ticket : Ticket} (hget : t.tickets.get k = some ticket) (hescrow : ticket.InEscrow) :
    ticket.grossUsdcMicro ≤ t.escrowBalance := by
  rw [h.escrow, ← Ticket.held_of_inEscrow hescrow]
  exact LookupMap.le_total (fun _ ticket => ticket.held) hget

theorem refundTicket_avoids {items : List Promise} (h : Books s.toTill items)
    {ticketId expiresAtMs signature : String} {refundTo : AccountId} :
    Avoids escrowUnderflow (refundTicket env s ticketId refundTo expiresAtMs signature) := by
  refine avoids_bind (avoids_expect (by decide)) fun ticket hget => ?_
  refine avoids_bind (avoids_require (by decide)) fun _ hescrow => ?_
  refine avoids_bind (avoids_require (by decide)) fun _ _ => ?_
  refine avoids_bind (avoids_require (by decide)) fun _ _ => ?_
  refine avoids_bind (avoids_checkWhen fun _ => ?_) fun _ _ => ?_
  · exact avoids_bind (avoids_checkedAdd (by decide)) fun _ _ => avoids_require (by decide)
  refine avoids_bind parseSignatureExpiryWithin_avoids fun _ _ => ?_
  refine avoids_bind networkId_avoids fun _ _ => ?_
  refine avoids_bind signedLines_avoids fun _ _ => ?_
  refine avoids_bind parseEd25519Key_avoids fun _ _ => ?_
  refine avoids_bind (verifyEd25519_avoids (by decide)) fun _ _ => ?_
  refine avoids_bind (avoids_checkedSub ?_) fun _ _ => ?_
  · exact h.covered (expect_eq_ok.mp hget) (require_eq_ok.mp hescrow)
  · exact avoids_bind usdcContractId_avoids fun _ _ => avoids_pure _

theorem settleTicket_avoids {ticket : Ticket} (h : ticket.grossUsdcMicro ≤ s.escrowBalance) :
    Avoids escrowUnderflow (settleTicket s ticket) := by
  refine avoids_bind (avoids_checkedSub h) fun _ _ => ?_
  refine avoids_bind (avoids_checkedAdd (by decide)) fun _ _ => ?_
  refine avoids_bind (avoids_checkedAdd (by decide)) fun _ _ => ?_
  exact avoids_bind (avoids_checkedAdd (by decide)) fun _ _ => avoids_pure _

theorem releaseOne_avoids {items : List Promise} (h : Books s.toTill items) {ticketId : String} :
    Avoids escrowUnderflow (releaseOne env s ticketId) := by
  unfold releaseOne
  split
  · exact avoids_ok _
  · next ticket hget =>
      refine avoids_bind (avoids_checkedAdd (by decide)) fun _ _ => ?_
      refine avoids_ite (fun _ => avoids_pure _) fun hdue => ?_
      simp only [not_or, not_not] at hdue
      have hcovered : ticket.grossUsdcMicro ≤ s.escrowBalance := h.covered hget hdue.1
      exact avoids_bind (settleTicket_avoids hcovered) fun _ _ => avoids_pure _

/-- The loop avoids the message because every pass keeps the books. -/
theorem releaseLoop_avoids {items : List Promise} {ticketIds : List String} {t : Till}
    (h : Books t items) :
    Avoids escrowUnderflow (releaseLoop env { s with toTill := t } ticketIds) := by
  induction ticketIds generalizing t with
  | nil => exact avoids_ok _
  | cons ticketId rest ih =>
    refine avoids_bind (releaseOne_avoids h) fun result hone => ?_
    cases result with
    | none => exact ih h
    | some result =>
      obtain ⟨s', event⟩ := result
      obtain ⟨t', rfl, hstep⟩ := releaseOne_step (List.mem_singleton_self ticketId) hone
      have h' : Books t' items := by
        have := h.step (fun _ _ _ _ hc => by cases hc) hstep
        rwa [List.append_nil] at this
      exact avoids_bind (ih h') fun _ _ => avoids_pure _

theorem releaseExpired_avoids {items : List Promise} (h : Books s.toTill items)
    {ticketIds : List String} : Avoids escrowUnderflow (releaseExpired env s ticketIds) := by
  refine avoids_bind (avoids_require (by decide)) fun _ _ => ?_
  refine avoids_bind (releaseLoop_avoids (t := s.toTill) h) fun _ _ => ?_
  exact avoids_bind (avoids_checkWhen fun _ => assertRunway_avoids) fun _ _ => avoids_pure _

/-! ## Every reachable world -/

/-- Escrow is exactly what the tickets in escrow hold, and taking a ticket's gross amount out of it
never underflows. -/
theorem escrow_exact {host : Host} {w₀ w : World} (h₀ : Initial host w₀)
    (h : Reachable (worldStep host) w₀ w) :
    w.contract.escrowBalance = w.contract.tickets.total (fun _ ticket =>
      if ticket.rail = .crypto ∧ (ticket.status = .purchased ∨ ticket.status = .watchedInEscrow)
        then ticket.grossUsdcMicro else 0) ∧
    (∀ env ticketId refundTo expiresAtMs signature,
      refundTicket env w.contract ticketId refundTo expiresAtMs signature ≠
        .error "Escrow balance underflow") ∧
    ∀ env ticketIds,
      releaseExpired env w.contract ticketIds ≠ .error "Escrow balance underflow" := by
  have hbooks := books_of_reachable h₀ h
  refine ⟨hbooks.escrow, ?_, ?_⟩
  · intro env ticketId refundTo expiresAtMs signature
    exact refundTicket_avoids hbooks
  · intro env ticketIds
    exact releaseExpired_avoids hbooks

theorem escrow_exact_sale :
    ∃ w₀ w, Initial Vectors.host w₀ ∧ Reachable (worldStep Vectors.host) w₀ w ∧
      w.contract.escrowBalance = 5000000 ∧
      w.contract.tickets.total (fun _ ticket =>
        if ticket.rail = .crypto ∧ (ticket.status = .purchased ∨ ticket.status = .watchedInEscrow)
          then ticket.grossUsdcMicro else 0) = 5000000 := by
  have hrun : (Vectors.worldRun Vectors.host Vectors.sale).map (·.2.contract.escrowBalance) =
      some 5000000 := by decide +kernel
  obtain ⟨w₀, tr, w, h₀, h, hescrow⟩ := Vectors.trace_of_worldRun hrun
  refine ⟨w₀, w, h₀, ⟨tr, h⟩, hescrow, ?_⟩
  rw [← (escrow_exact h₀ ⟨tr, h⟩).1]
  exact hescrow

end Youtick.MarketV2
