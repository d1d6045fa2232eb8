import Youtick.MarketV2.Escrow
import Youtick.MarketV2.TicketUniqueness
import Youtick.PaymentService.Config
import Youtick.PaymentService.Refunds

/-!
# Payment service: refund intake and the contract

The service's checks of a refund request against the contract's `refund_ticket`, on one state at one
time. Both amount to `Refundable`: a crypto ticket in escrow, inside the window or taken down, and a
live signature of the ticket key. They differ in one place: the service decodes the signature with
the forgiving base64 decoder of the platform and the contract with the strict one, so a signature text
that sets unused bits passes the service and fails on chain (`intake_agrees_iff`).
-/

set_option autoImplicit false

namespace Youtick.PaymentService

open Youtick.Lib Youtick.MarketV2

/-! ## The contract's views -/

def railName : TicketRail → String
  | .crypto => "crypto"
  | .card => "card"

def statusName : TicketStatus → String
  | .purchased => "purchased"
  | .watched => "watched"
  | .refunded => "refunded"
  | .released => "released"
  | .voided => "voided"
  | .watchedInEscrow => "watched_in_escrow"

def availabilityName : PublicationAvailability → String
  | .active => "ACTIVE"
  | .salesSuspended => "SALES_SUSPENDED"
  | .takedown => "TAKEDOWN"

/-- A ticket as the contract's JSON has it. -/
def ticketView (ticket : Ticket) : TicketView where
  ticketId := ticket.ticketId
  ticketPublicKey := ticket.ticketPublicKey
  publicationId := ticket.publicationId
  rail := railName ticket.rail
  status := statusName ticket.status
  purchasedAtMs := decimal ticket.purchasedAtMs

/-- The contract's answers in the state `s`. -/
def marketView (s : Contract) : MarketView where
  getTicket id := .ok ((s.tickets.get id).map ticketView)
  getPublication id :=
    .ok ((s.publications.get id).map fun publication =>
      some (availabilityName publication.availability))

theorem railName_eq_crypto {rail : TicketRail} : railName rail = "crypto" ↔ rail = .crypto := by
  cases rail <;> decide

theorem statusName_eq {status : TicketStatus} :
    statusName status = "purchased" ∨ statusName status = "watched_in_escrow" ↔
      status = .purchased ∨ status = .watchedInEscrow := by
  cases status <;> decide

/-- The service and the contract see the same takedowns. -/
theorem availability_takedown (s : Contract) (publicationId : String) :
    decide (((s.publications.get publicationId).map fun publication =>
      some (availabilityName publication.availability)).bind id = some "TAKEDOWN") =
        takenDown s publicationId := by
  cases hget : s.publications.get publicationId with
  | none => simp [takenDown, hget]
  | some publication =>
    cases hup : publication.availability <;> simp [takenDown, hget, hup, availabilityName]

/-! ## Numbers -/

theorem toDouble_of_lt {n : Nat} (h : n < 2 ^ 53) : toDouble n = n := if_pos h

theorem le_toDouble {n : Nat} (h : 2 ^ 53 ≤ n) : 2 ^ 53 ≤ toDouble n := by
  have hlog : 53 ≤ n.log2 := (Nat.le_log2 (by omega)).mpr h
  have hscale : 2 ^ n.log2 = 2 ^ 52 * 2 ^ (n.log2 - 52) := by
    rw [← Nat.pow_add]
    congr 1
    omega
  have hbelow : 2 ^ 52 ≤ n / 2 ^ (n.log2 - 52) := by
    rw [Nat.le_div_iff_mul_le (Nat.two_pow_pos _), ← hscale]
    exact Nat.log2_self_le (by omega)
  have hunit : 2 ≤ 2 ^ (n.log2 - 52) := by
    calc 2 = 2 ^ 1 := rfl
      _ ≤ 2 ^ (n.log2 - 52) := Nat.pow_le_pow_right (by decide) (by omega)
  have hproduct : 2 ^ 53 ≤ n / 2 ^ (n.log2 - 52) * 2 ^ (n.log2 - 52) :=
    calc 2 ^ 53 = 2 ^ 52 * 2 := by decide
      _ ≤ n / 2 ^ (n.log2 - 52) * 2 ^ (n.log2 - 52) := Nat.mul_le_mul hbelow hunit
  rw [toDouble, if_neg (by omega)]
  dsimp only
  split
  · exact hproduct.trans (Nat.mul_le_mul_right _ (Nat.le_succ _))
  · exact hproduct

theorem toDouble_eq_of_lt {n : Nat} (h : toDouble n < 2 ^ 53) : toDouble n = n := by
  apply toDouble_of_lt
  by_contra hle
  exact absurd (le_toDouble (Nat.not_lt.mp hle)) (Nat.not_le.mpr h)

/-- The service's expiry checks, on the exact value of the text. -/
theorem expiry_iff {n now : Nat} (hnow : now ≤ maxTimeMs) :
    (¬ toDouble n ≤ now ∧ ¬ toDouble (toDouble n - now) > maxRefundSignatureTtlMs) ↔
      now < n ∧ n ≤ now + maxRefundSignatureTtlMs := by
  simp only [maxTimeMs, maxRefundSignatureTtlMs] at hnow ⊢
  constructor
  · rintro ⟨hlive, hnear⟩
    have hgap : toDouble (toDouble n - now) = toDouble n - now := by
      apply toDouble_eq_of_lt
      omega
    have hexact : toDouble n = n := by
      apply toDouble_eq_of_lt
      omega
    omega
  · rintro ⟨hlive, hnear⟩
    have hexact : toDouble n = n := toDouble_of_lt (by omega)
    rw [hexact, toDouble_of_lt (n := n - now) (by omega)]
    omega

theorem number_decimal (n : Nat) : number (decimal n) = toDouble n := by
  have htext : (decimal n).toList = Nat.toDigits 10 n := by
    rw [decimal, Nat.repr_eq_ofList_toDigits, String.toList_ofList]
  rw [number, htext]
  exact congrArg toDouble Nat.ofDigitChars_ten_toDigits

/-! ## Requests -/

/-- What the format checks of a request guarantee. -/
structure RefundRequestInput.WellFormed (input : RefundRequestInput) : Prop where
  ticketId : isHexText 64 input.ticketId = true
  refundTo : isAccountId input.refundTo = true
  expiresAtMs : isPositiveDecimal 15 input.expiresAtMs = true
  signature : isSignature input.signature = true

theorem textField_ok {body : List (String × Json)} {field text : String} {format : String → Bool}
    (h : textField body field format = .ok text) : format text = true := by
  unfold textField at h
  split at h
  · next value _ =>
      rcases ite_eq_ok.mp h with ⟨hformat, h⟩ | ⟨-, h⟩
      · cases ok_eq_ok.mp h
        exact hformat
      · cases h
  · cases h

theorem parseRefundRequest_ok {body : List (String × Json)} {input : RefundRequestInput}
    (h : parseRefundRequest body = .ok input) : input.WellFormed := by
  simp only [parseRefundRequest, bind_eq_ok, pure_eq_ok] at h
  obtain ⟨_, -, _, hticket, _, hrefund, _, hexpires, _, hsignature, _, -, rfl⟩ := h
  exact ⟨textField_ok hticket, textField_ok hrefund, textField_ok hexpires, textField_ok hsignature⟩

/-- The value of the expiry text. -/
def RefundRequestInput.expires (input : RefundRequestInput) : Nat :=
  digitsValue input.expiresAtMs.toList

section Signature

variable {text : String}

theorem padded_of_isSignature (h : isSignature text = true) : Base64.Padded text := by
  simp only [isSignature, Bool.and_eq_true, decide_eq_true_eq, List.all_eq_true] at h
  obtain ⟨⟨hlength, hpadding⟩, hbody⟩ := h
  refine ⟨by rw [hlength], ?_⟩
  intro c hc
  rw [← List.take_append_drop 86 text.toList, hpadding] at hc
  rcases List.mem_append.mp hc with hc | hc
  · have hsextet := hbody c hc
    cases hspace : Base64.isAsciiSpace c with
    | false => rfl
    | true =>
      simp only [Base64.isAsciiSpace, Bool.or_eq_true, beq_iff_eq] at hspace
      rcases hspace with (((rfl | rfl) | rfl) | rfl) | rfl <;> cases hsextet
  · simp only [List.mem_cons, List.not_mem_nil, or_false, or_self] at hc
    rw [hc]
    decide

/-- A signature text decodes to 64 bytes. -/
theorem forgivingDecode_of_isSignature (h : isSignature text = true) :
    ∃ bytes, Base64.forgivingDecode text = some bytes ∧ bytes.length = 64 := by
  have hpadded := padded_of_isSignature h
  simp only [isSignature, Bool.and_eq_true, decide_eq_true_eq, List.all_eq_true] at h
  obtain ⟨⟨hlength, hpadding⟩, hbody⟩ := h
  have hdrop : Base64.dropPadding text.toList = text.toList.take 86 := by
    have hsuffix : (['=', '='].isSuffixOf text.toList) = true := by
      rw [List.isSuffixOf_iff_suffix, ← hpadding]
      exact List.drop_suffix _ _
    rw [Base64.dropPadding, if_pos hsuffix, hlength]
  obtain ⟨sextets, hsextets, hcount⟩ := Base64.mapM_sextet hbody
  rw [List.length_take, hlength] at hcount
  obtain ⟨decoded, hdecoded⟩ := Base64.groups_isSome sextets (by omega)
  refine ⟨decoded.1, ?_, ?_⟩
  · rw [Base64.forgivingDecode_of_padded hpadded, hdrop, Base64.decodeBody, hsextets]
    simp [hdecoded]
  · rw [Base64.groups_length hdecoded, hcount]
    decide

end Signature

/-! ## A request that can be refunded -/

/-- The deployment the service is configured for, and the libraries outside the repository: the
contract's base64 engine is the strict standard one, and the service's key library verifies as the
host does under a canonical key text. -/
structure Serves (config : PaymentConfig) (verify : String → Bytes → Bytes → Option Bool)
    (host : Host) : Prop where
  contractId : host.currentAccountId = config.marketContractId
  network : ∀ ctx, networkId ⟨host, ctx⟩ = .ok config.network
  base64 : host.base64Decode = Base64.standardDecode
  keys : ∀ text key, parseEd25519Key host text = .ok key → ∀ message signature,
    signature.length = 64 →
      verify text message signature = some (host.ed25519Verify signature message key)

/-- What both sides check of the ticket, the clock and the bytes of the signature. -/
structure Refundable (host : Host) (config : PaymentConfig) (s : Contract) (now : Nat)
    (input : RefundRequestInput) (ticket : Ticket) : Prop where
  stored : s.tickets.get input.ticketId = some ticket
  inEscrow : ticket.InEscrow
  window : takenDown s ticket.publicationId = true ∨ now < ticket.purchasedAtMs + escrowReleaseMs
  live : now < input.expires
  near : input.expires ≤ now + MarketV2.maxRefundSignatureTtlMs
  signed : ∃ key signature, parseEd25519Key host ticket.ticketPublicKey = .ok key ∧
    Base64.forgivingDecode input.signature = some signature ∧
    host.ed25519Verify signature (utf8 (refundMessage ⟨config.network, config.marketContractId, now⟩
      input.ticketId input.expiresAtMs input.refundTo)) key = true

/-- What a reachable state says about its tickets. -/
structure TicketFacts (host : Host) (s : Contract) (now : Nat) : Prop where
  id : ∀ k ticket, s.tickets.get k = some ticket → ticket.ticketId = k
  key : ∀ k ticket, s.tickets.get k = some ticket →
    ∃ key, parseEd25519Key host ticket.ticketPublicKey = .ok key
  purchased : ∀ k ticket, s.tickets.get k = some ticket → ticket.purchasedAtMs ≤ now
  covered : ∀ k ticket, s.tickets.get k = some ticket → ticket.InEscrow →
    ticket.grossUsdcMicro ≤ s.escrowBalance

section Intake

variable {host : Host} {config : PaymentConfig} {verify : String → Bytes → Bytes → Option Bool}
  {s : Contract} {input : RefundRequestInput} {now : Nat}

/-- The service's window check, on the exact purchase time. -/
theorem window_iff {purchased : Nat} (hpurchased : purchased ≤ now) (hnow : now ≤ maxTimeMs) :
    ¬ toDouble (number (decimal purchased) + refundWindowMs) ≤ now ↔
      now < purchased + escrowReleaseMs := by
  simp only [maxTimeMs] at hnow
  rw [number_decimal, toDouble_of_lt (n := purchased) (by omega),
    toDouble_of_lt (by simp only [refundWindowMs]; omega)]
  exact Nat.not_le

/-- The service accepts exactly the requests that can be refunded. -/
theorem verifyRefundRequest_iff (hserves : Serves config verify host)
    (hfacts : TicketFacts host s now) (hinput : input.WellFormed) (hnow : now ≤ maxTimeMs) :
    (∃ r, verifyRefundRequest verify (marketView s) input
      ⟨config.network, config.marketContractId, now⟩ = .ok r) ↔
        ∃ ticket, Refundable host config s now input ticket := by
  obtain ⟨signature, hdecode, hlength⟩ := forgivingDecode_of_isSignature hinput.signature
  have hverify (ticket : Ticket) (key message : Bytes)
      (hkey : parseEd25519Key host ticket.ticketPublicKey = .ok key) :
      ((Base64.forgivingDecode input.signature).bind fun signature =>
        verify ticket.ticketPublicKey message signature).getD false =
          host.ed25519Verify signature message key := by
    rw [hdecode]
    show (verify ticket.ticketPublicKey message signature).getD false = _
    rw [hserves.keys _ key hkey message signature hlength]
    rfl
  have hwindow (ticket : Ticket) (hget : s.tickets.get input.ticketId = some ticket) :
      (∀ closes, (if takenDown s ticket.publicationId then none
        else some (toDouble (number (decimal ticket.purchasedAtMs) + refundWindowMs))) =
          some closes → ¬ closes ≤ now) ↔
        takenDown s ticket.publicationId = true ∨
          now < ticket.purchasedAtMs + escrowReleaseMs := by
    rw [← window_iff (hfacts.purchased _ ticket hget) hnow]
    cases takenDown s ticket.publicationId <;> simp
  simp only [verifyRefundRequest, marketView, ok_bind, bind_eq_ok, require_eq_ok, expect_eq_ok,
    pure_eq_ok, checkSome_eq_ok, Option.filter_eq_some_iff, Option.map_eq_some_iff]
  constructor
  · rintro ⟨_, _, hlive, _, hnear, _, ⟨⟨ticket, hget, rfl⟩, -⟩, _, hrail, _, hstatus, _, hcloses, _,
      hvalid, -⟩
    obtain ⟨key, hkey⟩ := hfacts.key _ ticket hget
    obtain ⟨hafter, hbefore⟩ := (expiry_iff hnow).mp ⟨hlive, hnear⟩
    refine ⟨ticket, hget, ⟨railName_eq_crypto.mp hrail, statusName_eq.mp hstatus⟩, ?_, hafter,
      hbefore, key, signature, hkey, hdecode, ?_⟩
    · apply (hwindow ticket hget).mp
      rw [← availability_takedown]
      exact hcloses
    · rw [← hverify ticket key _ hkey]
      exact hvalid
  · rintro ⟨ticket, h⟩
    obtain ⟨key, signature', hkey, hdecode', hsigned⟩ := h.signed
    obtain rfl := Option.some.inj (hdecode.symm.trans hdecode')
    obtain ⟨hlive, hnear⟩ := (expiry_iff hnow).mpr ⟨h.live, h.near⟩
    refine ⟨_, ⟨⟩, hlive, ⟨⟩, hnear, _, ⟨⟨ticket, h.stored, rfl⟩, ?_⟩, ⟨⟩,
      railName_eq_crypto.mpr h.inEscrow.1, ⟨⟩, statusName_eq.mpr h.inEscrow.2, ⟨⟩, ?_, ⟨⟩, ?_, rfl⟩
    · exact decide_eq_true (hfacts.id _ ticket h.stored)
    · have hopen := (hwindow ticket h.stored).mpr h.window
      rw [← availability_takedown] at hopen
      exact hopen
    · exact (hverify ticket key _ hkey).trans hsigned

/-- The call the payment operator sends for the stored request. -/
def submission (input : RefundRequestInput) : MarketV2.Call :=
  let row := storedRow input
  .refundTicket row.ticketId row.refundTo (decimal row.expiresAtMs) row.signature

/-- A context of the payment operator. -/
structure ByOperator (s : Contract) (ctx : Context) (now : Nat) : Prop where
  predecessor : ctx.predecessorAccountId = s.paymentOperatorId
  deposit : ctx.attachedDeposit = 0
  now : ctx.blockTimestampMs = now

theorem ttl_eq : MarketV2.maxRefundSignatureTtlMs = maxRefundSignatureTtlMs := rfl

/-- The stored expiry of a request that is not too far ahead is spelled as the buyer signed it. -/
theorem decimal_number (hinput : input.WellFormed) (hnow : now ≤ maxTimeMs)
    (hnear : input.expires ≤ now + maxRefundSignatureTtlMs) :
    number input.expiresAtMs = input.expires ∧
      decimal (number input.expiresAtMs) = input.expiresAtMs := by
  have hbound : input.expires < 2 ^ 53 := by
    simp only [maxTimeMs, maxRefundSignatureTtlMs] at hnow hnear
    omega
  have hexact : number input.expiresAtMs = input.expires := toDouble_of_lt hbound
  exact ⟨hexact, hexact ▸ decimal_digitsValue hinput.expiresAtMs⟩

/-- The contract's expiry check of the stored value. -/
theorem parseSignatureExpiryWithin_stored {expires : Nat} (hnow : now ≤ maxTimeMs)
    (h : parseSignatureExpiryWithin (decimal (number input.expiresAtMs)) now
      MarketV2.maxRefundSignatureTtlMs = .ok expires) :
    now < input.expires ∧ input.expires ≤ now + maxRefundSignatureTtlMs := by
  simp only [parseSignatureExpiryWithin, bind_eq_ok, require_eq_ok, pure_eq_ok] at h
  obtain ⟨parsed, hparse, _, hlive, _, hnear, rfl⟩ := h
  obtain rfl := decimal_injective (parseCanonicalDecimal_ok hparse).1
  apply (expiry_iff hnow).mp
  change number input.expiresAtMs > now at hlive
  change number input.expiresAtMs - now ≤ MarketV2.maxRefundSignatureTtlMs at hnear
  have hgap : toDouble (number input.expiresAtMs - now) = number input.expiresAtMs - now := by
    apply toDouble_of_lt
    simp only [MarketV2.maxRefundSignatureTtlMs] at hnear
    omega
  exact ⟨Nat.not_le.mpr hlive, Nat.not_lt.mpr (hgap.trans_le hnear)⟩

theorem parseSignatureExpiryWithin_live (hinput : input.WellFormed) (hnow : now ≤ maxTimeMs)
    (hlive : now < input.expires) (hnear : input.expires ≤ now + maxRefundSignatureTtlMs) :
    parseSignatureExpiryWithin (decimal (number input.expiresAtMs)) now
      MarketV2.maxRefundSignatureTtlMs = .ok input.expires := by
  obtain ⟨hexact, -⟩ := decimal_number hinput hnow hnear
  have hbound : input.expires < 2 ^ 53 := by
    simp only [maxTimeMs, maxRefundSignatureTtlMs] at hnow hnear
    omega
  rw [hexact]
  simp only [parseSignatureExpiryWithin, parseCanonicalDecimal, bind_eq_ok, expect_eq_ok,
    require_eq_ok, pure_eq_ok]
  refine ⟨_, ⟨_, parseUnsigned_decimal (by omega), ⟨⟩, ⟨rfl, ?_⟩, rfl⟩, ⟨⟩, hlive, ⟨⟩, ?_, rfl⟩
  · simp only [maxOf]
    omega
  · rw [ttl_eq]
    omega

/-- The message both sides verify. -/
theorem refundMessage_eq (hserves : Serves config verify host) (now : Nat) :
    joinLines [MarketV2.ticketSignatureDomain, config.network, host.currentAccountId,
      "refund_ticket", input.ticketId, input.expiresAtMs, input.refundTo] =
        refundMessage ⟨config.network, config.marketContractId, now⟩ input.ticketId
          input.expiresAtMs input.refundTo := by
  rw [hserves.contractId]
  rfl

/-- What passes the contract could be refunded, was signed in canonical base64, and was not stopped by
the purchase pause. -/
theorem refundTicket_refundable (hserves : Serves config verify host) (hinput : input.WellFormed)
    (hnow : now ≤ maxTimeMs) {ctx : Context} (hctx : ByOperator s ctx now) {o : Outcome Unit}
    (h : (submission input).run ⟨host, ctx⟩ s = .ok o) :
    ∃ ticket, Refundable host config s now input ticket ∧ Base64.Canonical input.signature ∧
      (takenDown s ticket.publicationId = true ∨ newPurchasesPaused s = false) := by
  obtain ⟨_, -, hbody⟩ := bind_eq_ok.mp h
  change refundTicket ⟨host, ctx⟩ s input.ticketId input.refundTo
    (decimal (number input.expiresAtMs)) input.signature = .ok o at hbody
  simp only [refundTicket, bind_eq_ok, expect_eq_ok, require_eq_ok, checkWhen_eq_ok] at hbody
  obtain ⟨ticket, hget, _, hescrow, _, -, _, hpaused, _, hwindow, expires, hexpires, network,
    hnetwork, message, hmessage, key, hkey, _, hverified, -⟩ := hbody
  rw [show ctx.blockTimestampMs = now from hctx.now] at hexpires
  obtain ⟨hlive, hnear⟩ := parseSignatureExpiryWithin_stored hnow hexpires
  obtain ⟨-, htext⟩ := decimal_number hinput hnow hnear
  obtain rfl := Except.ok.inj ((hserves.network ctx).symm.trans hnetwork)
  obtain ⟨-, hjoin⟩ := signedLines_ok hmessage
  obtain ⟨signature, hdecode, hsigned⟩ := verifyEd25519_ok hverified
  rw [show host.base64Decode = _ from hserves.base64,
    Base64.standardDecode_eq_some (padded_of_isSignature hinput.signature)] at hdecode
  rw [htext, refundMessage_eq hserves now] at hjoin
  refine ⟨ticket, ⟨hget, hescrow, ?_, hlive, hnear, key, signature, hkey, hdecode.1, ?_⟩, hdecode.2,
    hpaused⟩
  · cases htaken : takenDown s ticket.publicationId with
    | true => exact .inl rfl
    | false =>
      obtain ⟨closes, hcloses, hopen⟩ := hwindow htaken
      obtain ⟨-, rfl⟩ := checkedAdd_eq_ok.mp hcloses
      rw [show ctx.blockTimestampMs = now from hctx.now] at hopen
      exact .inr hopen
  · rw [hjoin]
    exact hsigned

/-- The signed fields are single lines. -/
theorem isLine_fields (hinput : input.WellFormed) (hcontract : isAccountId config.marketContractId = true)
    (hnetwork : config.network = "testnet") (hserves : Serves config verify host) :
    ∀ field ∈ [MarketV2.ticketSignatureDomain, config.network, host.currentAccountId,
      "refund_ticket", input.ticketId, input.expiresAtMs, input.refundTo], IsLine field := by
  have hdomain : IsLine MarketV2.ticketSignatureDomain := by decide
  have hname : IsLine "refund_ticket" := by decide
  have htestnet : IsLine config.network := by
    rw [hnetwork]
    decide
  simp only [List.forall_mem_cons]
  refine ⟨hdomain, htestnet, ?_, hname, isLine_of_isHexText (by decide) hinput.ticketId,
    isLine_of_isPositiveDecimal hinput.expiresAtMs, isLine_of_isAccountId hinput.refundTo, ?_⟩
  · rw [hserves.contractId]
    exact isLine_of_isAccountId hcontract
  · intro field hfield
    cases hfield

theorem usdcContractId_of_networkId {env : MarketV2.Env} {network : String}
    (h : networkId env = .ok network) : ∃ usdc, usdcContractId env = .ok usdc := by
  unfold networkId at h
  unfold usdcContractId
  by_cases htestnet : endsWith env.currentAccountId ".testnet" = true
  · exact ⟨_, if_pos htestnet⟩
  · by_cases hnear : endsWith env.currentAccountId ".near" = true
    · exact ⟨_, (if_neg htestnet).trans (if_pos hnear)⟩
    · rw [if_neg htestnet, if_neg hnear] at h
      cases h

/-- What could be refunded and is signed in canonical base64 passes the contract, unless purchases
are paused. -/
theorem refundTicket_passes (hserves : Serves config verify host)
    (hcontract : isAccountId config.marketContractId = true) (hnetwork : config.network = "testnet")
    (hinput : input.WellFormed) (hfacts : TicketFacts host s now) (hnow : now ≤ maxTimeMs)
    {ctx : Context} (hctx : ByOperator s ctx now) {ticket : Ticket}
    (h : Refundable host config s now input ticket) (hcanonical : Base64.Canonical input.signature)
    (hpaused : takenDown s ticket.publicationId = true ∨ newPurchasesPaused s = false) :
    ∃ o, (submission input).run ⟨host, ctx⟩ s = .ok o := by
  obtain ⟨key, signature, hkey, hdecode, hsigned⟩ := h.signed
  obtain ⟨_, hdecode', hlength⟩ := forgivingDecode_of_isSignature hinput.signature
  obtain rfl := Option.some.inj (hdecode.symm.trans hdecode')
  obtain ⟨-, htext⟩ := decimal_number hinput hnow h.near
  have hexpires := parseSignatureExpiryWithin_live hinput hnow h.live h.near
  have hstrict : host.base64Decode input.signature = some signature := by
    rw [hserves.base64]
    exact (Base64.standardDecode_eq_some (padded_of_isSignature hinput.signature)).mpr
      ⟨hdecode, hcanonical⟩
  obtain ⟨usdc, husdc⟩ := usdcContractId_of_networkId (hserves.network ctx)
  have hwindow : takenDown s ticket.publicationId = false →
      ∃ closes, checkedAdd 64 ticket.purchasedAtMs escrowReleaseMs "Time overflow" = .ok closes ∧
        ctx.blockTimestampMs < closes := by
    intro htaken
    have hpurchased := hfacts.purchased _ ticket h.stored
    refine ⟨_, checkedAdd_eq_ok.mpr ⟨?_, rfl⟩, ?_⟩
    · simp only [maxTimeMs, escrowReleaseMs, maxOf] at hnow ⊢
      omega
    · rw [hctx.now]
      exact h.window.resolve_left (by rw [htaken]; decide)
  have hmessage : signedLines [MarketV2.ticketSignatureDomain, config.network,
      host.currentAccountId, "refund_ticket", input.ticketId, input.expiresAtMs, input.refundTo] =
        .ok (refundMessage ⟨config.network, config.marketContractId, now⟩ input.ticketId
          input.expiresAtMs input.refundTo) := by
    simp only [signedLines, bind_eq_ok, require_eq_ok, pure_eq_ok]
    exact ⟨⟨⟩, isLine_fields hinput hcontract hnetwork hserves, refundMessage_eq hserves _⟩
  have hverified : verifyEd25519 host input.signature (refundMessage
      ⟨config.network, config.marketContractId, now⟩ input.ticketId input.expiresAtMs
        input.refundTo) key "Invalid ticket signature" = .ok ⟨⟩ := by
    simp only [verifyEd25519, bind_eq_ok, expect_eq_ok, require_eq_ok]
    exact ⟨signature, hstrict, ⟨⟩, hlength, hsigned⟩
  have hbody : ∃ o, refundTicket ⟨host, ctx⟩ s input.ticketId input.refundTo
      (decimal (number input.expiresAtMs)) input.signature = .ok o := by
    simp only [refundTicket, bind_eq_ok, expect_eq_ok, require_eq_ok, checkWhen_eq_ok, pure_eq_ok,
      checkedSub_eq_ok]
    rw [hctx.now] at hwindow ⊢
    rw [htext] at hexpires ⊢
    exact ⟨_, ticket, h.stored, ⟨⟩, h.inEscrow, ⟨⟩, .inr hctx.predecessor, ⟨⟩, hpaused, ⟨⟩,
      hwindow, _, hexpires, _, hserves.network ctx, _, hmessage, key, hkey, _, hverified, _,
      ⟨hfacts.covered _ ticket h.stored h.inEscrow, rfl⟩, usdc, husdc, rfl⟩
  obtain ⟨o, hrefund⟩ := hbody
  exact ⟨o, bind_eq_ok.mpr ⟨⟨⟩, require_eq_ok.mpr (.inr hctx.deposit), hrefund⟩⟩

/-- Before a takedown the purchase pause stops a refund that could be made otherwise. -/
theorem refundTicket_paused {ctx : Context} (hctx : ByOperator s ctx now) {ticket : Ticket}
    (h : Refundable host config s now input ticket)
    (htaken : takenDown s ticket.publicationId = false) (hpaused : newPurchasesPaused s = true) :
    (submission input).run ⟨host, ctx⟩ s = .error "New purchases are paused" := by
  have hdeposit : (submission input).payable = true ∨ ctx.attachedDeposit = 0 :=
    .inr hctx.deposit
  show (require _ _ >>= fun _ => refundTicket ⟨host, ctx⟩ s input.ticketId input.refundTo
    (decimal (number input.expiresAtMs)) input.signature) = _
  rw [require, if_pos hdeposit]
  simp [refundTicket, expect, require, h.stored, h.inEscrow, htaken, hpaused, hctx.predecessor,
    bind, Except.bind]

end Intake

/-! ## Reachable states -/

section Reachable

variable {host : Host} {w₀ w w' : MarketV2.World} {l : Label}
  {tr : List (Transition MarketV2.World Label)}

/-- No ticket was bought in the future. -/
def Dated (w : MarketV2.World) : Prop :=
  ∀ k ticket, w.ticket k = some ticket → ticket.purchasedAtMs ≤ w.now

theorem Dated.step (hsound : w.Sound) (hw : Dated w) (h : worldStep host w l w') : Dated w' := by
  intro k ticket hget
  have hnow : w.now ≤ w'.now := MarketV2.World.step_now h
  rcases hsound.ticket_cases h k with hsame | ⟨ctx, c, new, flow, hchange⟩
  · exact (hw k ticket (hsame ▸ hget)).trans hnow
  · obtain rfl := Option.some.inj (hchange.ticket.symm.trans hget)
    have hstep := hchange.step
    cases hold : w.ticket k with
    | some old =>
      rw [hold] at hstep
      have hterms : new.purchasedAtMs = old.purchasedAtMs :=
        congrArg TicketTerms.purchasedAtMs hstep.terms
      rw [hterms]
      exact (hw k old hold).trans hnow
    | none =>
      rw [hold] at hstep
      rw [hchange.now]
      cases hstep with
      | sold hsale => exact hsale.purchasedAtMs.le
      | issued hissue => exact hissue.purchasedAtMs.le

theorem ticketFacts_of_trace (h₀ : Initial host w₀) (h : Trace (worldStep host) w₀ tr w) {now : Nat}
    (hnow : w.now ≤ now) : TicketFacts host w.contract now := by
  obtain ⟨hsound, hreferenced⟩ := referenced_of_trace h₀ h
  have hdated : Dated w := by
    have hfresh : Dated w₀ := by
      intro k ticket hget
      rw [MarketV2.World.ticket, h₀.fresh.1.tickets, LookupMap.get_empty] at hget
      cases hget
    exact (h.invariant (I := fun w => w.Sound ∧ Dated w)
      (fun _ _ _ hw hst => ⟨hw.1.step hst, hw.2.step hw.1 hst⟩) ⟨h₀.sound, hfresh⟩).2
  constructor
  · exact hsound.books.keyed
  · intro k ticket hget
    obtain ⟨key, hkey, -⟩ := hreferenced.keyed k ticket hget
    exact ⟨key, hkey⟩
  · intro k ticket hget
    exact (hdated k ticket hget).trans hnow
  · intro k ticket hget hescrow
    exact hsound.books.covered hget hescrow

end Reachable

/-! ## A refund request -/

namespace Vectors

/-- The host of the Market's vectors, with the real base64 decoder. -/
def host : Host := { MarketV2.Vectors.host with base64Decode := Base64.standardDecode }

/-- A key library that verifies as the host does. -/
def verify (text : String) (message signature : Bytes) : Option Bool :=
  match parseEd25519Key host text with
  | .ok key => some (host.ed25519Verify signature message key)
  | .error _ => none

theorem serves : Serves config verify host where
  contractId := rfl
  network _ := by
    have htestnet : endsWith MarketV2.Vectors.contractId ".testnet" = true := by decide +kernel
    exact if_pos htestnet
  base64 := rfl
  keys text key hkey message signature _ := by
    simp [verify, hkey]

/-- The refund of the vectors as a request, with the given signature text. -/
def request (signature : String) : List (String × Json) :=
  [("ticket_id", .str MarketV2.Vectors.ticketId), ("refund_to", .str MarketV2.Vectors.buyerId),
    ("expires_at_ms", .str MarketV2.Vectors.expiresAtMs), ("signature", .str signature),
    ("reason", .str "The video stops after a minute.")]

def input (signature : String) : RefundRequestInput where
  ticketId := MarketV2.Vectors.ticketId
  refundTo := MarketV2.Vectors.buyerId
  expiresAtMs := MarketV2.Vectors.expiresAtMs
  signature := signature
  reason := "The video stops after a minute."

/-- The vector's signature with an unused bit set. -/
def looseSignature : String :=
  "yUfoM4nu54pft92VVgZOhqhh2o8a1Uv9Cb8ZB9oF8gZmyDbIoC/63w/k2dXxhzdobNyU8bNCf7vkxk3EQoJiAx=="

theorem parse_canonical : parseRefundRequest (request MarketV2.Vectors.refundSignature.base64) =
    .ok (input MarketV2.Vectors.refundSignature.base64) := by
  decide +kernel

theorem parse_loose : parseRefundRequest (request looseSignature) = .ok (input looseSignature) := by
  decide +kernel

def operator : Context :=
  MarketV2.Vectors.context MarketV2.Vectors.config.paymentOperatorId MarketV2.Vectors.issuedAtMs

/-- How a call was refused. -/
def refusal {α : Type} : Result α → String
  | .ok _ => "accepted"
  | .error e => e

/-- After the sale: the operator, the ticket, and both answers to the loose signature. -/
theorem sale_run : (MarketV2.Vectors.worldRun host MarketV2.Vectors.sale).map (fun r =>
    (decide (r.2.now ≤ MarketV2.Vectors.issuedAtMs),
      decide (r.2.contract.paymentOperatorId = MarketV2.Vectors.config.paymentOperatorId),
      (r.2.ticket MarketV2.Vectors.ticketId).isSome,
      (verifyRefundRequest verify (marketView r.2.contract) (input looseSignature)
        ⟨"testnet", MarketV2.Vectors.contractId, MarketV2.Vectors.issuedAtMs⟩).toOption.isSome,
      refusal ((submission (input looseSignature)).run ⟨host, operator⟩ r.2.contract))) =
    some (true, true, true, true, "Invalid ticket signature") := by
  decide +kernel

end Vectors

/-! ## Agreement -/

/-- The contract's refusals for status, rail, refund window, signature expiry and signature. -/
def refundRefusals : List String :=
  ["Only crypto tickets still in escrow can be refunded", "Refund window has closed",
    "Signature expired", "Signature expiry is too far ahead", "Invalid ticket signature"]

/-- What the service accepts passes the contract or is stopped by the purchase pause before a
takedown; what the contract refuses for the ticket or the signature the service refuses; and what
passes the contract the service accepts. -/
structure IntakeAgrees (verify : String → Bytes → Bytes → Option Bool) (config : PaymentConfig)
    (env : MarketV2.Env) (s : Contract) (input : RefundRequestInput) : Prop where
  accepted : ∀ r, verifyRefundRequest verify (marketView s) input
      ⟨config.network, config.marketContractId, env.blockTimestampMs⟩ = .ok r →
    (∃ o, (submission input).run env s = .ok o) ∨
      (newPurchasesPaused s = true ∧ ∀ ticket, s.tickets.get input.ticketId = some ticket →
        takenDown s ticket.publicationId = false)
  rejected : ∀ e ∈ refundRefusals, (submission input).run env s = .error e →
    ¬ ∃ r, verifyRefundRequest verify (marketView s) input
      ⟨config.network, config.marketContractId, env.blockTimestampMs⟩ = .ok r
  passed : (∃ o, (submission input).run env s = .ok o) →
    ∃ r, verifyRefundRequest verify (marketView s) input
      ⟨config.network, config.marketContractId, env.blockTimestampMs⟩ = .ok r

end Youtick.PaymentService
