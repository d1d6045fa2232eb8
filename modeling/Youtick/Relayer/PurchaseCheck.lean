import Youtick.Relayer.Agreement

/-!
# Relayer: the purchase check and the contract

What the relayer accepts as a purchase meets every condition `buy_ticket_v2` puts on the message, the
signatures and the publication (`Checked`). Three conditions the relayer does not check stay: the
attested VAT against the cap, the escrow counter, and the storage runway with the ticket stored. They
are `Fits`, and with them the contract keeps the money (`purchase_kept_iff`).
-/

set_option autoImplicit false

namespace Youtick.Relayer

open Youtick.Lib Youtick.MarketV2 Youtick.PaymentService

/-! ## The message on both sides -/

/-- The record of a purchase whose strings are texts. -/
def PurchaseMessage.record? (purchase : PurchaseMessage) : Option PurchaseMessageV2 := do
  let publicationId ← purchase.publicationId.text?
  let ticketPublicKey ← purchase.ticketPublicKey.text?
  let sessionPublicKey ← purchase.device.sessionPublicKey.text?
  let certificateSha256 ← purchase.device.certificateSha256.text?
  let deviceExpiresAtMs ← purchase.device.expiresAtMs.text?
  let deviceSignature ← purchase.device.signature.text?
  let vatUsdcMicro ← purchase.vat.vatUsdcMicro.text?
  let vatExpiresAtMs ← purchase.vat.expiresAtMs.text?
  let keyVersion ← purchase.vat.keyVersion.text?
  let vatSignature ← purchase.vat.signature.text?
  return {
    action := buyTicketV2Action
    publicationId := publicationId
    ticketPublicKey := ticketPublicKey
    device := {
      sessionPublicKey := sessionPublicKey
      certificateSha256 := certificateSha256
      expiresAtMs := deviceExpiresAtMs
      signature := deviceSignature }
    vat := {
      vatUsdcMicro := vatUsdcMicro
      expiresAtMs := vatExpiresAtMs
      keyVersion := keyVersion
      signature := vatSignature } }

/-- The contract's JSON reader takes the compact text of a purchase object as the record of its
properties. -/
def ReadsPurchase (platform : Platform) (host : Host) (msg : String) : Prop :=
  ∀ value purchase record, platform.jsonParse msg = some value → value.stringify = msg →
    purchaseOf value = some purchase → purchase.record? = some record →
      host.actionProbeOfJson msg = some (some buyTicketV2Action) ∧
        host.purchaseMessageOfJson msg = some record

/-- The text of an object starts with a brace. -/
theorem toList_stringify_object (fields : List (JsString × JsValue)) :
    (JsValue.object fields).stringify.toList =
      Char.ofNat 0x7b :: (JsValue.charsOfFields fields ++ [Char.ofNat 0x7d]) := by
  rw [JsValue.stringify, String.toList_ofList, JsValue.chars, List.cons_append]

/-- So it is no compact upload. -/
theorem stringify_not_compact (value : JsValue) {fields : List (JsString × JsValue)}
    (h : value.fields? = some fields) : startsWith value.stringify "yt:u1:" = false := by
  cases value with
  | object fields =>
    rw [startsWith, toList_stringify_object]
    rfl
  | null | bool _ | number _ | string _ | array _ => cases h

/-! ## What an accepted purchase meets -/

/-- The conditions of `buy_ticket_v2` that the relayer checks as well, for the stored VAT key
`vatKey` of the message's key version. -/
structure Checked (env : MarketV2.Env) (s : Contract) (amount : Nat) (purchase : PurchaseMessageV2)
    (ticketId network : String) (ticketKey vatKey : Bytes) (publication : Publication) : Prop where
  action : purchase.action = buyTicketV2Action
  identifier : assertIdentifier "publication_id" purchase.publicationId = .ok ⟨⟩
  parsedKey : parseEd25519Key env.toHost purchase.ticketPublicKey = .ok ticketKey
  hashed : hexSha256 env.toHost ticketKey = ticketId
  sessionKey : ∃ key, parseEd25519Key env.toHost purchase.device.sessionPublicKey = .ok key
  certificate : assertSha256 "certificate_sha256" purchase.device.certificateSha256 = .ok ⟨⟩
  deviceExpires : ∃ expires,
    parseSignatureExpiry purchase.device.expiresAtMs env.blockTimestampMs = .ok expires
  vatExpires : ∃ expires,
    parseSignatureExpiry purchase.vat.expiresAtMs env.blockTimestampMs = .ok expires
  vat : isDecimal 38 purchase.vat.vatUsdcMicro = true
  keyVersion : parseCanonicalDecimal "key_version" purchase.vat.keyVersion (maxOf 32) =
    .ok (digitsValue purchase.vat.keyVersion.toList)
  notPaused : newPurchasesPaused s = false
  beta : s.publicTestnetBeta = none ∨ activePublicTestnetBeta env s ≠ none
  published : s.publications.get purchase.publicationId = some publication
  active : publication.availability = .active
  price : amount = publication.priceUsdc
  minimum : MarketV2.minTicketPriceUsdc ≤ amount
  fresh : s.tickets.get ticketId = none
  networkId : networkId env = .ok network
  deviceLines : MarketV2.signedLines (purchaseDeviceLines network env.currentAccountId ticketId
    purchase) = .ok (joinLines (purchaseDeviceLines network env.currentAccountId ticketId purchase))
  deviceSigned : MarketV2.verifyEd25519 env.toHost purchase.device.signature
    (joinLines (purchaseDeviceLines network env.currentAccountId ticketId purchase)) ticketKey
      "Invalid ticket signature" = .ok ⟨⟩
  storedVatKey : s.vatKeys.get (digitsValue purchase.vat.keyVersion.toList) = some vatKey
  vatKeyLength : vatKey.length = 32
  vatLines : MarketV2.signedLines (vatLines network env.currentAccountId ticketId amount purchase) =
    .ok (joinLines (vatLines network env.currentAccountId ticketId amount purchase))
  vatSigned : MarketV2.verifyEd25519 env.toHost purchase.vat.signature
    (joinLines (MarketV2.vatLines network env.currentAccountId ticketId amount purchase)) vatKey
      "Invalid VAT attestation" = .ok ⟨⟩

/-- The ticket of the purchase, and the storage with it. -/
def storedTicket (env : MarketV2.Env) (amount : Nat) (purchase : PurchaseMessageV2)
    (ticketId : String) (publication : Publication) : Ticket :=
  let vat := digitsValue purchase.vat.vatUsdcMicro.toList
  let platform := (amount - vat) / platformDivisor
  cryptoTicket env ticketId purchase publication.creatorId amount
    { vat := vat, platform := platform, creator := amount - vat - platform }
    (digitsValue purchase.vat.keyVersion.toList)
    { sessionPublicKey := purchase.device.sessionPublicKey
      certificateSha256 := purchase.device.certificateSha256
      authorizedAtMs := env.blockTimestampMs
      expiresAtMs := env.blockTimestampMs + playbackDeviceLifetimeMs }

def withTicket (env : MarketV2.Env) (s : Contract) (amount : Nat) (purchase : PurchaseMessageV2)
    (ticketId : String) (publication : Publication) : Contract :=
  { s with
    tickets := s.tickets.insert ticketId (storedTicket env amount purchase ticketId publication)
    escrowBalance := s.escrowBalance + amount }

/-- The conditions the relayer does not check. -/
structure Fits (env : MarketV2.Env) (s : Contract) (amount : Nat) (purchase : PurchaseMessageV2)
    (ticketId : String) (publication : Publication) : Prop where
  vat : digitsValue purchase.vat.vatUsdcMicro.toList * (10000 + MarketV2.maxVatRateBps) ≤
    amount * MarketV2.maxVatRateBps
  range : amount * MarketV2.maxVatRateBps ≤ maxOf 128
  escrow : s.escrowBalance + amount ≤ maxOf 128
  runway : assertRunway env (withTicket env s amount purchase ticketId publication)
    publicTestnetBetaEmergencyRunwayBytes = .ok ⟨⟩

/-- The contract keeps the amount and creates the ticket. -/
def Keeps (env : MarketV2.Env) (s : Contract) (senderId : AccountId) (amount : Nat) (msg : String)
    (ticketId : String) : Prop :=
  ∃ o, ftOnTransfer env s senderId amount msg = .ok o ∧ o.value = 0 ∧
    s.tickets.get ticketId = none ∧ ∃ ticket, o.state.tickets.get ticketId = some ticket

/-- The relayer and the contract on one state at one time: the USDC contract calls, and the clock is a
time value of the language. -/
structure Relays (platform : Platform) (env : MarketV2.Env) (s : Contract) : Prop where
  agrees : Agrees platform env.toHost
  vatKeys : ∀ version key, s.vatKeys.get version = some key →
    env.bs58Decode (env.bs58Encode key) = some key
  usdc : usdcContractId env = .ok env.predecessorAccountId
  now : env.blockTimestampMs ≤ maxTimeMs

section Purchase

variable {platform : Platform} {env : MarketV2.Env} {s : Contract} {amount : Nat}

theorem availabilityName_eq_active {availability : PublicationAvailability}
    (h : availabilityName availability = "ACTIVE") : availability = .active := by
  cases availability with
  | active => rfl
  | salesSuspended | takedown => exact absurd h (by decide)

/-- A beta the relayer takes as open is active for the contract. -/
theorem beta_active (hnow : env.blockTimestampMs ≤ maxTimeMs)
    (h : betaOpen (s.publicTestnetBeta.map betaView) env.blockTimestampMs = true) :
    s.publicTestnetBeta = none ∨ activePublicTestnetBeta env s ≠ none := by
  cases hbeta : s.publicTestnetBeta with
  | none => exact .inl rfl
  | some beta =>
    simp only [maxTimeMs] at hnow
    simp only [hbeta, betaOpen, Option.map_some, betaView, Option.isNone_map, Bool.and_eq_true,
      decide_eq_true_eq, number_decimal] at h
    obtain ⟨⟨hopen, -⟩, hends⟩ := h
    have hlive : env.blockTimestampMs < beta.endsAtMs := by
      by_contra hended
      rw [toDouble_of_lt (by omega)] at hends
      exact hended hends
    right
    rw [activePublicTestnetBeta, hbeta, Option.filter_some, if_pos]
    · exact Option.some_ne_none beta
    · rw [hopen, Bool.true_and, decide_eq_true_eq]
      exact hlive

/-- The stored VAT key, from the text the view gives. -/
theorem vatKey_of_view (hagrees : Agrees platform env.toHost) {stored key : Bytes} {code : String}
    (hdecode : env.bs58Decode (env.bs58Encode stored) = some stored)
    (h : ed25519Key platform ("ed25519:" ++ env.bs58Encode stored) code = .ok key) :
    key = stored ∧ stored.length = 32 := by
  have hhead : stripPrefix ("ed25519:" ++ env.bs58Encode stored) "ed25519:" =
      some (env.bs58Encode stored) := by
    simp [stripPrefix, startsWith]
  rw [ed25519Key_eq_ok hagrees] at h
  simp only [parseEd25519Key, bind_eq_ok, expect_eq_ok, require_eq_ok, pure_eq_ok, hhead,
    Option.some.injEq] at h
  obtain ⟨_, rfl, _, hkey, _, hlength, _, -, rfl⟩ := h
  obtain rfl := Option.some.inj (hdecode.symm.trans hkey)
  exact ⟨rfl, hlength⟩

/-- What the relayer accepts meets the contract's conditions, and the contract reads its message as a
purchase. -/
theorem checkPurchaseMessage_ok (hrelays : Relays platform env s) {msg : String}
    (hreads : ReadsPurchase platform env.toHost msg) {checked : CheckedPurchase}
    (h : checkPurchaseMessage platform (marketView env s)
      ⟨env.currentAccountId, decimal amount, msg, env.blockTimestampMs⟩ = .ok checked) :
    ∃ purchase network ticketKey vatKey publication,
      startsWith msg "yt:u1:" = false ∧
      env.actionProbeOfJson msg = some (some buyTicketV2Action) ∧
      env.purchaseMessageOfJson msg = some purchase ∧
      Checked env s amount purchase checked.ticketId network ticketKey vatKey publication := by
  simp only [checkPurchaseMessage, parseMessage, checkPurchase, marketView, bind_eq_ok, expect_eq_ok,
    require_eq_ok, pure_eq_ok, ok_eq_ok, matching_eq_ok, signedLines_eq_ok,
    ed25519Key_eq_ok hrelays.agrees] at h
  obtain ⟨message, ⟨value, hvalue, _, htext, hmessage⟩, publicationId,
    ⟨hpublicationId, hidentifier⟩, certificate, ⟨hcertificate, hhex⟩, vatUsdcMicro,
    ⟨hvatUsdcMicro, hvat⟩, keyVersion, ⟨hkeyVersion, hversion⟩, _, hu32, ticketPublicKey,
    hticketPublicKey, ticketKey, hticketKey, sessionPublicKey, hsessionPublicKey, sessionKey,
    hsessionKey, deviceExpires, hdeviceExpires, _, hdeviceLive, vatExpires, hvatExpires, _,
    hvatLive, h⟩ := h
  obtain ⟨_, rfl, _, rfl, _, rfl, _, rfl, _, rfl, _, ⟨hpaused, hbeta⟩, _, hpublication, _,
    ⟨-, hactive⟩, _, hprice, _, hminimum, _, hfresh, _, hvatKey, network, hnetwork, _,
    ⟨hdeviceLines, rfl⟩, _, ⟨hvatLines, rfl⟩, deviceSignature, hdeviceSignature, _, hdeviceSigned,
    vatSignature, hvatSignature, vatKey, hparsedVatKey, _, hvatSigned, rfl⟩ := h
  obtain ⟨publication, hpublished, rfl⟩ := Option.map_eq_some_iff.mp hpublication
  obtain ⟨stored, hstored, rfl⟩ := Option.map_eq_some_iff.mp hvatKey
  rw [← (ed25519Key_eq_ok hrelays.agrees :
    ed25519Key platform _ "purchase_invalid" = .ok _ ↔ _)] at hparsedVatKey
  obtain ⟨rfl, hlength⟩ :=
    vatKey_of_view hrelays.agrees (hrelays.vatKeys _ _ hstored) hparsedVatKey
  have hexact : number keyVersion = digitsValue keyVersion.toList :=
    toDouble_eq_of_lt (Nat.lt_of_le_of_lt hu32 (by decide))
  rw [hexact] at hu32 hstored
  obtain ⟨hticketLength, -⟩ := parseEd25519Key_ok hticketKey
  obtain ⟨fields, hfields⟩ : ∃ fields, value.fields? = some fields := by
    rw [purchaseOf, Option.bind_eq_bind, Option.bind_eq_some_iff] at hmessage
    exact ⟨_, hmessage.choose_spec.1⟩
  have hrecord : message.record? = some {
      action := buyTicketV2Action
      publicationId := publicationId
      ticketPublicKey := ticketPublicKey
      device := ⟨sessionPublicKey, certificate, deviceExpires, deviceSignature⟩
      vat := ⟨vatUsdcMicro, vatExpires, keyVersion, vatSignature⟩ } := by
    simp [PurchaseMessage.record?, hpublicationId, hticketPublicKey, hsessionPublicKey, hcertificate,
      hdeviceExpires, hdeviceSignature, hvatUsdcMicro, hvatExpires, hkeyVersion, hvatSignature]
  obtain ⟨hprobe, hread⟩ := hreads value message _ hvalue htext hmessage hrecord
  refine ⟨_, network, ticketKey, vatKey, publication, ?_, hprobe, hread, ?_⟩
  · rw [← htext]
    exact stringify_not_compact _ hfields
  · exact {
      action := rfl
      identifier := assertIdentifier_of_isIdentifier hidentifier
      parsedKey := hticketKey
      hashed := by rw [sha256Hex, hrelays.agrees.sha256]; rfl
      sessionKey := ⟨_, hsessionKey⟩
      certificate := assertSha256_of_isHexText hhex
      deviceExpires := ⟨_, parseSignatureExpiry_of_expiry hrelays.now hdeviceLive le_rfl
        (Nat.le_add_right _ _)⟩
      vatExpires := ⟨_, parseSignatureExpiry_of_expiry hrelays.now hvatLive le_rfl
        (Nat.le_add_right _ _)⟩
      vat := hvat
      keyVersion := (parseCanonicalDecimal_eq_ok hversion (by decide)).mpr ⟨rfl, hu32⟩
      notPaused := hpaused
      beta := beta_active hrelays.now hbeta
      published := hpublished
      active := availabilityName_eq_active hactive
      price := (decimal_injective hprice).symm
      minimum := by rw [digitsValue_decimal] at hminimum; exact Nat.not_lt.mp hminimum
      fresh := by
        rw [Option.isNone_map, Option.isNone_iff_eq_none] at hfresh
        exact hfresh
      networkId := networkId_of_networkOf hnetwork
      deviceLines := hdeviceLines
      deviceSigned := verifyEd25519_of_true hrelays.agrees hticketLength hdeviceSigned
      storedVatKey := hstored
      vatKeyLength := hlength
      vatLines := hvatLines
      vatSigned := verifyEd25519_of_true hrelays.agrees hlength hvatSigned }

/-- The message of an accepted purchase reaches `buy_ticket_v2`. -/
theorem ftOnTransfer_purchase_eq (husdc : usdcContractId env = .ok env.predecessorAccountId)
    {msg : String} {purchase : PurchaseMessageV2} (hcompact : startsWith msg "yt:u1:" = false)
    (hprobe : env.actionProbeOfJson msg = some (some buyTicketV2Action))
    (hread : env.purchaseMessageOfJson msg = some purchase) (senderId : AccountId) :
    ftOnTransfer env s senderId amount msg = buyTicketV2 env s amount purchase := by
  have haction : transferAction env.toHost msg = some buyTicketV2Action := by
    rw [transferAction, hprobe]
    rfl
  simp only [ftOnTransfer, husdc, ok_bind, require, if_pos, hcompact, haction, and_self, hread,
    expect]

section Checked

variable {purchase : PurchaseMessageV2} {ticketId network : String} {ticketKey vatKey : Bytes}
  {publication : Publication}

/-- The split of an amount whose VAT is within the cap. -/
theorem splitTicketAmount_eq_ok {vat : Nat} {split : TicketSplit}
    (hamount : MarketV2.minTicketPriceUsdc ≤ amount) :
    splitTicketAmount amount vat = .ok split ↔
      vat * (10000 + MarketV2.maxVatRateBps) ≤ amount * MarketV2.maxVatRateBps ∧
        amount * MarketV2.maxVatRateBps ≤ maxOf 128 ∧
          split = ⟨vat, (amount - vat) / platformDivisor,
            amount - vat - (amount - vat) / platformDivisor⟩ := by
  simp only [splitTicketAmount, bind_eq_ok, require_eq_ok, checkedMul_eq_ok, pure_eq_ok]
  constructor
  · rintro ⟨_, -, _, ⟨-, rfl⟩, _, ⟨hgross, rfl⟩, _, hcap, rfl⟩
    exact ⟨hcap, hgross, rfl⟩
  · rintro ⟨hcap, hgross, rfl⟩
    exact ⟨⟨⟩, hamount, _, ⟨hcap.trans hgross, rfl⟩, _, ⟨hgross, rfl⟩, ⟨⟩, hcap, rfl⟩

theorem newTicketDevice_eq_ok {sessionPublicKey certificate : String} {device : TicketDevice}
    (hnow : env.blockTimestampMs ≤ maxTimeMs) :
    newTicketDevice env sessionPublicKey certificate = .ok device ↔
      device = ⟨sessionPublicKey, certificate, env.blockTimestampMs,
        env.blockTimestampMs + playbackDeviceLifetimeMs⟩ := by
  simp only [newTicketDevice, bind_eq_ok, checkedAdd_eq_ok, pure_eq_ok]
  constructor
  · rintro ⟨_, ⟨-, rfl⟩, rfl⟩
    rfl
  · rintro rfl
    refine ⟨_, ⟨?_, rfl⟩, rfl⟩
    have hmax : maxOf 64 = 18446744073709551615 := rfl
    simp only [maxTimeMs, playbackDeviceLifetimeMs] at hnow ⊢
    omega

/-- The VAT text of a message whose amount passes the cap is a 128-bit number. -/
theorem vat_range (hfits : Fits env s amount purchase ticketId publication) :
    digitsValue purchase.vat.vatUsdcMicro.toList ≤ maxOf 128 := by
  have hcap := hfits.vat.trans hfits.range
  have hscale : digitsValue purchase.vat.vatUsdcMicro.toList ≤
      digitsValue purchase.vat.vatUsdcMicro.toList * (10000 + MarketV2.maxVatRateBps) :=
    Nat.le_mul_of_pos_right _ (by decide)
  exact hscale.trans hcap

/-- `buy_ticket_v2` keeps the money of an accepted purchase exactly when the purchase fits. -/
theorem buyTicketV2_keeps_iff (husdc : usdcContractId env = .ok env.predecessorAccountId)
    (hnow : env.blockTimestampMs ≤ maxTimeMs)
    (h : Checked env s amount purchase ticketId network ticketKey vatKey publication) :
    (∃ o, buyTicketV2 env s amount purchase = .ok o ∧ o.value = 0 ∧
      ∃ ticket, o.state.tickets.get ticketId = some ticket) ↔
        Fits env s amount purchase ticketId publication := by
  have hopen : ¬ (newPurchasesPaused s = true ∨
      (s.publicTestnetBeta ≠ none ∧ activePublicTestnetBeta env s = none)) := by
    rintro (hpaused | ⟨hbeta, hclosed⟩)
    · cases h.notPaused.symm.trans hpaused
    · rcases h.beta with hnone | hactive
      · exact hbeta hnone
      · exact hactive hclosed
  have hsale : ¬ (publication.availability ≠ .active ∨ amount ≠ publication.priceUsdc ∨
      s.tickets.get ticketId ≠ none) := by
    simp [h.active, h.fresh, h.price]
  obtain ⟨sessionKey, hsessionKey⟩ := h.sessionKey
  obtain ⟨deviceExpires, hdeviceExpires⟩ := h.deviceExpires
  obtain ⟨vatExpires, hvatExpires⟩ := h.vatExpires
  -- The checks the relayer has made go through; the rest is the split, the device and the books.
  simp only [buyTicketV2, h.action, h.identifier, h.parsedKey, hsessionKey, h.certificate,
    hdeviceExpires, hvatExpires, h.keyVersion, if_neg hopen, h.published, expect, h.hashed,
    if_neg hsale, h.networkId, h.deviceLines, h.deviceSigned, h.storedVatKey, h.vatLines,
    h.vatSigned, ok_bind, bind_eq_ok, require_eq_ok, parseCanonicalDecimal_eq_ok h.vat le_rfl,
    newTicketDevice_eq_ok hnow, checkedAdd_eq_ok, splitTicketAmount_eq_ok h.minimum, pure_eq_ok]
  constructor
  · rintro ⟨o, ⟨_, -, _, ⟨rfl, -⟩, _, -, split, ⟨hcap, hgross, rfl⟩, _, rfl, _, ⟨hescrow, rfl⟩, _,
      hrunway, -⟩, -, -⟩
    exact ⟨hcap, hgross, hescrow, hrunway⟩
  · intro hfits
    refine ⟨_, ⟨⟨⟩, trivial, _, ⟨rfl, vat_range hfits⟩, ⟨⟩, h.vatKeyLength, _,
      ⟨hfits.vat, hfits.range, rfl⟩, _, rfl, _, ⟨hfits.escrow, rfl⟩, ⟨⟩, hfits.runway, _, husdc,
      rfl⟩, rfl, ?_⟩
    exact ⟨_, LookupMap.get_insert_self _ _ _⟩

end Checked

/-- What the relayer accepts the contract keeps exactly when the VAT is within the cap, the escrow
counter has room and the storage runway covers the ticket. -/
theorem purchase_kept_iff (hrelays : Relays platform env s) {msg : String}
    (hreads : ReadsPurchase platform env.toHost msg) {checked : CheckedPurchase}
    (h : checkPurchaseMessage platform (marketView env s)
      ⟨env.currentAccountId, decimal amount, msg, env.blockTimestampMs⟩ = .ok checked)
    (senderId : AccountId) :
    ∃ purchase publication, env.purchaseMessageOfJson msg = some purchase ∧
      s.publications.get purchase.publicationId = some publication ∧
      (Keeps env s senderId amount msg checked.ticketId ↔
        Fits env s amount purchase checked.ticketId publication) := by
  obtain ⟨purchase, network, ticketKey, vatKey, publication, hcompact, hprobe, hread, hchecked⟩ :=
    checkPurchaseMessage_ok hrelays hreads h
  refine ⟨purchase, publication, hread, hchecked.published, ?_⟩
  rw [← buyTicketV2_keeps_iff hrelays.usdc hrelays.now hchecked, Keeps,
    ftOnTransfer_purchase_eq hrelays.usdc hcompact hprobe hread]
  constructor
  · rintro ⟨o, ho, hkept, -, hticket⟩
    exact ⟨o, ho, hkept, hticket⟩
  · rintro ⟨o, ho, hkept, hticket⟩
    exact ⟨o, ho, hkept, hchecked.fresh, hticket⟩

end Purchase

deriving instance DecidableEq for PurchaseDevice, PurchaseVat, PurchaseMessage

namespace Vectors

open MarketV2.Vectors (contractId publicationId ticketId issuedAtMs expiresAtMs certificate buyerId)

def text (s : String) : JsValue := .string (.ofString s)

def object (fields : List (String × JsValue)) : JsValue :=
  .object (fields.map fun field => (.ofString field.1, field.2))

/-- The purchase of the Market's vectors as the web application writes it. -/
def purchaseValue : JsValue :=
  object
    [("action", text "buy_ticket_v2"),
     ("publication_id", text publicationId),
     ("ticket_public_key", text MarketV2.Vectors.ticketKey.text),
     ("device", object
       [("session_public_key", text MarketV2.Vectors.firstSession.text),
        ("certificate_sha256", text certificate),
        ("expires_at_ms", text expiresAtMs),
        ("signature", text MarketV2.Vectors.purchaseSignature.base64)]),
     ("vat", object
       [("vat_usdc_micro", text "833334"),
        ("expires_at_ms", text expiresAtMs),
        ("key_version", text "1"),
        ("signature", text MarketV2.Vectors.vatSignature.base64)])]

def purchaseText : String := purchaseValue.stringify

/-- The host of the Market's vectors, with the real base64 decoder; every text but the upload's is
read as the purchase. -/
def host : Host :=
  { MarketV2.Vectors.host with
    base64Decode := Base64.standardDecode
    actionProbeOfJson := fun text =>
      if text = "job" then MarketV2.Vectors.host.actionProbeOfJson text
      else some (some buyTicketV2Action)
    purchaseMessageOfJson := fun _ => some MarketV2.Vectors.purchase }

/-- The purchase as the relayer parses it. -/
def purchaseMessage : PurchaseMessage where
  publicationId := .ofString publicationId
  ticketPublicKey := .ofString MarketV2.Vectors.ticketKey.text
  device := {
    sessionPublicKey := .ofString MarketV2.Vectors.firstSession.text
    certificateSha256 := .ofString certificate
    expiresAtMs := .ofString expiresAtMs
    signature := .ofString MarketV2.Vectors.purchaseSignature.base64 }
  vat := {
    vatUsdcMicro := .ofString "833334"
    expiresAtMs := .ofString expiresAtMs
    keyVersion := .ofString "1"
    signature := .ofString MarketV2.Vectors.vatSignature.base64 }

def platform : Platform where
  jsonParse _ := some purchaseValue
  baseDecode := host.bs58Decode
  baseEncode := host.bs58Encode
  sha256 := host.sha256
  verify := host.ed25519Verify

theorem agrees : Agrees platform host := ⟨rfl, rfl, rfl, rfl, fun _ _ _ _ _ => rfl⟩

theorem purchaseOf_value : purchaseOf purchaseValue = some purchaseMessage := by decide +kernel

theorem record_message : purchaseMessage.record? = some MarketV2.Vectors.purchase := by
  simp [PurchaseMessage.record?, purchaseMessage, MarketV2.Vectors.purchase]

theorem parseMessage_text : parseMessage platform purchaseText = .ok purchaseMessage := by
  simp only [parseMessage, bind_eq_ok, expect_eq_ok, require_eq_ok]
  exact ⟨purchaseValue, rfl, ⟨⟩, rfl, purchaseOf_value⟩

theorem readsPurchase : ReadsPurchase platform host purchaseText := by
  intro value purchase record hvalue _ hpurchase hrecord
  obtain rfl : purchaseValue = value := Option.some.inj hvalue
  obtain rfl := Option.some.inj (purchaseOf_value.symm.trans hpurchase)
  obtain rfl := Option.some.inj (record_message.symm.trans hrecord)
  have hjob : purchaseText ≠ "job" := by
    intro hjob
    have hchars := congrArg String.toList hjob
    rw [purchaseText, purchaseValue, object, toList_stringify_object] at hchars
    exact absurd (List.cons.inj hchars).1 (by decide)
  constructor
  · simp only [host, hjob, if_false]
  · rfl

/-- A call of the USDC contract with `runway` bytes left beside what is stored. -/
def transfer (runway : Nat) : Context :=
  { MarketV2.Vectors.context testnetUsdc issuedAtMs with
    accountBalance := 2 * 10 ^ 24 + runway * 10 ^ 19 }

/-- The video of the vectors is published. -/
def publishing : List Label := MarketV2.Vectors.sale.take 2

def input : PurchaseInput := ⟨contractId, decimal 5000000, purchaseText, issuedAtMs⟩

def checked : CheckedPurchase := ⟨publicationId, ticketId⟩

/-- The base58 texts of the stored VAT keys decode. -/
def vatKeysDecode (s : Contract) : Bool :=
  decide (∀ version ∈ s.vatKeys.keys, ∀ key ∈ s.vatKeys.get version,
    host.bs58Decode (host.bs58Encode key) = some key)

theorem relays {s : Contract} (runway : Nat) (h : vatKeysDecode s = true) :
    Relays platform ⟨host, transfer runway⟩ s where
  agrees := agrees
  vatKeys version key hkey :=
    of_decide_eq_true h version (LookupMap.mem_keys.mpr ⟨key, hkey⟩) key hkey
  usdc := by
    have htestnet : endsWith contractId ".testnet" = true := by decide +kernel
    exact if_pos htestnet
  now := show issuedAtMs ≤ maxTimeMs by decide

/-- The check of the purchase once the video is published. -/
theorem checked_run : (MarketV2.Vectors.worldRun host publishing).map (fun r =>
    (checkPurchase platform (marketView ⟨host, transfer 0⟩ r.2.contract) input
      purchaseMessage).toOption) = some (some checked) := by
  decide +kernel

/-- The sale for both runways. -/
theorem sold_run : (MarketV2.Vectors.worldRun host publishing).map (fun r =>
    (vatKeysDecode r.2.contract,
      (buyTicketV2 ⟨host, transfer 24000⟩ r.2.contract 5000000 MarketV2.Vectors.purchase).isOk,
      decide (r.2.contract.escrowBalance = 0),
      (r.2.contract.publications.get publicationId).map fun publication =>
        (assertRunway ⟨host, transfer 26000⟩ (withTicket ⟨host, transfer 26000⟩ r.2.contract 5000000
          MarketV2.Vectors.purchase ticketId publication)
          publicTestnetBetaEmergencyRunwayBytes).isOk)) =
    some (true, false, true, some true) := by
  decide +kernel

/-- The video of the vectors is published; the check and the sale for both runways. -/
theorem published_run : (MarketV2.Vectors.worldRun host publishing).map (fun r =>
    (vatKeysDecode r.2.contract,
      (checkPurchase platform (marketView ⟨host, transfer 0⟩ r.2.contract) input
        purchaseMessage).toOption,
      (buyTicketV2 ⟨host, transfer 24000⟩ r.2.contract 5000000 MarketV2.Vectors.purchase).isOk,
      decide (r.2.contract.escrowBalance = 0),
      (r.2.contract.publications.get publicationId).map fun publication =>
        (assertRunway ⟨host, transfer 26000⟩ (withTicket ⟨host, transfer 26000⟩ r.2.contract 5000000
          MarketV2.Vectors.purchase ticketId publication)
          publicTestnetBetaEmergencyRunwayBytes).isOk)) =
    some (true, some checked, false, true, some true) := by
  obtain ⟨r, hr, hchecked⟩ := Option.map_eq_some_iff.mp checked_run
  obtain ⟨r', hr', hsold⟩ := Option.map_eq_some_iff.mp sold_run
  obtain rfl := Option.some.inj (hr.symm.trans hr')
  simp only [Prod.mk.injEq] at hsold
  obtain ⟨hkeys, hrefused, hescrow, hrunway⟩ := hsold
  rw [hr, Option.map_some, hkeys, hchecked, hrefused, hescrow, hrunway]

theorem eq_ok_of_toOption {α : Type} {x : Result α} {a : α} (h : x.toOption = some a) :
    x = .ok a := by
  cases x with
  | ok b => exact congrArg Except.ok (Option.some.inj h)
  | error e => cases h

theorem eq_ok_of_isOk {x : Result PUnit.{1}} (h : x.isOk = true) : x = .ok ⟨⟩ := by
  cases x with
  | ok _ => rfl
  | error e => cases h

/-- The check does not read the runway. -/
theorem checkPurchase_runway (platform : Platform) (market : MarketView) (input : PurchaseInput)
    (purchase : PurchaseMessage) (runway : Result String) :
    checkPurchase platform { market with reserveRunwayBytes := runway } input purchase =
      checkPurchase platform market input purchase := rfl

theorem checkPurchaseMessage_text {s : Contract}
    (h : (checkPurchase platform (marketView ⟨host, transfer 0⟩ s) input purchaseMessage).toOption =
      some checked) (runway : Nat) :
    checkPurchaseMessage platform (marketView ⟨host, transfer runway⟩ s) input = .ok checked := by
  rw [checkPurchaseMessage, show input.msg = purchaseText from rfl, parseMessage_text, ok_bind]
  have hmarket : marketView ⟨host, transfer runway⟩ s = { marketView ⟨host, transfer 0⟩ s with
      reserveRunwayBytes := (marketView ⟨host, transfer runway⟩ s).reserveRunwayBytes } := by
    simp only [marketView]
  rw [hmarket, checkPurchase_runway]
  exact eq_ok_of_toOption h

end Vectors

/-- With 24,000 bytes of runway the relayer accepts the purchase and the contract refuses it. -/
theorem purchase_wasted :
    ∃ w₀ w, Initial Vectors.host w₀ ∧ Reachable (worldStep Vectors.host) w₀ w ∧
      Relays Vectors.platform ⟨Vectors.host, Vectors.transfer 24000⟩ w.contract ∧
      ReadsPurchase Vectors.platform Vectors.host Vectors.purchaseText ∧
      checkPurchaseMessage Vectors.platform
        (marketView ⟨Vectors.host, Vectors.transfer 24000⟩ w.contract) Vectors.input =
          .ok Vectors.checked ∧
      ¬ Keeps ⟨Vectors.host, Vectors.transfer 24000⟩ w.contract MarketV2.Vectors.buyerId 5000000
        Vectors.purchaseText Vectors.checked.ticketId := by
  obtain ⟨w₀, tr, w, h₀, h, hfacts⟩ := MarketV2.Vectors.trace_of_worldRun Vectors.published_run
  simp only [Prod.mk.injEq] at hfacts
  obtain ⟨hkeys, hchecked, hrefused, -⟩ := hfacts
  have hrelays := Vectors.relays 24000 hkeys
  refine ⟨w₀, w, h₀, ⟨tr, h⟩, hrelays, Vectors.readsPurchase,
    Vectors.checkPurchaseMessage_text hchecked 24000, ?_⟩
  rintro ⟨o, ho, -⟩
  obtain ⟨hprobe, hread⟩ := Vectors.readsPurchase _ _ _ rfl rfl Vectors.purchaseOf_value
    Vectors.record_message
  have hcompact : startsWith Vectors.purchaseText "yt:u1:" = false :=
    stringify_not_compact Vectors.purchaseValue rfl
  rw [ftOnTransfer_purchase_eq hrelays.usdc hcompact hprobe hread] at ho
  rw [ho] at hrefused
  cases hrefused

/-- With 26,000 bytes of runway the contract keeps the money. -/
theorem purchase_kept_ample :
    ∃ w₀ w, Initial Vectors.host w₀ ∧ Reachable (worldStep Vectors.host) w₀ w ∧
      Keeps ⟨Vectors.host, Vectors.transfer 26000⟩ w.contract MarketV2.Vectors.buyerId 5000000
        Vectors.purchaseText Vectors.checked.ticketId := by
  obtain ⟨w₀, tr, w, h₀, h, hfacts⟩ := MarketV2.Vectors.trace_of_worldRun Vectors.published_run
  simp only [Prod.mk.injEq, decide_eq_true_eq] at hfacts
  obtain ⟨hkeys, hchecked, -, hescrow, hrunway⟩ := hfacts
  refine ⟨w₀, w, h₀, ⟨tr, h⟩, ?_⟩
  obtain ⟨purchase, publication, hread, hpublished, hiff⟩ :=
    purchase_kept_iff (Vectors.relays _ hkeys) Vectors.readsPurchase
      (Vectors.checkPurchaseMessage_text hchecked 26000) MarketV2.Vectors.buyerId
  obtain rfl : MarketV2.Vectors.purchase = purchase := Option.some.inj hread
  obtain ⟨publication', hpublished', hrunway⟩ := Option.map_eq_some_iff.mp hrunway
  obtain rfl := Option.some.inj (hpublished'.symm.trans hpublished)
  refine hiff.mpr ⟨by decide, by decide, ?_, Vectors.eq_ok_of_isOk hrunway⟩
  rw [hescrow]
  decide

end Youtick.Relayer
