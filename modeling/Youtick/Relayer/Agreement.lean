import Youtick.Relayer.Market

/-!
# Relayer: one check on both sides

The views answer from the contract's state, and each check of the relayer is matched with the
contract's: keys, decimals, expiries, signed lines and signatures. `Agrees` is what the two sides'
libraries share.
-/

set_option autoImplicit false

namespace Youtick.Relayer

open Youtick.Lib Youtick.MarketV2 Youtick.PaymentService

/-! ## The contract's views -/

def publicationView (publication : Publication) : PublicationView where
  publicationId := publication.publicationId
  priceUsdc := decimal publication.priceUsdc
  availability := availabilityName publication.availability

def deviceView (device : TicketDevice) : DeviceView where
  sessionPublicKey := device.sessionPublicKey
  authorizedAtMs := decimal device.authorizedAtMs
  expiresAtMs := decimal device.expiresAtMs

def ticketView (ticket : Ticket) : TicketView where
  ticketId := ticket.ticketId
  ticketPublicKey := ticket.ticketPublicKey
  publicationId := ticket.publicationId
  status := statusName ticket.status
  deviceEpoch := ticket.deviceEpoch
  devices := ticket.devices.map deviceView

def betaView (beta : PublicTestnetBetaState) : BetaView where
  endsAtMs := decimal beta.endsAtMs
  closedAtMs := beta.closedAtMs.map decimal

def mediaJobView (job : MediaJob) : MediaJobView where
  creatorId := job.creatorId
  profileId := job.profileId
  profileConfigSha256 := job.profileConfigSha256
  title := job.title
  priceUsdc := decimal job.priceUsdc
  expectedSourceBytes := decimal job.expectedSourceBytes
  feeAsset := feeAssetName job.feeAsset
  feeAmount := decimal job.feeAmount
  feeUsdMicro := decimal job.feeUsdMicro
  uploadPublicKey := job.uploadPublicKey
  uploadKeyExpiresAtMs := decimal job.uploadKeyExpiresAtMs
  feeQuoteHash := job.feeQuoteHash

/-- The contract's answers in the state `s`; a view that panics does not answer. -/
def marketView (env : MarketV2.Env) (s : Contract) : MarketView where
  getPublication id := .ok ((s.publications.get id).map publicationView)
  getTicket id := .ok ((s.tickets.get id).map ticketView)
  getVatPublicKey version := .ok ((s.vatKeys.get version).map fun key =>
    "ed25519:" ++ env.bs58Encode key)
  newPurchasesPaused := .ok (newPurchasesPaused s)
  getPublicTestnetBetaState := .ok (s.publicTestnetBeta.map betaView)
  hasPublicUploadPolicy := .ok s.publicUploadPolicy.isSome
  getMediaJob id := .ok ((s.mediaJobs.get id).map mediaJobView)
  reserveRunwayBytes :=
    match storageReserveStatus env s with
    | .ok status => .ok (decimal status.reserveRunwayBytes)
    | .error _ => .error "rpc_unavailable"

/-- The relayer's key library and the contract's host give the same answers, and the contract's
base64 engine is the strict standard one. -/
structure Agrees (platform : Platform) (host : Host) : Prop where
  sha256 : platform.sha256 = host.sha256
  baseDecode : platform.baseDecode = host.bs58Decode
  baseEncode : platform.baseEncode = host.bs58Encode
  base64 : host.base64Decode = Base64.standardDecode
  verify : ∀ signature message key, signature.length = 64 → key.length = 32 →
    platform.verify signature message key = host.ed25519Verify signature message key

/-! ## Texts -/

theorem matching_eq_ok {s : JsString} {pattern : String → Bool} {code text : String} :
    matching s pattern code = .ok text ↔ s.text? = some text ∧ pattern text = true := by
  simp only [matching, bind_eq_ok, expect_eq_ok, require_eq_ok, pure_eq_ok]
  constructor
  · rintro ⟨_, htext, _, hpattern, rfl⟩
    exact ⟨htext, hpattern⟩
  · rintro ⟨htext, hpattern⟩
    exact ⟨text, htext, ⟨⟩, hpattern, rfl⟩

theorem toNat_lt_of_le {c d : Char} (h : c ≤ d) : c.toNat ≤ d.toNat := h

theorem isAscii_of_isIdentifierChar {c : Char} (h : isIdentifierChar c = true) : c.toNat < 128 := by
  simp only [isIdentifierChar, isAsciiAlphanumeric, isAsciiDigit, isAsciiUppercase, Bool.or_eq_true,
    Bool.and_eq_true, decide_eq_true_eq, beq_iff_eq] at h
  rcases h with ((((((⟨-, h⟩ | ⟨-, h⟩) | ⟨-, h⟩) | rfl) | rfl) | rfl) | rfl)
  · exact (toNat_lt_of_le h).trans_lt (by decide)
  · exact (toNat_lt_of_le h).trans_lt (by decide)
  · exact (toNat_lt_of_le h).trans_lt (by decide)
  all_goals decide

theorem assertIdentifier_of_isIdentifier {label text : String} (h : isIdentifier text = true) :
    assertIdentifier label text = .ok ⟨⟩ := by
  simp only [isIdentifier, Bool.and_eq_true, decide_eq_true_eq, List.all_eq_true] at h
  obtain ⟨⟨hpos, hlength⟩, hall⟩ := h
  rw [assertIdentifier, require_eq_ok, List.all_eq_true]
  refine ⟨?_, ?_, hall⟩
  · rintro rfl
    cases hpos
  · rw [utf8ByteSize_of_ascii fun c hc => isAscii_of_isIdentifierChar (hall c hc)]
    exact hlength

theorem assertSha256_of_isHexText {label text : String} (h : isHexText 64 text = true) :
    assertSha256 label text = .ok ⟨⟩ := by
  simp only [isHexText, Bool.and_eq_true, decide_eq_true_eq, List.all_eq_true] at h
  obtain ⟨hlength, hall⟩ := h
  rw [assertSha256, require_eq_ok, List.all_eq_true]
  refine ⟨?_, hall⟩
  rw [utf8ByteSize_of_ascii, hlength]
  intro c hc
  have hchar := hall c hc
  simp only [isHexChar, isAsciiDigit, Bool.or_eq_true, Bool.and_eq_true, decide_eq_true_eq] at hchar
  rcases hchar with ⟨-, h⟩ | ⟨-, h⟩
  · exact (toNat_lt_of_le h).trans_lt (by decide)
  · exact (toNat_lt_of_le h).trans_lt (by decide)

/-! ## Decimals -/

section Decimal

variable {n : Nat} {text : String}

theorem decimal_of_isDecimal (h : isDecimal n text = true) :
    decimal (digitsValue text.toList) = text := by
  rw [isDecimal, Bool.or_eq_true, decide_eq_true_eq] at h
  rcases h with rfl | h
  · rfl
  · exact decimal_digitsValue h

/-- The contract reads a decimal text as its value, when that is in range. -/
theorem parseCanonicalDecimal_eq_ok (h : isDecimal n text = true) {label : String} {max v : Nat}
    (hmax : max ≤ maxOf 128) :
    parseCanonicalDecimal label text max = .ok v ↔
      digitsValue text.toList = v ∧ digitsValue text.toList ≤ max := by
  simp only [parseCanonicalDecimal, bind_eq_ok, expect_eq_ok, require_eq_ok, pure_eq_ok]
  constructor
  · rintro ⟨_, -, _, ⟨htext, hle⟩, rfl⟩
    obtain rfl := decimal_injective (htext.trans (decimal_of_isDecimal h).symm)
    exact ⟨rfl, hle⟩
  · rintro ⟨rfl, hle⟩
    refine ⟨_, ?_, ⟨⟩, ⟨decimal_of_isDecimal h, hle⟩, rfl⟩
    have hlt : digitsValue text.toList < 2 ^ 128 := by
      have hbound := hle.trans hmax
      simp only [maxOf] at hbound
      omega
    have hparse := parseUnsigned_decimal hlt
    rwa [decimal_of_isDecimal h] at hparse

end Decimal

/-! ## Expiries -/

/-- What the relayer's expiry check guarantees, on the exact value of the text. -/
theorem expiry_ok {value code : String} {now : Nat} {r : PUnit.{1}} (hnow : now ≤ maxTimeMs)
    (h : expiry value now code = .ok r) : isDecimal 38 value = true ∧
      now + expiryMarginMs < digitsValue value.toList ∧
      digitsValue value.toList ≤ now + maxSignatureTtlMs := by
  simp only [maxTimeMs] at hnow
  simp only [expiry, bind_eq_ok, require_eq_ok] at h
  obtain ⟨_, hdecimal, _, ⟨hsafe, hlive⟩, hnear⟩ := h
  simp only [number, maxSafeInteger, expiryMarginMs, maxSignatureTtlMs] at hsafe hlive hnear ⊢
  have hexact : toDouble (digitsValue value.toList) = digitsValue value.toList :=
    toDouble_eq_of_lt (by omega)
  have hmargin : toDouble (now + 60000) = now + 60000 := toDouble_of_lt (by omega)
  rw [hexact] at hnear hlive
  rw [hmargin] at hlive
  exact ⟨hdecimal, by omega, by omega⟩

/-- The contract accepts the expiry from the time of the check to the end of the margin. -/
theorem parseSignatureExpiry_of_expiry {value code : String} {now time : Nat} {r : PUnit.{1}}
    (hnow : now ≤ maxTimeMs) (h : expiry value now code = .ok r) (hfrom : now ≤ time)
    (hto : time ≤ now + expiryMarginMs) :
    parseSignatureExpiry value time = .ok (digitsValue value.toList) := by
  obtain ⟨hdecimal, hlive, hnear⟩ := expiry_ok hnow h
  simp only [maxTimeMs, expiryMarginMs, maxSignatureTtlMs] at hnow hlive hnear hto
  have hrange : digitsValue value.toList ≤ maxOf 64 := by
    have hmax : maxOf 64 = 18446744073709551615 := rfl
    omega
  simp only [parseSignatureExpiry, parseSignatureExpiryWithin, bind_eq_ok, require_eq_ok,
    pure_eq_ok]
  refine ⟨digitsValue value.toList,
    (parseCanonicalDecimal_eq_ok hdecimal (by decide)).mpr ⟨rfl, hrange⟩, ⟨⟩, ?_, ⟨⟩, ?_, rfl⟩
  · omega
  · simp only [MarketV2.maxSignatureTtlMs]
    omega

/-! ## Keys and signatures -/

section Agreement

variable {platform : Platform} {host : Host}

theorem ed25519Key_eq_ok (hagrees : Agrees platform host) {value code : String} {key : Bytes} :
    ed25519Key platform value code = .ok key ↔ parseEd25519Key host value = .ok key := by
  simp only [ed25519Key, parseEd25519Key, hagrees.baseDecode, hagrees.baseEncode, bind_eq_ok,
    expect_eq_ok, require_eq_ok, pure_eq_ok]
  constructor
  · rintro ⟨encoded, hhead, key, hdecode, _, ⟨hlength, hencode⟩, rfl⟩
    exact ⟨encoded, hhead, key, hdecode, ⟨⟩, hlength, ⟨⟩, hencode, rfl⟩
  · rintro ⟨encoded, hhead, key, hdecode, _, hlength, _, hencode, rfl⟩
    exact ⟨encoded, hhead, key, hdecode, ⟨⟩, ⟨hlength, hencode⟩, rfl⟩

theorem signedLines_eq_ok {fields : List String} {code : String} {message : Bytes} :
    signedLines fields code = .ok message ↔
      MarketV2.signedLines fields = .ok (joinLines fields) ∧ message = utf8 (joinLines fields) := by
  simp only [signedLines, MarketV2.signedLines, bind_eq_ok, require_eq_ok, pure_eq_ok, and_true]
  constructor
  · rintro ⟨_, hlines, rfl⟩
    exact ⟨⟨⟨⟩, hlines⟩, rfl⟩
  · rintro ⟨⟨_, hlines⟩, rfl⟩
    exact ⟨⟨⟩, hlines, rfl⟩

/-- A signature text that encodes the bytes it decodes to leaves no unused bit set. -/
theorem canonical_of_encode {text : String} {bytes : Bytes} (h : isSignature text = true)
    (hdecode : Base64.forgivingDecode text = some bytes) (hencode : Base64.encode bytes = text) :
    Base64.Canonical text := by
  rw [Base64.forgivingDecode_of_padded (padded_of_isSignature h)] at hdecode
  obtain ⟨⟨_, left⟩, hbody, rfl⟩ := Option.map_eq_some_iff.mp hdecode
  suffices hleft : left = 0 by
    rw [hleft] at hbody
    exact ⟨_, hbody⟩
  simp only [isSignature, Bool.and_eq_true, decide_eq_true_eq, List.all_eq_true] at h
  obtain ⟨⟨hlength, hpadding⟩, -⟩ := h
  have hdrop : Base64.dropPadding text.toList = text.toList.take 86 := by
    have hsuffix : (['=', '='].isSuffixOf text.toList) = true := by
      rw [List.isSuffixOf_iff_suffix, ← hpadding]
      exact List.drop_suffix _ _
    rw [Base64.dropPadding, if_pos hsuffix, hlength]
  rw [hdrop] at hbody
  obtain ⟨sextets, hsextets, hgroups⟩ := Option.bind_eq_some_iff.mp hbody
  obtain ⟨hletters, hlt⟩ := Base64.letters_of_sextets hsextets
  have hcount : sextets.length = 86 := by
    rw [← List.length_map, hletters, List.length_take, hlength]
    rfl
  rw [← Base64.letters_groups sextets hgroups hlt, hletters, hcount]
  have htext := congrArg String.toList hencode
  rw [Base64.encode, String.toList_ofList] at htext
  rw [htext]
  conv_lhs => rw [← List.take_append_drop 86 text.toList, hpadding]
  rfl

theorem verifyEd25519_of_true (hagrees : Agrees platform host) {signature : String}
    {fields : List String} {key : Bytes} {error : String} (hkey : key.length = 32)
    (h : verifyEd25519 platform signature (utf8 (joinLines fields)) key = true) :
    MarketV2.verifyEd25519 host signature (joinLines fields) key error = .ok ⟨⟩ := by
  rw [verifyEd25519, Bool.and_eq_true] at h
  obtain ⟨hsignature, h⟩ := h
  obtain ⟨bytes, hdecode, hlength⟩ := forgivingDecode_of_isSignature hsignature
  simp only [hdecode, Bool.and_eq_true, decide_eq_true_eq] at h
  obtain ⟨hencode, hverify⟩ := h
  have hstrict : host.base64Decode signature = some bytes := by
    rw [hagrees.base64]
    exact (Base64.standardDecode_eq_some (padded_of_isSignature hsignature)).mpr
      ⟨hdecode, canonical_of_encode hsignature hdecode hencode⟩
  simp only [MarketV2.verifyEd25519, bind_eq_ok, expect_eq_ok, require_eq_ok]
  refine ⟨bytes, hstrict, ⟨⟩, hlength, ?_⟩
  rw [← hagrees.verify bytes _ key hlength hkey]
  exact hverify

theorem networkId_of_networkOf {env : MarketV2.Env} {network : String}
    (h : networkOf env.currentAccountId = .ok network) : networkId env = .ok network := by
  unfold networkOf at h
  unfold networkId
  split at h
  · next htestnet => rw [if_pos htestnet, h]
  · next htestnet =>
      split at h
      · next hnear => rw [if_neg htestnet, if_pos hnear, h]
      · cases h

end Agreement

end Youtick.Relayer
