import Youtick.MarketV2.SignedMessages
import Youtick.Relayer.PurchaseCheck
import Youtick.Web.Messages

/-!
# Web: one ticket message on all sides

The web client builds its messages from a table, the contract line by line, the relayer a third time.
`FormatOk` is what the contract's own checks ask of the arguments of each signed action. Arguments
that pass them are signed by the web client, and what it signs are the bytes the contract verifies;
the device and VAT messages of a purchase the relayer accepts are those bytes too.
-/

set_option autoImplicit false

namespace Youtick.Web

open Youtick.Lib Youtick.PaymentService
open Youtick.MarketV2 (AccountId Host Env Contract SignedBody SignedMessage PurchaseMessageV2
  assertIdentifier assertSha256 parseEd25519Key parseCanonicalDecimal networkId hexSha256
  purchaseDeviceLines vatLines)

/-! ## The contract's format checks -/

/-- The account id scanner: letters and digits, with single separators between them. -/
def scanAccountId : (afterSeparator : Bool) → List Char → Bool
  | afterSeparator, [] => !afterSeparator
  | afterSeparator, c :: cs =>
    if isAccountChar c then scanAccountId false cs
    else if isAccountSeparator c then !afterSeparator && scanAccountId true cs
    else false

/-- The texts the SDK reads as an `AccountId`. -/
def isAccountIdText (text : String) : Bool :=
  decide (2 ≤ text.utf8ByteSize) && decide (text.utf8ByteSize ≤ 64) &&
    scanAccountId true text.toList

/-- The checks of `issue_card_ticket` on the currency. -/
def CurrencyOk (currency : String) : Prop :=
  currency.utf8ByteSize = 3 ∧ currency.toList.all isAsciiUppercase = true

/-- A canonical decimal of the contract, with its value in range. -/
def DecimalOk (label value : String) (max : Nat) : Prop :=
  ∃ parsed, parseCanonicalDecimal label value max = .ok parsed

def KeyOk (host : Host) (value : String) : Prop := ∃ key, parseEd25519Key host value = .ok key

/-- The format checks on the arguments of each signed action. -/
def FormatOk (host : Host) : SignedBody → Prop
  | .purchaseDevice ticketId expiresAtMs publicationId sessionPublicKey certificateSha256 =>
    assertSha256 "ticket_id" ticketId = .ok ⟨⟩ ∧
    DecimalOk "expires_at_ms" expiresAtMs (maxOf 64) ∧
    assertIdentifier "publication_id" publicationId = .ok ⟨⟩ ∧ KeyOk host sessionPublicKey ∧
    assertSha256 "certificate_sha256" certificateSha256 = .ok ⟨⟩
  | .cardPurchase ticketId expiresAtMs publicationId sessionPublicKey certificateSha256
      paymentReferenceHmac grossMinor currency =>
      assertSha256 "ticket_id" ticketId = .ok ⟨⟩ ∧
      DecimalOk "expires_at_ms" expiresAtMs (maxOf 64) ∧
      assertIdentifier "publication_id" publicationId = .ok ⟨⟩ ∧ KeyOk host sessionPublicKey ∧
      assertSha256 "certificate_sha256" certificateSha256 = .ok ⟨⟩ ∧
      assertSha256 "payment_reference_hmac" paymentReferenceHmac = .ok ⟨⟩ ∧
      (∃ gross, parseCanonicalDecimal "gross_minor" grossMinor (maxOf 64) = .ok gross ∧
        gross > 0) ∧
      CurrencyOk currency
  | .addDevice ticketId expiresAtMs sessionPublicKey certificateSha256 deviceEpoch =>
    assertSha256 "ticket_id" ticketId = .ok ⟨⟩ ∧
    DecimalOk "expires_at_ms" expiresAtMs (maxOf 64) ∧ KeyOk host sessionPublicKey ∧
    assertSha256 "certificate_sha256" certificateSha256 = .ok ⟨⟩ ∧
    DecimalOk "device_epoch" deviceEpoch (maxOf 32)
  | .revokeDevice ticketId expiresAtMs sessionPublicKey deviceEpoch =>
    assertSha256 "ticket_id" ticketId = .ok ⟨⟩ ∧
    DecimalOk "expires_at_ms" expiresAtMs (maxOf 64) ∧ KeyOk host sessionPublicKey ∧
    DecimalOk "device_epoch" deviceEpoch (maxOf 32)
  | .refundTicket ticketId expiresAtMs refundTo =>
    assertSha256 "ticket_id" ticketId = .ok ⟨⟩ ∧
    DecimalOk "expires_at_ms" expiresAtMs (maxOf 64) ∧ isAccountIdText refundTo = true
  | .vat .. => False

/-! ## The web client's arguments -/

/-- The arguments of `ticketMessage`. -/
structure TicketArguments where
  action : TicketAction
  ticketId : String
  expiresAtMs : String
  fields : List (String × String)

def TicketArguments.message (args : TicketArguments) (codec : Codec) (binding : MarketBinding) :
    Result String :=
  ticketMessage codec binding args.action args.ticketId args.expiresAtMs args.fields

/-- The arguments a client passes for the body the contract verifies; it signs no VAT. -/
def argumentsOf : SignedBody → Option TicketArguments
  | .purchaseDevice ticketId expiresAtMs publicationId sessionPublicKey certificateSha256 =>
    some ⟨.purchaseDevice, ticketId, expiresAtMs, [("publication_id", publicationId),
      ("session_public_key", sessionPublicKey), ("certificate_sha256", certificateSha256)]⟩
  | .cardPurchase ticketId expiresAtMs publicationId sessionPublicKey certificateSha256
      paymentReferenceHmac grossMinor currency =>
      some ⟨.cardPurchase, ticketId, expiresAtMs, [("publication_id", publicationId),
        ("session_public_key", sessionPublicKey), ("certificate_sha256", certificateSha256),
        ("payment_reference_hmac", paymentReferenceHmac), ("gross_minor", grossMinor),
        ("currency", currency)]⟩
  | .addDevice ticketId expiresAtMs sessionPublicKey certificateSha256 deviceEpoch =>
    some ⟨.addDevice, ticketId, expiresAtMs, [("session_public_key", sessionPublicKey),
      ("certificate_sha256", certificateSha256), ("device_epoch", deviceEpoch)]⟩
  | .revokeDevice ticketId expiresAtMs sessionPublicKey deviceEpoch =>
    some ⟨.revokeDevice, ticketId, expiresAtMs, [("session_public_key", sessionPublicKey),
      ("device_epoch", deviceEpoch)]⟩
  | .refundTicket ticketId expiresAtMs refundTo =>
    some ⟨.refundTicket, ticketId, expiresAtMs, [("refund_to", refundTo)]⟩
  | .vat .. => none

/-- The two base58 libraries give the same answers, and write base58 letters only. -/
structure Codec.Agrees (codec : Codec) (host : Host) : Prop where
  baseDecode : codec.baseDecode = host.bs58Decode
  baseEncode : codec.baseEncode = host.bs58Encode
  letters : ∀ bytes, (host.bs58Encode bytes).toList.all MarketV2.isBase58Char = true

/-! ## One check on both sides -/

section Checks

variable {codec : Codec} {host : Host} {label value : String}

theorem isAscii_of_isLowerHexChar {c : Char} (h : MarketV2.isLowerHexChar c = true) :
    c.toNat < 128 := by
  simp only [MarketV2.isLowerHexChar, isAsciiDigit, Bool.or_eq_true, Bool.and_eq_true,
    decide_eq_true_eq] at h
  rcases h with ⟨-, h⟩ | ⟨-, h⟩
  · exact (Relayer.toNat_lt_of_le h).trans_lt (by decide)
  · exact (Relayer.toNat_lt_of_le h).trans_lt (by decide)

theorem isAscii_of_account {c : Char} (h : (isAccountChar c || isAccountSeparator c) = true) :
    c.toNat < 128 := by
  simp only [isAccountChar, isAccountSeparator, isAsciiDigit, Bool.or_eq_true, Bool.and_eq_true,
    decide_eq_true_eq, beq_iff_eq] at h
  rcases h with (⟨-, h⟩ | ⟨-, h⟩) | ((rfl | rfl) | rfl)
  · exact (Relayer.toNat_lt_of_le h).trans_lt (by decide)
  · exact (Relayer.toNat_lt_of_le h).trans_lt (by decide)
  all_goals decide

theorem eq_append_of_stripPrefix {s p r : String} (h : stripPrefix s p = some r) : p ++ r = s := by
  unfold stripPrefix startsWith at h
  obtain ⟨hstart, hrest⟩ := Option.ite_none_right_eq_some.mp h
  obtain rfl := Option.some.inj hrest
  obtain ⟨rest, hrest⟩ := List.isPrefixOf_iff_prefix.mp hstart
  apply String.toList_inj.mp
  rw [String.toList_append, String.toList_ofList, ← hrest, List.drop_left]

/-- A hash the contract takes is sixty-four hexadecimal digits. -/
theorem isHexText_of_assertSha256 (h : assertSha256 label value = .ok ⟨⟩) :
    isHexText 64 value = true := by
  rw [assertSha256, require_eq_ok, List.all_eq_true] at h
  obtain ⟨hsize, hall⟩ := h
  rw [utf8ByteSize_of_ascii fun c hc => isAscii_of_isLowerHexChar (hall c hc)] at hsize
  rw [isHexText, Bool.and_eq_true, decide_eq_true_eq, List.all_eq_true]
  exact ⟨hsize, hall⟩

theorem isIdentifier_of_assertIdentifier (h : assertIdentifier label value = .ok ⟨⟩) :
    isIdentifier value = true := by
  rw [assertIdentifier, require_eq_ok, List.all_eq_true] at h
  obtain ⟨hne, hsize, hall⟩ := h
  rw [utf8ByteSize_of_ascii fun c hc => Relayer.isAscii_of_isIdentifierChar (hall c hc)] at hsize
  have hpos : 1 ≤ value.toList.length := by
    rw [Nat.one_le_iff_ne_zero, Ne, List.length_eq_zero_iff, String.toList_eq_nil_iff]
    exact hne
  simp only [isIdentifier, Bool.and_eq_true, decide_eq_true_eq, List.all_eq_true]
  refine ⟨⟨hpos, hsize⟩, fun c hc => ?_⟩
  have hchar := hall c hc
  simp only [MarketV2.isIdentifierChar, isIdentifierChar, Bool.or_eq_true] at hchar ⊢
  tauto

theorem isCurrency_of_currencyOk (h : CurrencyOk value) : isCurrency value = true := by
  obtain ⟨hsize, hall⟩ := h
  rw [utf8ByteSize_of_ascii] at hsize
  · rw [isCurrency, Bool.and_eq_true, decide_eq_true_eq]
    exact ⟨hsize, hall⟩
  · intro c hc
    have hchar := List.all_eq_true.mp hall c hc
    simp only [isAsciiUppercase, Bool.and_eq_true, decide_eq_true_eq] at hchar
    exact (Relayer.toNat_lt_of_le hchar.2).trans_lt (by decide)

theorem isDecimalText_decimal (n : Nat) : isDecimalText (decimal n) = true := by
  rw [isDecimalText, Bool.or_eq_true, decide_eq_true_eq]
  rcases Nat.eq_zero_or_pos n with rfl | hn
  · exact .inl rfl
  · right
    obtain ⟨first, rest, hdigits, hlow, hhigh⟩ := exists_cons_toDigits hn
    have htext : (decimal n).toList = first :: rest := by
      rw [decimal, Nat.toList_repr, hdigits]
    refine isPositiveDecimal_iff.mpr ⟨first, rest, htext, hlow, hhigh, ?_, ?_⟩
    · rw [htext]
      exact Nat.le_succ _
    · refine List.all_eq_true.mpr fun c hc => ?_
      have hdigit : c.isDigit = true :=
        Nat.isDigit_of_mem_toDigits (by decide) (by decide)
          (hdigits ▸ List.mem_cons_of_mem first hc)
      rw [Char.isDigit, Bool.and_eq_true, decide_eq_true_eq, decide_eq_true_eq] at hdigit
      exact isAsciiDigit_iff.mpr hdigit

/-- A canonical decimal is the spelling of its value. -/
theorem decimalField_of_parse {max parsed : Nat}
    (h : parseCanonicalDecimal label value max = .ok parsed) :
    decimalField value max = .ok value ∧ value = decimal parsed := by
  simp only [parseCanonicalDecimal, bind_eq_ok, require_eq_ok, pure_eq_ok] at h
  obtain ⟨_, -, _, ⟨rfl, hle⟩, rfl⟩ := h
  refine ⟨decimalField_eq_ok.mpr ⟨⟨isDecimalText_decimal _, ?_⟩, rfl⟩, rfl⟩
  rw [digitsValue_decimal]
  exact hle

/-- A key the contract takes is one the client takes. -/
theorem canonicalKey_of_keyOk (hagrees : codec.Agrees host) (h : KeyOk host value) :
    canonicalKey codec value = .ok value := by
  obtain ⟨key, hkey⟩ := h
  simp only [parseEd25519Key, bind_eq_ok, expect_eq_ok, require_eq_ok, pure_eq_ok] at hkey
  obtain ⟨encoded, hhead, raw, hdecode, _, hlength, _, hencode, rfl⟩ := hkey
  simp only [canonicalKey, bind_eq_ok, expect_eq_ok, require_eq_ok, pure_eq_ok, hagrees.baseDecode,
    hagrees.baseEncode]
  refine ⟨encoded, hhead, raw, hdecode, ⟨⟩, ⟨hlength, ?_⟩, trivial⟩
  rw [hencode]
  exact eq_append_of_stripPrefix hhead

/-- What follows a scanned separator or the start begins with a letter or digit, and ends so. -/
theorem scanAccountId_ends {afterSeparator : Bool} {cs : List Char}
    (h : scanAccountId afterSeparator cs = true) :
    (∀ c ∈ cs, (isAccountChar c || isAccountSeparator c) = true) ∧
      (afterSeparator = true → cs.head?.any isAccountChar = true) ∧
      (cs ≠ [] → cs.getLast?.any isAccountChar = true) := by
  induction cs generalizing afterSeparator with
  | nil =>
    refine ⟨by simp, ?_, fun hne => absurd rfl hne⟩
    rintro rfl
    cases h
  | cons c cs ih =>
    rw [scanAccountId] at h
    split at h
    · next hchar =>
        obtain ⟨hall, -, hlast⟩ := ih h
        refine ⟨?_, fun _ => by simpa using hchar, fun _ => ?_⟩
        · intro d hd
          rcases List.mem_cons.mp hd with rfl | hd
          · rw [hchar, Bool.true_or]
          · exact hall d hd
        · cases cs with
          | nil => simpa using hchar
          | cons d ds => simpa using hlast (List.cons_ne_nil _ _)
    · split at h
      · next hseparator =>
          rw [Bool.and_eq_true] at h
          obtain ⟨hall, hhead, hlast⟩ := ih h.2
          refine ⟨?_, ?_, fun _ => ?_⟩
          · intro d hd
            rcases List.mem_cons.mp hd with rfl | hd
            · rw [hseparator, Bool.or_true]
            · exact hall d hd
          · rintro rfl
            cases h.1
          · cases cs with
            | nil => cases hhead rfl
            | cons d ds => simpa using hlast (List.cons_ne_nil _ _)
      · cases h

/-- Every account id the contract reads matches the client's pattern. -/
theorem isAccount_of_isAccountIdText (h : isAccountIdText value = true) :
    isAccount value = true := by
  simp only [isAccountIdText, Bool.and_eq_true, decide_eq_true_eq] at h
  obtain ⟨⟨hlow, hhigh⟩, hscan⟩ := h
  obtain ⟨hall, hhead, hlast⟩ := scanAccountId_ends hscan
  rw [utf8ByteSize_of_ascii fun c hc => isAscii_of_account (hall c hc)] at hlow hhigh
  simp only [isAccount, Bool.and_eq_true, decide_eq_true_eq, List.all_eq_true]
  refine ⟨⟨⟨⟨hlow, hhigh⟩, hall⟩, hhead rfl⟩, hlast ?_⟩
  rintro hnil
  rw [hnil] at hlow
  cases hlow

end Checks

/-! ## The whole message -/

section Messages

variable {codec : Codec} {host : Host} {body : SignedBody} {args : TicketArguments}
  {binding : MarketBinding} {text : String}

/-- The client passes the table's fields in the table's order, and the contract's lines are the
header and their values. -/
theorem argumentsOf_spec (hargs : argumentsOf body = some args) (network contractId : String) :
    (ticketFields args.action).map Prod.fst = args.fields.map Prod.fst ∧
      SignedMessage.lines ⟨network, contractId, body⟩ =
        [ticketSignatureDomain, network, contractId, args.action.name, args.ticketId,
          args.expiresAtMs] ++ args.fields.map Prod.snd := by
  cases body with
  | vat => cases hargs
  | purchaseDevice | cardPurchase | addDevice | revokeDevice | refundTicket =>
    cases hargs
    exact ⟨rfl, rfl⟩

/-- A message that is made joins the contract's lines. -/
theorem lines_of_message (hargs : argumentsOf body = some args)
    (h : args.message codec binding = .ok text) :
    MarketV2.signedLines (SignedMessage.lines ⟨binding.network, binding.contractId, body⟩) =
      .ok text := by
  obtain ⟨hnames, hbody⟩ := argumentsOf_spec hargs binding.network binding.contractId
  simp only [TicketArguments.message, ticketMessage, bind_eq_ok, lines_eq_ok,
    fieldValues_of_names hnames] at h
  obtain ⟨id, hid, expiry, hexpiry, values, ⟨rfl, -⟩, hlines, rfl⟩ := h
  obtain rfl := (patternField_eq_ok.mp hid).2
  obtain rfl := (decimalField_eq_ok.mp hexpiry).2
  rw [hbody]
  exact bind_eq_ok.mpr ⟨⟨⟩, require_eq_ok.mpr hlines, rfl⟩

/-! ### Values are single lines -/

theorem isLine_of_decimal {n : Nat} : IsLine (decimal n) := by
  refine isLine_of_all ?_ (fun c hc => ?_) (by decide : Char.isDigit '\n' = false) (by decide)
  · rw [decimal, Nat.toList_repr]
    exact Nat.toDigits_ne_nil
  · rw [decimal, Nat.toList_repr] at hc
    exact Nat.isDigit_of_mem_toDigits (by decide) (by decide) hc

theorem isLine_of_isHexText {value : String} (h : isHexText 64 value = true) : IsLine value := by
  rw [isHexText, Bool.and_eq_true, decide_eq_true_eq, List.all_eq_true] at h
  refine isLine_of_all ?_ h.2 (by decide) (by decide)
  rintro hnil
  rw [hnil] at h
  cases h.1

theorem isLine_of_isIdentifier {value : String} (h : isIdentifier value = true) :
    IsLine value := by
  simp only [isIdentifier, Bool.and_eq_true, decide_eq_true_eq, List.all_eq_true] at h
  refine isLine_of_all ?_ h.2 (by decide) (by decide)
  rintro hnil
  rw [hnil] at h
  cases h.1.1

theorem isLine_of_isCurrency {value : String} (h : isCurrency value = true) : IsLine value := by
  rw [isCurrency, Bool.and_eq_true, decide_eq_true_eq, List.all_eq_true] at h
  refine isLine_of_all ?_ h.2 (by decide) (by decide)
  rintro hnil
  rw [hnil] at h
  cases h.1

theorem isLine_of_isAccount {value : String} (h : isAccount value = true) : IsLine value := by
  simp only [isAccount, Bool.and_eq_true, decide_eq_true_eq, List.all_eq_true] at h
  obtain ⟨⟨⟨⟨hlow, -⟩, hall⟩, -⟩, -⟩ := h
  refine isLine_of_all ?_ (p := fun c => isAccountChar c || isAccountSeparator c)
    (fun c hc => by simpa using hall c hc) (by decide) (by decide)
  rintro hnil
  rw [hnil] at hlow
  cases hlow

theorem isLine_of_keyOk (hagrees : codec.Agrees host) {value : String} (h : KeyOk host value) :
    IsLine value := by
  obtain ⟨key, hkey⟩ := h
  obtain ⟨-, hhead⟩ := MarketV2.parseEd25519Key_ok hkey
  have hvalue := eq_append_of_stripPrefix hhead
  have hletters := List.all_eq_true.mp (hagrees.letters key)
  have hlist : value.toList = "ed25519:".toList ++ (host.bs58Encode key).toList := by
    rw [← hvalue, String.toList_append]
  refine isLine_of_all ?_ (p := fun c => "ed25519:".toList.contains c || MarketV2.isBase58Char c)
    (fun c hc => ?_) (by decide) (by decide)
  · rw [hlist]
    exact List.append_ne_nil_of_left_ne_nil (by decide) _
  · rw [hlist, List.mem_append] at hc
    rw [Bool.or_eq_true, List.contains_iff_mem]
    exact hc.imp_right (hletters c)

/-! ### Fields the contract accepts -/

/-- A value the client signs as it is, on one line. -/
def Signs (codec : Codec) (entry : String × FieldType) (value : String) : Prop :=
  canonicalField codec value entry.2 = .ok value ∧ IsLine value

theorem isLine_of_signs {spec : List (String × FieldType)} {values : List String}
    (h : List.Forall₂ (Signs codec) spec values) : ∀ value ∈ values, IsLine value := by
  induction h with
  | nil => simp
  | cons hsigns _ ih => exact List.forall_mem_cons.mpr ⟨hsigns.2, ih⟩

section Fields

variable {name label value : String}

theorem signs_hex (h : assertSha256 label value = .ok ⟨⟩) : Signs codec (name, .hex) value :=
  ⟨patternField_eq_ok.mpr ⟨isHexText_of_assertSha256 h, rfl⟩,
    isLine_of_isHexText (isHexText_of_assertSha256 h)⟩

theorem signs_identifier (h : assertIdentifier label value = .ok ⟨⟩) :
    Signs codec (name, .identifier) value :=
  ⟨patternField_eq_ok.mpr ⟨isIdentifier_of_assertIdentifier h, rfl⟩,
    isLine_of_isIdentifier (isIdentifier_of_assertIdentifier h)⟩

theorem signs_currency (h : CurrencyOk value) : Signs codec (name, .currency) value :=
  ⟨patternField_eq_ok.mpr ⟨isCurrency_of_currencyOk h, rfl⟩,
    isLine_of_isCurrency (isCurrency_of_currencyOk h)⟩

theorem signs_account (h : isAccountIdText value = true) : Signs codec (name, .account) value :=
  ⟨patternField_eq_ok.mpr ⟨isAccount_of_isAccountIdText h, rfl⟩,
    isLine_of_isAccount (isAccount_of_isAccountIdText h)⟩

theorem signs_key (hagrees : codec.Agrees host) (h : KeyOk host value) :
    Signs codec (name, .key) value :=
  ⟨canonicalKey_of_keyOk hagrees h, isLine_of_keyOk hagrees h⟩

theorem signs_u32 (h : DecimalOk label value (maxOf 32)) : Signs codec (name, .u32) value := by
  obtain ⟨parsed, hparsed⟩ := h
  obtain ⟨hfield, rfl⟩ := decimalField_of_parse hparsed
  exact ⟨hfield, isLine_of_decimal⟩

/-- A positive decimal is not spelled `0`. -/
theorem signs_positiveU64
    (h : ∃ parsed, parseCanonicalDecimal label value (maxOf 64) = .ok parsed ∧ parsed > 0) :
    Signs codec (name, .positiveU64) value := by
  obtain ⟨parsed, hparsed, hpos⟩ := h
  obtain ⟨hfield, rfl⟩ := decimalField_of_parse hparsed
  refine ⟨bind_eq_ok.mpr ⟨⟨⟩, require_eq_ok.mpr ?_, hfield⟩, isLine_of_decimal⟩
  intro hzero
  have hparsed0 : parsed = 0 := decimal_injective (hzero.trans (rfl : "0" = decimal 0))
  omega

end Fields

/-- The message of arguments whose every field is signed as it is. -/
theorem message_of_signs (hargs : argumentsOf body = some args)
    (hid : assertSha256 "ticket_id" args.ticketId = .ok ⟨⟩)
    (hexpires : DecimalOk "expires_at_ms" args.expiresAtMs (maxOf 64))
    (hfields : List.Forall₂ (Signs codec) (ticketFields args.action) (args.fields.map Prod.snd))
    (hnetwork : IsLine binding.network) (hcontract : IsLine binding.contractId) :
    args.message codec binding =
      .ok (joinLines (SignedMessage.lines ⟨binding.network, binding.contractId, body⟩)) := by
  obtain ⟨hnames, hbody⟩ := argumentsOf_spec hargs binding.network binding.contractId
  obtain ⟨parsed, hparsed⟩ := hexpires
  obtain ⟨hexpiry, hspelled⟩ := decimalField_of_parse hparsed
  have hhex := isHexText_of_assertSha256 hid
  simp only [TicketArguments.message, ticketMessage, bind_eq_ok, lines_eq_ok,
    fieldValues_of_names hnames]
  refine ⟨_, patternField_eq_ok.mpr ⟨hhex, rfl⟩, _, hexpiry, _,
    ⟨rfl, hfields.imp fun _ _ h => h.1⟩, ?_, by rw [hbody]⟩
  intro value hvalue
  rcases List.mem_append.mp hvalue with hvalue | hvalue
  · simp only [List.mem_cons, List.not_mem_nil, or_false] at hvalue
    rcases hvalue with rfl | rfl | rfl | rfl | rfl | rfl
    · decide
    · exact hnetwork
    · exact hcontract
    · cases args.action <;> decide
    · exact isLine_of_isHexText hhex
    · rw [hspelled]
      exact isLine_of_decimal
  · exact isLine_of_signs hfields value hvalue

/-- Arguments that pass the contract's checks are signed. -/
theorem message_of_formatOk (binding : MarketBinding) (hagrees : codec.Agrees host) (hargs : argumentsOf body = some args)
    (h : FormatOk host body) (hnetwork : IsLine binding.network)
    (hcontract : IsLine binding.contractId) :
    args.message codec binding =
      .ok (joinLines (SignedMessage.lines ⟨binding.network, binding.contractId, body⟩)) := by
  cases body with
  | vat => cases hargs
  | purchaseDevice =>
    obtain ⟨hid, hexpires, hpublication, hkey, hcertificate⟩ := h
    cases hargs
    refine message_of_signs rfl hid hexpires ?_ hnetwork hcontract
    exact .cons (signs_identifier hpublication) (.cons (signs_key hagrees hkey)
      (.cons (signs_hex hcertificate) .nil))
  | cardPurchase =>
    obtain ⟨hid, hexpires, hpublication, hkey, hcertificate, hreference, hgross, hcurrency⟩ := h
    cases hargs
    refine message_of_signs rfl hid hexpires ?_ hnetwork hcontract
    exact .cons (signs_identifier hpublication) (.cons (signs_key hagrees hkey)
      (.cons (signs_hex hcertificate) (.cons (signs_hex hreference)
        (.cons (signs_positiveU64 hgross) (.cons (signs_currency hcurrency) .nil)))))
  | addDevice =>
    obtain ⟨hid, hexpires, hkey, hcertificate, hepoch⟩ := h
    cases hargs
    refine message_of_signs rfl hid hexpires ?_ hnetwork hcontract
    exact .cons (signs_key hagrees hkey) (.cons (signs_hex hcertificate)
      (.cons (signs_u32 hepoch) .nil))
  | revokeDevice =>
    obtain ⟨hid, hexpires, hkey, hepoch⟩ := h
    cases hargs
    refine message_of_signs rfl hid hexpires ?_ hnetwork hcontract
    exact .cons (signs_key hagrees hkey) (.cons (signs_u32 hepoch) .nil)
  | refundTicket =>
    obtain ⟨hid, hexpires, haccount⟩ := h
    cases hargs
    refine message_of_signs rfl hid hexpires ?_ hnetwork hcontract
    exact .cons (signs_account haccount) .nil

end Messages

/-! ## The relayer's messages -/

/-- The device and VAT messages a purchase was checked with on the relayer, built and verified there:
the bytes of the contract's lines. -/
structure RelayerMessages (platform : Relayer.Platform) (env : MarketV2.Env)
    (purchase : PurchaseMessageV2) (network ticketId amountText : String) (amount : Nat)
    (ticketKey vatKey : Bytes) : Prop where
  amountText_eq : amountText = decimal amount
  network_eq : networkId env = .ok network
  parsedKey : parseEd25519Key env.toHost purchase.ticketPublicKey = .ok ticketKey
  hashed : hexSha256 env.toHost ticketKey = ticketId
  device : Relayer.signedLines [Relayer.ticketSignatureDomain, network, env.currentAccountId,
      "purchase_device", ticketId, purchase.device.expiresAtMs, purchase.publicationId,
      purchase.device.sessionPublicKey, purchase.device.certificateSha256] "purchase_invalid" =
    .ok (utf8 (joinLines (purchaseDeviceLines network env.currentAccountId ticketId purchase)))
  deviceSigned : Relayer.verifyEd25519 platform purchase.device.signature
    (utf8 (joinLines (purchaseDeviceLines network env.currentAccountId ticketId purchase)))
      ticketKey = true
  vat : Relayer.signedLines [Relayer.vatDomain, network, env.currentAccountId, ticketId,
      purchase.publicationId, amountText, purchase.vat.vatUsdcMicro, purchase.vat.expiresAtMs,
      purchase.vat.keyVersion] "purchase_invalid" =
    .ok (utf8 (joinLines (vatLines network env.currentAccountId ticketId amount purchase)))
  vatSigned : Relayer.verifyEd25519 platform purchase.vat.signature
    (utf8 (joinLines (vatLines network env.currentAccountId ticketId amount purchase)))
      vatKey = true

/-- A purchase the relayer accepts was checked with the contract's messages. -/
theorem relayer_messages {platform : Relayer.Platform} {env : MarketV2.Env} {s : Contract}
    {msg amountText : String} {nowMs : Nat} {checked : Relayer.CheckedPurchase}
    (hagrees : Relayer.Agrees platform env.toHost)
    (hreads : Relayer.ReadsPurchase platform env.toHost msg)
    (h : Relayer.checkPurchaseMessage platform (Relayer.marketView env s)
      ⟨env.currentAccountId, amountText, msg, nowMs⟩ = .ok checked) :
    ∃ purchase network amount ticketKey vatKey,
      env.purchaseMessageOfJson msg = some purchase ∧
      RelayerMessages platform env purchase network checked.ticketId amountText amount ticketKey
        vatKey := by
  simp only [Relayer.checkPurchaseMessage, Relayer.parseMessage, Relayer.checkPurchase,
    Relayer.marketView, bind_eq_ok, expect_eq_ok, require_eq_ok, pure_eq_ok, ok_eq_ok,
    Relayer.matching_eq_ok, Relayer.ed25519Key_eq_ok hagrees] at h
  obtain ⟨message, ⟨value, hvalue, _, htext, hmessage⟩, publicationId,
    ⟨hpublicationId, -⟩, certificate, ⟨hcertificate, -⟩, vatUsdcMicro,
    ⟨hvatUsdcMicro, -⟩, keyVersion, ⟨hkeyVersion, -⟩, _, -, ticketPublicKey,
    hticketPublicKey, ticketKey, hticketKey, sessionPublicKey, hsessionPublicKey, sessionKey,
    -, deviceExpires, hdeviceExpires, _, -, vatExpires, hvatExpires, _, -, h⟩ := h
  obtain ⟨_, rfl, _, rfl, _, rfl, _, rfl, _, rfl, _, -, _, hpublication, _, -, _, hprice, _, -,
    _, -, _, -, network, hnetwork, deviceMessage, hdevice, vatMessage, hvat, deviceSignature,
    hdeviceSignature, _, hdeviceSigned, vatSignature, hvatSignature, vatKey, -, _, hvatSigned,
    rfl⟩ := h
  obtain ⟨publication, -, rfl⟩ := Option.map_eq_some_iff.mp hpublication
  have hrecord : message.record? = some {
      action := MarketV2.buyTicketV2Action
      publicationId := publicationId
      ticketPublicKey := ticketPublicKey
      device := ⟨sessionPublicKey, certificate, deviceExpires, deviceSignature⟩
      vat := ⟨vatUsdcMicro, vatExpires, keyVersion, vatSignature⟩ } := by
    simp [Relayer.PurchaseMessage.record?, hpublicationId, hticketPublicKey, hsessionPublicKey,
      hcertificate, hdeviceExpires, hdeviceSignature, hvatUsdcMicro, hvatExpires, hkeyVersion,
      hvatSignature]
  obtain ⟨-, hread⟩ := hreads value message _ hvalue htext hmessage hrecord
  have hdeviceBytes := (Relayer.signedLines_eq_ok.mp hdevice).2
  have hvatBytes := (Relayer.signedLines_eq_ok.mp hvat).2
  rw [hdeviceBytes] at hdevice hdeviceSigned
  rw [hvatBytes] at hvat hvatSigned
  have hamount : amountText = decimal publication.priceUsdc := hprice.symm
  have hhash : hexSha256 env.toHost ticketKey = Relayer.sha256Hex platform ticketKey := by
    rw [Relayer.sha256Hex, hagrees.sha256]
    rfl
  refine ⟨_, network, publication.priceUsdc, ticketKey, vatKey, hread, ?_⟩
  exact {
    amountText_eq := hamount
    network_eq := Relayer.networkId_of_networkOf hnetwork
    parsedKey := hticketKey
    hashed := hhash
    device := hdevice
    deviceSigned := hdeviceSigned
    vat := by
      rw [hamount] at hvat ⊢
      exact hvat
    vatSigned := by
      rw [hamount] at hvatSigned
      exact hvatSigned }

/-! ## Agreement -/

theorem isLine_of_networkId {env : MarketV2.Env} {network : String}
    (h : networkId env = .ok network) : IsLine network := by
  unfold networkId at h
  rcases ite_eq_ok.mp h with ⟨-, h⟩ | ⟨-, h⟩
  · rw [← ok_eq_ok.mp h]
    decide
  · rcases ite_eq_ok.mp h with ⟨-, h⟩ | ⟨-, h⟩
    · rw [← ok_eq_ok.mp h]
      decide
    · exact (error_eq_ok.mp h).elim

/-- Arguments that pass the contract's format checks are signed by the web client, over the bytes of
the contract's lines; whatever it signs are the bytes of the contract's lines; and so are the device
and VAT messages of every purchase the relayer accepts. -/
theorem ticket_messages_agree {codec : Codec} {env : MarketV2.Env}
    (hcodec : codec.Agrees env.toHost) (hcontract : isAccountIdText env.currentAccountId = true) :
    (∀ body args network, argumentsOf body = some args → FormatOk env.toHost body →
      networkId env = .ok network →
      ∃ text, args.message codec ⟨network, env.currentAccountId⟩ = .ok text ∧
        MarketV2.signedLines (SignedMessage.lines ⟨network, env.currentAccountId, body⟩) =
          .ok text ∧
        utf8 text = SignedMessage.bytes ⟨network, env.currentAccountId, body⟩) ∧
    (∀ body args network text, argumentsOf body = some args →
      args.message codec ⟨network, env.currentAccountId⟩ = .ok text →
      MarketV2.signedLines (SignedMessage.lines ⟨network, env.currentAccountId, body⟩) =
          .ok text ∧
        utf8 text = SignedMessage.bytes ⟨network, env.currentAccountId, body⟩) ∧
    ∀ platform s msg amountText nowMs checked, Relayer.Agrees platform env.toHost →
      Relayer.ReadsPurchase platform env.toHost msg →
      Relayer.checkPurchaseMessage platform (Relayer.marketView env s)
        ⟨env.currentAccountId, amountText, msg, nowMs⟩ = .ok checked →
      ∃ purchase network amount ticketKey vatKey,
        env.purchaseMessageOfJson msg = some purchase ∧
        RelayerMessages platform env purchase network checked.ticketId amountText amount ticketKey
          vatKey := by
  have hbytes : ∀ body args network text, argumentsOf body = some args →
      args.message codec ⟨network, env.currentAccountId⟩ = .ok text →
      MarketV2.signedLines (SignedMessage.lines ⟨network, env.currentAccountId, body⟩) =
          .ok text ∧
        utf8 text = SignedMessage.bytes ⟨network, env.currentAccountId, body⟩ := by
    intro body args network text hargs h
    have hlines := lines_of_message hargs h
    exact ⟨hlines, by rw [SignedMessage.bytes, (MarketV2.signedLines_ok hlines).2]⟩
  refine ⟨?_, hbytes, ?_⟩
  · intro body args network hargs hformat hnetwork
    have hmessage := message_of_formatOk ⟨network, env.currentAccountId⟩ hcodec hargs hformat
      (isLine_of_networkId hnetwork)
      (isLine_of_isAccount (isAccount_of_isAccountIdText hcontract))
    exact ⟨_, hmessage, hbytes body args network _ hargs hmessage⟩
  · intro platform s msg amountText nowMs checked hagrees hreads h
    exact relayer_messages hagrees hreads h

/-! ## A device of a sold ticket -/

namespace Vectors

open Youtick.MarketV2.Vectors (host context ticketId expiresAtMs firstSession certificate issuedAtMs)

def codec : Codec where
  baseDecode := host.bs58Decode
  baseEncode := host.bs58Encode

def env : MarketV2.Env := ⟨host, context MarketV2.Vectors.buyerId issuedAtMs⟩

def linked : SignedBody := .addDevice ticketId expiresAtMs firstSession.text certificate "0"

theorem agrees : codec.Agrees env.toHost where
  baseDecode := rfl
  baseEncode := rfl
  letters bytes := by
    have hletters : ∀ key ∈ MarketV2.Vectors.keys,
        key.base58.toList.all MarketV2.isBase58Char = true := by decide
    show ((((MarketV2.Vectors.keys.find? fun key => key.bytes = bytes).map
      (·.base58)).getD "").toList.all MarketV2.isBase58Char) = true
    cases hfind : MarketV2.Vectors.keys.find? fun key => key.bytes = bytes with
    | none => rfl
    | some key => exact hletters key (List.mem_of_find?_eq_some hfind)

theorem formatOk : FormatOk env.toHost linked := by
  refine ⟨?_, ⟨1791360600000, ?_⟩, ⟨firstSession.bytes, ?_⟩, ?_, ⟨0, ?_⟩⟩
  all_goals rfl

end Vectors

theorem ticket_messages_agree_linked :
    ∃ args text, argumentsOf Vectors.linked = some args ∧
      args.message Vectors.codec ⟨"testnet", Vectors.env.currentAccountId⟩ = .ok text ∧
      utf8 text =
        SignedMessage.bytes ⟨"testnet", Vectors.env.currentAccountId, Vectors.linked⟩ := by
  obtain ⟨text, hmessage, -, hbytes⟩ := (ticket_messages_agree Vectors.agrees (by decide)).1
    Vectors.linked _ "testnet" rfl Vectors.formatOk rfl
  exact ⟨_, text, rfl, hmessage, hbytes⟩

end Youtick.Web
