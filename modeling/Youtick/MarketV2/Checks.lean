import Youtick.MarketV2.Host

/-!
# Market V2: argument checks

The free functions of the contract that check an argument or turn its text into a value: identifiers,
hashes, keys, canonical decimals, signature expiries, upload requests, and the ticket split. Each
panics with the source's message. The lemmas say what a check that passed guarantees.
-/

set_option autoImplicit false

namespace Youtick.MarketV2

open Youtick.Lib

/-! ## Texts -/

def isIdentifierChar (c : Char) : Bool :=
  isAsciiAlphanumeric c || c == '-' || c == '_' || c == '.' || c == ':'

def assertIdentifier (label value : String) : Result PUnit.{1} :=
  require (value ≠ "" ∧ value.utf8ByteSize ≤ 128 ∧ value.toList.all isIdentifierChar = true)
    (label ++ " must be 1-128 ASCII identifier characters")

def assertTitle (value : String) : Result PUnit.{1} :=
  require (isBlank value = false ∧ value.utf8ByteSize ≤ 200) "title must be 1-200 bytes"

def isPlaybackIdChar (c : Char) : Bool := isAsciiAlphanumeric c || c == '-' || c == '_'

def assertPlaybackId (value : String) : Result PUnit.{1} :=
  require (6 ≤ value.utf8ByteSize ∧ value.utf8ByteSize ≤ 128 ∧
      value.toList.all isPlaybackIdChar = true)
    "playback_id must be 6-128 URL-safe ASCII characters"

def isLowerHexChar (c : Char) : Bool := isAsciiDigit c || ('a' ≤ c && c ≤ 'f')

def assertSha256 (label value : String) : Result PUnit.{1} :=
  require (value.utf8ByteSize = 64 ∧ value.toList.all isLowerHexChar = true)
    (label ++ " must be lowercase SHA-256 hex")

def assertProfile (profileId profileConfigSha256 : String) : Result PUnit.{1} := do
  require (profileId = profile) "Unsupported paid-media profile"
  assertSha256 "profile_config_sha256" profileConfigSha256

/-! ## Keys, decimals and signatures -/

/-- Parses `ed25519:<base58>` and requires the canonical encoding of exactly 32 bytes. -/
def parseEd25519Key (host : Host) (value : String) : Result Bytes := do
  let encoded ← expect (stripPrefix value "ed25519:") "Public keys must be ed25519"
  let key ← expect (host.bs58Decode encoded) "Invalid base58 public key"
  require (key.length = 32) "Public keys must be 32 bytes"
  require (host.bs58Encode key = encoded) "Public key must be canonical base58"
  return key

def parseCanonicalDecimal (label value : String) (max : Nat) : Result Nat := do
  let parsed ← expect (parseUnsigned 128 value) (label ++ " must be an unsigned integer")
  require (decimal parsed = value ∧ parsed ≤ max) (label ++ " must be a canonical in-range integer")
  return parsed

def parseSignatureExpiryWithin (value : String) (nowMs maxTtlMs : Nat) : Result Nat := do
  let expires ← parseCanonicalDecimal "expires_at_ms" value (maxOf 64)
  require (expires > nowMs) "Signature expired"
  require (expires - nowMs ≤ maxTtlMs) "Signature expiry is too far ahead"
  return expires

def parseSignatureExpiry (value : String) (nowMs : Nat) : Result Nat :=
  parseSignatureExpiryWithin value nowMs maxSignatureTtlMs

def signedLines (fields : List String) : Result String := do
  require (∀ field ∈ fields, IsLine field) "Signed fields must be non-empty single lines"
  return joinLines fields

def verifyEd25519 (host : Host) (signature message : String) (publicKey : Bytes) (error : String) :
    Result PUnit.{1} := do
  let bytes ← expect (host.base64Decode signature) error
  require (bytes.length = 64) error
  require (host.ed25519Verify bytes (utf8 message) publicKey = true) error

/-! ## Uploads -/

def assertSourceBytes (value : Nat) : Result PUnit.{1} :=
  require (1 ≤ value ∧ value ≤ paidSourceMaxBytes)
    "expected_source_bytes must be between 1 and 20,000,000,000"

def uploadFeeUsdc (sourceBytes : Nat) : Result Nat := do
  assertSourceBytes sourceBytes
  let scaled ← checkedMul 128 sourceBytes uploadFeeNumerator "Upload fee overflow"
  return Nat.max (divCeil scaled uploadFeeDenominator) minUploadFeeUsdc

def isBase58Char (c : Char) : Bool :=
  ('1' ≤ c && c ≤ '9') || ('A' ≤ c && c ≤ 'H') || ('J' ≤ c && c ≤ 'N') || ('P' ≤ c && c ≤ 'Z') ||
    ('a' ≤ c && c ≤ 'k') || ('m' ≤ c && c ≤ 'z')

def assertUploadKey (env : Env) (publicKey : String) (expiresAtMs : Nat) : Result PUnit.{1} := do
  require (startsWith publicKey "ed25519:" = true ∧ 40 ≤ publicKey.utf8ByteSize ∧
      publicKey.utf8ByteSize ≤ 80 ∧ (publicKey.toList.drop 8).all isBase58Char = true)
    "Invalid upload public key"
  require (expiresAtMs > env.blockTimestampMs) "Upload key must not be expired"

def assertPaidJobRequest (env : Env) (request : PaidJobRequest) : Result PUnit.{1} := do
  assertIdentifier "job_id" request.jobId
  assertTitle request.title
  assertSourceBytes request.expectedSourceBytes
  assertProfile request.profileId request.profileConfigSha256
  assertUploadKey env request.uploadPublicKey request.uploadKeyExpiresAtMs
  require (request.priceUsdc ≥ minTicketPriceUsdc) "USDC ticket price must be at least 5.000000"

def assertPlaybackSession (host : Host) (session : PlaybackSessionAuthorization) :
    Result PUnit.{1} := do
  assertSha256 "certificate_sha256" session.certificateSha256
  let curve ← expect (host.publicKeyCurve session.sessionPublicKey) "Invalid playback device key"
  require (curve = .ed25519) "Invalid playback device key"
  require (session.authorizationDurationMs = playbackDeviceLifetimeMs)
    "Invalid playback device duration"

def paidJobRequestSha256 (host : Host) (request : PaidJobRequest) : String :=
  hexSha256 host (host.paidJobRequestToJson request)

/-! ## The ticket split -/

/-- VAT is attested off chain; the contract only bounds it. -/
def splitTicketAmount (gross vat : Nat) : Result TicketSplit := do
  require (gross ≥ minTicketPriceUsdc) "Ticket price is below the 5 USDC minimum"
  let scaledVat ← checkedMul 128 vat (10000 + maxVatRateBps) "VAT overflow"
  let scaledGross ← checkedMul 128 gross maxVatRateBps "Gross overflow"
  require (scaledVat ≤ scaledGross) "VAT exceeds the maximum inclusive rate"
  let net := gross - vat
  let platform := net / platformDivisor
  return { vat := vat, platform := platform, creator := net - platform }

/-! ## What the checks guarantee -/

section Guarantees

variable {host : Host}

theorem parseEd25519Key_ok {value : String} {key : Bytes} (h : parseEd25519Key host value = .ok key) :
    key.length = 32 ∧ stripPrefix value "ed25519:" = some (host.bs58Encode key) := by
  simp only [parseEd25519Key, bind_eq_ok, expect_eq_ok, require_eq_ok, pure_eq_ok] at h
  obtain ⟨encoded, hstrip, key', -, -, hlen, -, hcanon, rfl⟩ := h
  exact ⟨hlen, hcanon ▸ hstrip⟩

theorem parseCanonicalDecimal_ok {label value : String} {max n : Nat}
    (h : parseCanonicalDecimal label value max = .ok n) : decimal n = value ∧ n ≤ max := by
  simp only [parseCanonicalDecimal, bind_eq_ok, expect_eq_ok, require_eq_ok, pure_eq_ok] at h
  obtain ⟨parsed, -, -, hcanon, rfl⟩ := h
  exact hcanon

theorem signedLines_ok {fields : List String} {message : String}
    (h : signedLines fields = .ok message) :
    (∀ field ∈ fields, IsLine field) ∧ joinLines fields = message := by
  simp only [signedLines, bind_eq_ok, require_eq_ok, pure_eq_ok] at h
  obtain ⟨-, hlines, hjoin⟩ := h
  exact ⟨hlines, hjoin⟩

theorem verifyEd25519_ok {signature message error : String} {publicKey : Bytes} {r : PUnit.{1}}
    (h : verifyEd25519 host signature message publicKey error = .ok r) :
    ∃ bytes, host.base64Decode signature = some bytes ∧
      host.ed25519Verify bytes (utf8 message) publicKey = true := by
  simp only [verifyEd25519, bind_eq_ok, expect_eq_ok, require_eq_ok] at h
  obtain ⟨bytes, hdecode, -, -, hverify⟩ := h
  exact ⟨bytes, hdecode, hverify⟩

/-- The three shares of a ticket add up to its gross amount. -/
theorem splitTicketAmount_ok {gross vat : Nat} {split : TicketSplit}
    (h : splitTicketAmount gross vat = .ok split) :
    split.vat + split.platform + split.creator = gross := by
  simp only [splitTicketAmount, bind_eq_ok, checkedMul_eq_ok, require_eq_ok, pure_eq_ok] at h
  obtain ⟨-, -, _, ⟨-, rfl⟩, _, ⟨-, rfl⟩, -, hcap, rfl⟩ := h
  have hvat : vat ≤ gross := by
    simp only [maxVatRateBps] at hcap
    omega
  have hnet : (gross - vat) / platformDivisor ≤ gross - vat := Nat.div_le_self _ _
  show vat + (gross - vat) / platformDivisor + (gross - vat - (gross - vat) / platformDivisor) = gross
  omega

end Guarantees

end Youtick.MarketV2
