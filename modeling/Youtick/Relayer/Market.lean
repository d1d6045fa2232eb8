import Youtick.PaymentService.RefundIntake
import Youtick.Relayer.Json

/-!
# Relayer: checks before a sponsored transaction

What the relayer checks of a purchase message, an upload message and the arguments of a device link
before it pays for a transaction: the text, the signatures, and the answers of the Market's views.
Each check throws a client error code. `Platform` is what the runtime and the key library provide;
`MarketView` holds the answers of the views, reduced to the fields the checks read.
-/

set_option autoImplicit false

namespace Youtick.Relayer

open Youtick.Lib Youtick.MarketV2 Youtick.PaymentService

/-! ## The platform and the views -/

structure Platform where
  jsonParse : String → Option JsValue
  baseDecode : String → Option Bytes
  baseEncode : Bytes → String
  sha256 : Bytes → Bytes
  verify : (signature message key : Bytes) → Bool

structure PublicationView where
  publicationId : String
  priceUsdc : String
  availability : String

structure DeviceView where
  sessionPublicKey : String
  authorizedAtMs : String
  expiresAtMs : String

structure TicketView where
  ticketId : String
  ticketPublicKey : String
  publicationId : String
  status : String
  deviceEpoch : Nat
  devices : List DeviceView

structure BetaView where
  endsAtMs : String
  closedAtMs : Option String

structure MediaJobView where
  creatorId : String
  profileId : String
  profileConfigSha256 : String
  title : String
  priceUsdc : String
  expectedSourceBytes : String
  feeAsset : String
  feeAmount : String
  feeUsdMicro : String
  uploadPublicKey : String
  uploadKeyExpiresAtMs : String
  feeQuoteHash : Option String

/-- The answers of the Market's views; a view that does not answer throws. -/
structure MarketView where
  getPublication : String → Result (Option PublicationView)
  getTicket : String → Result (Option TicketView)
  getVatPublicKey : Nat → Result (Option String)
  newPurchasesPaused : Result Bool
  getPublicTestnetBetaState : Result (Option BetaView)
  hasPublicUploadPolicy : Result Bool
  getMediaJob : String → Result (Option MediaJobView)
  reserveRunwayBytes : Result String

/-! ## Constants -/

def ticketSignatureDomain : String := "youtick.market-v2.ticket-sig.v1"

def vatDomain : String := "youtick.market-v2.vat.v1"

/-- The contract rejects a signature expiring more than one hour ahead. -/
def maxSignatureTtlMs : Nat := 3600000

/-- Time for the sign and relay transactions to land before a signature expires on chain. -/
def expiryMarginMs : Nat := 60000

/-- `split_ticket_amount` of the contract panics below it. -/
def minTicketPriceUsdc : Nat := 5000000

/-- `Number.MAX_SAFE_INTEGER` -/
def maxSafeInteger : Nat := 2 ^ 53 - 1

def uploadProfileId : String := "paid-media-v1"

def maxSourceBytes : Nat := 20000000000

def maxTitleBytes : Nat := 200

/-- The upload fee: 3 / 10,000 micro-USDC a byte, at least 0.5 USDC. -/
def uploadFeeNumerator : Nat := 3

def uploadFeeDenominator : Nat := 10000

def uploadFeeMinimum : Nat := 500000

/-- A fourth device replaces the oldest. -/
def maxTicketDevices : Nat := 3

/-- A device listed for longer than this needs no transaction. -/
def deviceRenewWithinMs : Nat := 7 * 86400000

/-- The contract's runway after the call, and room for one device. -/
def deviceMinRunwayBytes : Nat := 26000

/-! ## Regular expressions -/

/-- `^(0|[1-9][0-9]{0,n})$` -/
def isDecimal (n : Nat) (text : String) : Bool := decide (text = "0") || isPositiveDecimal n text

/-- `^[A-Za-z0-9._:-]{1,128}$` -/
def isIdentifier (text : String) : Bool :=
  decide (1 ≤ text.toList.length) && decide (text.toList.length ≤ 128) &&
    text.toList.all isIdentifierChar

/-- `^[0-9]{1,20}$` -/
def isTimeText (text : String) : Bool :=
  decide (1 ≤ text.toList.length) && decide (text.toList.length ≤ 20) &&
    text.toList.all isAsciiDigit

/-- `^ed25519:[1-9A-HJ-NP-Za-km-z]{43,44}$` -/
def isSessionKey (text : String) : Bool :=
  match stripPrefix text "ed25519:" with
  | none => false
  | some encoded =>
    decide (43 ≤ encoded.toList.length) && decide (encoded.toList.length ≤ 44) &&
      encoded.toList.all isBase58Char

/-! ## Shared checks -/

/-- The text of a string that matches `pattern`; a lone surrogate matches none of the patterns. -/
def matching (s : JsString) (pattern : String → Bool) (code : String) : Result String := do
  let text ← expect s.text? code
  require (pattern text = true) code
  return text

/-- The 32 key bytes of a canonical `ed25519:<base58>` key. -/
def ed25519Key (platform : Platform) (value code : String) : Result Bytes := do
  let encoded ← expect (stripPrefix value "ed25519:") code
  let raw ← expect (platform.baseDecode encoded) code
  require (raw.length = 32 ∧ platform.baseEncode raw = encoded) code
  return raw

def signedLines (fields : List String) (code : String) : Result Bytes := do
  require (∀ field ∈ fields, IsLine field) code
  return utf8 (joinLines fields)

/-- `atob` ignores non-zero trailing bits, so the decoded bytes are encoded again. -/
def verifyEd25519 (platform : Platform) (signature : String) (message key : Bytes) : Bool :=
  isSignature signature &&
    match Base64.forgivingDecode signature with
    | none => false
    | some bytes =>
      decide (Base64.encode bytes = signature) && platform.verify bytes message key

def expiry (value : String) (nowMs : Nat) (invalid : String) : Result PUnit.{1} := do
  require (isDecimal 38 value = true) invalid
  let expires := number value
  require (expires ≤ maxSafeInteger ∧ ¬ expires ≤ toDouble (nowMs + expiryMarginMs))
    "signature_expired"
  require (¬ expires - nowMs > maxSignatureTtlMs) invalid

def sha256Hex (platform : Platform) (value : Bytes) : String := hex (platform.sha256 value)

def networkOf (contractId : String) : Result String :=
  if endsWith contractId ".testnet" then .ok "testnet"
  else if endsWith contractId ".near" then .ok "mainnet"
  else .error "invalid_request"

/-! ## Purchases -/

structure PurchaseDevice where
  sessionPublicKey : JsString
  certificateSha256 : JsString
  expiresAtMs : JsString
  signature : JsString

structure PurchaseVat where
  vatUsdcMicro : JsString
  expiresAtMs : JsString
  keyVersion : JsString
  signature : JsString

structure PurchaseMessage where
  publicationId : JsString
  ticketPublicKey : JsString
  device : PurchaseDevice
  vat : PurchaseVat

def purchaseKeys : List String := ["action", "device", "publication_id", "ticket_public_key", "vat"]

def deviceKeys : List String :=
  ["session_public_key", "certificate_sha256", "expires_at_ms", "signature"]

def vatKeys : List String := ["vat_usdc_micro", "expires_at_ms", "key_version", "signature"]

def purchaseDevice (value : JsValue) : Option PurchaseDevice := do
  let fields ← value.fields?
  guard (exactStrings value deviceKeys = true)
  return {
    sessionPublicKey := ← stringProperty fields "session_public_key"
    certificateSha256 := ← stringProperty fields "certificate_sha256"
    expiresAtMs := ← stringProperty fields "expires_at_ms"
    signature := ← stringProperty fields "signature" }

def purchaseVat (value : JsValue) : Option PurchaseVat := do
  let fields ← value.fields?
  guard (exactStrings value vatKeys = true)
  return {
    vatUsdcMicro := ← stringProperty fields "vat_usdc_micro"
    expiresAtMs := ← stringProperty fields "expires_at_ms"
    keyVersion := ← stringProperty fields "key_version"
    signature := ← stringProperty fields "signature" }

/-- The purchase a parsed value is: the five properties and no other, in any order. -/
def purchaseOf (value : JsValue) : Option PurchaseMessage := do
  let fields ← value.fields?
  guard ((fields.map Prod.fst).Perm (purchaseKeys.map .ofString))
  guard (stringProperty fields "action" = some (.ofString "buy_ticket_v2"))
  return {
    publicationId := ← stringProperty fields "publication_id"
    ticketPublicKey := ← stringProperty fields "ticket_public_key"
    device := ← (property fields "device").bind purchaseDevice
    vat := ← (property fields "vat").bind purchaseVat }

/-- Compact JSON as `JSON.stringify` writes it: writing the parsed value again gives the same text,
which rules out duplicate properties. -/
def parseMessage (platform : Platform) (msg : String) : Result PurchaseMessage := do
  let value ← expect (platform.jsonParse msg) "purchase_invalid"
  require (value.stringify = msg) "purchase_invalid"
  expect (purchaseOf value) "purchase_invalid"

/-- A beta state that exists but is no longer active refunds every purchase. -/
def betaOpen (beta : Option BetaView) (nowMs : Nat) : Bool :=
  match beta with
  | none => true
  | some beta =>
    beta.closedAtMs.isNone && isTimeText beta.endsAtMs && decide (nowMs < number beta.endsAtMs)

/-- The Market, the amount of the transfer, its message and the relayer's clock. -/
structure PurchaseInput where
  marketContractId : String
  amount : String
  msg : String
  nowMs : Nat

structure CheckedPurchase where
  publicationId : String
  ticketId : String
  deriving DecidableEq

/-- The checks of a parsed purchase. -/
def checkPurchase (platform : Platform) (market : MarketView) (input : PurchaseInput)
    (purchase : PurchaseMessage) : Result CheckedPurchase := do
  let publicationId ← matching purchase.publicationId isIdentifier "purchase_invalid"
  let certificateSha256 ← matching purchase.device.certificateSha256 (isHexText 64)
    "purchase_invalid"
  let vatUsdcMicro ← matching purchase.vat.vatUsdcMicro (isDecimal 38) "purchase_invalid"
  let keyVersion ← matching purchase.vat.keyVersion (isDecimal 9) "purchase_invalid"
  require (number keyVersion ≤ 0xffffffff) "purchase_invalid"
  let ticketPublicKey ← expect purchase.ticketPublicKey.text? "purchase_invalid"
  let ticketKey ← ed25519Key platform ticketPublicKey "purchase_invalid"
  let sessionPublicKey ← expect purchase.device.sessionPublicKey.text? "purchase_invalid"
  let _sessionKey ← ed25519Key platform sessionPublicKey "purchase_invalid"
  let deviceExpiresAtMs ← expect purchase.device.expiresAtMs.text? "purchase_invalid"
  expiry deviceExpiresAtMs input.nowMs "purchase_invalid"
  let vatExpiresAtMs ← expect purchase.vat.expiresAtMs.text? "purchase_invalid"
  expiry vatExpiresAtMs input.nowMs "purchase_invalid"
  let ticketId := sha256Hex platform ticketKey
  let publication ← market.getPublication publicationId
  let ticket ← market.getTicket ticketId
  let vatKey ← market.getVatPublicKey (number keyVersion)
  let paused ← market.newPurchasesPaused
  let beta ← market.getPublicTestnetBetaState
  require (paused = false ∧ betaOpen beta input.nowMs = true) "purchases_paused"
  let publication ← expect publication "publication_unavailable"
  require (publication.publicationId = publicationId ∧ publication.availability = "ACTIVE")
    "publication_unavailable"
  require (publication.priceUsdc = input.amount) "price_mismatch"
  require (¬ digitsValue input.amount.toList < minTicketPriceUsdc) "publication_unavailable"
  require (ticket.isNone = true) "ticket_exists"
  let vatKey ← expect vatKey "purchase_invalid"
  let network ← networkOf input.marketContractId
  let deviceMessage ← signedLines [ticketSignatureDomain, network, input.marketContractId,
    "purchase_device", ticketId, deviceExpiresAtMs, publicationId, sessionPublicKey,
    certificateSha256] "purchase_invalid"
  let vatMessage ← signedLines [vatDomain, network, input.marketContractId, ticketId, publicationId,
    input.amount, vatUsdcMicro, vatExpiresAtMs, keyVersion] "purchase_invalid"
  let deviceSignature ← expect purchase.device.signature.text? "purchase_invalid"
  require (verifyEd25519 platform deviceSignature deviceMessage ticketKey = true) "purchase_invalid"
  let vatSignature ← expect purchase.vat.signature.text? "purchase_invalid"
  let vatKeyBytes ← ed25519Key platform vatKey "purchase_invalid"
  require (verifyEd25519 platform vatSignature vatMessage vatKeyBytes = true) "purchase_invalid"
  return { publicationId := publicationId, ticketId := ticketId }

/-- Throws unless Market V2 would accept this purchase now. -/
def checkPurchaseMessage (platform : Platform) (market : MarketView) (input : PurchaseInput) :
    Result CheckedPurchase := do
  let purchase ← parseMessage platform input.msg
  checkPurchase platform market input purchase

/-! ## Uploads -/

structure UploadMessage where
  jobId : JsString
  title : JsString
  priceUsdc : JsString
  expectedSourceBytes : JsString
  profileId : JsString
  profileConfigSha256 : JsString
  uploadPublicKey : JsString
  uploadKeyExpiresAtMs : JsString

def uploadKeys : List String :=
  ["action", "job_id", "title", "price_usdc", "expected_source_bytes", "profile_id",
    "profile_config_sha256", "upload_public_key", "upload_key_expires_at_ms"]

/-- The upload a parsed value is: string properties in protocol order. -/
def uploadOf (value : JsValue) : Option UploadMessage := do
  let fields ← value.fields?
  guard (fields.map Prod.fst = uploadKeys.map .ofString)
  guard ((fields.all fun field => field.2.string?.isSome) = true)
  guard (stringProperty fields "action" = some (.ofString "create_paid_job"))
  return {
    jobId := ← stringProperty fields "job_id"
    title := ← stringProperty fields "title"
    priceUsdc := ← stringProperty fields "price_usdc"
    expectedSourceBytes := ← stringProperty fields "expected_source_bytes"
    profileId := ← stringProperty fields "profile_id"
    profileConfigSha256 := ← stringProperty fields "profile_config_sha256"
    uploadPublicKey := ← stringProperty fields "upload_public_key"
    uploadKeyExpiresAtMs := ← stringProperty fields "upload_key_expires_at_ms" }

def parseUploadMessage (platform : Platform) (msg : String) : Result UploadMessage := do
  let value ← expect (platform.jsonParse msg) "upload_invalid"
  require (value.stringify = msg) "upload_invalid"
  expect (uploadOf value) "upload_invalid"

/-- `max(ceil(bytes * 3 / 10,000), 500,000)` micro-USDC. -/
def uploadFeeUsdcMicro (sourceBytes : String) : String :=
  let bytes := digitsValue sourceBytes.toList
  let fee := (bytes * uploadFeeNumerator + uploadFeeDenominator - 1) / uploadFeeDenominator
  decimal (if fee > uploadFeeMinimum then fee else uploadFeeMinimum)

def futureMs (value : String) (nowMs : Nat) (code : String) : Result PUnit.{1} := do
  require (isDecimal 38 value = true) "upload_invalid"
  let expires := number value
  require (expires ≤ maxSafeInteger) "upload_invalid"
  require (¬ expires ≤ toDouble (nowMs + expiryMarginMs)) code

/-- The configured profile hashes: no list, a malformed one, or the hashes allowed. -/
inductive ProfileHashAllowlist where
  | unset
  | invalid
  | hashes (allowed : List String)

namespace ProfileHashAllowlist

/-- A malformed list fails closed. -/
def isValid : ProfileHashAllowlist → Bool
  | .invalid => false
  | _ => true

def allows (allowlist : ProfileHashAllowlist) (hash : String) : Bool :=
  match allowlist with
  | .hashes allowed => decide (hash ∈ allowed)
  | _ => true

end ProfileHashAllowlist

structure UploadInput where
  marketContractId : String
  accountId : String
  amount : String
  msg : String
  nowMs : Nat
  profileHashAllowlist : ProfileHashAllowlist

/-- The checks of a parsed upload. -/
def checkUpload (platform : Platform) (market : MarketView) (input : UploadInput)
    (upload : UploadMessage) : Result String := do
  let jobId ← matching upload.jobId isIdentifier "upload_invalid"
  require (upload.title.isBlank = false ∧ ¬ upload.title.byteLength > maxTitleBytes ∧
    upload.title.hasControl = false) "upload_invalid"
  let priceUsdc ← matching upload.priceUsdc (isDecimal 38) "upload_invalid"
  require (¬ digitsValue priceUsdc.toList < minTicketPriceUsdc) "upload_invalid"
  let expectedSourceBytes ← matching upload.expectedSourceBytes (isDecimal 38) "upload_invalid"
  require (¬ digitsValue expectedSourceBytes.toList < 1 ∧
    ¬ digitsValue expectedSourceBytes.toList > maxSourceBytes) "upload_invalid"
  require (upload.profileId = .ofString uploadProfileId) "upload_invalid"
  let profileConfigSha256 ← matching upload.profileConfigSha256 (isHexText 64) "upload_invalid"
  require (input.profileHashAllowlist.allows profileConfigSha256 = true) "profile_not_allowed"
  let uploadPublicKey ← expect upload.uploadPublicKey.text? "upload_invalid"
  let _uploadKey ← ed25519Key platform uploadPublicKey "upload_invalid"
  let uploadKeyExpiresAtMs ← expect upload.uploadKeyExpiresAtMs.text? "upload_invalid"
  futureMs uploadKeyExpiresAtMs input.nowMs "upload_key_expired"
  require (input.amount = uploadFeeUsdcMicro expectedSourceBytes) "fee_mismatch"
  let paused ← market.newPurchasesPaused
  let beta ← market.getPublicTestnetBetaState
  let policy ← market.hasPublicUploadPolicy
  let job ← market.getMediaJob jobId
  require (paused = false) "uploads_paused"
  -- Either mode refunds a message without a sponsor quote; the relayer path carries none.
  require (beta.isNone = true ∧ policy = false) "quote_required"
  match job with
  | none => return jobId
  | some job =>
    let identical := decide (job.creatorId = input.accountId ∧
      upload.title = .ofString job.title ∧ job.priceUsdc = priceUsdc ∧
      job.expectedSourceBytes = expectedSourceBytes ∧
      upload.profileId = .ofString job.profileId ∧
      job.profileConfigSha256 = profileConfigSha256 ∧ job.uploadPublicKey = uploadPublicKey ∧
      job.uploadKeyExpiresAtMs = uploadKeyExpiresAtMs ∧ job.feeAsset = "USDC" ∧
      job.feeAmount = input.amount ∧ job.feeUsdMicro = input.amount ∧ job.feeQuoteHash = none)
    .error (if identical then "job_exists" else "job_conflict")

/-- Throws unless Market V2 would create this paid job now; returns the job's id. -/
def checkUploadMessage (platform : Platform) (market : MarketView) (input : UploadInput) :
    Result String := do
  require (input.profileHashAllowlist.isValid = true) "uploads_misconfigured"
  let upload ← parseUploadMessage platform input.msg
  checkUpload platform market input upload

/-! ## Device links -/

/-- The six arguments. A string with a lone surrogate fails the first check, so they are texts. -/
structure AddDeviceArgs where
  ticketId : String
  sessionPublicKey : String
  certificateSha256 : String
  deviceEpoch : String
  expiresAtMs : String
  signature : String

structure DeviceInput where
  marketContractId : String
  args : AddDeviceArgs
  nowMs : Nat

structure DeviceCheck where
  listed : Bool
  renewal : Bool
  evicts : Option String
  deriving DecidableEq

def playableStatuses : List String := ["purchased", "watched", "watched_in_escrow", "released"]

/-- The devices a ticket view lists, oldest link or renewal first. -/
def ticketDevices (ticket : TicketView) : Result (List DeviceView) := do
  require (∀ device ∈ ticket.devices, isDecimal 38 device.expiresAtMs = true ∧
    isDecimal 38 device.authorizedAtMs = true) "rpc_unavailable"
  return ticket.devices

/-- Throws unless Market V2 would add or renew this device now. -/
def checkAddDeviceArgs (platform : Platform) (market : MarketView) (input : DeviceInput) :
    Result DeviceCheck := do
  let args := input.args
  let nowMs := input.nowMs
  require (isHexText 64 args.ticketId = true ∧ isHexText 64 args.certificateSha256 = true ∧
    isSessionKey args.sessionPublicKey = true ∧ isDecimal 9 args.deviceEpoch = true ∧
    ¬ number args.deviceEpoch > 0xffffffff ∧ isSignature args.signature = true) "device_invalid"
  let _sessionKey ← ed25519Key platform args.sessionPublicKey "device_invalid"
  expiry args.expiresAtMs nowMs "device_invalid"
  let ticket ← market.getTicket args.ticketId
  let ticket ← expect ticket "ticket_not_found"
  require (ticket.ticketId = args.ticketId ∧ ticket.deviceEpoch ≤ maxSafeInteger)
    "rpc_unavailable"
  let devices ← ticketDevices ticket
  require (ticket.status ∈ playableStatuses) "ticket_not_playable"
  let ticketKey ← ed25519Key platform ticket.ticketPublicKey "device_invalid"
  require (sha256Hex platform ticketKey = args.ticketId) "device_invalid"
  let publication ← market.getPublication ticket.publicationId
  let publication ← expect publication "publication_unavailable"
  require (publication.publicationId = ticket.publicationId ∧
    publication.availability ≠ "TAKEDOWN") "publication_unavailable"
  let network ← networkOf input.marketContractId
  let message ← signedLines [ticketSignatureDomain, network, input.marketContractId, "add_device",
    args.ticketId, args.expiresAtMs, args.sessionPublicKey, args.certificateSha256,
    args.deviceEpoch] "device_invalid"
  require (verifyEd25519 platform args.signature message ticketKey = true) "device_invalid"
  -- Before the epoch: a retry of a link that already landed is listed, and need not be signed again.
  let active := devices.filter fun device => decide (number device.expiresAtMs > nowMs)
  let own := active.find? fun device => decide (device.sessionPublicKey = args.sessionPublicKey)
  if (own.any fun device =>
      decide (number device.expiresAtMs > toDouble (nowMs + deviceRenewWithinMs))) = true then
    return { listed := true, renewal := false, evicts := none }
  else
    require (number args.deviceEpoch = ticket.deviceEpoch) "device_epoch_stale"
    let reserveRunwayBytes ← market.reserveRunwayBytes
    require (isDecimal 38 reserveRunwayBytes = true) "rpc_unavailable"
    require (¬ digitsValue reserveRunwayBytes.toList < deviceMinRunwayBytes) "storage_unavailable"
    -- A renewal removes the same key first and never evicts.
    let others := active.filter fun device =>
      decide (device.sessionPublicKey ≠ args.sessionPublicKey)
    return {
      listed := false
      renewal := own.isSome
      evicts := if others.length ≥ maxTicketDevices then
        others.head?.map (·.sessionPublicKey) else none }

end Youtick.Relayer
