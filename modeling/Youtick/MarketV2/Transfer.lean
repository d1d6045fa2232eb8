import Youtick.MarketV2.Tickets
import Youtick.MarketV2.Uploads

/-!
# Market V2: incoming USDC

`ft_on_transfer`, the entry point of every USDC payment: it dispatches on the message and returns
the amount the token contract gives back. `buy_ticket_v2` sells a crypto ticket; the other accepted
message creates a paid media job.
-/

set_option autoImplicit false

namespace Youtick.MarketV2

open Youtick.Lib

/-- The whole amount goes back and nothing is written. -/
def returnAll (s : Contract) (amount : Nat) : Outcome Nat := { state := s, value := amount }

/-! ## Ticket purchases -/

/-- The lines the ticket key signs for a purchase. -/
def purchaseDeviceLines (network contractId ticketId : String) (purchase : PurchaseMessageV2) :
    List String :=
  [ticketSignatureDomain, network, contractId, "purchase_device", ticketId,
    purchase.device.expiresAtMs, purchase.publicationId, purchase.device.sessionPublicKey,
    purchase.device.certificateSha256]

/-- The lines the VAT key signs for a purchase of `amount`. -/
def vatLines (network contractId ticketId : String) (amount : Nat) (purchase : PurchaseMessageV2) :
    List String :=
  [vatDomain, network, contractId, ticketId, purchase.publicationId, decimal amount,
    purchase.vat.vatUsdcMicro, purchase.vat.expiresAtMs, purchase.vat.keyVersion]

/-- The ticket a purchase stores. -/
def cryptoTicket (env : Env) (ticketId : String) (purchase : PurchaseMessageV2)
    (creatorId : AccountId) (amount : Nat) (split : TicketSplit) (vatKeyVersion : Nat)
    (device : TicketDevice) : Ticket where
  ticketId := ticketId
  ticketPublicKey := purchase.ticketPublicKey
  publicationId := purchase.publicationId
  creatorId := creatorId
  rail := .crypto
  status := .purchased
  grossUsdcMicro := amount
  vatUsdcMicro := split.vat
  platformUsdcMicro := split.platform
  creatorUsdcMicro := split.creator
  vatKeyVersion := vatKeyVersion
  purchasedAtMs := env.blockTimestampMs
  deviceEpoch := 0
  devices := [device]
  card := none

def buyTicketV2 (env : Env) (s : Contract) (amount : Nat) (purchase : PurchaseMessageV2) :
    Result (Outcome Nat) := do
  require (purchase.action = buyTicketV2Action) "Unsupported transfer action"
  assertIdentifier "publication_id" purchase.publicationId
  let ticketKey ← parseEd25519Key env.toHost purchase.ticketPublicKey
  let ticketId := hexSha256 env.toHost ticketKey
  let _sessionKey ← parseEd25519Key env.toHost purchase.device.sessionPublicKey
  assertSha256 "certificate_sha256" purchase.device.certificateSha256
  let now := env.blockTimestampMs
  let _deviceExpires ← parseSignatureExpiry purchase.device.expiresAtMs now
  let _vatExpires ← parseSignatureExpiry purchase.vat.expiresAtMs now
  let vat ← parseCanonicalDecimal "vat_usdc_micro" purchase.vat.vatUsdcMicro (maxOf 128)
  let vatKeyVersion ← parseCanonicalDecimal "key_version" purchase.vat.keyVersion (maxOf 32)
  if newPurchasesPaused s ∨
      (s.publicTestnetBeta ≠ none ∧ activePublicTestnetBeta env s = none) then
    return returnAll s amount
  else
    let publication ← expect (s.publications.get purchase.publicationId) "Publication not found"
    -- An existing ticket id (a reused key) returns the full amount and changes nothing.
    if publication.availability ≠ .active ∨ amount ≠ publication.priceUsdc ∨
        s.tickets.get ticketId ≠ none then
      return returnAll s amount
    else
      let network ← networkId env
      let deviceMessage ← signedLines
        (purchaseDeviceLines network env.currentAccountId ticketId purchase)
      verifyEd25519 env.toHost purchase.device.signature deviceMessage ticketKey
        "Invalid ticket signature"
      let vatKey ← expect (s.vatKeys.get vatKeyVersion) "Unknown VAT key version"
      require (vatKey.length = 32) "Invalid stored VAT key"
      let vatMessage ← signedLines (vatLines network env.currentAccountId ticketId amount purchase)
      verifyEd25519 env.toHost purchase.vat.signature vatMessage vatKey "Invalid VAT attestation"
      let split ← splitTicketAmount amount vat
      let firstDevice ← newTicketDevice env purchase.device.sessionPublicKey
        purchase.device.certificateSha256
      let ticket := cryptoTicket env ticketId purchase publication.creatorId amount split
        vatKeyVersion firstDevice
      let escrowBalance ← checkedAdd 128 s.escrowBalance amount "Escrow balance overflow"
      let state := { s with
        tickets := s.tickets.insert ticketId ticket
        escrowBalance := escrowBalance }
      assertRunway env state publicTestnetBetaEmergencyRunwayBytes
      let usdc ← usdcContractId env
      return {
        state := state
        value := 0
        events := [emitMarketV2Event "ticket_purchased"
          [("ticket_id", .str ticketId),
           ("publication_id", .str purchase.publicationId),
           ("creator_id", .str publication.creatorId),
           ("rail", .str "crypto"),
           ("asset", .str usdc),
           ("gross_usdc_micro", .dec amount),
           ("vat_usdc_micro", .dec split.vat),
           ("net_usdc_micro", .dec (amount - split.vat)),
           ("platform_usdc_micro", .dec split.platform),
           ("creator_usdc_micro", .dec split.creator),
           ("vat_key_version", .dec vatKeyVersion),
           ("status", .str "purchased")]] }

/-! ## Paid jobs -/

/-- The job request of a transfer message; every field is required. -/
def paidJobRequestOf (message : TransferMessage) (senderId : AccountId) :
    Result (PaidJobRequest × Nat) := do
  require (message.publicationId = none) "Invalid paid job message"
  let expectedSourceBytes ← expect message.expectedSourceBytes "expected_source_bytes is required"
  let expectedFee ← uploadFeeUsdc expectedSourceBytes
  let jobId ← expect message.jobId "job_id is required"
  let title ← expect message.title "title is required"
  let priceUsdc ← expect message.priceUsdc "price_usdc is required"
  let profileId ← expect message.profileId "profile_id is required"
  let profileConfigSha256 ← expect message.profileConfigSha256 "profile_config_sha256 is required"
  let uploadPublicKey ← expect message.uploadPublicKey "upload_public_key is required"
  let uploadKeyExpiresAtMs ← expect message.uploadKeyExpiresAtMs
    "upload_key_expires_at_ms is required"
  return ({
    creatorId := senderId
    jobId := jobId
    title := title
    priceUsdc := priceUsdc
    expectedSourceBytes := expectedSourceBytes
    profileId := profileId
    profileConfigSha256 := profileConfigSha256
    uploadPublicKey := uploadPublicKey
    uploadKeyExpiresAtMs := uploadKeyExpiresAtMs }, expectedFee)

/-- The sponsor quote of a transfer message, verified when it is there. -/
def sponsorQuoteOf (env : Env) (s : Contract) (message : TransferMessage)
    (request : PaidJobRequest) : Result (Option SponsoredUploadQuote) :=
  match message.sponsorQuote, message.sponsorQuoteSignature with
  | none, none => .ok none
  | some quote, some signature => do
      verifySponsoredUploadQuote env s request quote signature
      return some quote
  | _, _ => .error "Incomplete sponsored upload quote"

/-- The admission rules in force: the public upload first, then the public beta. -/
def admitJob (env : Env) (s : Contract) (request : PaidJobRequest)
    (quote : Option SponsoredUploadQuote) : Result Contract := do
  let admitted ←
    (if s.publicUploadPolicy ≠ none then admitPublicUpload env s request else .ok s)
  if s.publicTestnetBeta ≠ none then
    let sponsor ← expect quote "Public beta sponsor quote is required"
    admitPublicTestnetBetaJob env admitted request sponsor
  else
    return admitted

/-- Admission, job creation and the fee, once nothing is left that returns the amount. -/
def acceptPaidJob (env : Env) (s : Contract) (senderId : AccountId) (amount : Nat)
    (request : PaidJobRequest) (quote : Option SponsoredUploadQuote) (expectedFee : Nat)
    (playbackSession : Option PlaybackSessionAuthorization) : Result (Outcome Nat) := do
  let admitted ← admitJob env s request quote
  let created ← createUsdcPaidJob env admitted request expectedFee (quote.map (·.quoteId))
  let platformBalance ← checkedAdd 128 created.state.platformBalance amount
    "Platform balance overflow"
  let state ← authorizePlaybackDevice env { created.state with platformBalance := platformBalance }
    senderId playbackSession
  checkWhen (s.publicTestnetBeta ≠ none ∨ s.publicUploadPolicy ≠ none)
    (assertRunway env state publicTestnetBetaEmergencyRunwayBytes)
  return { state := state, value := 0, events := created.events }

/-- The `create_paid_job` branch. -/
def payForJob (env : Env) (s : Contract) (senderId : AccountId) (amount : Nat)
    (message : TransferMessage) : Result (Outcome Nat) := do
  let (request, uploadFee) ← paidJobRequestOf message senderId
  let quote ← sponsorQuoteOf env s message request
  if s.publicTestnetBeta ≠ none ∧ activePublicTestnetBeta env s = none then
    return returnAll s amount
  else if (s.publicTestnetBeta ≠ none ∨ s.publicUploadPolicy ≠ none) ∧ quote.isNone then
    return returnAll s amount
  else
    let expectedFee := (quote.map (·.totalFeeUsdc)).getD uploadFee
    require (amount = expectedFee) "Incorrect creator upload fee"
    match s.mediaJobs.get request.jobId with
    | some existing =>
      require (usdcJobMatchesRequest existing request expectedFee (quote.map (·.quoteId)))
        "Conflicting paid job replay"
      checkWhen (s.publicTestnetBeta ≠ none) do
        let _marker ← requirePublicTestnetBetaJob s existing
        return ⟨⟩
      return returnAll s amount
    | none =>
      if newPurchasesPaused s then
        return returnAll s amount
      else
        acceptPaidJob env s senderId amount request quote expectedFee message.playbackSession

/-! ## The entry point -/

/-- The `action` of a message, read before its kind is known. -/
def transferAction (host : Host) (msg : String) : Option String :=
  (host.actionProbeOfJson msg).bind id

def ftOnTransfer (env : Env) (s : Contract) (senderId : AccountId) (amount : Nat) (msg : String) :
    Result (Outcome Nat) := do
  let usdc ← usdcContractId env
  require (env.predecessorAccountId = usdc) "Only Circle USDC is accepted"
  if startsWith msg "yt:u1:" = false ∧ transferAction env.toHost msg = some buyTicketV2Action then
    let purchase ← expect (env.purchaseMessageOfJson msg) "Invalid ticket purchase message"
    buyTicketV2 env s amount purchase
  else
    let message ←
      (if startsWith msg "yt:u1:" then decodeCompactUpload env msg senderId
      else expect (env.transferMessageOfJson msg) "Invalid purchase message")
    checkSome message.playbackSession (assertPlaybackSession env.toHost)
    if message.action = some "create_paid_job" then
      payForJob env s senderId amount message
    else
      .error "Unsupported transfer action"

end Youtick.MarketV2
