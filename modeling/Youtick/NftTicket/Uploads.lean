import Youtick.MarketV2.Uploads
import Youtick.NftTicket.Contract

/-!
# The V1 market: upload jobs and playback devices

Paid media jobs and what admits them: the two signed fee quotes, the public-upload and public-beta
admission rules, job creation, key replacement and restart; the account playback devices; and the
compact wire form of a sponsored upload. The quotes' canonical texts and the two replay tests read
no storage and are Market V2's.
-/

set_option autoImplicit false

namespace Youtick.NftTicket

open Youtick.Lib
open Youtick.MarketV2 (AccountId FeeAsset MediaJob PublicTestnetBetaJob PlaybackDevice
  PlaybackSessionAuthorization PaidJobRequest CreatorFeeQuote SponsoredUploadQuote TransferMessage
  quoteMaxSourceAgeMs quoteMaxLifetimeMs sponsoredUploadDelegateGas sponsoredUploadFeeUsdc
  sponsoredUploadDepositYocto sponsoredUploadMaxBlockWindow playbackDeviceLifetimeMs
  publicTestnetBetaMaxSourceBytes publicTestnetBetaMaxJobs publicTestnetBetaJobTtlMs
  publicTestnetBetaEmergencyRunwayBytes publicUploadMaxSourceBytes dayMs hexSha256 divCeil
  uploadFeeUsdc assertSourceBytes assertPlaybackSession paidJobRequestSha256 isIdentifierChar
  canonicalQuoteMessage canonicalSponsoredUploadQuoteMessage jobMatchesRequest
  publicTestnetBetaDayKey compactProfiles)

/-! ## Signed fee quotes -/

def verifyQuoteSignature (env : Env) (s : Contract) (message quoteId : String)
    (signature : Bytes) : Result PUnit.{1} := do
  require (quoteId = hexSha256 env.toHost (utf8 message)) "Quote ID mismatch"
  require (signature.length = 64) "Invalid quote signature"
  require (s.quotePublicKey.length = 32) "Invalid quote public key"
  require (env.ed25519Verify signature (utf8 message) s.quotePublicKey = true)
    "Invalid quote signature"

def verifyCreatorFeeQuote (env : Env) (s : Contract) (request : PaidJobRequest)
    (quote : CreatorFeeQuote) (signature : Bytes) : Result PUnit.{1} := do
  let now := env.blockTimestampMs
  require (quote.domain = "youtick.creator-fee-quote") "Invalid quote domain"
  require (quote.version = "1") "Invalid quote version"
  let network ← networkId env
  require (quote.network = network) "Quote network mismatch"
  require (quote.contractId = env.currentAccountId) "Quote contract mismatch"
  require (quote.creatorId = request.creatorId ∧ quote.jobId = request.jobId) "Quote job mismatch"
  require (quote.expectedSourceBytes = request.expectedSourceBytes) "Quote byte count mismatch"
  require (quote.quoteKeyVersion = s.quoteKeyVersion) "Quote key version mismatch"
  require (quote.rateTimestampMs ≤ now ∧ now - quote.rateTimestampMs ≤ quoteMaxSourceAgeMs)
    "Stale quote rate"
  require (quote.expiresAtMs > now ∧ quote.expiresAtMs - quote.rateTimestampMs ≤ quoteMaxLifetimeMs)
    "Expired quote"
  require (quote.rateSource ≠ "" ∧ '\r' ∉ quote.rateSource.toList ∧ '\n' ∉ quote.rateSource.toList)
    "Invalid rate source"
  let feeUsdMicro ← uploadFeeUsdc request.expectedSourceBytes
  require (quote.feeUsdMicro = feeUsdMicro) "Quote USD fee mismatch"
  require (quote.nearUsdMicro > 0) "Invalid NEAR/USD rate"
  let scaled ← checkedMul 128 feeUsdMicro (10 ^ 24) "NEAR fee overflow"
  require (quote.feeNearYocto = divCeil scaled quote.nearUsdMicro) "Quote NEAR fee mismatch"
  verifyQuoteSignature env s (canonicalQuoteMessage quote) quote.quoteId signature

def verifySponsoredUploadQuote (env : Env) (s : Contract) (request : PaidJobRequest)
    (quote : SponsoredUploadQuote) (signature : Bytes) : Result PUnit.{1} := do
  assertPaidJobRequest env request
  let nowMs := env.blockTimestampMs
  let blockHeight := env.blockHeight
  require (quote.domain = "youtick.sponsored-upload-quote") "Invalid quote domain"
  require (quote.version = "1") "Invalid quote version"
  let network ← networkId env
  require (quote.network = network) "Quote network mismatch"
  require (quote.contractId = env.currentAccountId) "Quote contract mismatch"
  require (quote.creatorId = request.creatorId ∧ quote.jobId = request.jobId) "Quote job mismatch"
  require (quote.requestSha256 = paidJobRequestSha256 env.toHost request) "Quote request mismatch"
  require (quote.expectedSourceBytes = request.expectedSourceBytes) "Quote byte count mismatch"
  let usdc ← usdcContractId env
  require (quote.delegateReceiverId = usdc ∧ quote.delegateMethod = "ft_transfer_call" ∧
      quote.delegateGas = sponsoredUploadDelegateGas ∧
      quote.delegateDepositYocto = sponsoredUploadDepositYocto)
    "Invalid sponsored delegate policy"
  require (quote.quoteBlockHeight ≤ blockHeight ∧ blockHeight ≤ quote.maxDelegateBlockHeight ∧
      quote.quoteBlockHeight < quote.maxDelegateBlockHeight ∧
      quote.maxDelegateBlockHeight - quote.quoteBlockHeight ≤ sponsoredUploadMaxBlockWindow)
    "Expired delegate block window"
  require (quote.issuedAtMs ≤ nowMs ∧ nowMs - quote.issuedAtMs ≤ quoteMaxLifetimeMs)
    "Stale sponsored quote"
  require (quote.expiresAtMs > nowMs ∧ quote.expiresAtMs > quote.issuedAtMs ∧
      quote.expiresAtMs - quote.issuedAtMs ≤ quoteMaxLifetimeMs)
    "Expired quote"
  require (quote.quoteKeyVersion = s.quoteKeyVersion) "Quote key version mismatch"
  let uploadFee ← uploadFeeUsdc request.expectedSourceBytes
  require (quote.uploadFeeUsdc = uploadFee) "Quote upload fee mismatch"
  require (quote.sponsorFeeUsdc = sponsoredUploadFeeUsdc) "Quote sponsor fee mismatch"
  let totalFeeUsdc ← checkedAdd 128 uploadFee sponsoredUploadFeeUsdc "Sponsored total fee overflow"
  require (quote.totalFeeUsdc = totalFeeUsdc) "Quote total fee mismatch"
  verifyQuoteSignature env s (canonicalSponsoredUploadQuoteMessage quote) quote.quoteId signature

/-! ## Admission -/

/-- Counts the request against its creator's day and returns the storage with the new count. -/
def admitPublicUpload (env : Env) (s : Contract) (request : PaidJobRequest) : Result Contract := do
  require (request.expectedSourceBytes ≤ publicUploadMaxSourceBytes ∧ request.profileId = profile ∧
      (s.publicUploadPolicy.bind fun policy => policy.profiles.head?.map (·.profileConfigSha256)) =
        some request.profileConfigSha256)
    "Public upload policy mismatch"
  let now := env.blockTimestampMs
  let deadline ← checkedAdd 64 now publicTestnetBetaJobTtlMs "Public upload deadline overflow"
  require (request.uploadKeyExpiresAtMs ≤ deadline) "Upload key exceeds public upload deadline"
  let day := now / dayMs
  let previous := s.publicUploadCreators.get request.creatorId
  checkSome (previous.bind fun previous => s.mediaJobs.get previous.latestJobId) fun job =>
    checkWhen (job.status ≠ .published) do
      let deadline ← requirePublicUploadJob job
      require (now ≥ deadline) "Creator already has an active public upload"
  let count : Nat :=
    ((previous.filter fun previous => decide (previous.day = day)).map (·.count)).getD 0
  require (count < 2) "Public upload daily limit reached"
  return { s with
    publicUploadCreators := s.publicUploadCreators.insert request.creatorId
      { day := day, count := count + 1, latestJobId := request.jobId } }

/-- Writes the job's beta marker, its creator's day and the job count. -/
def admitPublicTestnetBetaJob (env : Env) (s : Contract) (request : PaidJobRequest)
    (quote : SponsoredUploadQuote) : Result Contract := do
  let state ← expect (activePublicTestnetBeta env s) "Public beta is not active"
  let nowMs := env.blockTimestampMs
  require (nowMs < state.uploadClosesAtMs) "Public beta upload admission is closed"
  require (request.expectedSourceBytes ≤ publicTestnetBetaMaxSourceBytes)
    "Public beta source exceeds 1,000,000,000 bytes"
  require (state.totalJobCount < publicTestnetBetaMaxJobs) "Public beta job limit reached"
  let day := nowMs / dayMs
  let dayKey := publicTestnetBetaDayKey request.creatorId day
  require (s.publicTestnetBetaDays.get dayKey = none) "Creator already has a public beta job today"
  require (s.publicTestnetBetaJobs.get request.jobId = none) "Public beta job already exists"
  let deadline ← checkedAdd 64 nowMs publicTestnetBetaJobTtlMs "Public beta job deadline overflow"
  let deadlineAtMs := Nat.min deadline state.endsAtMs
  require (request.uploadKeyExpiresAtMs ≤ deadlineAtMs)
    "Upload key exceeds public beta job deadline"
  let marker : PublicTestnetBetaJob := {
    creatorId := request.creatorId
    generation := 1
    requestSha256 := paidJobRequestSha256 env.toHost request
    sponsorQuoteId := quote.quoteId
    admittedAtMs := nowMs
    deadlineAtMs := deadlineAtMs }
  let totalJobCount ← checkedAdd 32 state.totalJobCount 1 "Public beta job count overflow"
  return { s with
    publicTestnetBetaJobs := s.publicTestnetBetaJobs.insert request.jobId marker
    publicTestnetBetaDays := s.publicTestnetBetaDays.insert dayKey request.jobId
    publicTestnetBeta := some { state with totalJobCount := totalJobCount } }

/-! ## Job creation -/

/-- The job both creation paths store, for the fee they charged. -/
def authorizedJob (env : Env) (request : PaidJobRequest) (feeAsset : FeeAsset)
    (feeAmount feeUsdMicro : Nat) (feeQuoteHash : Option String) : MediaJob where
  jobId := request.jobId
  creatorId := request.creatorId
  profileId := request.profileId
  profileConfigSha256 := request.profileConfigSha256
  title := request.title
  priceUsdc := request.priceUsdc
  expectedSourceBytes := request.expectedSourceBytes
  generation := 1
  status := .authorized
  createdAtMs := env.blockTimestampMs
  publishedAtMs := none
  feeAsset := feeAsset
  feeAmount := feeAmount
  feeUsdMicro := feeUsdMicro
  uploadPublicKey := request.uploadPublicKey
  uploadKeyExpiresAtMs := request.uploadKeyExpiresAtMs
  feeQuoteHash := feeQuoteHash

def createUsdcPaidJob (env : Env) (s : Contract) (request : PaidJobRequest) (feeUsdMicro : Nat)
    (feeQuoteHash : Option String) : Result (Outcome MediaJob) := do
  let usdc ← usdcContractId env
  require (env.predecessorAccountId = usdc) "Paid jobs must be created through USDC ft_transfer_call"
  require (newPurchasesPaused s = false) "New purchases are paused"
  assertPaidJobRequest env request
  require (s.mediaJobs.get request.jobId = none) "Media job already exists"
  let job := authorizedJob env request .usdc feeUsdMicro feeUsdMicro feeQuoteHash
  return { state := { s with mediaJobs := s.mediaJobs.insert job.jobId job }, value := job }

def createPaidJob (env : Env) (s : Contract) (request : PaidJobRequest) :
    Result (Outcome MediaJob) := do
  require (s.publicUploadPolicy = none) "Public upload requires a sponsored quote"
  require (s.publicTestnetBeta = none) "Public beta requires a sponsored upload quote"
  let feeUsdMicro ← uploadFeeUsdc request.expectedSourceBytes
  createUsdcPaidJob env s request feeUsdMicro none

/-- The NEAR-paid path; a replay of the same paid job sends the deposit back and returns no job. -/
def createPaidJobNear (env : Env) (s : Contract) (request : PaidJobRequest)
    (quote : CreatorFeeQuote) (quoteSignature : Bytes) : Result (Outcome (Option MediaJob)) := do
  require (s.publicUploadPolicy = none) "Public upload requires sponsored USDC"
  require (s.publicTestnetBeta = none) "Native NEAR upload is disabled for public beta"
  require (env.predecessorAccountId = request.creatorId) "Creator mismatch"
  verifyCreatorFeeQuote env s request quote quoteSignature
  let deposit := env.attachedDeposit
  require (deposit = quote.feeNearYocto) "Incorrect creator upload fee"
  match s.mediaJobs.get request.jobId with
  | some existing =>
    require (jobMatchesRequest existing request quote) "Conflicting paid job replay"
    return { state := s, value := none, promises := [.transfer request.creatorId deposit none] }
  | none =>
    require (newPurchasesPaused s = false) "New purchases are paused"
    assertPaidJobRequest env request
    let job := authorizedJob env request .near quote.feeNearYocto quote.feeUsdMicro
      (some quote.quoteId)
    let platformNearBalance ← checkedAdd 128 s.platformNearBalance deposit
      "Platform NEAR balance overflow"
    return {
      state := { s with
        mediaJobs := s.mediaJobs.insert job.jobId job
        platformNearBalance := platformNearBalance }
      value := some job }

/-! ## Job changes -/

def replaceUploadKey (env : Env) (s : Contract) (jobId newPublicKey : String) (expiresAtMs : Nat) :
    Result (Outcome MediaJob) := do
  let job ← expect (s.mediaJobs.get jobId) "Media job not found"
  require (env.predecessorAccountId = job.creatorId)
    "Only the creator can replace the upload key"
  require (job.status = .authorized) "Published media jobs cannot replace upload keys"
  assertUploadKey env newPublicKey expiresAtMs
  checkWhen (s.publicUploadPolicy ≠ none) do
    let deadline ← requirePublicUploadJob job
    require (env.blockTimestampMs < deadline) "Public upload deadline expired"
    require (expiresAtMs ≤ deadline) "Upload key exceeds public upload deadline"
  checkSome (s.publicTestnetBetaJobs.get jobId) fun marker =>
    require (expiresAtMs ≤ marker.deadlineAtMs) "Upload key exceeds public beta job deadline"
  let replaced := { job with uploadPublicKey := newPublicKey, uploadKeyExpiresAtMs := expiresAtMs }
  return { state := { s with mediaJobs := s.mediaJobs.insert jobId replaced }, value := replaced }

def rotateQuotePublicKey (env : Env) (s : Contract) (version : Nat) (publicKey : Bytes) :
    Result (Outcome Unit) := do
  require (env.predecessorAccountId = s.platformAccountId)
    "Only the platform account can rotate quote keys"
  let next ← checkedAdd 32 s.quoteKeyVersion 1 "Quote key version overflow"
  require (version = next) "Quote key version must increase by one"
  require (publicKey.length = 32) "Quote public key must be Ed25519"
  return {
    state := { s with quoteKeyVersion := version, quotePublicKey := publicKey }
    value := () }

def restartPaidJob (env : Env) (s : Contract) (jobId : String) (expectedSourceBytes : Nat)
    (profileId profileConfigSha256 : String) : Result (Outcome MediaJob) := do
  require (s.publicUploadPolicy = none) "Public upload jobs cannot restart"
  let job ← expect (s.mediaJobs.get jobId) "Media job not found"
  require (s.publicTestnetBetaJobs.get jobId = none) "Public beta jobs cannot restart"
  require (env.predecessorAccountId = job.creatorId) "Only the creator can restart a media job"
  require (job.status ≠ .published) "Published media jobs cannot restart"
  assertSourceBytes expectedSourceBytes
  assertProfile profileId profileConfigSha256
  require (job.expectedSourceBytes = expectedSourceBytes)
    "A retry must keep the original source byte count"
  let generation ← checkedAdd 64 job.generation 1 "Generation overflow"
  let restarted := { job with
    generation := generation
    profileId := profileId
    profileConfigSha256 := profileConfigSha256 }
  return { state := { s with mediaJobs := s.mediaJobs.insert jobId restarted }, value := restarted }

/-! ## Account playback devices -/

/-- Adds or renews a device of the account; the list keeps three, oldest first. -/
def authorizePlaybackDevice (env : Env) (s : Contract) (accountId : AccountId)
    (authorization : Option PlaybackSessionAuthorization) : Result Contract :=
  match authorization with
  | none => .ok s
  | some authorization => do
      let now := env.blockTimestampMs
      let stored := (s.playbackDevices.get accountId).getD []
      let kept := stored.filter fun device =>
        decide (device.expiresAtMs > now) &&
          decide (device.sessionPublicKey ≠ authorization.sessionPublicKey)
      let kept := if kept.length = 3 then kept.tail else kept
      let expiresAtMs ← checkedAdd 64 now playbackDeviceLifetimeMs "Time overflow"
      let device : PlaybackDevice := {
        sessionPublicKey := authorization.sessionPublicKey
        certificateSha256 := authorization.certificateSha256
        authorizedAtMs := now
        expiresAtMs := expiresAtMs
        authorizingPublicKey :=
          if env.signerAccountId = accountId then some env.signerAccountPk else none }
      return { s with playbackDevices := s.playbackDevices.insert accountId (kept ++ [device]) }

def getPlaybackDevice (env : Env) (s : Contract) (accountId : AccountId)
    (sessionPublicKey : String) : Option PlaybackDevice :=
  ((s.playbackDevices.get accountId).getD []).find? fun device =>
    decide (device.sessionPublicKey = sessionPublicKey) &&
      decide (device.expiresAtMs > env.blockTimestampMs)

def entitlementKey (accountId : AccountId) (publicationId : String) : String :=
  accountId ++ ":" ++ publicationId

/-- An entitlement was bought, or the account is the creator. -/
def hasEntitlement (s : Contract) (accountId : AccountId) (publicationId : String) : Bool :=
  (s.entitlements.get (entitlementKey accountId publicationId)).getD false ||
    (s.publications.get publicationId).any fun publication =>
      decide (publication.creatorId = accountId)

def activatePlaybackDevice (env : Env) (s : Contract) (publicationId : String)
    (playbackSession : PlaybackSessionAuthorization) : Result (Outcome Unit) := do
  require (env.attachedDeposit = 1) "Attach exactly 1 yoctoNEAR"
  let accountId := env.signerAccountId
  require (env.predecessorAccountId = accountId) "Direct account transaction required"
  require (env.signerCurveType = .ed25519) "Invalid authorizing key"
  require (s.bridgeFrozen = false) "Livepeer bridge is frozen"
  assertPlaybackSession env.toHost playbackSession
  let publication ← expect (s.publications.get publicationId) "Publication not found"
  require (publication.availability ≠ .takedown) "Publication unavailable"
  require (hasEntitlement s accountId publicationId = true) "Viewing entitlement required"
  let same := (getPlaybackDevice env s accountId playbackSession.sessionPublicKey).any fun device =>
    decide (device.certificateSha256 = playbackSession.certificateSha256) &&
      decide (device.authorizingPublicKey = some env.signerAccountPk)
  if same then
    return { state := s, value := () }
  else
    let state ← authorizePlaybackDevice env s accountId (some playbackSession)
    assertRunway env state publicTestnetBetaEmergencyRunwayBytes
    return { state := state, value := () }

/-! ## The compact wire form -/

def decodeCompactUpload (env : Env) (message : String) (sender : AccountId) :
    Result TransferMessage := do
  let encoded ← expect (stripPrefix message "yt:u1:") "Invalid compact upload"
  require (encoded.utf8ByteSize ≤ 800) "Invalid compact upload"
  let bytes ← expect (env.base64Decode encoded) "Invalid compact upload"
  require (env.base64Encode bytes = encoded) "Invalid compact upload"
  let data ← expect (env.compactUploadOfBorsh bytes) "Invalid compact upload"
  require (data.jobId ≠ "" ∧ data.jobId.utf8ByteSize ≤ 128 ∧
      data.jobId.toList.all isIdentifierChar = true ∧
      isBlank data.title = false ∧ data.title.utf8ByteSize ≤ 200 ∧
      data.price ≥ minTicketPriceUsdc ∧ data.price < 100000000000000000000 ∧
      data.sourceBytes > 0 ∧ data.sourceBytes ≤ 5000000000 ∧ data.profile < 3 ∧
      data.uploadDuration > 0 ∧ data.deviceDuration = playbackDeviceLifetimeMs ∧
      data.lifetime > 0 ∧ data.lifetime ≤ quoteMaxLifetimeMs ∧
      data.blockWindow = sponsoredUploadMaxBlockWindow ∧ data.keyVersion > 0)
    "Invalid compact upload"
  let key := fun (bytes : Bytes) => "ed25519:" ++ env.bs58Encode bytes
  let profileHash := compactProfiles.getD data.profile ""
  let uploadKeyExpiresAtMs ← checkedAdd 64 data.issued data.uploadDuration "Invalid compact upload"
  let request : PaidJobRequest := {
    creatorId := sender
    jobId := data.jobId
    title := data.title
    priceUsdc := data.price
    expectedSourceBytes := data.sourceBytes
    profileId := profile
    profileConfigSha256 := profileHash
    uploadPublicKey := key data.uploadKey
    uploadKeyExpiresAtMs := uploadKeyExpiresAtMs }
  let fee ← uploadFeeUsdc request.expectedSourceBytes
  let network ← networkId env
  let usdc ← usdcContractId env
  let maxDelegateBlockHeight ← checkedAdd 64 data.block data.blockWindow "Invalid compact upload"
  let expiresAtMs ← checkedAdd 64 data.issued data.lifetime "Invalid compact upload"
  let unnamed : SponsoredUploadQuote := {
    domain := "youtick.sponsored-upload-quote"
    version := "1"
    network := network
    contractId := env.currentAccountId
    creatorId := sender
    jobId := request.jobId
    requestSha256 := paidJobRequestSha256 env.toHost request
    expectedSourceBytes := request.expectedSourceBytes
    uploadFeeUsdc := fee
    sponsorFeeUsdc := sponsoredUploadFeeUsdc
    totalFeeUsdc := fee + sponsoredUploadFeeUsdc
    delegateReceiverId := usdc
    delegateMethod := "ft_transfer_call"
    delegateGas := sponsoredUploadDelegateGas
    delegateDepositYocto := 1
    issuedAtMs := data.issued
    quoteBlockHeight := data.block
    maxDelegateBlockHeight := maxDelegateBlockHeight
    expiresAtMs := expiresAtMs
    quoteKeyVersion := data.keyVersion
    quoteId := "" }
  let quote := { unnamed with
    quoteId := hexSha256 env.toHost (utf8 (canonicalSponsoredUploadQuoteMessage unnamed)) }
  return {
    action := some "create_paid_job"
    publicationId := none
    jobId := some request.jobId
    title := some request.title
    priceUsdc := some request.priceUsdc
    expectedSourceBytes := some request.expectedSourceBytes
    profileId := some request.profileId
    profileConfigSha256 := some request.profileConfigSha256
    uploadPublicKey := some request.uploadPublicKey
    uploadKeyExpiresAtMs := some request.uploadKeyExpiresAtMs
    sponsorQuote := some quote
    sponsorQuoteSignature := some data.signature
    playbackSession := some {
      sessionPublicKey := key data.deviceKey
      certificateSha256 := hex data.certificate
      authorizationDurationMs := data.deviceDuration } }

end Youtick.NftTicket
