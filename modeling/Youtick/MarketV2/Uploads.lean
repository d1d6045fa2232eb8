import Youtick.MarketV2.Guards

/-!
# Market V2: upload jobs

Paid media jobs and what admits them: the two signed fee quotes, the public-upload and public-beta
admission rules, job creation, key replacement and restart, the account playback devices, and the
compact wire form of a sponsored upload.
-/

set_option autoImplicit false

namespace Youtick.MarketV2

open Youtick.Lib

/-! ## Signed fee quotes -/

def canonicalQuoteMessage (quote : CreatorFeeQuote) : String :=
  joinLines [quote.domain, quote.version, quote.network, quote.contractId, quote.creatorId,
    quote.jobId, decimal quote.expectedSourceBytes, decimal quote.feeUsdMicro,
    decimal quote.nearUsdMicro, decimal quote.feeNearYocto, quote.rateSource,
    decimal quote.rateTimestampMs, decimal quote.expiresAtMs, decimal quote.quoteKeyVersion]

def canonicalSponsoredUploadQuoteMessage (quote : SponsoredUploadQuote) : String :=
  joinLines [quote.domain, quote.version, quote.network, quote.contractId, quote.creatorId,
    quote.jobId, quote.requestSha256, decimal quote.expectedSourceBytes,
    decimal quote.uploadFeeUsdc, decimal quote.sponsorFeeUsdc, decimal quote.totalFeeUsdc,
    quote.delegateReceiverId, quote.delegateMethod, decimal quote.delegateGas,
    decimal quote.delegateDepositYocto, decimal quote.issuedAtMs, decimal quote.quoteBlockHeight,
    decimal quote.maxDelegateBlockHeight, decimal quote.expiresAtMs,
    decimal quote.quoteKeyVersion]

def verifyQuoteSignature (env : Env) (s : Contract) (message quoteId : String)
    (signature : Bytes) : Result PUnit.{1} := do
  require (quoteId = hexSha256 env.toHost (utf8 message)) "Quote ID mismatch"
  require (signature.length = 64) "Invalid quote signature"
  require (s.quotePublicKey.length = 32) "Invalid quote public key"
  require (env.ed25519Verify signature (utf8 message) s.quotePublicKey = true)
    "Invalid quote signature"

def verifyCreatorFeeQuote (env : Env) (s : Contract) (request : PaidJobRequest)
    (quote : CreatorFeeQuote) (signature : Bytes) : Result PUnit.{1} := do
  let now := env.blockTimestampMs
  require (quote.domain = "youtick.creator-fee-quote") "Invalid quote domain"
  require (quote.version = "1") "Invalid quote version"
  let network ← networkId env
  require (quote.network = network) "Quote network mismatch"
  require (quote.contractId = env.currentAccountId) "Quote contract mismatch"
  require (quote.creatorId = request.creatorId ∧ quote.jobId = request.jobId) "Quote job mismatch"
  require (quote.expectedSourceBytes = request.expectedSourceBytes) "Quote byte count mismatch"
  require (quote.quoteKeyVersion = s.quoteKeyVersion) "Quote key version mismatch"
  require (quote.rateTimestampMs ≤ now ∧ now - quote.rateTimestampMs ≤ quoteMaxSourceAgeMs)
    "Stale quote rate"
  require (quote.expiresAtMs > now ∧ quote.expiresAtMs - quote.rateTimestampMs ≤ quoteMaxLifetimeMs)
    "Expired quote"
  require (quote.rateSource ≠ "" ∧ '\r' ∉ quote.rateSource.toList ∧ '\n' ∉ quote.rateSource.toList)
    "Invalid rate source"
  let feeUsdMicro ← uploadFeeUsdc request.expectedSourceBytes
  require (quote.feeUsdMicro = feeUsdMicro) "Quote USD fee mismatch"
  require (quote.nearUsdMicro > 0) "Invalid NEAR/USD rate"
  let scaled ← checkedMul 128 feeUsdMicro (10 ^ 24) "NEAR fee overflow"
  require (quote.feeNearYocto = divCeil scaled quote.nearUsdMicro) "Quote NEAR fee mismatch"
  verifyQuoteSignature env s (canonicalQuoteMessage quote) quote.quoteId signature

def verifySponsoredUploadQuote (env : Env) (s : Contract) (request : PaidJobRequest)
    (quote : SponsoredUploadQuote) (signature : Bytes) : Result PUnit.{1} := do
  assertPaidJobRequest env request
  let nowMs := env.blockTimestampMs
  let blockHeight := env.blockHeight
  require (quote.domain = "youtick.sponsored-upload-quote") "Invalid quote domain"
  require (quote.version = "1") "Invalid quote version"
  let network ← networkId env
  require (quote.network = network) "Quote network mismatch"
  require (quote.contractId = env.currentAccountId) "Quote contract mismatch"
  require (quote.creatorId = request.creatorId ∧ quote.jobId = request.jobId) "Quote job mismatch"
  require (quote.requestSha256 = paidJobRequestSha256 env.toHost request) "Quote request mismatch"
  require (quote.expectedSourceBytes = request.expectedSourceBytes) "Quote byte count mismatch"
  let usdc ← usdcContractId env
  require (quote.delegateReceiverId = usdc ∧ quote.delegateMethod = "ft_transfer_call" ∧
      quote.delegateGas = sponsoredUploadDelegateGas ∧
      quote.delegateDepositYocto = sponsoredUploadDepositYocto)
    "Invalid sponsored delegate policy"
  require (quote.quoteBlockHeight ≤ blockHeight ∧ blockHeight ≤ quote.maxDelegateBlockHeight ∧
      quote.quoteBlockHeight < quote.maxDelegateBlockHeight ∧
      quote.maxDelegateBlockHeight - quote.quoteBlockHeight ≤ sponsoredUploadMaxBlockWindow)
    "Expired delegate block window"
  require (quote.issuedAtMs ≤ nowMs ∧ nowMs - quote.issuedAtMs ≤ quoteMaxLifetimeMs)
    "Stale sponsored quote"
  require (quote.expiresAtMs > nowMs ∧ quote.expiresAtMs > quote.issuedAtMs ∧
      quote.expiresAtMs - quote.issuedAtMs ≤ quoteMaxLifetimeMs)
    "Expired quote"
  require (quote.quoteKeyVersion = s.quoteKeyVersion) "Quote key version mismatch"
  let uploadFee ← uploadFeeUsdc request.expectedSourceBytes
  require (quote.uploadFeeUsdc = uploadFee) "Quote upload fee mismatch"
  require (quote.sponsorFeeUsdc = sponsoredUploadFeeUsdc) "Quote sponsor fee mismatch"
  let totalFeeUsdc ← checkedAdd 128 uploadFee sponsoredUploadFeeUsdc "Sponsored total fee overflow"
  require (quote.totalFeeUsdc = totalFeeUsdc) "Quote total fee mismatch"
  verifyQuoteSignature env s (canonicalSponsoredUploadQuoteMessage quote) quote.quoteId signature

/-! ## Admission -/

/-- Counts the request against its creator's day and returns the storage with the new count. -/
def admitPublicUpload (env : Env) (s : Contract) (request : PaidJobRequest) : Result Contract := do
  require (request.expectedSourceBytes ≤ publicUploadMaxSourceBytes ∧ request.profileId = profile ∧
      (s.publicUploadPolicy.bind fun policy => policy.profiles.head?.map (·.profileConfigSha256)) =
        some request.profileConfigSha256)
    "Public upload policy mismatch"
  let now := env.blockTimestampMs
  let deadline ← checkedAdd 64 now publicTestnetBetaJobTtlMs "Public upload deadline overflow"
  require (request.uploadKeyExpiresAtMs ≤ deadline) "Upload key exceeds public upload deadline"
  let day := now / dayMs
  let previous := s.publicUploadCreators.get request.creatorId
  checkSome (previous.bind fun previous => s.mediaJobs.get previous.latestJobId) fun job =>
    checkWhen (job.status ≠ .published) do
      let deadline ← requirePublicUploadJob job
      require (now ≥ deadline) "Creator already has an active public upload"
  let count : Nat :=
    ((previous.filter fun previous => decide (previous.day = day)).map (·.count)).getD 0
  require (count < 2) "Public upload daily limit reached"
  return { s with
    publicUploadCreators := s.publicUploadCreators.insert request.creatorId
      { day := day, count := count + 1, latestJobId := request.jobId } }

def publicTestnetBetaDayKey (creatorId : AccountId) (day : Nat) : String :=
  creatorId ++ ":" ++ decimal day

/-- Writes the job's beta marker, its creator's day and the job count. -/
def admitPublicTestnetBetaJob (env : Env) (s : Contract) (request : PaidJobRequest)
    (quote : SponsoredUploadQuote) : Result Contract := do
  let state ← expect (activePublicTestnetBeta env s) "Public beta is not active"
  let nowMs := env.blockTimestampMs
  require (nowMs < state.uploadClosesAtMs) "Public beta upload admission is closed"
  require (request.expectedSourceBytes ≤ publicTestnetBetaMaxSourceBytes)
    "Public beta source exceeds 1,000,000,000 bytes"
  require (state.totalJobCount < publicTestnetBetaMaxJobs) "Public beta job limit reached"
  let day := nowMs / dayMs
  let dayKey := publicTestnetBetaDayKey request.creatorId day
  require (s.publicTestnetBetaDays.get dayKey = none) "Creator already has a public beta job today"
  require (s.publicTestnetBetaJobs.get request.jobId = none) "Public beta job already exists"
  let deadline ← checkedAdd 64 nowMs publicTestnetBetaJobTtlMs "Public beta job deadline overflow"
  let deadlineAtMs := Nat.min deadline state.endsAtMs
  require (request.uploadKeyExpiresAtMs ≤ deadlineAtMs)
    "Upload key exceeds public beta job deadline"
  let marker : PublicTestnetBetaJob := {
    creatorId := request.creatorId
    generation := 1
    requestSha256 := paidJobRequestSha256 env.toHost request
    sponsorQuoteId := quote.quoteId
    admittedAtMs := nowMs
    deadlineAtMs := deadlineAtMs }
  let totalJobCount ← checkedAdd 32 state.totalJobCount 1 "Public beta job count overflow"
  return { s with
    publicTestnetBetaJobs := s.publicTestnetBetaJobs.insert request.jobId marker
    publicTestnetBetaDays := s.publicTestnetBetaDays.insert dayKey request.jobId
    publicTestnetBeta := some { state with totalJobCount := totalJobCount } }

/-! ## Job creation -/

def jobMatchesRequest (job : MediaJob) (request : PaidJobRequest) (quote : CreatorFeeQuote) : Prop :=
  job.creatorId = request.creatorId ∧ job.title = request.title ∧
    job.priceUsdc = request.priceUsdc ∧ job.expectedSourceBytes = request.expectedSourceBytes ∧
    job.profileId = request.profileId ∧ job.profileConfigSha256 = request.profileConfigSha256 ∧
    job.uploadPublicKey = request.uploadPublicKey ∧
    job.uploadKeyExpiresAtMs = request.uploadKeyExpiresAtMs ∧ job.feeAsset = .near ∧
    job.feeAmount = quote.feeNearYocto ∧ job.feeUsdMicro = quote.feeUsdMicro ∧
    job.feeQuoteHash = some quote.quoteId

instance (job : MediaJob) (request : PaidJobRequest) (quote : CreatorFeeQuote) :
    Decidable (jobMatchesRequest job request quote) := by
  unfold jobMatchesRequest
  infer_instance

def usdcJobMatchesRequest (job : MediaJob) (request : PaidJobRequest) (feeUsdMicro : Nat)
    (feeQuoteHash : Option String) : Prop :=
  job.creatorId = request.creatorId ∧ job.title = request.title ∧
    job.priceUsdc = request.priceUsdc ∧ job.expectedSourceBytes = request.expectedSourceBytes ∧
    job.profileId = request.profileId ∧ job.profileConfigSha256 = request.profileConfigSha256 ∧
    job.uploadPublicKey = request.uploadPublicKey ∧
    job.uploadKeyExpiresAtMs = request.uploadKeyExpiresAtMs ∧ job.feeAsset = .usdc ∧
    job.feeAmount = feeUsdMicro ∧ job.feeUsdMicro = feeUsdMicro ∧ job.feeQuoteHash = feeQuoteHash

instance (job : MediaJob) (request : PaidJobRequest) (fee : Nat) (hash : Option String) :
    Decidable (usdcJobMatchesRequest job request fee hash) := by
  unfold usdcJobMatchesRequest
  infer_instance

def mediaJobAuthorizedEvent (env : Env) (job : MediaJob) : Event :=
  emitMarketEvent env "media_job_authorized"
    ("job:" ++ job.jobId ++ ":" ++ decimal job.generation ++ ":authorized")
    [("account_id", .str job.creatorId),
     ("job_id", .str job.jobId),
     ("generation", .num job.generation),
     ("asset", .str (feeAssetName job.feeAsset)),
     ("amount", .dec job.feeAmount),
     ("fee_usd_micro", .dec job.feeUsdMicro),
     ("expected_source_bytes", .dec job.expectedSourceBytes),
     ("price_usdc", .dec job.priceUsdc),
     ("upload_key_expires_at_ms", .dec job.uploadKeyExpiresAtMs),
     ("fee_quote_hash", .optStr job.feeQuoteHash)]

/-- The job both creation paths store, for the fee they charged. -/
def authorizedJob (env : Env) (request : PaidJobRequest) (feeAsset : FeeAsset)
    (feeAmount feeUsdMicro : Nat) (feeQuoteHash : Option String) : MediaJob where
  jobId := request.jobId
  creatorId := request.creatorId
  profileId := request.profileId
  profileConfigSha256 := request.profileConfigSha256
  title := request.title
  priceUsdc := request.priceUsdc
  expectedSourceBytes := request.expectedSourceBytes
  generation := 1
  status := .authorized
  createdAtMs := env.blockTimestampMs
  publishedAtMs := none
  feeAsset := feeAsset
  feeAmount := feeAmount
  feeUsdMicro := feeUsdMicro
  uploadPublicKey := request.uploadPublicKey
  uploadKeyExpiresAtMs := request.uploadKeyExpiresAtMs
  feeQuoteHash := feeQuoteHash

def createUsdcPaidJob (env : Env) (s : Contract) (request : PaidJobRequest) (feeUsdMicro : Nat)
    (feeQuoteHash : Option String) : Result (Outcome MediaJob) := do
  let usdc ← usdcContractId env
  require (env.predecessorAccountId = usdc) "Paid jobs must be created through USDC ft_transfer_call"
  require (newPurchasesPaused s = false) "New purchases are paused"
  assertPaidJobRequest env request
  require (s.mediaJobs.get request.jobId = none) "Media job already exists"
  let job := authorizedJob env request .usdc feeUsdMicro feeUsdMicro feeQuoteHash
  return {
    state := { s with mediaJobs := s.mediaJobs.insert job.jobId job }
    value := job
    events := [mediaJobAuthorizedEvent env job] }

def createPaidJob (env : Env) (s : Contract) (request : PaidJobRequest) :
    Result (Outcome MediaJob) := do
  require (s.publicUploadPolicy = none) "Public upload requires a sponsored quote"
  require (s.publicTestnetBeta = none) "Public beta requires a sponsored upload quote"
  let feeUsdMicro ← uploadFeeUsdc request.expectedSourceBytes
  createUsdcPaidJob env s request feeUsdMicro none

/-- The NEAR-paid path; a replay of the same paid job sends the deposit back and returns no job. -/
def createPaidJobNear (env : Env) (s : Contract) (request : PaidJobRequest)
    (quote : CreatorFeeQuote) (quoteSignature : Bytes) : Result (Outcome (Option MediaJob)) := do
  require (s.publicUploadPolicy = none) "Public upload requires sponsored USDC"
  require (s.publicTestnetBeta = none) "Native NEAR upload is disabled for public beta"
  require (env.predecessorAccountId = request.creatorId) "Creator mismatch"
  verifyCreatorFeeQuote env s request quote quoteSignature
  let deposit := env.attachedDeposit
  require (deposit = quote.feeNearYocto) "Incorrect creator upload fee"
  match s.mediaJobs.get request.jobId with
  | some existing =>
    require (jobMatchesRequest existing request quote) "Conflicting paid job replay"
    return { state := s, value := none, promises := [.transfer request.creatorId deposit none] }
  | none =>
    require (newPurchasesPaused s = false) "New purchases are paused"
    assertPaidJobRequest env request
    let job := authorizedJob env request .near quote.feeNearYocto quote.feeUsdMicro
      (some quote.quoteId)
    let platformNearBalance ← checkedAdd 128 s.platformNearBalance deposit
      "Platform NEAR balance overflow"
    return {
      state := { s with
        mediaJobs := s.mediaJobs.insert job.jobId job
        platformNearBalance := platformNearBalance }
      value := some job
      events := [mediaJobAuthorizedEvent env job] }

/-! ## Job changes -/

def replaceUploadKey (env : Env) (s : Contract) (jobId newPublicKey : String) (expiresAtMs : Nat) :
    Result (Outcome MediaJob) := do
  let job ← expect (s.mediaJobs.get jobId) "Media job not found"
  require (env.predecessorAccountId = job.creatorId)
    "Only the creator can replace the upload key"
  require (job.status = .authorized) "Published media jobs cannot replace upload keys"
  assertUploadKey env newPublicKey expiresAtMs
  checkWhen (s.publicUploadPolicy ≠ none) do
    let deadline ← requirePublicUploadJob job
    require (env.blockTimestampMs < deadline) "Public upload deadline expired"
    require (expiresAtMs ≤ deadline) "Upload key exceeds public upload deadline"
  checkSome (s.publicTestnetBetaJobs.get jobId) fun marker =>
    require (expiresAtMs ≤ marker.deadlineAtMs) "Upload key exceeds public beta job deadline"
  let replaced := { job with uploadPublicKey := newPublicKey, uploadKeyExpiresAtMs := expiresAtMs }
  let uploadPublicKeySha256 := hexSha256 env.toHost (utf8 replaced.uploadPublicKey)
  return {
    state := { s with mediaJobs := s.mediaJobs.insert jobId replaced }
    value := replaced
    events := [emitMarketEvent env "media_job_upload_key_replaced"
      ("job:" ++ replaced.jobId ++ ":" ++ decimal replaced.generation ++ ":upload-key:" ++
        uploadPublicKeySha256)
      [("account_id", .str replaced.creatorId),
       ("job_id", .str replaced.jobId),
       ("generation", .num replaced.generation),
       ("upload_public_key_sha256", .str uploadPublicKeySha256),
       ("upload_key_expires_at_ms", .dec replaced.uploadKeyExpiresAtMs)]] }

def rotateQuotePublicKey (env : Env) (s : Contract) (version : Nat) (publicKey : Bytes) :
    Result (Outcome Unit) := do
  require (env.predecessorAccountId = s.platformAccountId)
    "Only the platform account can rotate quote keys"
  let next ← checkedAdd 32 s.quoteKeyVersion 1 "Quote key version overflow"
  require (version = next) "Quote key version must increase by one"
  require (publicKey.length = 32) "Quote public key must be Ed25519"
  return {
    state := { s with quoteKeyVersion := version, quotePublicKey := publicKey }
    value := ()
    events := [emitMarketEvent env "quote_key_rotated" ("quote-key:" ++ decimal version)
      [("account_id", .str env.predecessorAccountId),
       ("quote_key_version", .num version),
       ("quote_public_key_sha256", .str (hexSha256 env.toHost publicKey))]] }

def restartPaidJob (env : Env) (s : Contract) (jobId : String) (expectedSourceBytes : Nat)
    (profileId profileConfigSha256 : String) : Result (Outcome MediaJob) := do
  require (s.publicUploadPolicy = none) "Public upload jobs cannot restart"
  let job ← expect (s.mediaJobs.get jobId) "Media job not found"
  require (s.publicTestnetBetaJobs.get jobId = none) "Public beta jobs cannot restart"
  require (env.predecessorAccountId = job.creatorId) "Only the creator can restart a media job"
  require (job.status ≠ .published) "Published media jobs cannot restart"
  assertSourceBytes expectedSourceBytes
  assertProfile profileId profileConfigSha256
  require (job.expectedSourceBytes = expectedSourceBytes)
    "A retry must keep the original source byte count"
  let generation ← checkedAdd 64 job.generation 1 "Generation overflow"
  let restarted := { job with
    generation := generation
    profileId := profileId
    profileConfigSha256 := profileConfigSha256 }
  return { state := { s with mediaJobs := s.mediaJobs.insert jobId restarted }, value := restarted }

def setPublicUploadFullHd (env : Env) (s : Contract) (enabled : Bool) :
    Result (Outcome PublicUploadPolicy) := do
  assertAdmin env s
  let network ← networkId env
  require (network = "testnet") "Public upload is testnet only"
  require (s.bridgeFrozen = true ∧ newPurchasesPaused s = true)
    "Profile changes require paused purchases and a frozen bridge"
  let policy ← expect s.publicUploadPolicy "Public upload policy required"
  require (policy.version = 1 ∧ policy.environment = "public-testnet" ∧
      policy.network = "testnet" ∧ policy.marketContractId = env.currentAccountId ∧
      policy.maxSourceBytes = publicUploadMaxSourceBytes ∧
      policy.jobTtlMs = publicTestnetBetaJobTtlMs ∧ policy.signedQuoteRequired = true)
    "Public upload policy mismatch"
  let standard := standardUploadProfiles
  let fullHd := { profileId := profile, profileConfigSha256 := fullHdUploadProfileHash } :: standard
  require (policy.profiles = standard ∨ policy.profiles = fullHd)
    "Unsupported public upload profiles"
  let selected := if enabled then fullHd else standard
  if policy.profiles = selected then
    return { state := s, value := policy }
  else
    let changed := { policy with profiles := selected }
    let state := { s with publicUploadPolicy := some changed }
    assertRunway env state publicTestnetBetaEmergencyRunwayBytes
    return { state := state, value := changed }

/-! ## Account playback devices -/

/-- Adds or renews a device of the account; the list keeps three, oldest first. -/
def authorizePlaybackDevice (env : Env) (s : Contract) (accountId : AccountId)
    (authorization : Option PlaybackSessionAuthorization) : Result Contract :=
  match authorization with
  | none => .ok s
  | some authorization => do
      let now := env.blockTimestampMs
      let stored := (s.playbackDevices.get accountId).getD []
      let kept := stored.filter fun device =>
        decide (device.expiresAtMs > now) &&
          decide (device.sessionPublicKey ≠ authorization.sessionPublicKey)
      let kept := if kept.length = 3 then kept.tail else kept
      let expiresAtMs ← checkedAdd 64 now playbackDeviceLifetimeMs "Time overflow"
      let device : PlaybackDevice := {
        sessionPublicKey := authorization.sessionPublicKey
        certificateSha256 := authorization.certificateSha256
        authorizedAtMs := now
        expiresAtMs := expiresAtMs
        authorizingPublicKey :=
          if env.signerAccountId = accountId then some env.signerAccountPk else none }
      return { s with playbackDevices := s.playbackDevices.insert accountId (kept ++ [device]) }

def getPlaybackDevice (env : Env) (s : Contract) (accountId : AccountId)
    (sessionPublicKey : String) : Option PlaybackDevice :=
  ((s.playbackDevices.get accountId).getD []).find? fun device =>
    decide (device.sessionPublicKey = sessionPublicKey) &&
      decide (device.expiresAtMs > env.blockTimestampMs)

def activatePlaybackDevice (env : Env) (s : Contract) (publicationId : String)
    (playbackSession : PlaybackSessionAuthorization) : Result (Outcome Unit) := do
  require (env.attachedDeposit = 1) "Attach exactly 1 yoctoNEAR"
  let accountId := env.signerAccountId
  require (env.predecessorAccountId = accountId) "Direct account transaction required"
  require (env.signerCurveType = .ed25519) "Invalid authorizing key"
  require (s.bridgeFrozen = false) "Bridge is frozen"
  assertPlaybackSession env.toHost playbackSession
  let publication ← expect (s.publications.get publicationId) "Publication not found"
  require (publication.availability ≠ .takedown) "Publication unavailable"
  require (publication.creatorId = accountId)
    "Only the publication creator can activate an account device"
  let same := (getPlaybackDevice env s accountId playbackSession.sessionPublicKey).any fun device =>
    decide (device.certificateSha256 = playbackSession.certificateSha256) &&
      decide (device.authorizingPublicKey = some env.signerAccountPk)
  if same then
    return { state := s, value := () }
  else
    let state ← authorizePlaybackDevice env s accountId (some playbackSession)
    assertRunway env state publicTestnetBetaEmergencyRunwayBytes
    return { state := state, value := () }

/-! ## NEAR fees -/

def withdrawPlatformNear (env : Env) (s : Contract) (amount : Nat) : Result (Outcome Unit) := do
  require (env.predecessorAccountId = s.platformAccountId) "Only the platform account can withdraw"
  require (amount > 0 ∧ amount ≤ s.platformNearBalance) "Insufficient platform NEAR balance"
  let status ← storageReserveStatus env s
  require (amount ≤ status.reserveHeadroomYocto)
    "Withdrawal would consume storage stake or reserve"
  let withdrawalId := "platform-withdrawal:NEAR:" ++ decimal amount ++ ":" ++
    decimal env.blockTimestampMs
  return {
    state := { s with platformNearBalance := s.platformNearBalance - amount }
    value := ()
    events := [emitMarketEvent env "platform_withdrawal_started" withdrawalId
      [("account_id", .str s.platformAccountId),
       ("asset", .str "NEAR"),
       ("amount", .dec amount),
       ("withdrawal_id", .str withdrawalId)]]
    promises := [.transfer s.platformAccountId amount (some (.onPlatformNearWithdraw amount))] }

/-! ## The compact wire form -/

/-- The profile hashes the wire ids stand for. -/
def compactProfiles : List String :=
  [legacyUploadProfileHash, publicUploadProfileHash, fullHdUploadProfileHash]

def decodeCompactUpload (env : Env) (message : String) (sender : AccountId) :
    Result TransferMessage := do
  let encoded ← expect (stripPrefix message "yt:u1:") "Invalid compact upload"
  require (encoded.utf8ByteSize ≤ 800) "Invalid compact upload"
  let bytes ← expect (env.base64Decode encoded) "Invalid compact upload"
  require (env.base64Encode bytes = encoded) "Invalid compact upload"
  let data ← expect (env.compactUploadOfBorsh bytes) "Invalid compact upload"
  require (data.jobId ≠ "" ∧ data.jobId.utf8ByteSize ≤ 128 ∧
      data.jobId.toList.all isIdentifierChar = true ∧
      isBlank data.title = false ∧ data.title.utf8ByteSize ≤ 200 ∧
      data.price ≥ minTicketPriceUsdc ∧ data.price < 100000000000000000000 ∧
      data.sourceBytes > 0 ∧ data.sourceBytes ≤ 5000000000 ∧ data.profile < 3 ∧
      data.uploadDuration > 0 ∧ data.deviceDuration = playbackDeviceLifetimeMs ∧
      data.lifetime > 0 ∧ data.lifetime ≤ quoteMaxLifetimeMs ∧
      data.blockWindow = sponsoredUploadMaxBlockWindow ∧ data.keyVersion > 0)
    "Invalid compact upload"
  let key := fun (bytes : Bytes) => "ed25519:" ++ env.bs58Encode bytes
  let profileHash := compactProfiles.getD data.profile ""
  let uploadKeyExpiresAtMs ← checkedAdd 64 data.issued data.uploadDuration "Invalid compact upload"
  let request : PaidJobRequest := {
    creatorId := sender
    jobId := data.jobId
    title := data.title
    priceUsdc := data.price
    expectedSourceBytes := data.sourceBytes
    profileId := profile
    profileConfigSha256 := profileHash
    uploadPublicKey := key data.uploadKey
    uploadKeyExpiresAtMs := uploadKeyExpiresAtMs }
  let fee ← uploadFeeUsdc request.expectedSourceBytes
  let network ← networkId env
  let usdc ← usdcContractId env
  let maxDelegateBlockHeight ← checkedAdd 64 data.block data.blockWindow "Invalid compact upload"
  let expiresAtMs ← checkedAdd 64 data.issued data.lifetime "Invalid compact upload"
  let unnamed : SponsoredUploadQuote := {
    domain := "youtick.sponsored-upload-quote"
    version := "1"
    network := network
    contractId := env.currentAccountId
    creatorId := sender
    jobId := request.jobId
    requestSha256 := paidJobRequestSha256 env.toHost request
    expectedSourceBytes := request.expectedSourceBytes
    uploadFeeUsdc := fee
    sponsorFeeUsdc := sponsoredUploadFeeUsdc
    totalFeeUsdc := fee + sponsoredUploadFeeUsdc
    delegateReceiverId := usdc
    delegateMethod := "ft_transfer_call"
    delegateGas := sponsoredUploadDelegateGas
    delegateDepositYocto := 1
    issuedAtMs := data.issued
    quoteBlockHeight := data.block
    maxDelegateBlockHeight := maxDelegateBlockHeight
    expiresAtMs := expiresAtMs
    quoteKeyVersion := data.keyVersion
    quoteId := "" }
  let quote := { unnamed with
    quoteId := hexSha256 env.toHost (utf8 (canonicalSponsoredUploadQuoteMessage unnamed)) }
  return {
    action := some "create_paid_job"
    publicationId := none
    jobId := some request.jobId
    title := some request.title
    priceUsdc := some request.priceUsdc
    expectedSourceBytes := some request.expectedSourceBytes
    profileId := some request.profileId
    profileConfigSha256 := some request.profileConfigSha256
    uploadPublicKey := some request.uploadPublicKey
    uploadKeyExpiresAtMs := some request.uploadKeyExpiresAtMs
    sponsorQuote := some quote
    sponsorQuoteSignature := some data.signature
    playbackSession := some {
      sessionPublicKey := key data.deviceKey
      certificateSha256 := hex data.certificate
      authorizationDurationMs := data.deviceDuration } }

end Youtick.MarketV2
