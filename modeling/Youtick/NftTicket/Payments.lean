import Youtick.MarketV2.Transfer
import Youtick.NftTicket.Uploads

/-!
# The V1 market: USDC and NEAR payments

`ft_on_transfer`, the entry point of every USDC payment: it creates a paid job or sells an
entitlement, and returns the amount the token contract gives back. Then the three withdrawals and
the callback each transfer is followed by: the balance is emptied when the transfer is scheduled and
restored when the transfer failed.
-/

set_option autoImplicit false

namespace Youtick.NftTicket

open Youtick.Lib
open Youtick.MarketV2 (AccountId Publication PaidJobRequest PlaybackSessionAuthorization
  SponsoredUploadQuote TransferMessage publicTestnetBetaEmergencyRunwayBytes uploadFeeUsdc
  assertPlaybackSession paidJobRequestOf usdcJobMatchesRequest)

/-- The whole amount goes back and nothing is written. -/
def returnAll (s : Contract) (amount : Nat) : Outcome Nat := { state := s, value := amount }

/-! ## Paid jobs -/

/-- The sponsor quote of a transfer message, verified when it is there. -/
def sponsorQuoteOf (env : Env) (s : Contract) (message : TransferMessage)
    (request : PaidJobRequest) : Result (Option SponsoredUploadQuote) :=
  match message.sponsorQuote, message.sponsorQuoteSignature with
  | none, none => .ok none
  | some quote, some signature => do
      verifySponsoredUploadQuote env s request quote signature
      return some quote
  | _, _ => .error "Incomplete sponsored upload quote"

/-- The admission rules in force: the public upload first, then the public beta. -/
def admitJob (env : Env) (s : Contract) (request : PaidJobRequest)
    (quote : Option SponsoredUploadQuote) : Result Contract := do
  let admitted ←
    (if s.publicUploadPolicy ≠ none then admitPublicUpload env s request else .ok s)
  if s.publicTestnetBeta ≠ none then
    let sponsor ← expect quote "Public beta sponsor quote is required"
    admitPublicTestnetBetaJob env admitted request sponsor
  else
    return admitted

/-- Admission, job creation and the fee, once nothing is left that returns the amount. -/
def acceptPaidJob (env : Env) (s : Contract) (senderId : AccountId) (amount : Nat)
    (request : PaidJobRequest) (quote : Option SponsoredUploadQuote) (expectedFee : Nat)
    (playbackSession : Option PlaybackSessionAuthorization) : Result (Outcome Nat) := do
  let admitted ← admitJob env s request quote
  let created ← createUsdcPaidJob env admitted request expectedFee (quote.map (·.quoteId))
  let platformBalance ← checkedAdd 128 created.state.platformBalance amount
    "Platform balance overflow"
  let state ← authorizePlaybackDevice env { created.state with platformBalance := platformBalance }
    senderId playbackSession
  checkWhen (s.publicTestnetBeta ≠ none ∨ s.publicUploadPolicy ≠ none)
    (assertRunway env state publicTestnetBetaEmergencyRunwayBytes)
  return { state := state, value := 0 }

/-- The `create_paid_job` branch. -/
def payForJob (env : Env) (s : Contract) (senderId : AccountId) (amount : Nat)
    (message : TransferMessage) : Result (Outcome Nat) := do
  let (request, uploadFee) ← paidJobRequestOf message senderId
  let quote ← sponsorQuoteOf env s message request
  if s.publicTestnetBeta ≠ none ∧ activePublicTestnetBeta env s = none then
    return returnAll s amount
  else if (s.publicTestnetBeta ≠ none ∨ s.publicUploadPolicy ≠ none) ∧ quote.isNone then
    return returnAll s amount
  else
    let expectedFee := (quote.map (·.totalFeeUsdc)).getD uploadFee
    require (amount = expectedFee) "Incorrect creator upload fee"
    match s.mediaJobs.get request.jobId with
    | some existing =>
      require (usdcJobMatchesRequest existing request expectedFee (quote.map (·.quoteId)))
        "Conflicting paid job replay"
      checkWhen (s.publicTestnetBeta ≠ none) do
        let _marker ← requirePublicTestnetBetaJob s existing
        return ⟨⟩
      return returnAll s amount
    | none =>
      if newPurchasesPaused s then
        return returnAll s amount
      else
        acceptPaidJob env s senderId amount request quote expectedFee message.playbackSession

/-! ## Entitlements -/

/-- The sale of an entitlement, once nothing is left that returns the amount: a twentieth, rounded
down, to the platform and the rest to the creator. -/
def sellEntitlement (env : Env) (s : Contract) (senderId : AccountId) (amount : Nat)
    (publicationId : String) (publication : Publication)
    (playbackSession : Option PlaybackSessionAuthorization) : Result (Outcome Nat) := do
  let platformAmount := amount / 20
  let creatorAmount := amount - platformAmount
  let creatorBalance ← checkedAdd 128 ((s.creatorBalances.get publication.creatorId).getD 0)
    creatorAmount "Creator balance overflow"
  let platformBalance ← checkedAdd 128 s.platformBalance platformAmount "Platform balance overflow"
  let sold := { s with
    creatorBalances := s.creatorBalances.insert publication.creatorId creatorBalance
    platformBalance := platformBalance
    entitlements := s.entitlements.insert (entitlementKey senderId publicationId) true }
  let state ← authorizePlaybackDevice env sold senderId playbackSession
  checkWhen (s.publicTestnetBeta ≠ none)
    (assertRunway env state publicTestnetBetaEmergencyRunwayBytes)
  return { state := state, value := 0 }

/-- The `buy_ticket` branch. -/
def buyTicket (env : Env) (s : Contract) (senderId : AccountId) (amount : Nat)
    (message : TransferMessage) : Result (Outcome Nat) := do
  require (message.action = none ∨ message.action = some "buy_ticket") "Unsupported transfer action"
  if newPurchasesPaused s then
    return returnAll s amount
  else if s.publicTestnetBeta ≠ none ∧ activePublicTestnetBeta env s = none then
    return returnAll s amount
  else
    let publicationId ← expect message.publicationId "publication_id is required"
    let publication ← expect (s.publications.get publicationId) "Publication not found"
    if publication.availability ≠ .active ∨ amount ≠ publication.priceUsdc ∨
        s.entitlements.get (entitlementKey senderId publicationId) ≠ none then
      return returnAll s amount
    else
      sellEntitlement env s senderId amount publicationId publication message.playbackSession

/-! ## The entry point -/

def ftOnTransfer (env : Env) (s : Contract) (senderId : AccountId) (amount : Nat) (msg : String) :
    Result (Outcome Nat) := do
  let usdc ← usdcContractId env
  require (env.predecessorAccountId = usdc) "Only Circle USDC is accepted"
  let message ←
    (if startsWith msg "yt:u1:" then decodeCompactUpload env msg senderId
    else expect (env.transferMessageOfJson msg) "Invalid purchase message")
  checkSome message.playbackSession (assertPlaybackSession env.toHost)
  if message.action = some "create_paid_job" then
    payForJob env s senderId amount message
  else
    buyTicket env s senderId amount message

/-! ## Withdrawals -/

def withdrawCreatorBalance (env : Env) (s : Contract) : Result (Outcome Unit) := do
  let creatorId := env.predecessorAccountId
  let amount := (s.creatorBalances.get creatorId).getD 0
  require (amount > 0) "No creator balance"
  let withdrawalId := "creator-withdrawal:" ++ creatorId ++ ":" ++ decimal amount ++ ":" ++
    decimal env.blockTimestampMs
  let _usdc ← usdcContractId env
  return {
    state := { s with creatorBalances := s.creatorBalances.insert creatorId 0 }
    value := ()
    promises := [.ftTransfer creatorId amount "creator payout"
      (.onCreatorWithdraw creatorId amount withdrawalId)] }

def withdrawPlatformBalance (env : Env) (s : Contract) : Result (Outcome Unit) := do
  require (env.predecessorAccountId = s.platformAccountId) "Only the platform account can withdraw"
  let amount := s.platformBalance
  require (amount > 0) "No platform balance"
  let _usdc ← usdcContractId env
  return {
    state := { s with platformBalance := 0 }
    value := ()
    promises := [.ftTransfer s.platformAccountId amount "platform commission"
      (.onPlatformWithdraw amount)] }

def withdrawPlatformNear (env : Env) (s : Contract) (amount : Nat) : Result (Outcome Unit) := do
  require (env.predecessorAccountId = s.platformAccountId) "Only the platform account can withdraw"
  require (amount > 0 ∧ amount ≤ s.platformNearBalance) "Insufficient platform NEAR balance"
  let status ← storageReserveStatus env s
  require (amount ≤ status.reserveHeadroomYocto)
    "Withdrawal would consume storage stake or reserve"
  return {
    state := { s with platformNearBalance := s.platformNearBalance - amount }
    value := ()
    promises := [.transfer s.platformAccountId amount (some (.onPlatformNearWithdraw amount))] }

/-! ## Callbacks -/

/-- The withdrawal's id is only logged. -/
def onCreatorWithdraw (env : Env) (s : Contract) (creatorId : AccountId) (amount : Nat)
    (_withdrawalId : String) : Result (Outcome Bool) := do
  assertPrivate env "on_creator_withdraw"
  let result ← withdrawalResult env
  match result with
  | .successful => return { state := s, value := true }
  | .failed =>
    let restored ← checkedAdd 128 ((s.creatorBalances.get creatorId).getD 0) amount
      "Creator balance overflow"
    return {
      state := { s with creatorBalances := s.creatorBalances.insert creatorId restored }
      value := false }

def onPlatformWithdraw (env : Env) (s : Contract) (amount : Nat) : Result (Outcome Bool) := do
  assertPrivate env "on_platform_withdraw"
  let result ← withdrawalResult env
  match result with
  | .successful => return { state := s, value := true }
  | .failed =>
    let restored ← checkedAdd 128 s.platformBalance amount "Platform balance overflow"
    return { state := { s with platformBalance := restored }, value := false }

def onPlatformNearWithdraw (env : Env) (s : Contract) (amount : Nat) : Result (Outcome Bool) := do
  assertPrivate env "on_platform_near_withdraw"
  let result ← withdrawalResult env
  match result with
  | .successful => return { state := s, value := true }
  | .failed =>
    let restored ← checkedAdd 128 s.platformNearBalance amount "Platform NEAR balance overflow"
    return { state := { s with platformNearBalance := restored }, value := false }

end Youtick.NftTicket
