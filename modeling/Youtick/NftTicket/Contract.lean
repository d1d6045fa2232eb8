import Youtick.MarketV2.Checks

/-!
# The V1 market: storage, environment and guards

`contracts/nft-ticket`, the market V1, under the source's names. Market V2 was written from it and
repeats its upload and catalogue records word for word, so these, the storage parts made of them and
the argument checks that read no storage are the ones of `MarketV2`. What differs is here: four
roles and no payment operator, entitlements in place of tickets, and the profile and the least price
of the paid media.

As there, raw storage keys are fields, fixed-width integers are natural numbers that are checked
where they could overflow, and a call that panics leaves the storage as it was. Log lines are not
kept.
-/

set_option autoImplicit false

namespace Youtick.NftTicket

open Youtick.Lib
open Youtick.MarketV2 (AccountId FeeAsset MediaJobStatus PublicationAvailability MediaJob Publication
  TakedownRecord PendingCodeUpgrade StorageReserveStatus PublicTestnetBetaState PublicTestnetBetaJob
  PublicUploadProfile PublicUploadPolicy PublicUploadCreator PlaybackSessionAuthorization
  PlaybackDevice PaidJobRequest CreatorFeeQuote SponsoredUploadQuote TransferMessage CompactUpload
  Controls Catalog Uploads Host CurveType PromiseResult testnetUsdc mainnetUsdc
  publicUploadMaxSourceBytes publicTestnetBetaJobTtlMs fullHdUploadProfileHash
  publicUploadProfileHash legacyUploadProfileHash mainnetRoleRotationDelayMs
  mainnetBridgeRotationDelayMs mainnetReopenDelayMs hexSha256 assertIdentifier assertTitle
  assertSha256 assertSourceBytes isBase58Char)

/-! ## Constants -/

def profile : String := "paid-media-livepeer-v1"
def minTicketPriceUsdc : Nat := 2000000
def marketStateVersion : Nat := 2

/-! ## Roles -/

inductive GovernanceRole where
  | admin
  | guardian
  | platform
  | takedownAuthority
  deriving DecidableEq

structure PendingRoleRotation where
  role : GovernanceRole
  currentAccountId : AccountId
  nextAccountId : AccountId
  proposedAtMs : Nat
  executableAtMs : Nat

structure MarketInitConfig where
  platformAccountId : AccountId
  bridgeAccountId : AccountId
  takedownAuthorityId : AccountId
  adminAccountId : AccountId
  guardianAccountId : AccountId
  quotePublicKey : Bytes
  quoteKeyVersion : Nat
  nearOperationalReserve : Nat

abbrev LivepeerPublicationSubmission : Type := MarketV2.PublicationSubmission

/-! ## Storage -/

/-- Who holds which authority, and the rotations under way. -/
structure Roles where
  platformAccountId : AccountId
  adminAccountId : AccountId
  guardianAccountId : AccountId
  activeBridgeAccountId : AccountId
  pendingBridgeAccountId : Option AccountId
  bridgeRotationProposedAtMs : Option Nat
  takedownAuthorityId : AccountId
  roleRotations : LookupMap GovernanceRole PendingRoleRotation

/-- Entitlements, keyed by the text `account:publication`, and the USDC balances. -/
structure Till where
  entitlements : LookupMap String Bool
  creatorBalances : LookupMap AccountId Nat
  platformBalance : Nat

/-- The contract's whole storage. -/
structure Contract extends Roles, Controls, Catalog, Uploads, Till

/-! ## Calls -/

/-- The callback a transfer is followed by, with its arguments. -/
inductive Callback where
  | onCreatorWithdraw (creatorId : AccountId) (amount : Nat) (withdrawalId : String)
  | onPlatformWithdraw (amount : Nat)
  | onPlatformNearWithdraw (amount : Nat)

/-- A scheduled receipt; `deployContract` also runs `migrate`. -/
inductive Promise where
  | ftTransfer (receiverId : AccountId) (amount : Nat) (memo : String) (callback : Callback)
  | transfer (receiverId : AccountId) (amount : Nat) (callback : Option Callback)
  | deployContract (code : Bytes)

structure Context where
  predecessorAccountId : AccountId
  signerAccountId : AccountId
  signerAccountPk : String
  signerCurveType : CurveType
  blockTimestampMs : Nat
  blockHeight : Nat
  attachedDeposit : Nat
  input : Option Bytes
  accountBalance : Nat
  storageByteCost : Nat
  storageUsage : Contract → Nat
  promiseResults : List PromiseResult

/-- Everything a call can read besides the storage. -/
structure Env extends Host, Context

/-- The result of a call that did not panic. -/
structure Outcome (α : Type) where
  state : Contract
  value : α
  promises : List Promise := []

/-- Forget the return value. -/
def Outcome.void {α : Type} (o : Outcome α) : Outcome Unit :=
  { state := o.state, value := (), promises := o.promises }

/-! ## Network -/

def networkId (env : Env) : Result String :=
  if endsWith env.currentAccountId ".testnet" then .ok "testnet"
  else if endsWith env.currentAccountId ".near" then .ok "mainnet"
  else .error "Unsupported NEAR network"

def usdcContractId (env : Env) : Result AccountId :=
  if endsWith env.currentAccountId ".testnet" then .ok testnetUsdc
  else if endsWith env.currentAccountId ".near" then .ok mainnetUsdc
  else .error "Unsupported NEAR network"

/-! ## Authorities -/

def assertBridge (env : Env) (s : Contract) : Result PUnit.{1} := do
  require (env.predecessorAccountId = s.activeBridgeAccountId)
    "Only the configured Livepeer bridge can call this method"
  require (s.bridgeFrozen = false) "Livepeer bridge is frozen"

def assertAdmin (env : Env) (s : Contract) : Result PUnit.{1} :=
  require (env.predecessorAccountId = s.adminAccountId)
    "Only the admin account can call this method"

def assertGuardian (env : Env) (s : Contract) : Result PUnit.{1} :=
  require (env.predecessorAccountId = s.guardianAccountId)
    "Only the guardian account can call this method"

def assertAdminOrGuardian (env : Env) (s : Contract) : Result PUnit.{1} :=
  require (env.predecessorAccountId = s.adminAccountId ∨
      env.predecessorAccountId = s.guardianAccountId)
    "Only the admin or guardian account can call this method"

def assertTakedownAuthority (env : Env) (s : Contract) : Result PUnit.{1} :=
  require (env.predecessorAccountId = s.takedownAuthorityId)
    "Only the configured takedown authority can call this method"

/-- The guard the SDK puts in front of a `#[private]` method. -/
def assertPrivate (env : Env) (method : String) : Result PUnit.{1} :=
  require (env.predecessorAccountId = env.currentAccountId) ("Method " ++ method ++ " is private")

/-- The single promise result a withdrawal callback was scheduled for. -/
def withdrawalResult (env : Env) : Result PromiseResult :=
  match env.promiseResults with
  | [result] => .ok result
  | _ => .error "Expected one withdrawal result"

/-! ## Governance delays -/

def governanceDelayMs (env : Env) (mainnetDelayMs : Nat) : Result Nat := do
  let network ← networkId env
  return if network = "testnet" then 0 else mainnetDelayMs

def roleRotationDelayMs (env : Env) : Result Nat := governanceDelayMs env mainnetRoleRotationDelayMs

def bridgeRotationExecutableAtMs (env : Env) (proposedAtMs : Nat) : Result Nat := do
  let delay ← governanceDelayMs env mainnetBridgeRotationDelayMs
  checkedAdd 64 proposedAtMs delay "Bridge rotation delay overflow"

def reopenExecutableAtMs (env : Env) (requestedAtMs : Nat) : Result Nat := do
  let delay ← governanceDelayMs env mainnetReopenDelayMs
  checkedAdd 64 requestedAtMs delay "Reopen delay overflow"

/-- `request` is the stored value of the request key being checked. -/
def assertReopenElapsed (env : Env) (request : Option Nat) : Result PUnit.{1} := do
  let requestedAtMs ← expect request "Reopen has not been requested"
  let executableAtMs ← reopenExecutableAtMs env requestedAtMs
  require (env.blockTimestampMs ≥ executableAtMs) "Reopen timelock has not elapsed"

/-! ## The purchase pause, the public beta and the public upload -/

def newPurchasesPaused (s : Contract) : Bool := decide (s.newPurchasesPausedRaw = some [1])

def activePublicTestnetBeta (env : Env) (s : Contract) : Option PublicTestnetBetaState :=
  s.publicTestnetBeta.filter fun state =>
    state.closedAtMs.isNone && decide (env.blockTimestampMs < state.endsAtMs)

def requirePublicTestnetBetaJob (s : Contract) (job : MediaJob) : Result PublicTestnetBetaJob := do
  let marker ← expect (s.publicTestnetBetaJobs.get job.jobId) "Public beta job marker not found"
  require (marker.creatorId = job.creatorId) "Public beta creator mismatch"
  require (marker.generation = job.generation) "Public beta generation mismatch"
  require (job.feeQuoteHash = some marker.sponsorQuoteId) "Public beta sponsor quote mismatch"
  return marker

def requirePublicUploadJob (job : MediaJob) : Result Nat := do
  require (job.generation = 1 ∧ job.feeAsset = .usdc ∧ job.feeQuoteHash.isSome = true)
    "Invalid public upload job"
  require (job.expectedSourceBytes ≤ publicUploadMaxSourceBytes ∧ job.profileId = profile ∧
      job.profileConfigSha256 ∈
        [fullHdUploadProfileHash, publicUploadProfileHash, legacyUploadProfileHash])
    "Public upload policy mismatch"
  checkedAdd 64 job.createdAtMs publicTestnetBetaJobTtlMs "Public upload deadline overflow"

/-- The public-upload profiles, in the order they are stored. -/
def standardUploadProfiles : List PublicUploadProfile :=
  [publicUploadProfileHash, legacyUploadProfileHash].map fun hash =>
    { profileId := profile, profileConfigSha256 := hash }

/-! ## The storage reserve -/

def storageReserveStatus (env : Env) (s : Contract) : Result StorageReserveStatus := do
  let storageUsage := env.storageUsage s
  let storageStake ← checkedMul 128 storageUsage env.storageByteCost "Storage stake overflow"
  let protectedBalance ← checkedAdd 128 storageStake s.nearOperationalReserve
    "Protected NEAR balance overflow"
  let reserveHeadroom := env.accountBalance - protectedBalance
  let reserveRunway ← checkedDiv reserveHeadroom env.storageByteCost
  return {
    storageUsageBytes := storageUsage
    storageByteCostYocto := env.storageByteCost
    storageStakeYocto := storageStake
    operationalReserveYocto := s.nearOperationalReserve
    accountBalanceYocto := env.accountBalance
    reserveHeadroomYocto := reserveHeadroom
    reserveRunwayBytes := reserveRunway
    reserveCovered := decide (env.accountBalance ≥ protectedBalance) }

def assertRunway (env : Env) (s : Contract) (minimumBytes : Nat) : Result PUnit.{1} := do
  let status ← storageReserveStatus env s
  require (status.reserveRunwayBytes ≥ minimumBytes)
    ("Storage runway must remain at least " ++ decimal minimumBytes ++ " bytes")

/-! ## Upload arguments -/

def assertProfile (profileId profileConfigSha256 : String) : Result PUnit.{1} := do
  require (profileId = profile) "Unsupported paid-media profile"
  assertSha256 "profile_config_sha256" profileConfigSha256

def assertUploadKey (env : Env) (publicKey : String) (expiresAtMs : Nat) : Result PUnit.{1} := do
  require (startsWith publicKey "ed25519:" = true ∧ 40 ≤ publicKey.utf8ByteSize ∧
      publicKey.utf8ByteSize ≤ 80 ∧ (publicKey.toList.drop 8).all isBase58Char = true)
    "Invalid upload public key"
  require (expiresAtMs > env.blockTimestampMs) "Upload key must not be expired"

def assertPaidJobRequest (env : Env) (request : PaidJobRequest) : Result PUnit.{1} := do
  assertIdentifier "job_id" request.jobId
  assertTitle request.title
  assertSourceBytes request.expectedSourceBytes
  assertProfile request.profileId request.profileConfigSha256
  assertUploadKey env request.uploadPublicKey request.uploadKeyExpiresAtMs
  require (request.priceUsdc ≥ minTicketPriceUsdc) "USDC ticket price must be at least 2.000000"

end Youtick.NftTicket
