import Youtick.MarketV2.Checks

/-!
# Market V2: guards on the caller and the state

The private methods that other methods call to check an authority, the purchase pause, the beta
window, the storage reserve, and the governance delays.
-/

set_option autoImplicit false

namespace Youtick.MarketV2

open Youtick.Lib

/-! ## Authorities -/

def assertBridge (env : Env) (s : Contract) : Result PUnit.{1} := do
  require (env.predecessorAccountId = s.activeBridgeAccountId)
    "Only the configured bridge can call this method"
  require (s.bridgeFrozen = false) "Bridge is frozen"

def assertAdmin (env : Env) (s : Contract) : Result PUnit.{1} :=
  require (env.predecessorAccountId = s.adminAccountId)
    "Only the admin account can call this method"

def assertGuardian (env : Env) (s : Contract) : Result PUnit.{1} :=
  require (env.predecessorAccountId = s.guardianAccountId)
    "Only the guardian account can call this method"

def assertAdminOrGuardian (env : Env) (s : Contract) : Result PUnit.{1} :=
  require (env.predecessorAccountId = s.adminAccountId ∨
      env.predecessorAccountId = s.guardianAccountId)
    "Only the admin or guardian account can call this method"

def assertTakedownAuthority (env : Env) (s : Contract) : Result PUnit.{1} :=
  require (env.predecessorAccountId = s.takedownAuthorityId)
    "Only the configured takedown authority can call this method"

/-- The guard the SDK puts in front of a `#[private]` method. -/
def assertPrivate (env : Env) (method : String) : Result PUnit.{1} :=
  require (env.predecessorAccountId = env.currentAccountId) ("Method " ++ method ++ " is private")

/-- The single promise result a callback was scheduled for. -/
def callbackResult (env : Env) (message : String) : Result PromiseResult :=
  match env.promiseResults with
  | [result] => .ok result
  | _ => .error message

/-! ## The purchase pause and the public beta -/

/-- The public-upload profiles, in the order they are stored. -/
def standardUploadProfiles : List PublicUploadProfile :=
  [publicUploadProfileHash, legacyUploadProfileHash].map fun hash =>
    { profileId := profile, profileConfigSha256 := hash }

def newPurchasesPaused (s : Contract) : Bool := decide (s.newPurchasesPausedRaw = some [1])

def activePublicTestnetBeta (env : Env) (s : Contract) : Option PublicTestnetBetaState :=
  s.publicTestnetBeta.filter fun state =>
    state.closedAtMs.isNone && decide (env.blockTimestampMs < state.endsAtMs)

def requirePublicTestnetBetaJob (s : Contract) (job : MediaJob) : Result PublicTestnetBetaJob := do
  let marker ← expect (s.publicTestnetBetaJobs.get job.jobId) "Public beta job marker not found"
  require (marker.creatorId = job.creatorId) "Public beta creator mismatch"
  require (marker.generation = job.generation) "Public beta generation mismatch"
  require (job.feeQuoteHash = some marker.sponsorQuoteId) "Public beta sponsor quote mismatch"
  return marker

def requirePublicUploadJob (job : MediaJob) : Result Nat := do
  require (job.generation = 1 ∧ job.feeAsset = .usdc ∧ job.feeQuoteHash.isSome = true)
    "Invalid public upload job"
  require (job.expectedSourceBytes ≤ publicUploadMaxSourceBytes ∧ job.profileId = profile ∧
      job.profileConfigSha256 ∈
        [fullHdUploadProfileHash, publicUploadProfileHash, legacyUploadProfileHash])
    "Public upload policy mismatch"
  checkedAdd 64 job.createdAtMs publicTestnetBetaJobTtlMs "Public upload deadline overflow"

/-! ## The storage reserve -/

def storageReserveStatus (env : Env) (s : Contract) : Result StorageReserveStatus := do
  let storageUsage := env.storageUsage s
  let storageStake ← checkedMul 128 storageUsage env.storageByteCost "Storage stake overflow"
  let protectedBalance ← checkedAdd 128 storageStake s.nearOperationalReserve
    "Protected NEAR balance overflow"
  let reserveHeadroom := env.accountBalance - protectedBalance
  let reserveRunway ← checkedDiv reserveHeadroom env.storageByteCost
  return {
    storageUsageBytes := storageUsage
    storageByteCostYocto := env.storageByteCost
    storageStakeYocto := storageStake
    operationalReserveYocto := s.nearOperationalReserve
    accountBalanceYocto := env.accountBalance
    reserveHeadroomYocto := reserveHeadroom
    reserveRunwayBytes := reserveRunway
    reserveCovered := decide (env.accountBalance ≥ protectedBalance) }

def assertRunway (env : Env) (s : Contract) (minimumBytes : Nat) : Result PUnit.{1} := do
  let status ← storageReserveStatus env s
  require (status.reserveRunwayBytes ≥ minimumBytes)
    ("Storage runway must remain at least " ++ decimal minimumBytes ++ " bytes")

/-! ## Governance delays -/

def governanceDelayMs (env : Env) (mainnetDelayMs : Nat) : Result Nat := do
  let network ← networkId env
  return if network = "testnet" then 0 else mainnetDelayMs

def roleRotationDelayMs (env : Env) : Result Nat := governanceDelayMs env mainnetRoleRotationDelayMs

def bridgeRotationExecutableAtMs (env : Env) (proposedAtMs : Nat) : Result Nat := do
  let delay ← governanceDelayMs env mainnetBridgeRotationDelayMs
  checkedAdd 64 proposedAtMs delay "Bridge rotation delay overflow"

def reopenExecutableAtMs (env : Env) (requestedAtMs : Nat) : Result Nat := do
  let delay ← governanceDelayMs env mainnetReopenDelayMs
  checkedAdd 64 requestedAtMs delay "Reopen delay overflow"

/-- `request` is the stored value of the request key being checked. -/
def assertReopenElapsed (env : Env) (request : Option Nat) : Result PUnit.{1} := do
  let requestedAtMs ← expect request "Reopen has not been requested"
  let executableAtMs ← reopenExecutableAtMs env requestedAtMs
  require (env.blockTimestampMs ≥ executableAtMs) "Reopen timelock has not elapsed"

theorem governanceDelayMs_mainnet {env : Env} (h : env.toHost.IsMainnet) (delay : Nat) :
    governanceDelayMs env delay = .ok delay := by
  rw [governanceDelayMs, networkId_of_isMainnet h]
  rfl

/-- Everywhere else there is no delay. -/
theorem governanceDelayMs_of_not_mainnet {env : Env} (h : ¬ env.toHost.IsMainnet)
    {mainnetDelayMs delay : Nat} (hdelay : governanceDelayMs env mainnetDelayMs = .ok delay) :
    delay = 0 := by
  obtain ⟨network, hnetwork, hdelay⟩ := bind_eq_ok.mp hdelay
  unfold networkId at hnetwork
  split at hnetwork
  · cases ok_eq_ok.mp hnetwork
    exact (pure_eq_ok.mp hdelay).symm
  · next htestnet =>
      split at hnetwork
      · next hnear => exact absurd ⟨Bool.eq_false_iff.mpr htestnet, hnear⟩ h
      · exact (error_eq_ok.mp hnetwork).elim

/-- On mainnet a reopening that passes its check was requested at least the reopen delay ago. -/
theorem assertReopenElapsed_mainnet {env : Env} {request : Option Nat} {r : PUnit.{1}}
    (hm : env.toHost.IsMainnet) (h : assertReopenElapsed env request = .ok r) :
    ∃ requestedAtMs, request = some requestedAtMs ∧
      requestedAtMs + mainnetReopenDelayMs ≤ env.blockTimestampMs := by
  simp only [assertReopenElapsed, reopenExecutableAtMs, governanceDelayMs_mainnet hm, bind_eq_ok,
    expect_eq_ok, ok_eq_ok, checkedAdd_eq_ok, require_eq_ok] at h
  obtain ⟨requestedAtMs, hreq, _, ⟨_, rfl, -, rfl⟩, helapsed⟩ := h
  exact ⟨requestedAtMs, hreq, helapsed⟩

end Youtick.MarketV2
