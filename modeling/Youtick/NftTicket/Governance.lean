import Youtick.NftTicket.Contract

/-!
# The V1 market: initialisation and governance methods

The two initialisers, the emergency controls (bridge freeze, purchase pause, beta window), the bridge
and role rotations, and the code upgrade.
-/

set_option autoImplicit false

namespace Youtick.NftTicket

open Youtick.Lib
open Youtick.MarketV2 (AccountId PendingCodeUpgrade PublicTestnetBetaState PublicUploadPolicy
  publicUploadMaxSourceBytes publicTestnetBetaJobTtlMs publicTestnetBetaUploadMs
  publicTestnetBetaTotalMs publicTestnetBetaStartRunwayBytes publicTestnetBetaEmergencyRunwayBytes
  fullHdUploadProfileHash mainnetCodeUpgradeDelayMs hexSha256 assertSha256)

/-! ## Initialisation -/

/-- `new`. The raw keys are empty in a fresh account. -/
def new (config : MarketInitConfig) : Result Contract := do
  require (config.platformAccountId ≠ config.bridgeAccountId)
    "Platform and bridge accounts must differ"
  require (config.quotePublicKey.length = 32) "Quote public key must be Ed25519"
  require (config.quoteKeyVersion > 0) "Quote key version must be positive"
  require (config.adminAccountId ≠ config.guardianAccountId)
    "Admin and guardian accounts must differ"
  require (config.adminAccountId ≠ config.bridgeAccountId ∧
      config.guardianAccountId ≠ config.bridgeAccountId)
    "Admin, guardian and bridge accounts must differ"
  require (config.takedownAuthorityId ≠ config.bridgeAccountId ∧
      config.takedownAuthorityId ≠ config.platformAccountId)
    "Takedown authority must be separate"
  return {
    platformAccountId := config.platformAccountId
    adminAccountId := config.adminAccountId
    guardianAccountId := config.guardianAccountId
    activeBridgeAccountId := config.bridgeAccountId
    pendingBridgeAccountId := none
    bridgeRotationProposedAtMs := none
    takedownAuthorityId := config.takedownAuthorityId
    roleRotations := .empty
    stateVersion := marketStateVersion
    bridgeFrozen := false
    newPurchasesPausedRaw := none
    bridgeUnfreezeRequest := none
    newPurchasesUnpauseRequest := none
    codeUpgrade := none
    mediaJobs := .empty
    publications := .empty
    assetBindings := .empty
    playbackBindings := .empty
    takedowns := .empty
    publicationIds := .empty
    publicationCount := 0
    publicTestnetBeta := none
    publicTestnetBetaJobs := .empty
    publicTestnetBetaDays := .empty
    publicUploadPolicy := none
    publicUploadCreators := .empty
    quotePublicKey := config.quotePublicKey
    quoteKeyVersion := config.quoteKeyVersion
    nearOperationalReserve := config.nearOperationalReserve
    platformNearBalance := 0
    playbackDevices := .empty
    entitlements := .empty
    creatorBalances := .empty
    platformBalance := 0 }

def newPublicTestnet (env : Env) (config : MarketInitConfig) : Result Contract := do
  let contract ← new config
  let network ← networkId env
  require (network = "testnet") "Public upload is testnet only"
  require (contract.publicTestnetBeta = none) "Public beta state exists"
  return { contract with
    publicUploadPolicy := some {
      version := 1
      environment := "public-testnet"
      network := "testnet"
      marketContractId := env.currentAccountId
      maxSourceBytes := publicUploadMaxSourceBytes
      jobTtlMs := publicTestnetBetaJobTtlMs
      signedQuoteRequired := true
      profiles := standardUploadProfiles }
    newPurchasesPausedRaw := some [1]
    bridgeFrozen := true }

/-! ## The bridge freeze -/

def freezeBridge (env : Env) (s : Contract) : Result (Outcome Unit) := do
  assertGuardian env s
  if s.bridgeFrozen then
    return { state := s, value := () }
  else
    return { state := { s with bridgeFrozen := true }, value := () }

def requestBridgeUnfreeze (env : Env) (s : Contract) : Result (Outcome Nat) := do
  assertAdmin env s
  require (s.bridgeFrozen = true) "Livepeer bridge is not frozen"
  match s.bridgeUnfreezeRequest with
  | some requestedAtMs => return { state := s, value := requestedAtMs }
  | none =>
    let requestedAtMs := env.blockTimestampMs
    -- Only the log line reads it, but its overflow panics.
    let _executableAtMs ← reopenExecutableAtMs env requestedAtMs
    return {
      state := { s with bridgeUnfreezeRequest := some requestedAtMs }
      value := requestedAtMs }

def cancelBridgeUnfreeze (env : Env) (s : Contract) : Result (Outcome Unit) := do
  assertAdminOrGuardian env s
  if s.bridgeUnfreezeRequest = none then
    return { state := s, value := () }
  else
    return { state := { s with bridgeUnfreezeRequest := none }, value := () }

def unfreezeBridge (env : Env) (s : Contract) : Result (Outcome Unit) := do
  assertAdmin env s
  if s.bridgeFrozen = false then
    return { state := { s with bridgeUnfreezeRequest := none }, value := () }
  else
    assertReopenElapsed env s.bridgeUnfreezeRequest
    return {
      state := { s with bridgeUnfreezeRequest := none, bridgeFrozen := false }
      value := () }

/-! ## The purchase pause -/

def pauseNewPurchases (env : Env) (s : Contract) : Result (Outcome Unit) := do
  assertGuardian env s
  if newPurchasesPaused s then
    return { state := s, value := () }
  else
    return { state := { s with newPurchasesPausedRaw := some [1] }, value := () }

def requestNewPurchasesUnpause (env : Env) (s : Contract) : Result (Outcome Nat) := do
  assertAdmin env s
  require (newPurchasesPaused s = true) "New purchases are not paused"
  match s.newPurchasesUnpauseRequest with
  | some requestedAtMs => return { state := s, value := requestedAtMs }
  | none =>
    let requestedAtMs := env.blockTimestampMs
    let _executableAtMs ← reopenExecutableAtMs env requestedAtMs
    return {
      state := { s with newPurchasesUnpauseRequest := some requestedAtMs }
      value := requestedAtMs }

def cancelNewPurchasesUnpause (env : Env) (s : Contract) : Result (Outcome Unit) := do
  assertAdminOrGuardian env s
  if s.newPurchasesUnpauseRequest = none then
    return { state := s, value := () }
  else
    return { state := { s with newPurchasesUnpauseRequest := none }, value := () }

def unpauseNewPurchases (env : Env) (s : Contract) : Result (Outcome Unit) := do
  assertAdmin env s
  if newPurchasesPaused s = false then
    return { state := { s with newPurchasesUnpauseRequest := none }, value := () }
  else
    assertReopenElapsed env s.newPurchasesUnpauseRequest
    return {
      state := { s with newPurchasesUnpauseRequest := none, newPurchasesPausedRaw := none }
      value := () }

/-! ## The public beta window -/

def startPublicTestnetBeta (env : Env) (s : Contract) :
    Result (Outcome PublicTestnetBetaState) := do
  assertAdmin env s
  require (s.publicUploadPolicy = none) "Public upload cannot start a legacy beta"
  let network ← networkId env
  require (network = "testnet") "Public beta is testnet only"
  require (newPurchasesPaused s = true) "New purchases must be paused"
  require (s.publicTestnetBeta = none) "Public beta already started"
  assertRunway env s publicTestnetBetaStartRunwayBytes
  let startedAtMs := env.blockTimestampMs
  let uploadClosesAtMs ← checkedAdd 64 startedAtMs publicTestnetBetaUploadMs
    "Public beta upload close overflow"
  let endsAtMs ← checkedAdd 64 startedAtMs publicTestnetBetaTotalMs "Public beta end overflow"
  let state : PublicTestnetBetaState := {
    version := 1
    startedAtMs := startedAtMs
    uploadClosesAtMs := uploadClosesAtMs
    endsAtMs := endsAtMs
    closedAtMs := none
    totalJobCount := 0 }
  return { state := { s with publicTestnetBeta := some state }, value := state }

def closePublicTestnetBeta (env : Env) (s : Contract) :
    Result (Outcome PublicTestnetBetaState) := do
  assertGuardian env s
  let state ← expect s.publicTestnetBeta "Public beta has not started"
  if state.closedAtMs.isSome then
    return { state := s, value := state }
  else
    let closed := { state with closedAtMs := some env.blockTimestampMs }
    return {
      state := { s with publicTestnetBeta := some closed, newPurchasesPausedRaw := some [1] }
      value := closed }

/-! ## Bridge rotation -/

def assertValidBridgeAccount (s : Contract) (accountId : AccountId) : Result PUnit.{1} :=
  require (accountId ≠ s.activeBridgeAccountId ∧ accountId ≠ s.platformAccountId ∧
      accountId ≠ s.takedownAuthorityId ∧ accountId ≠ s.adminAccountId ∧
      accountId ≠ s.guardianAccountId)
    "Bridge account must be a separate authority"

def proposeBridge (env : Env) (s : Contract) (nextBridgeAccountId : AccountId) :
    Result (Outcome Unit) := do
  assertAdmin env s
  assertValidBridgeAccount s nextBridgeAccountId
  if s.pendingBridgeAccountId = some nextBridgeAccountId then
    return { state := s, value := () }
  else
    require (s.pendingBridgeAccountId = none) "Bridge rotation already pending"
    let proposedAtMs := env.blockTimestampMs
    let _executableAtMs ← bridgeRotationExecutableAtMs env proposedAtMs
    return {
      state := { s with
        pendingBridgeAccountId := some nextBridgeAccountId
        bridgeRotationProposedAtMs := some proposedAtMs }
      value := () }

def cancelBridgeRotation (env : Env) (s : Contract) : Result (Outcome Unit) := do
  assertAdminOrGuardian env s
  match s.pendingBridgeAccountId with
  | none => return { state := s, value := () }
  | some _ =>
    return {
      state := { s with pendingBridgeAccountId := none, bridgeRotationProposedAtMs := none }
      value := () }

def executeBridgeRotation (env : Env) (s : Contract) : Result (Outcome Unit) := do
  assertAdmin env s
  let proposedAtMs ← expect s.bridgeRotationProposedAtMs "Bridge rotation is not pending"
  let executableAtMs ← bridgeRotationExecutableAtMs env proposedAtMs
  require (env.blockTimestampMs ≥ executableAtMs) "Bridge rotation timelock has not elapsed"
  let nextBridgeAccountId ← expect s.pendingBridgeAccountId "Bridge rotation is not pending"
  return {
    state := { s with
      pendingBridgeAccountId := none
      activeBridgeAccountId := nextBridgeAccountId
      bridgeRotationProposedAtMs := none }
    value := () }

/-! ## Role rotation -/

def Roles.roleAccountId (roles : Roles) : GovernanceRole → AccountId
  | .admin => roles.adminAccountId
  | .guardian => roles.guardianAccountId
  | .platform => roles.platformAccountId
  | .takedownAuthority => roles.takedownAuthorityId

/-- The role's field replaced, as `execute_role_rotation` does with `mem::replace`. -/
def Roles.setRoleAccountId (roles : Roles) (role : GovernanceRole) (accountId : AccountId) : Roles :=
  match role with
  | .admin => { roles with adminAccountId := accountId }
  | .guardian => { roles with guardianAccountId := accountId }
  | .platform => { roles with platformAccountId := accountId }
  | .takedownAuthority => { roles with takedownAuthorityId := accountId }

/-- Applies the same separation rules as `new` to the roles after the rotation. -/
def assertValidRoleAssignment (s : Contract) (role : GovernanceRole) (nextAccountId : AccountId) :
    Result PUnit.{1} := do
  require (nextAccountId ≠ s.roleAccountId role) "Role already uses this account"
  let pick := fun candidate => if candidate = role then nextAccountId else s.roleAccountId candidate
  let admin := pick .admin
  let guardian := pick .guardian
  let platform := pick .platform
  let takedown := pick .takedownAuthority
  let bridge := s.activeBridgeAccountId
  require (platform ≠ bridge) "Platform and bridge accounts must differ"
  require (admin ≠ guardian) "Admin and guardian accounts must differ"
  require (admin ≠ bridge ∧ guardian ≠ bridge) "Admin, guardian and bridge accounts must differ"
  require (takedown ≠ bridge ∧ takedown ≠ platform) "Takedown authority must be separate"
  checkSome s.pendingBridgeAccountId fun pendingBridge =>
    require (nextAccountId ≠ pendingBridge) "Role account must differ from the pending bridge"

def proposeRoleRotation (env : Env) (s : Contract) (role : GovernanceRole)
    (nextAccountId : AccountId) : Result (Outcome PendingRoleRotation) := do
  assertAdmin env s
  match s.roleRotations.get role with
  | some pending =>
    require (pending.nextAccountId = nextAccountId) "Role rotation already pending"
    return { state := s, value := pending }
  | none =>
    assertValidRoleAssignment s role nextAccountId
    let proposedAtMs := env.blockTimestampMs
    let delay ← roleRotationDelayMs env
    let executableAtMs ← checkedAdd 64 proposedAtMs delay "Role rotation delay overflow"
    let pending : PendingRoleRotation := {
      role := role
      currentAccountId := s.roleAccountId role
      nextAccountId := nextAccountId
      proposedAtMs := proposedAtMs
      executableAtMs := executableAtMs }
    return {
      state := { s with roleRotations := s.roleRotations.insert role pending }
      value := pending }

def cancelRoleRotation (env : Env) (s : Contract) (role : GovernanceRole) :
    Result (Outcome Unit) := do
  assertAdminOrGuardian env s
  match s.roleRotations.get role with
  | none => return { state := s, value := () }
  | some _ =>
    return { state := { s with roleRotations := s.roleRotations.remove role }, value := () }

def executeRoleRotation (env : Env) (s : Contract) (role : GovernanceRole) :
    Result (Outcome Unit) := do
  assertAdmin env s
  let pending ← expect (s.roleRotations.get role) "Role rotation is not pending"
  require (env.blockTimestampMs ≥ pending.executableAtMs) "Role rotation timelock has not elapsed"
  require (s.roleAccountId role = pending.currentAccountId)
    "Role changed since rotation was proposed"
  -- Other roles may have rotated meanwhile; separation is checked again now.
  assertValidRoleAssignment s role pending.nextAccountId
  return {
    state := { s with
      toRoles := { s.toRoles.setRoleAccountId role pending.nextAccountId with
        roleRotations := s.roleRotations.remove role } }
    value := () }

/-! ## Code upgrade -/

def proposeCodeUpgrade (env : Env) (s : Contract) (codeSha256 : String) :
    Result (Outcome PendingCodeUpgrade) := do
  assertAdmin env s
  assertSha256 "code_sha256" codeSha256
  match s.codeUpgrade with
  | some pending =>
    require (pending.codeSha256 = codeSha256) "Code upgrade already pending"
    return { state := s, value := pending }
  | none =>
    let proposedAtMs := env.blockTimestampMs
    let delay ← governanceDelayMs env mainnetCodeUpgradeDelayMs
    let executableAtMs ← checkedAdd 64 proposedAtMs delay "Code upgrade delay overflow"
    let pending : PendingCodeUpgrade := {
      codeSha256 := codeSha256
      proposedAtMs := proposedAtMs
      executableAtMs := executableAtMs }
    return { state := { s with codeUpgrade := some pending }, value := pending }

def cancelCodeUpgrade (env : Env) (s : Contract) : Result (Outcome Unit) := do
  assertAdminOrGuardian env s
  match s.codeUpgrade with
  | none => return { state := s, value := () }
  | some _ => return { state := { s with codeUpgrade := none }, value := () }

/-- Permissionless: schedules the batch that deploys the call's input and runs `migrate` in it. -/
def executeCodeUpgrade (env : Env) (s : Contract) : Result (Outcome Unit) := do
  let pending ← expect s.codeUpgrade "Code upgrade is not pending"
  require (env.blockTimestampMs ≥ pending.executableAtMs) "Code upgrade timelock has not elapsed"
  let code ← expect env.input "Code upgrade requires WASM input"
  require (hexSha256 env.toHost code = pending.codeSha256)
    "Code does not match the proposed SHA-256"
  return { state := s, value := (), promises := [.deployContract code] }

/-- Runs in the deployed code; a same-layout upgrade only clears the pending record. -/
def migrate (env : Env) (s : Contract) : Result (Outcome Unit) := do
  assertPrivate env "migrate"
  require (s.stateVersion = marketStateVersion) "Unsupported Market state version"
  let _pending ← expect s.codeUpgrade "Code upgrade is not pending"
  return { state := { s with codeUpgrade := none }, value := () }

/-! ## Public upload profiles -/

def setPublicUploadFullHd (env : Env) (s : Contract) (enabled : Bool) :
    Result (Outcome PublicUploadPolicy) := do
  assertAdmin env s
  let network ← networkId env
  require (network = "testnet") "Public upload is testnet only"
  require (s.bridgeFrozen = true ∧ newPurchasesPaused s = true)
    "Profile changes require paused purchases and a frozen bridge"
  let policy ← expect s.publicUploadPolicy "Public upload policy required"
  require (policy.version = 1 ∧ policy.environment = "public-testnet" ∧
      policy.network = "testnet" ∧ policy.marketContractId = env.currentAccountId ∧
      policy.maxSourceBytes = publicUploadMaxSourceBytes ∧
      policy.jobTtlMs = publicTestnetBetaJobTtlMs ∧ policy.signedQuoteRequired = true)
    "Public upload policy mismatch"
  let standard := standardUploadProfiles
  let fullHd := { profileId := profile, profileConfigSha256 := fullHdUploadProfileHash } :: standard
  require (policy.profiles = standard ∨ policy.profiles = fullHd)
    "Unsupported public upload profiles"
  let selected := if enabled then fullHd else standard
  if policy.profiles = selected then
    return { state := s, value := policy }
  else
    let changed := { policy with profiles := selected }
    let state := { s with publicUploadPolicy := some changed }
    assertRunway env state publicTestnetBetaEmergencyRunwayBytes
    return { state := state, value := changed }

end Youtick.NftTicket
