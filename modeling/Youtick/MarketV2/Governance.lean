import Youtick.MarketV2.Guards

/-!
# Market V2: initialisation and governance methods

The two initialisers, the emergency controls (bridge freeze, purchase pause, beta window), the
bridge and role rotations, and the code upgrade.
-/

set_option autoImplicit false

namespace Youtick.MarketV2

open Youtick.Lib

/-! ## Initialisation -/

/-- `new`. The raw keys are empty in a fresh account. -/
def new (env : Env) (config : MarketInitConfig) : Result Contract := do
  require (config.paymentOperatorId ≠ config.bridgeAccountId ∧
      config.paymentOperatorId ≠ config.platformAccountId ∧
      config.paymentOperatorId ≠ config.adminAccountId ∧
      config.paymentOperatorId ≠ config.guardianAccountId ∧
      config.paymentOperatorId ≠ config.takedownAuthorityId ∧
      config.paymentOperatorId ≠ config.taxAccountId)
    "Payment operator must be a separate authority"
  require (config.vatKeyVersion > 0) "VAT key version must be positive"
  require (config.taxAccountId ≠ config.platformAccountId ∧
      config.taxAccountId ≠ config.bridgeAccountId) "Tax account must be separate"
  let vatPublicKey ← parseEd25519Key env.toHost config.vatPublicKey
  require (config.platformAccountId ≠ config.bridgeAccountId)
    "Platform and bridge accounts must differ"
  require (config.quotePublicKey.length = 32) "Quote public key must be Ed25519"
  require (config.quoteKeyVersion > 0) "Quote key version must be positive"
  require (config.adminAccountId ≠ config.guardianAccountId)
    "Admin and guardian accounts must differ"
  require (config.adminAccountId ≠ config.bridgeAccountId ∧
      config.guardianAccountId ≠ config.bridgeAccountId)
    "Admin, guardian and bridge accounts must differ"
  require (config.takedownAuthorityId ≠ config.bridgeAccountId ∧
      config.takedownAuthorityId ≠ config.platformAccountId)
    "Takedown authority must be separate"
  return {
    platformAccountId := config.platformAccountId
    adminAccountId := config.adminAccountId
    guardianAccountId := config.guardianAccountId
    activeBridgeAccountId := config.bridgeAccountId
    pendingBridgeAccountId := none
    bridgeRotationProposedAtMs := none
    takedownAuthorityId := config.takedownAuthorityId
    taxAccountId := config.taxAccountId
    paymentOperatorId := config.paymentOperatorId
    roleRotations := .empty
    stateVersion := marketStateVersion
    bridgeFrozen := false
    newPurchasesPausedRaw := none
    bridgeUnfreezeRequest := none
    newPurchasesUnpauseRequest := none
    codeUpgrade := none
    mediaJobs := .empty
    publications := .empty
    assetBindings := .empty
    playbackBindings := .empty
    takedowns := .empty
    publicationIds := .empty
    publicationCount := 0
    publicTestnetBeta := none
    publicTestnetBetaJobs := .empty
    publicTestnetBetaDays := .empty
    publicUploadPolicy := none
    publicUploadCreators := .empty
    quotePublicKey := config.quotePublicKey
    quoteKeyVersion := config.quoteKeyVersion
    nearOperationalReserve := config.nearOperationalReserve
    platformNearBalance := 0
    playbackDevices := .empty
    tickets := .empty
    vatKeys := LookupMap.empty.insert config.vatKeyVersion vatPublicKey
    cardReferences := ∅
    escrowBalance := 0
    taxBalance := 0
    platformBalance := 0
    creatorBalances := .empty }

def newPublicTestnet (env : Env) (config : MarketInitConfig) : Result Contract := do
  let contract ← new env config
  let network ← networkId env
  require (network = "testnet") "Public upload is testnet only"
  require (contract.publicTestnetBeta = none) "Public beta state exists"
  return { contract with
    publicUploadPolicy := some {
      version := 1
      environment := "public-testnet"
      network := "testnet"
      marketContractId := env.currentAccountId
      maxSourceBytes := publicUploadMaxSourceBytes
      jobTtlMs := publicTestnetBetaJobTtlMs
      signedQuoteRequired := true
      profiles := standardUploadProfiles }
    newPurchasesPausedRaw := some [1]
    bridgeFrozen := true }

/-! ## The bridge freeze -/

def freezeBridge (env : Env) (s : Contract) : Result (Outcome Unit) := do
  assertGuardian env s
  if s.bridgeFrozen then
    return { state := s, value := () }
  else
    return {
      state := { s with bridgeFrozen := true }
      value := ()
      events := [emitGovernanceEvent env "bridge_frozen"
        [("actor_id", .str env.predecessorAccountId),
         ("active_bridge_account_id", .str s.activeBridgeAccountId)]] }

def requestBridgeUnfreeze (env : Env) (s : Contract) : Result (Outcome Nat) := do
  assertAdmin env s
  require (s.bridgeFrozen = true) "Bridge is not frozen"
  match s.bridgeUnfreezeRequest with
  | some requestedAtMs => return { state := s, value := requestedAtMs }
  | none =>
    let requestedAtMs := env.blockTimestampMs
    let executableAtMs ← reopenExecutableAtMs env requestedAtMs
    return {
      state := { s with bridgeUnfreezeRequest := some requestedAtMs }
      value := requestedAtMs
      events := [emitGovernanceEvent env "bridge_unfreeze_requested"
        [("actor_id", .str env.predecessorAccountId),
         ("active_bridge_account_id", .str s.activeBridgeAccountId),
         ("requested_at_ms", .dec requestedAtMs),
         ("executable_at_ms", .dec executableAtMs)]] }

def cancelBridgeUnfreeze (env : Env) (s : Contract) : Result (Outcome Unit) := do
  assertAdminOrGuardian env s
  if s.bridgeUnfreezeRequest = none then
    return { state := s, value := () }
  else
    return {
      state := { s with bridgeUnfreezeRequest := none }
      value := ()
      events := [emitGovernanceEvent env "bridge_unfreeze_cancelled"
        [("actor_id", .str env.predecessorAccountId),
         ("active_bridge_account_id", .str s.activeBridgeAccountId)]] }

def unfreezeBridge (env : Env) (s : Contract) : Result (Outcome Unit) := do
  assertAdmin env s
  if s.bridgeFrozen = false then
    return { state := { s with bridgeUnfreezeRequest := none }, value := () }
  else
    assertReopenElapsed env s.bridgeUnfreezeRequest
    return {
      state := { s with bridgeUnfreezeRequest := none, bridgeFrozen := false }
      value := ()
      events := [emitGovernanceEvent env "bridge_unfrozen"
        [("actor_id", .str env.predecessorAccountId),
         ("active_bridge_account_id", .str s.activeBridgeAccountId)]] }

/-! ## The purchase pause -/

def pauseNewPurchases (env : Env) (s : Contract) : Result (Outcome Unit) := do
  assertGuardian env s
  if newPurchasesPaused s then
    return { state := s, value := () }
  else
    return {
      state := { s with newPurchasesPausedRaw := some [1] }
      value := ()
      events := [emitGovernanceEvent env "new_purchases_paused"
        [("actor_id", .str env.predecessorAccountId)]] }

def requestNewPurchasesUnpause (env : Env) (s : Contract) : Result (Outcome Nat) := do
  assertAdmin env s
  require (newPurchasesPaused s = true) "New purchases are not paused"
  match s.newPurchasesUnpauseRequest with
  | some requestedAtMs => return { state := s, value := requestedAtMs }
  | none =>
    let requestedAtMs := env.blockTimestampMs
    let executableAtMs ← reopenExecutableAtMs env requestedAtMs
    return {
      state := { s with newPurchasesUnpauseRequest := some requestedAtMs }
      value := requestedAtMs
      events := [emitGovernanceEvent env "new_purchases_unpause_requested"
        [("actor_id", .str env.predecessorAccountId),
         ("requested_at_ms", .dec requestedAtMs),
         ("executable_at_ms", .dec executableAtMs)]] }

def cancelNewPurchasesUnpause (env : Env) (s : Contract) : Result (Outcome Unit) := do
  assertAdminOrGuardian env s
  if s.newPurchasesUnpauseRequest = none then
    return { state := s, value := () }
  else
    return {
      state := { s with newPurchasesUnpauseRequest := none }
      value := ()
      events := [emitGovernanceEvent env "new_purchases_unpause_cancelled"
        [("actor_id", .str env.predecessorAccountId)]] }

def unpauseNewPurchases (env : Env) (s : Contract) : Result (Outcome Unit) := do
  assertAdmin env s
  if newPurchasesPaused s = false then
    return { state := { s with newPurchasesUnpauseRequest := none }, value := () }
  else
    assertReopenElapsed env s.newPurchasesUnpauseRequest
    return {
      state := { s with newPurchasesUnpauseRequest := none, newPurchasesPausedRaw := none }
      value := ()
      events := [emitGovernanceEvent env "new_purchases_unpaused"
        [("actor_id", .str env.predecessorAccountId)]] }

/-! ## The public beta window -/

def startPublicTestnetBeta (env : Env) (s : Contract) :
    Result (Outcome PublicTestnetBetaState) := do
  assertAdmin env s
  require (s.publicUploadPolicy = none) "Public upload cannot start a legacy beta"
  let network ← networkId env
  require (network = "testnet") "Public beta is testnet only"
  require (newPurchasesPaused s = true) "New purchases must be paused"
  require (s.publicTestnetBeta = none) "Public beta already started"
  assertRunway env s publicTestnetBetaStartRunwayBytes
  let startedAtMs := env.blockTimestampMs
  let uploadClosesAtMs ← checkedAdd 64 startedAtMs publicTestnetBetaUploadMs
    "Public beta upload close overflow"
  let endsAtMs ← checkedAdd 64 startedAtMs publicTestnetBetaTotalMs "Public beta end overflow"
  let state : PublicTestnetBetaState := {
    version := 1
    startedAtMs := startedAtMs
    uploadClosesAtMs := uploadClosesAtMs
    endsAtMs := endsAtMs
    closedAtMs := none
    totalJobCount := 0 }
  return {
    state := { s with publicTestnetBeta := some state }
    value := state
    events := [emitGovernanceEvent env "public_testnet_beta_started"
      [("actor_id", .str env.predecessorAccountId),
       ("started_at_ms", .dec startedAtMs),
       ("upload_closes_at_ms", .dec uploadClosesAtMs),
       ("ends_at_ms", .dec endsAtMs)]] }

def closePublicTestnetBeta (env : Env) (s : Contract) :
    Result (Outcome PublicTestnetBetaState) := do
  assertGuardian env s
  let state ← expect s.publicTestnetBeta "Public beta has not started"
  if state.closedAtMs.isSome then
    return { state := s, value := state }
  else
    let closed := { state with closedAtMs := some env.blockTimestampMs }
    return {
      state := { s with publicTestnetBeta := some closed, newPurchasesPausedRaw := some [1] }
      value := closed
      events := [emitGovernanceEvent env "public_testnet_beta_closed"
        [("actor_id", .str env.predecessorAccountId),
         ("closed_at_ms", .optDec closed.closedAtMs),
         ("total_job_count", .num closed.totalJobCount)]] }

/-! ## Bridge rotation -/

def assertValidBridgeAccount (s : Contract) (accountId : AccountId) : Result PUnit.{1} :=
  require (accountId ≠ s.activeBridgeAccountId ∧ accountId ≠ s.platformAccountId ∧
      accountId ≠ s.takedownAuthorityId ∧ accountId ≠ s.adminAccountId ∧
      accountId ≠ s.guardianAccountId ∧ accountId ≠ s.paymentOperatorId)
    "Bridge account must be a separate authority"

def proposeBridge (env : Env) (s : Contract) (nextBridgeAccountId : AccountId) :
    Result (Outcome Unit) := do
  assertAdmin env s
  assertValidBridgeAccount s nextBridgeAccountId
  if s.pendingBridgeAccountId = some nextBridgeAccountId then
    return { state := s, value := () }
  else
    require (s.pendingBridgeAccountId = none) "Bridge rotation already pending"
    let proposedAtMs := env.blockTimestampMs
    let executableAtMs ← bridgeRotationExecutableAtMs env proposedAtMs
    return {
      state := { s with
        pendingBridgeAccountId := some nextBridgeAccountId
        bridgeRotationProposedAtMs := some proposedAtMs }
      value := ()
      events := [emitGovernanceEvent env "bridge_rotation_proposed"
        [("actor_id", .str env.predecessorAccountId),
         ("active_bridge_account_id", .str s.activeBridgeAccountId),
         ("pending_bridge_account_id", .str nextBridgeAccountId),
         ("proposed_at_ms", .dec proposedAtMs),
         ("executable_at_ms", .dec executableAtMs)]] }

def cancelBridgeRotation (env : Env) (s : Contract) : Result (Outcome Unit) := do
  assertAdminOrGuardian env s
  match s.pendingBridgeAccountId with
  | none => return { state := s, value := () }
  | some pendingBridgeAccountId =>
    return {
      state := { s with pendingBridgeAccountId := none, bridgeRotationProposedAtMs := none }
      value := ()
      events := [emitGovernanceEvent env "bridge_rotation_cancelled"
        [("actor_id", .str env.predecessorAccountId),
         ("active_bridge_account_id", .str s.activeBridgeAccountId),
         ("pending_bridge_account_id", .str pendingBridgeAccountId)]] }

def executeBridgeRotation (env : Env) (s : Contract) : Result (Outcome Unit) := do
  assertAdmin env s
  let proposedAtMs ← expect s.bridgeRotationProposedAtMs "Bridge rotation is not pending"
  let executableAtMs ← bridgeRotationExecutableAtMs env proposedAtMs
  require (env.blockTimestampMs ≥ executableAtMs) "Bridge rotation timelock has not elapsed"
  let nextBridgeAccountId ← expect s.pendingBridgeAccountId "Bridge rotation is not pending"
  return {
    state := { s with
      pendingBridgeAccountId := none
      activeBridgeAccountId := nextBridgeAccountId
      bridgeRotationProposedAtMs := none }
    value := ()
    events := [emitGovernanceEvent env "bridge_rotated"
      [("actor_id", .str env.predecessorAccountId),
       ("previous_bridge_account_id", .str s.activeBridgeAccountId),
       ("active_bridge_account_id", .str nextBridgeAccountId)]] }

/-! ## Role rotation -/

def Roles.roleAccountId (roles : Roles) : GovernanceRole → AccountId
  | .admin => roles.adminAccountId
  | .guardian => roles.guardianAccountId
  | .platform => roles.platformAccountId
  | .takedownAuthority => roles.takedownAuthorityId
  | .paymentOperator => roles.paymentOperatorId

/-- The role's field replaced, as `execute_role_rotation` does with `mem::replace`. -/
def Roles.setRoleAccountId (roles : Roles) (role : GovernanceRole) (accountId : AccountId) : Roles :=
  match role with
  | .admin => { roles with adminAccountId := accountId }
  | .guardian => { roles with guardianAccountId := accountId }
  | .platform => { roles with platformAccountId := accountId }
  | .takedownAuthority => { roles with takedownAuthorityId := accountId }
  | .paymentOperator => { roles with paymentOperatorId := accountId }

def assertValidRoleAssignment (s : Contract) (role : GovernanceRole) (nextAccountId : AccountId) :
    Result PUnit.{1} := do
  require (nextAccountId ≠ s.roleAccountId role) "Role already uses this account"
  let pick := fun candidate => if candidate = role then nextAccountId else s.roleAccountId candidate
  let admin := pick .admin
  let guardian := pick .guardian
  let platform := pick .platform
  let takedown := pick .takedownAuthority
  let operator := pick .paymentOperator
  let bridge := s.activeBridgeAccountId
  require (operator ≠ bridge ∧ operator ≠ platform ∧ operator ≠ admin ∧ operator ≠ guardian ∧
      operator ≠ takedown ∧ operator ≠ s.taxAccountId)
    "Payment operator must be a separate authority"
  require (platform ≠ bridge) "Platform and bridge accounts must differ"
  require (admin ≠ guardian) "Admin and guardian accounts must differ"
  require (admin ≠ bridge ∧ guardian ≠ bridge) "Admin, guardian and bridge accounts must differ"
  require (takedown ≠ bridge ∧ takedown ≠ platform) "Takedown authority must be separate"
  match s.pendingBridgeAccountId with
  | some pendingBridge =>
    require (nextAccountId ≠ pendingBridge) "Role account must differ from the pending bridge"
  | none => return ⟨⟩

def proposeRoleRotation (env : Env) (s : Contract) (role : GovernanceRole)
    (nextAccountId : AccountId) : Result (Outcome PendingRoleRotation) := do
  assertAdmin env s
  match s.roleRotations.get role with
  | some pending =>
    require (pending.nextAccountId = nextAccountId) "Role rotation already pending"
    return { state := s, value := pending }
  | none =>
    assertValidRoleAssignment s role nextAccountId
    let proposedAtMs := env.blockTimestampMs
    let delay ← roleRotationDelayMs env
    let executableAtMs ← checkedAdd 64 proposedAtMs delay "Role rotation delay overflow"
    let pending : PendingRoleRotation := {
      role := role
      currentAccountId := s.roleAccountId role
      nextAccountId := nextAccountId
      proposedAtMs := proposedAtMs
      executableAtMs := executableAtMs }
    return {
      state := { s with roleRotations := s.roleRotations.insert role pending }
      value := pending
      events := [emitGovernanceEvent env "role_rotation_proposed"
        [("actor_id", .str env.predecessorAccountId),
         ("role", .str role.name),
         ("current_account_id", .str pending.currentAccountId),
         ("next_account_id", .str pending.nextAccountId),
         ("proposed_at_ms", .dec pending.proposedAtMs),
         ("executable_at_ms", .dec pending.executableAtMs)]] }

def cancelRoleRotation (env : Env) (s : Contract) (role : GovernanceRole) :
    Result (Outcome Unit) := do
  assertAdminOrGuardian env s
  match s.roleRotations.get role with
  | none => return { state := s, value := () }
  | some pending =>
    return {
      state := { s with roleRotations := s.roleRotations.remove role }
      value := ()
      events := [emitGovernanceEvent env "role_rotation_cancelled"
        [("actor_id", .str env.predecessorAccountId),
         ("role", .str role.name),
         ("current_account_id", .str pending.currentAccountId),
         ("next_account_id", .str pending.nextAccountId)]] }

def executeRoleRotation (env : Env) (s : Contract) (role : GovernanceRole) :
    Result (Outcome Unit) := do
  assertAdmin env s
  let pending ← expect (s.roleRotations.get role) "Role rotation is not pending"
  require (env.blockTimestampMs ≥ pending.executableAtMs) "Role rotation timelock has not elapsed"
  require (s.roleAccountId role = pending.currentAccountId)
    "Role changed since rotation was proposed"
  -- Other roles may have rotated meanwhile; separation is checked again now.
  assertValidRoleAssignment s role pending.nextAccountId
  let roles := s.toRoles.setRoleAccountId role pending.nextAccountId
  return {
    state := { s with toRoles := { roles with roleRotations := s.roleRotations.remove role } }
    value := ()
    events := [emitGovernanceEvent env "role_rotated"
      [("actor_id", .str env.predecessorAccountId),
       ("role", .str role.name),
       ("previous_account_id", .str (s.roleAccountId role)),
       ("active_account_id", .str pending.nextAccountId)]] }

/-! ## Code upgrade -/

def proposeCodeUpgrade (env : Env) (s : Contract) (codeSha256 : String) :
    Result (Outcome PendingCodeUpgrade) := do
  assertAdmin env s
  assertSha256 "code_sha256" codeSha256
  match s.codeUpgrade with
  | some pending =>
    require (pending.codeSha256 = codeSha256) "Code upgrade already pending"
    return { state := s, value := pending }
  | none =>
    let proposedAtMs := env.blockTimestampMs
    let delay ← governanceDelayMs env mainnetCodeUpgradeDelayMs
    let executableAtMs ← checkedAdd 64 proposedAtMs delay "Code upgrade delay overflow"
    let pending : PendingCodeUpgrade := {
      codeSha256 := codeSha256
      proposedAtMs := proposedAtMs
      executableAtMs := executableAtMs }
    return {
      state := { s with codeUpgrade := some pending }
      value := pending
      events := [emitGovernanceEvent env "code_upgrade_proposed"
        [("actor_id", .str env.predecessorAccountId),
         ("code_sha256", .str pending.codeSha256),
         ("proposed_at_ms", .dec pending.proposedAtMs),
         ("executable_at_ms", .dec pending.executableAtMs)]] }

def cancelCodeUpgrade (env : Env) (s : Contract) : Result (Outcome Unit) := do
  assertAdminOrGuardian env s
  match s.codeUpgrade with
  | none => return { state := s, value := () }
  | some pending =>
    return {
      state := { s with codeUpgrade := none }
      value := ()
      events := [emitGovernanceEvent env "code_upgrade_cancelled"
        [("actor_id", .str env.predecessorAccountId),
         ("code_sha256", .str pending.codeSha256)]] }

/-- Permissionless: schedules the batch that deploys the call's input and runs `migrate` in it. -/
def executeCodeUpgrade (env : Env) (s : Contract) : Result (Outcome Unit) := do
  let pending ← expect s.codeUpgrade "Code upgrade is not pending"
  require (env.blockTimestampMs ≥ pending.executableAtMs) "Code upgrade timelock has not elapsed"
  let code ← expect env.input "Code upgrade requires WASM input"
  require (hexSha256 env.toHost code = pending.codeSha256)
    "Code does not match the proposed SHA-256"
  return { state := s, value := (), promises := [.deployContract code pending] }

/-- Runs in the deployed code; a same-layout upgrade only clears the pending record. -/
def migrate (env : Env) (s : Contract) : Result (Outcome Unit) := do
  assertPrivate env "migrate"
  require (s.stateVersion = marketStateVersion) "Unsupported Market state version"
  let pending ← expect s.codeUpgrade "Code upgrade is not pending"
  return {
    state := { s with codeUpgrade := none }
    value := ()
    events := [emitMarketEvent env "code_upgraded" ("governance:code_upgraded:" ++ pending.codeSha256)
      [("code_sha256", .str pending.codeSha256),
       ("state_version", .num s.stateVersion)]] }

end Youtick.MarketV2
