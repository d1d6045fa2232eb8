import Youtick.Lib.LookupMap
import Youtick.Lib.Panic
import Youtick.Lib.Text
import Youtick.Lib.Trace

/-!
# Access control: the contract

The session grants of `contracts/access-control`, its emergency pause and its timelocked governance,
under the source's names. The guardian lives under a raw storage key next to the contract's record;
here it is one more field. Fixed-width integers are natural numbers, with the width at the operation.

`Host` holds what does not change from call to call and is not in the repository: the account the
contract is deployed on, the key parser and Ed25519 verification. A call that panics leaves the
contract as it was.
-/

set_option autoImplicit false

namespace Youtick.AccessControl

open Youtick.Lib

abbrev AccountId : Type := String

/-! ## Constants -/

def maxGrantsPerOwner : Nat := 16
def maxGrantPageSize : Nat := 16
def maxResourceIdBytes : Nat := 128
def maxBindingBytes : Nat := 128
def maxSessionPublicKeyBytes : Nat := 64

/-- 24 hours; zero on `.testnet`. -/
def timelockDelay : Nat := 86400000000000

/-! ## Records -/

inductive SessionScope where
  | play
  deriving DecidableEq

def SessionScope.asKey : SessionScope → String
  | play => "play"

structure ScopePolicy where
  maxTtlMs : Nat
  requireOrigin : Bool
  requireDevice : Bool
  deriving DecidableEq

structure SessionGrant where
  ownerId : AccountId
  sessionPk : String
  scope : SessionScope
  resourceId : Option String
  expiresAtMs : Nat
  originHash : Option String
  deviceHash : Option String
  revoked : Bool
  deriving DecidableEq

structure SessionGrantRequest where
  targetOwnerId : AccountId
  sessionPk : String
  scope : SessionScope
  resourceId : Option String
  ttlMs : Nat
  originHash : Option String
  deviceHash : Option String
  sessionPok : String
  deriving DecidableEq

structure SessionGrantVerification where
  valid : Bool
  ownerId : Option AccountId
  reason : Option String
  deriving DecidableEq

inductive TimelockAction where
  | setScopePolicy (scope : SessionScope) (policy : ScopePolicy)
  | setMarketContract (marketContractId : AccountId)
  | pauseScope (scope : SessionScope)
  | unpauseScope (scope : SessionScope)
  | pauseContract
  | unpauseContract
  | proposeOwner (proposedOwnerId : AccountId)
  | setGrantIssuance (enabled : Bool)
  | setGuardian (guardianId : AccountId)
  deriving DecidableEq

structure TimelockProposal where
  action : TimelockAction
  proposer : AccountId
  proposedAt : Nat

structure AccessControlContract where
  ownerId : AccountId
  pendingOwnerId : Option AccountId
  marketContractId : AccountId
  grants : LookupMap String SessionGrant
  grantsByOwner : LookupMap AccountId (List String)
  scopePolicies : LookupMap String ScopePolicy
  pausedScopes : Finset String
  paused : Option Bool
  timelocks : LookupMap Nat TimelockProposal
  timelockCounter : Option Nat
  grantIssuanceEnabled : Bool
  guardian : Option AccountId

structure Host where
  currentAccountId : AccountId
  parsePublicKey : String → Option Bytes
  ed25519Verify : (signature message publicKey : Bytes) → Bool

structure Context where
  predecessorAccountId : AccountId
  blockTimestamp : Nat
  attachedDeposit : Nat

structure Env extends Host, Context

def currentTimeMs (env : Env) : Nat := env.blockTimestamp / 1000000

/-! ## Initialisation -/

def writeGuardian (s : AccessControlContract) (ownerId guardianId : AccountId) :
    Result AccessControlContract := do
  require (guardianId ≠ ownerId) "Guardian and owner accounts must differ"
  return { s with guardian := some guardianId }

def setScopePolicyInternal (s : AccessControlContract) (scope : SessionScope)
    (policy : ScopePolicy) : AccessControlContract :=
  { s with scopePolicies := s.scopePolicies.insert scope.asKey policy }

/-- `new`. The raw guardian key is empty in a fresh account. -/
def new (ownerId marketContractId : AccountId) (guardianId : Option AccountId) :
    Result AccessControlContract := do
  let contract : AccessControlContract := {
    ownerId := ownerId
    pendingOwnerId := none
    marketContractId := marketContractId
    grants := .empty
    grantsByOwner := .empty
    scopePolicies := .empty
    pausedScopes := ∅
    paused := some false
    timelocks := .empty
    timelockCounter := some 0
    grantIssuanceEnabled := true
    guardian := none }
  let contract ← match guardianId with
    | some guardianId => writeGuardian contract ownerId guardianId
    | none => .ok contract
  return setScopePolicyInternal contract .play
    { maxTtlMs := 10 * 60 * 1000, requireOrigin := true, requireDevice := true }

def isPaused (s : AccessControlContract) : Bool := s.paused.getD false

/-! ## The session key's proof -/

def hexField (value : String) : String := hex (utf8 value)

def hexOptional (value : Option String) : String := (value.map hexField).getD "-"

def sessionPokMessage (env : Env) (request : SessionGrantRequest) : String :=
  joinLines [
    "youtick-session-grant-v1",
    "contract=" ++ hexField env.currentAccountId,
    "caller=" ++ hexField env.predecessorAccountId,
    "target_owner=" ++ hexField request.targetOwnerId,
    "session_pk=" ++ hexField request.sessionPk,
    "scope=" ++ request.scope.asKey,
    "resource_id=" ++ hexOptional request.resourceId,
    "ttl_ms=" ++ decimal request.ttlMs,
    "origin_hash=" ++ hexOptional request.originHash,
    "device_hash=" ++ hexOptional request.deviceHash]

/-- A 33-byte key with the curve byte of Ed25519. -/
def parseEd25519PublicKey (host : Host) (sessionPk : String) : Option Bytes :=
  (host.parsePublicKey sessionPk).bind fun bytes =>
    match bytes with
    | 0 :: key => if key.length = 32 then some key else none
    | _ => none

def hexValue (c : Char) : Option Nat :=
  if '0' ≤ c ∧ c ≤ '9' then some (c.toNat - 48)
  else if 'a' ≤ c ∧ c ≤ 'f' then some (c.toNat - 87)
  else if 'A' ≤ c ∧ c ≤ 'F' then some (c.toNat - 55)
  else none

/-- Pairs of digits as `u8::from_str_radix` reads them: a sign may stand for the first one. -/
def hexBytes : List Char → Option Bytes
  | [] => some []
  | [_] => none
  | a :: b :: rest => do
      let high ← if a = '+' then some 0 else hexValue a
      let low ← hexValue b
      return UInt8.ofNat (16 * high + low) :: (← hexBytes rest)

/-- Outside ASCII the source panics on a character boundary or finds no digits; the call panics
either way. -/
def parseHexSignature (value : String) : Option Bytes :=
  if (utf8 value).length ≠ 128 then none else hexBytes value.toList

def assertSessionKeyProof (env : Env) (request : SessionGrantRequest) : Result PUnit := do
  let publicKey ← expect (parseEd25519PublicKey env.toHost request.sessionPk)
    "Invalid session public key"
  let signature ← expect (parseHexSignature request.sessionPok) "Invalid session proof"
  require (env.ed25519Verify signature (utf8 (sessionPokMessage env request)) publicKey = true)
    "Invalid session proof"

/-! ## Grants -/

def assertBoundedBinding (value : Option String) (message : String) : Result PUnit :=
  checkSome value fun value => do
    require (value ≠ "") message
    require ((utf8 value).length ≤ maxBindingBytes) message

/-- Revoked or expired, or not stored at all. -/
def cleanupEligible (grants : LookupMap String SessionGrant) (nowMs : Nat) (sessionPk : String) :
    Bool :=
  (grants.get sessionPk).all fun grant => grant.revoked || decide (nowMs > grant.expiresAtMs)

/-- The loop of `cleanup_owner_grants`: what is left stored, what is kept, how many were removed. -/
def sweep (nowMs limit : Nat) : List String → LookupMap String SessionGrant → Nat →
    LookupMap String SessionGrant × List String × Nat
  | [], grants, removed => (grants, [], removed)
  | sessionPk :: rest, grants, removed =>
    if cleanupEligible grants nowMs sessionPk = true ∧ removed < limit then
      sweep nowMs limit rest (grants.remove sessionPk) (removed + 1)
    else
      let (grants, kept, removed) := sweep nowMs limit rest grants removed
      (grants, sessionPk :: kept, removed)

def cleanupOwnerGrants (env : Env) (s : AccessControlContract) (ownerId : AccountId)
    (limit : Nat) : AccessControlContract × Nat :=
  let sessionKeys := (s.grantsByOwner.get ownerId).getD []
  let (grants, kept, removed) := sweep (currentTimeMs env) limit sessionKeys s.grants 0
  ({ s with
      grants := grants
      grantsByOwner :=
        if kept = [] then s.grantsByOwner.remove ownerId
        else s.grantsByOwner.insert ownerId kept }, removed)

/-- What `issue_session_grant` requires of the request. -/
def assertGrantRequest (env : Env) (s : AccessControlContract) (request : SessionGrantRequest) :
    Result PUnit := do
  require (isPaused s = false) "Contract is paused"
  require (s.grantIssuanceEnabled = true) "Grant issuance is disabled"
  require (env.predecessorAccountId = request.targetOwnerId ∨
      env.predecessorAccountId = s.ownerId ∨ env.predecessorAccountId = s.marketContractId)
    "Unauthorized: caller cannot issue session grants"
  require (request.scope.asKey ∉ s.pausedScopes) "Scope is paused"
  let policy ← expect (s.scopePolicies.get request.scope.asKey) "Scope policy not found"
  require (request.ttlMs > 0) "TTL must be greater than zero"
  require (request.ttlMs ≤ policy.maxTtlMs) "TTL exceeds scope policy"
  require (request.sessionPk ≠ "" ∧ (utf8 request.sessionPk).length ≤ maxSessionPublicKeyBytes)
    "Session public key is too long"
  let resource ← expect request.resourceId "Play resource is required"
  require (resource ≠ "") "Play resource is required"
  require ((utf8 resource).length ≤ maxResourceIdBytes) "Resource ID is too long"
  checkWhen (policy.requireOrigin = true)
    (require (request.originHash.isSome = true) "Origin binding is required")
  checkWhen (policy.requireDevice = true)
    (require (request.deviceHash.isSome = true) "Device binding is required")
  assertBoundedBinding request.originHash "Origin binding is too long"
  assertBoundedBinding request.deviceHash "Device binding is too long"
  assertSessionKeyProof env request
  checkSome (s.grants.get request.sessionPk) fun existing =>
    require (existing.ownerId = request.targetOwnerId)
      "Session key already belongs to another owner"

/-- A key that is not listed yet is appended to its owner's keys. -/
def listSessionKey (s : AccessControlContract) (ownerId : AccountId) (sessionPk : String) :
    Result AccessControlContract := do
  let ownerGrants := (s.grantsByOwner.get ownerId).getD []
  if sessionPk ∈ ownerGrants then .ok s
  else
    require (ownerGrants.length < maxGrantsPerOwner) "Active grant limit reached"
    return { s with grantsByOwner := s.grantsByOwner.insert ownerId (ownerGrants ++ [sessionPk]) }

def issueSessionGrant (env : Env) (s : AccessControlContract) (request : SessionGrantRequest) :
    Result (AccessControlContract × SessionGrant) := do
  assertGrantRequest env s request
  let s := (cleanupOwnerGrants env s request.targetOwnerId maxGrantsPerOwner).1
  let s ← listSessionKey s request.targetOwnerId request.sessionPk
  let grant : SessionGrant := {
    ownerId := request.targetOwnerId
    sessionPk := request.sessionPk
    scope := request.scope
    resourceId := request.resourceId
    expiresAtMs := saturatingAdd 64 (currentTimeMs env) request.ttlMs
    originHash := request.originHash
    deviceHash := request.deviceHash
    revoked := false }
  return ({ s with grants := s.grants.insert request.sessionPk grant }, grant)

def revokeSessionGrant (env : Env) (s : AccessControlContract) (sessionPk : String) :
    Result AccessControlContract := do
  let grant ← expect (s.grants.get sessionPk) "Session grant not found"
  require (env.predecessorAccountId = grant.ownerId ∨ env.predecessorAccountId = s.ownerId)
    "Only the grant owner or contract owner can revoke"
  return { s with grants := s.grants.insert sessionPk { grant with revoked := true } }

/-- Revoke the grant under a key, if there is one. -/
def revokeKey (grants : LookupMap String SessionGrant) (sessionPk : String) :
    LookupMap String SessionGrant :=
  match grants.get sessionPk with
  | some grant => grants.insert sessionPk { grant with revoked := true }
  | none => grants

def revokeSubjectSessions (env : Env) (s : AccessControlContract) (ownerId : AccountId) :
    Result AccessControlContract := do
  require (env.predecessorAccountId = ownerId ∨ env.predecessorAccountId = s.ownerId)
    "Only the subject or contract owner can revoke all sessions"
  let sessionKeys := (s.grantsByOwner.get ownerId).getD []
  return { s with grants := sessionKeys.foldl revokeKey s.grants }

def cleanupSessionGrants (env : Env) (s : AccessControlContract) (ownerId : AccountId)
    (limit : Option Nat) : Result (AccessControlContract × Nat) := do
  let limit := limit.getD maxGrantPageSize
  require (limit > 0) "Cleanup limit must be positive"
  require (limit ≤ maxGrantPageSize) "Cleanup limit is too large"
  return cleanupOwnerGrants env s ownerId limit

/-! ## Views -/

def verifySessionGrant (env : Env) (s : AccessControlContract) (sessionPk : String)
    (scope : SessionScope) (resourceId originHash deviceHash : Option String) :
    SessionGrantVerification :=
  let refused (ownerId : Option AccountId) (reason : String) : SessionGrantVerification :=
    { valid := false, ownerId := ownerId, reason := some reason }
  if isPaused s = true then refused none "Contract is paused"
  else if scope.asKey ∈ s.pausedScopes then refused none "Scope is paused"
  else
    match s.grants.get sessionPk with
    | none => refused none "Session grant not found"
    | some grant =>
      if grant.revoked = true then refused grant.ownerId "Session grant is revoked"
      else if currentTimeMs env > grant.expiresAtMs then
        refused grant.ownerId "Session grant has expired"
      else if grant.scope ≠ scope then refused grant.ownerId "Session scope mismatch"
      else if grant.resourceId.isSome ∧ grant.resourceId ≠ resourceId then
        refused grant.ownerId "Resource binding mismatch"
      else if grant.originHash.isSome ∧ grant.originHash ≠ originHash then
        refused grant.ownerId "Origin binding mismatch"
      else if grant.deviceHash.isSome ∧ grant.deviceHash ≠ deviceHash then
        refused grant.ownerId "Device binding mismatch"
      else { valid := true, ownerId := some grant.ownerId, reason := none }

def canExecute (env : Env) (s : AccessControlContract) (ownerId : AccountId)
    (scope : SessionScope) (resourceId : Option String) : Bool :=
  if isPaused s = true ∨ scope.asKey ∈ s.pausedScopes then false
  else
    (((s.grantsByOwner.get ownerId).getD []).filterMap s.grants.get).any fun grant =>
      !grant.revoked && decide (currentTimeMs env ≤ grant.expiresAtMs) &&
        decide (grant.scope = scope) && decide (grant.resourceId = resourceId)

/-! ## Governance -/

def assertOwner (env : Env) (s : AccessControlContract) : Result PUnit :=
  require (env.predecessorAccountId = s.ownerId) "Only the contract owner can call this method"

def assertOwnerOrGuardian (env : Env) (s : AccessControlContract) : Result PUnit :=
  require (env.predecessorAccountId = s.ownerId ∨ s.guardian = some env.predecessorAccountId)
    "Only the owner or guardian can call this method"

def panicTimelockRequired {α : Type} : Result α :=
  .error "Use propose_action and execute_action for this admin action"

/-- Immediate and privilege-reducing; unpausing stays timelocked. -/
def pauseScope (env : Env) (s : AccessControlContract) (scope : SessionScope) :
    Result AccessControlContract := do
  assertOwnerOrGuardian env s
  return { s with pausedScopes := insert scope.asKey s.pausedScopes }

/-- Immediate and privilege-reducing; unpausing stays timelocked. -/
def pauseContract (env : Env) (s : AccessControlContract) : Result AccessControlContract := do
  assertOwnerOrGuardian env s
  return if isPaused s = true then s else { s with paused := some true }

def acceptOwnership (env : Env) (s : AccessControlContract) : Result AccessControlContract := do
  let newOwner ← expect s.pendingOwnerId "No pending ownership transfer"
  require (env.predecessorAccountId = newOwner)
    "Only the proposed owner can accept ownership"
  return { s with pendingOwnerId := none, ownerId := newOwner }

def timelockDelayNs (host : Host) : Nat :=
  if endsWith host.currentAccountId ".testnet" then 0 else timelockDelay

def proposeAction (env : Env) (s : AccessControlContract) (action : TimelockAction) :
    Result (AccessControlContract × Nat) := do
  assertOwner env s
  let id := s.timelockCounter.getD 0
  let next ← checkedAdd 64 id 1 "attempt to add with overflow"
  let proposal : TimelockProposal :=
    { action := action, proposer := env.predecessorAccountId, proposedAt := env.blockTimestamp }
  return ({ s with timelockCounter := some next, timelocks := s.timelocks.insert id proposal }, id)

/-- The `match` of `execute_action`. -/
def applyAction (s : AccessControlContract) : TimelockAction → Result AccessControlContract
  | .setScopePolicy scope policy => .ok (setScopePolicyInternal s scope policy)
  | .setMarketContract marketContractId => .ok { s with marketContractId := marketContractId }
  | .pauseScope scope => .ok { s with pausedScopes := insert scope.asKey s.pausedScopes }
  | .unpauseScope scope => .ok { s with pausedScopes := s.pausedScopes.erase scope.asKey }
  | .pauseContract => .ok { s with paused := some true }
  | .unpauseContract => .ok { s with paused := some false }
  | .proposeOwner proposedOwnerId => .ok { s with pendingOwnerId := some proposedOwnerId }
  | .setGrantIssuance enabled => .ok { s with grantIssuanceEnabled := enabled }
  | .setGuardian guardianId => writeGuardian s s.ownerId guardianId

def executeAction (env : Env) (s : AccessControlContract) (id : Nat) :
    Result AccessControlContract := do
  assertOwner env s
  let proposal ← expect (s.timelocks.get id) "Proposal not found"
  require (env.blockTimestamp - proposal.proposedAt ≥ timelockDelayNs env.toHost)
    "Timelock delay not yet passed"
  applyAction { s with timelocks := s.timelocks.remove id } proposal.action

def cancelAction (env : Env) (s : AccessControlContract) (id : Nat) :
    Result AccessControlContract := do
  let proposal ← expect (s.timelocks.get id) "Proposal not found"
  require (env.predecessorAccountId = s.ownerId ∨ env.predecessorAccountId = proposal.proposer)
    "Only owner or proposer can cancel"
  return { s with timelocks := s.timelocks.remove id }

/-! ## Calls and runs -/

/-- The methods that are not views. The direct admin methods always panic: an admin action goes
through `propose_action` and `execute_action`. -/
inductive Call where
  | issueSessionGrant (request : SessionGrantRequest)
  | revokeSessionGrant (sessionPk : String)
  | revokeSubjectSessions (ownerId : AccountId)
  | cleanupSessionGrants (ownerId : AccountId) (limit : Option Nat)
  | pauseScope (scope : SessionScope)
  | pauseContract
  | setScopePolicy (scope : SessionScope) (policy : ScopePolicy)
  | setMarketContract (marketContractId : AccountId)
  | unpauseScope (scope : SessionScope)
  | unpauseContract
  | proposeOwner (proposedOwnerId : AccountId)
  | setGrantIssuance (enabled : Bool)
  | acceptOwnership
  | proposeAction (action : TimelockAction)
  | executeAction (id : Nat)
  | cancelAction (id : Nat)
  deriving DecidableEq

/-- The method body, with the return value forgotten. -/
def callBody (env : Env) (s : AccessControlContract) : Call → Result AccessControlContract
  | .issueSessionGrant request => return (← issueSessionGrant env s request).1
  | .revokeSessionGrant sessionPk => revokeSessionGrant env s sessionPk
  | .revokeSubjectSessions ownerId => revokeSubjectSessions env s ownerId
  | .cleanupSessionGrants ownerId limit => return (← cleanupSessionGrants env s ownerId limit).1
  | .pauseScope scope => pauseScope env s scope
  | .pauseContract => pauseContract env s
  | .setScopePolicy .. | .setMarketContract _ | .unpauseScope _ | .unpauseContract
  | .proposeOwner _ | .setGrantIssuance _ => panicTimelockRequired
  | .acceptOwnership => acceptOwnership env s
  | .proposeAction action => return (← proposeAction env s action).1
  | .executeAction id => executeAction env s id
  | .cancelAction id => cancelAction env s id

/-- A method call; no method takes a deposit. -/
def Call.run (env : Env) (s : AccessControlContract) (call : Call) :
    Result AccessControlContract := do
  require (env.attachedDeposit = 0) "Method doesn't accept deposit"
  callBody env s call

structure World where
  contract : AccessControlContract
  now : Nat

/-- A call at a time that has come; a panic reverts it. -/
def World.exec (host : Host) (w : World) (label : Context × Call) : Option World :=
  if w.now ≤ label.1.blockTimestamp then
    match label.2.run ⟨host, label.1⟩ w.contract with
    | .ok contract => some ⟨contract, label.1.blockTimestamp⟩
    | .error _ => some ⟨w.contract, label.1.blockTimestamp⟩
  else none

abbrev worldStep (host : Host) : World → Context × Call → World → Prop := ExecStep (World.exec host)

/-- A world right after `new`. -/
inductive Initial : World → Prop where
  | new {ownerId marketContractId : AccountId} {guardianId : Option AccountId}
      {c : AccessControlContract} (h : new ownerId marketContractId guardianId = .ok c) (now : Nat) :
      Initial ⟨c, now⟩

/-- A step is a panic or a successful call, and time does not go back. -/
theorem worldStep_cases {host : Host} {w w' : World} {label : Context × Call}
    (h : worldStep host w label w') : w.now ≤ w'.now ∧ w'.now = label.1.blockTimestamp ∧
      (w'.contract = w.contract ∨ label.2.run ⟨host, label.1⟩ w.contract = .ok w'.contract) := by
  simp only [worldStep, ExecStep, World.exec] at h
  split at h
  · next hnow =>
      split at h
      · next hrun =>
          obtain rfl := Option.some.inj h
          exact ⟨hnow, rfl, Or.inr hrun⟩
      · obtain rfl := Option.some.inj h
        exact ⟨hnow, rfl, Or.inl rfl⟩
  · cases h

/-- A successful call at a time that has come is a step. -/
theorem worldStep_of_run {host : Host} {w : World} {label : Context × Call}
    {s : AccessControlContract} (hnow : w.now ≤ label.1.blockTimestamp)
    (hrun : label.2.run ⟨host, label.1⟩ w.contract = .ok s) :
    worldStep host w label ⟨s, label.1.blockTimestamp⟩ := by
  rw [worldStep, ExecStep, World.exec, if_pos hnow, hrun]

/-- A step whose call goes through leaves what the call returns. -/
theorem contract_of_run {host : Host} {w w' : World} {label : Context × Call}
    {s : AccessControlContract} (h : worldStep host w label w')
    (hrun : label.2.run ⟨host, label.1⟩ w.contract = .ok s) : w'.contract = s := by
  simp only [worldStep, ExecStep, World.exec, hrun] at h
  split at h
  · obtain rfl := Option.some.inj h
    rfl
  · cases h

/-! ## A deployment -/

namespace Vectors

def contractId : AccountId := "access.youtick.near"
def ownerId : AccountId := "owner.youtick.near"
def guardianId : AccountId := "guardian.youtick.near"
def marketContractId : AccountId := "market-v2.youtick.near"
def viewerId : AccountId := "viewer.near"
def start : Nat := 1791360000000000000

def sessionPk : String := "ed25519:6Zjarxc4B6wAojHcn17jhd6cugGY8ZxZ32tqLJAaxEE5"
def sessionKeyBytes : Bytes :=
  [82, 173, 43, 146, 7, 127, 206, 162, 60, 168, 210, 115, 226, 73, 245, 112, 198, 35, 43, 11, 138,
   64, 210, 196, 17, 78, 25, 218, 137, 83, 33, 210]

/-- The viewer's request for ten minutes, signed with the session key. -/
def request : SessionGrantRequest where
  targetOwnerId := viewerId
  sessionPk := sessionPk
  scope := .play
  resourceId := some "job-001"
  ttlMs := 600000
  originHash := some "origin"
  deviceHash := some "device"
  sessionPok :=
    "36fd4752da977f4c78660a0cf13f6f72c35ed9eb76dd59e17db314f415ad6e50" ++
    "5cdda7d745b2754db60987d358ceda43b110c4bd623901c0b1466684c3783c07"

/-- The text the session key signed. -/
def pokMessage : String := joinLines [
  "youtick-session-grant-v1",
  "contract=6163636573732e796f757469636b2e6e656172",
  "caller=7669657765722e6e656172",
  "target_owner=7669657765722e6e656172",
  "session_pk=656432353531393a365a6a6172786334423677416f6a48636e31376a" ++
    "6864366375674759385a785a333274714c4a416178454535",
  "scope=play",
  "resource_id=6a6f622d303031",
  "ttl_ms=600000",
  "origin_hash=6f726967696e",
  "device_hash=646576696365"]

/-- A mainnet deployment that knows the session key and its signature. -/
def host : Host where
  currentAccountId := contractId
  parsePublicKey text := if text = sessionPk then some (0 :: sessionKeyBytes) else none
  ed25519Verify signature message publicKey :=
    decide (parseHexSignature request.sessionPok = some signature ∧ message = utf8 pokMessage ∧
      publicKey = sessionKeyBytes)

def context (predecessor : AccountId) (timestamp : Nat) : Context where
  predecessorAccountId := predecessor
  blockTimestamp := timestamp
  attachedDeposit := 0

/-- Run the calls from a fresh contract with a guardian. -/
def run (calls : List (Context × Call)) :
    Option (List (Transition World (Context × Call)) × World) :=
  match new ownerId marketContractId (some guardianId) with
  | .ok c => execTrace (World.exec host) ⟨c, start⟩ calls
  | .error _ => none

theorem trace_of_run {calls : List (Context × Call)} {α : Type}
    {f : List (Transition World (Context × Call)) × World → α} {a : α}
    (h : (run calls).map f = some a) :
    ∃ w₀ tr w, Initial w₀ ∧ Trace (worldStep host) w₀ tr w ∧ f (tr, w) = a := by
  obtain ⟨⟨tr, w⟩, hrun, hf⟩ := Option.map_eq_some_iff.mp h
  simp only [run] at hrun
  split at hrun
  · next c hc => exact ⟨⟨c, start⟩, tr, w, .new hc start, trace_of_execTrace _ hrun, hf⟩
  · exact absurd hrun (by simp)

end Vectors

end Youtick.AccessControl
