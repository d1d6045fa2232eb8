import Youtick.Lib.Outbox
import Youtick.Lib.Trace
import Youtick.NftTicket.Governance
import Youtick.NftTicket.Payments
import Youtick.NftTicket.Publications

/-!
# The V1 market among its receipts

`Call` lists the contract's methods with their arguments, and `Call.run` executes one. A `World` is
the contract's storage, the receipts it has scheduled and that have not come back, and the latest
block time. Its steps are a call by anyone, the landing of a scheduled transfer with either result,
the callback of a landed transfer, and the batch of a code upgrade. They interleave in any order, at
times that do not decrease; a call or callback that panics leaves the storage as it was.
-/

set_option autoImplicit false

namespace Youtick.NftTicket

open Youtick.Lib
open Youtick.MarketV2 (AccountId Host PaidJobRequest CreatorFeeQuote PlaybackSessionAuthorization
  PromiseResult TransferMessage legacyUploadProfileHash)

/-! ## Calls -/

inductive Call where
  | freezeBridge
  | requestBridgeUnfreeze
  | cancelBridgeUnfreeze
  | unfreezeBridge
  | pauseNewPurchases
  | requestNewPurchasesUnpause
  | cancelNewPurchasesUnpause
  | unpauseNewPurchases
  | startPublicTestnetBeta
  | closePublicTestnetBeta
  | proposeBridge (nextBridgeAccountId : AccountId)
  | cancelBridgeRotation
  | executeBridgeRotation
  | proposeRoleRotation (role : GovernanceRole) (nextAccountId : AccountId)
  | cancelRoleRotation (role : GovernanceRole)
  | executeRoleRotation (role : GovernanceRole)
  | proposeCodeUpgrade (codeSha256 : String)
  | cancelCodeUpgrade
  | executeCodeUpgrade
  | migrate
  | setPublicUploadFullHd (enabled : Bool)
  | createPaidJob (request : PaidJobRequest)
  | createPaidJobNear (request : PaidJobRequest) (quote : CreatorFeeQuote) (quoteSignature : Bytes)
  | replaceUploadKey (jobId newPublicKey : String) (expiresAtMs : Nat)
  | rotateQuotePublicKey (version : Nat) (publicKey : Bytes)
  | restartPaidJob (jobId : String) (expectedSourceBytes : Nat)
      (profileId profileConfigSha256 : String)
  | activatePlaybackDevice (publicationId : String) (playbackSession : PlaybackSessionAuthorization)
  | finalizeLivepeerPublication (submission : LivepeerPublicationSubmission)
  | suspendLivepeerSales (publicationId : String)
  | takedownLivepeerPublication (publicationId reasonCode incidentId evidenceSha256 : String)
      (effectiveAtMs : Nat)
  | ftOnTransfer (senderId : AccountId) (amount : Nat) (msg : String)
  | withdrawCreatorBalance
  | withdrawPlatformBalance
  | withdrawPlatformNear (amount : Nat)
  | callback (callback : Callback)

/-- The methods marked `#[payable]`; every other method refuses an attached deposit. -/
def Call.payable : Call → Bool
  | .createPaidJobNear .. | .activatePlaybackDevice .. => true
  | _ => false

/-- A callback method with its arguments. -/
def runCallback (env : Env) (s : Contract) : Callback → Result (Outcome Bool)
  | .onCreatorWithdraw creatorId amount withdrawalId =>
    onCreatorWithdraw env s creatorId amount withdrawalId
  | .onPlatformWithdraw amount => onPlatformWithdraw env s amount
  | .onPlatformNearWithdraw amount => onPlatformNearWithdraw env s amount

/-- The method body, with the return value forgotten. -/
def callBody (env : Env) (s : Contract) : Call → Result (Outcome Unit)
  | .freezeBridge => freezeBridge env s
  | .requestBridgeUnfreeze => return (← requestBridgeUnfreeze env s).void
  | .cancelBridgeUnfreeze => cancelBridgeUnfreeze env s
  | .unfreezeBridge => unfreezeBridge env s
  | .pauseNewPurchases => pauseNewPurchases env s
  | .requestNewPurchasesUnpause => return (← requestNewPurchasesUnpause env s).void
  | .cancelNewPurchasesUnpause => cancelNewPurchasesUnpause env s
  | .unpauseNewPurchases => unpauseNewPurchases env s
  | .startPublicTestnetBeta => return (← startPublicTestnetBeta env s).void
  | .closePublicTestnetBeta => return (← closePublicTestnetBeta env s).void
  | .proposeBridge next => proposeBridge env s next
  | .cancelBridgeRotation => cancelBridgeRotation env s
  | .executeBridgeRotation => executeBridgeRotation env s
  | .proposeRoleRotation role next => return (← proposeRoleRotation env s role next).void
  | .cancelRoleRotation role => cancelRoleRotation env s role
  | .executeRoleRotation role => executeRoleRotation env s role
  | .proposeCodeUpgrade codeSha256 => return (← proposeCodeUpgrade env s codeSha256).void
  | .cancelCodeUpgrade => cancelCodeUpgrade env s
  | .executeCodeUpgrade => executeCodeUpgrade env s
  | .migrate => migrate env s
  | .setPublicUploadFullHd enabled => return (← setPublicUploadFullHd env s enabled).void
  | .createPaidJob request => return (← createPaidJob env s request).void
  | .createPaidJobNear request quote signature =>
    return (← createPaidJobNear env s request quote signature).void
  | .replaceUploadKey jobId newPublicKey expiresAtMs =>
    return (← replaceUploadKey env s jobId newPublicKey expiresAtMs).void
  | .rotateQuotePublicKey version publicKey => rotateQuotePublicKey env s version publicKey
  | .restartPaidJob jobId expectedSourceBytes profileId profileConfigSha256 =>
    return (← restartPaidJob env s jobId expectedSourceBytes profileId profileConfigSha256).void
  | .activatePlaybackDevice publicationId session =>
    activatePlaybackDevice env s publicationId session
  | .finalizeLivepeerPublication submission =>
    return (← finalizeLivepeerPublication env s submission).void
  | .suspendLivepeerSales publicationId => return (← suspendLivepeerSales env s publicationId).void
  | .takedownLivepeerPublication publicationId reasonCode incidentId evidenceSha256 effectiveAtMs =>
    return (← takedownLivepeerPublication env s publicationId reasonCode incidentId evidenceSha256
      effectiveAtMs).void
  | .ftOnTransfer senderId amount msg => return (← ftOnTransfer env s senderId amount msg).void
  | .withdrawCreatorBalance => withdrawCreatorBalance env s
  | .withdrawPlatformBalance => withdrawPlatformBalance env s
  | .withdrawPlatformNear amount => withdrawPlatformNear env s amount
  | .callback callback => return (← runCallback env s callback).void

/-- A method call: the deposit guard, then the body. -/
def Call.run (env : Env) (s : Contract) (call : Call) : Result (Outcome Unit) := do
  require (call.payable = true ∨ env.attachedDeposit = 0) "Method doesn't accept deposit"
  callBody env s call

/-! ## Calls at any time -/

/-- One call on the storage alone, by anyone and at any time; a panic reverts it. -/
def Contract.exec (host : Host) (s : Contract) (l : Context × Call) : Option Contract :=
  match l.2.run ⟨host, l.1⟩ s with
  | .ok o => some o.state
  | .error _ => some s

abbrev callStep (host : Host) : Contract → Context × Call → Contract → Prop :=
  ExecStep (Contract.exec host)

/-! ## Worlds -/

/-- The callback that follows a receipt's transfer. -/
def Promise.callback : Promise → Option Callback
  | .ftTransfer _ _ _ callback => some callback
  | .transfer _ _ callback => callback
  | .deployContract _ => none

/-- A receipt that moves tokens and lands with a result. -/
def Promise.isTransfer : Promise → Bool
  | .deployContract _ => false
  | _ => true

structure World where
  contract : Contract
  pending : Outbox Promise
  now : Nat

inductive Label where
  /-- A method called by any account; it may panic. -/
  | call (ctx : Context) (call : Call)
  /-- The transfer of the receipt at `i` succeeds or fails. -/
  | land (i : Nat) (ok : Bool)
  /-- The callback of the landed receipt at `i`. -/
  | callback (ctx : Context) (i : Nat)
  /-- The code upgrade batch at `i`: deploy, then `migrate`; it reverts when `migrate` fails. -/
  | batch (ctx : Context) (i : Nat)

/-- Promise results are only ever delivered to the contract's own callbacks by its own receipts. -/
def Context.IsExternal (ctx : Context) (host : Host) : Prop :=
  ctx.predecessorAccountId = host.currentAccountId → ctx.promiseResults = []

instance (ctx : Context) (host : Host) : Decidable (ctx.IsExternal host) :=
  inferInstanceAs (Decidable (_ → _))

/-- The context of a receipt the contract sent to itself. -/
def Context.own (ctx : Context) (host : Host) (promiseResults : List PromiseResult) : Context :=
  { ctx with
    predecessorAccountId := host.currentAccountId
    attachedDeposit := 0
    promiseResults := promiseResults }

def promiseResult (ok : Bool) : PromiseResult := if ok then .successful else .failed

/-- Execute a call on the storage, with `rest` the receipts still out; a panic reverts it. -/
def World.receive (w : World) (host : Host) (ctx : Context) (call : Call) (rest : Outbox Promise) :
    World :=
  match call.run ⟨host, ctx⟩ w.contract with
  | .ok o =>
    { contract := o.state, pending := rest.send o.promises, now := ctx.blockTimestampMs }
  | .error _ => { contract := w.contract, pending := rest, now := ctx.blockTimestampMs }

/-- One step of the world; `none` when the label is not enabled. -/
def World.exec (host : Host) (w : World) : Label → Option World
  | .call ctx call =>
    if ctx.IsExternal host ∧ w.now ≤ ctx.blockTimestampMs then
      some (w.receive host ctx call w.pending)
    else none
  | .land i ok =>
    match w.pending[i]? with
    | some ⟨promise, none⟩ =>
      if promise.isTransfer then
        if promise.callback.isSome then
          some { w with pending := w.pending.land i promise ok }
        else some { w with pending := w.pending.eraseIdx i }
      else none
    | _ => none
  | .callback ctx i =>
    match w.pending[i]? with
    | some ⟨promise, some ok⟩ =>
      match promise.callback with
      | some callback =>
        if w.now ≤ ctx.blockTimestampMs then
          some (w.receive host (ctx.own host [promiseResult ok]) (.callback callback)
            (w.pending.eraseIdx i))
        else none
      | none => none
    | _ => none
  | .batch ctx i =>
    match w.pending[i]? with
    | some ⟨.deployContract _, none⟩ =>
      if w.now ≤ ctx.blockTimestampMs then
        some (w.receive host (ctx.own host []) .migrate (w.pending.eraseIdx i))
      else none
    | _ => none

/-- The step relation of the worlds of one deployment. -/
abbrev worldStep (host : Host) : World → Label → World → Prop := ExecStep (World.exec host)

/-- A contract right after one of the two initialisers. -/
inductive Deployed (host : Host) : Contract → Prop where
  | new {config : MarketInitConfig} {c : Contract} (h : new config = .ok c) : Deployed host c
  | newPublicTestnet {env : Env} {config : MarketInitConfig} {c : Contract}
      (henv : env.toHost = host) (h : newPublicTestnet env config = .ok c) : Deployed host c

/-- A world right after the deployment. -/
structure Initial (host : Host) (w : World) : Prop where
  deployed : Deployed host w.contract
  pending : w.pending = []

/-! ## A deployment for runs on fixed inputs -/

namespace Vectors

def contractId : AccountId := "market.youtick.testnet"
def creatorId : AccountId := "creator.testnet"
def buyerId : AccountId := "viewer.testnet"
def issuedAtMs : Nat := 1791360000000
def digest : String := "5e84431a684cf60e628e8612bb111ad53288a237c0523a9193922e3d600f1f88"

def config : MarketInitConfig where
  platformAccountId := "platform.testnet"
  bridgeAccountId := "bridge.testnet"
  takedownAuthorityId := "takedown.testnet"
  adminAccountId := "admin.testnet"
  guardianAccountId := "guardian.testnet"
  quotePublicKey := List.replicate 32 7
  quoteKeyVersion := 1
  nearOperationalReserve := 10 ^ 24

/-- The message of an unsponsored job, as `ft_transfer_call` carries it. -/
def jobMessage : TransferMessage where
  action := some "create_paid_job"
  publicationId := none
  jobId := some "job-001"
  title := some "First film"
  priceUsdc := some 2000019
  expectedSourceBytes := some 734003200
  profileId := some profile
  profileConfigSha256 := some legacyUploadProfileHash
  uploadPublicKey := some "ed25519:9dbrbJu3qJtAJ5z3eyX1rQ4jDMzdhpVQMaP71VyfLUr1"
  uploadKeyExpiresAtMs := some (issuedAtMs + 1000000)
  sponsorQuote := none
  sponsorQuoteSignature := none
  playbackSession := none

/-- The message that buys the job's publication. -/
def ticketMessage : TransferMessage where
  action := none
  publicationId := some "job-001"
  jobId := none
  title := none
  priceUsdc := none
  expectedSourceBytes := none
  profileId := none
  profileConfigSha256 := none
  uploadPublicKey := none
  uploadKeyExpiresAtMs := none
  sponsorQuote := none
  sponsorQuoteSignature := none
  playbackSession := none

/-- The readers know these two messages; no signature verifies. -/
def host : Host where
  currentAccountId := contractId
  sha256 _ := []
  ed25519Verify _ _ _ := false
  bs58Encode _ := ""
  bs58Decode _ := none
  base64Encode _ := ""
  base64Decode _ := none
  publicKeyCurve _ := none
  actionProbeOfJson _ := none
  purchaseMessageOfJson _ := none
  transferMessageOfJson text :=
    if text = "job" then some jobMessage
    else if text = "ticket" then some ticketMessage
    else none
  paidJobRequestToJson _ := []
  compactUploadOfBorsh _ := none

def context (predecessor : AccountId) : Context where
  predecessorAccountId := predecessor
  signerAccountId := predecessor
  signerAccountPk := ""
  signerCurveType := .ed25519
  blockTimestampMs := issuedAtMs
  blockHeight := 1
  attachedDeposit := 0
  input := none
  accountBalance := 10 ^ 25
  storageByteCost := 10 ^ 19
  storageUsage := fun _ => 100000
  promiseResults := []

def submission : LivepeerPublicationSubmission where
  jobId := "job-001"
  generation := 1
  creatorId := creatorId
  expectedSourceBytes := 734003200
  profileId := profile
  profileConfigSha256 := legacyUploadProfileHash
  assetIdHash := digest
  playbackId := "playback-001"
  projectIdHash := digest
  verifiedSourceBytes := 734003200
  providerSourceFingerprint := none
  readyAtMs := issuedAtMs
  availability := .active

section Run

variable {σ ℓ : Type} {exec : σ → ℓ → Option σ} {start : Contract → σ}

/-- Run the labels from the state a fresh contract starts in. -/
def run (exec : σ → ℓ → Option σ) (start : Contract → σ) (labels : List ℓ) :
    Option (List (Transition σ ℓ) × σ) :=
  match new config with
  | .ok c => execTrace exec (start c) labels
  | .error _ => none

theorem trace_of_run {labels : List ℓ} {α : Type} {f : List (Transition σ ℓ) × σ → α} {a : α}
    (h : (run exec start labels).map f = some a) :
    ∃ c tr s, new config = .ok c ∧ Trace (ExecStep exec) (start c) tr s ∧ f (tr, s) = a := by
  obtain ⟨⟨tr, s⟩, hrun, hf⟩ := Option.map_eq_some_iff.mp h
  simp only [run] at hrun
  split at hrun
  · next c hc => exact ⟨c, tr, s, hc, trace_of_execTrace _ hrun, hf⟩
  · exact absurd hrun (by simp)

end Run

end Vectors

end Youtick.NftTicket
