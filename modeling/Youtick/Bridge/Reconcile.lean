import Youtick.Bridge.JobRequests
import Youtick.Lib.Since
import Youtick.Lib.Trace

/-!
# Bridge: the reconcile record of a published job

Once a job is on the chain, every alarm looks at it again and stores what it found under
`RECONCILE_KEY`: healthy, drifted with a code, unknown, or still verifying. The record decides
whether the job is playable, and a drift seen twice queues a suspension of its sales.

`Bridge/JobRequests` keeps the job and leaves this record out; here the record is kept, an alarm is
one step, and what the network answered is its input. The history lists what was observed and every
suspension that was queued, newest first; no request reads it.
-/

set_option autoImplicit false

namespace Youtick.Bridge.Reconcile

open Youtick.Lib

/-! ## Records -/

/-- `ReconcileStatus` -/
inductive Status where
  | healthy
  | driftBlocked
  | providerUnknown
  | nearUnknown
  deriving DecidableEq

/-- `lastDrift` -/
structure Drift where
  code : String
  firstObservedAtMs : Nat
  lastObservedAtMs : Nat
  observations : Nat

/-- `recovery` -/
structure RecoveryStreak where
  firstObservedAtMs : Nat
  observations : Nat

/-- `ReconcileRecord` -/
structure Record where
  status : Status
  consecutiveErrors : Nat
  nextReconcileAtMs : Nat
  uploadReadFailed : Option Bool
  uploadErrorCode : Option String
  lastGoodAtMs : Option Nat
  lastDrift : Option Drift
  recovery : Option RecoveryStreak
  salesSuspensionQueuedAtMs : Option Nat

inductive SuspensionState where
  | pending
  | confirmed

/-- The outbox record under `outbox:<job>:suspend-sales`. -/
structure Suspension where
  state : SuspensionState
  idempotencyKey : String
  method : String
  jobId : String
  generation : Nat
  payloadSha256 : String
  createdAtMs : Nat

/-- What one look at a published job finds. -/
inductive Observation where
  | healthy
  | drift (code : String)
  | providerUnknown
  | nearUnknown
  | verifying (checkpoint : VerificationCheckpoint) (retryAfterMs : Option Nat)
  deriving DecidableEq

inductive Entry where
  | observed (observation : Observation) (atMs : Nat)
  | suspensionQueued (code : String) (atMs : Nat)
  deriving DecidableEq

/-- The object of a published job. -/
structure PublishedJob where
  job : JobRecord
  nonces : LookupMap String Nat
  reconcile : Option Record
  suspension : Option Suspension
  history : List Entry

/-! ## Constants -/

def healthyIntervalMs : Nat := 15 * 60 * 1000

/-- `RECONCILE_CONFIRMATION_MS` -/
def confirmationMs : Nat := 60 * 1000

/-- `STRONG_PROVIDER_DRIFT_CODES` -/
def strongDriftCodes : List String :=
  [ "provider_asset_missing", "provider_identity_mismatch", "provider_playback_exposed",
    "provider_playback_mismatch", "provider_playback_missing", "provider_state_invalid",
    "provider_verification_budget_exceeded" ]

/-- `RECONCILE_BACKOFF_MS` after `consecutiveErrors` errors. -/
def backoffMs (consecutiveErrors : Nat) : Nat :=
  (reconcileBackoffMs[min (consecutiveErrors - 1) (reconcileBackoffMs.length - 1)]?).getD 0

/-! ## The record an observation leaves -/

section Records

variable (previous : Option Record)

/-- The status of a record; a job without one has never been found healthy. -/
def statusOf : Status := previous.elim .providerUnknown Record.status

def errorsOf : Nat := previous.elim 0 Record.consecutiveErrors

/-- `persistUnknownReconcile` -/
def unknownRecord (status : Status) (nowMs : Nat) : Record where
  status := status
  consecutiveErrors := errorsOf previous + 1
  nextReconcileAtMs := nowMs + backoffMs (errorsOf previous + 1)
  uploadReadFailed := none
  uploadErrorCode := none
  lastGoodAtMs := previous.bind Record.lastGoodAtMs
  lastDrift := previous.bind Record.lastDrift
  -- the streak of a recovery does not survive an unknown
  recovery := none
  salesSuspensionQueuedAtMs := previous.bind Record.salesSuspensionQueuedAtMs

/-- The pending branch of `verifyReadyProviderAsset`. -/
def verifyingRecord (nextAtMs : Nat) : Record where
  status := .providerUnknown
  consecutiveErrors := errorsOf previous
  nextReconcileAtMs := nextAtMs
  uploadReadFailed := some false
  uploadErrorCode := none
  lastGoodAtMs := previous.bind Record.lastGoodAtMs
  lastDrift := previous.bind Record.lastDrift
  recovery := previous.bind Record.recovery
  salesSuspensionQueuedAtMs := previous.bind Record.salesSuspensionQueuedAtMs

/-- The drift a record already holds under this code while it blocks the job. -/
def repeatedDrift (code : String) : Option Drift :=
  if statusOf previous = .driftBlocked then
    (previous.bind Record.lastDrift).filter fun drift => drift.code == code
  else none

/-- `lastDrift` of `persistDriftReconcile`. -/
def driftSeen (code : String) (nowMs : Nat) : Drift :=
  match repeatedDrift previous code with
  | some drift =>
    { drift with
      lastObservedAtMs := nowMs
      observations := drift.observations + 1 }
  | none => ⟨code, nowMs, nowMs, 1⟩

def Drift.confirmed (drift : Drift) (nowMs : Nat) : Bool :=
  decide (2 ≤ drift.observations) && decide (drift.firstObservedAtMs + confirmationMs ≤ nowMs)

/-- `persistDriftReconcile` -/
def driftRecord (code : String) (queuedAtMs : Option Nat) (nowMs : Nat) : Record where
  status := .driftBlocked
  consecutiveErrors := errorsOf previous + 1
  nextReconcileAtMs := nowMs + backoffMs (errorsOf previous + 1)
  uploadReadFailed := none
  uploadErrorCode := none
  lastGoodAtMs := previous.bind Record.lastGoodAtMs
  lastDrift := some (driftSeen previous code nowMs)
  recovery := none
  salesSuspensionQueuedAtMs := queuedAtMs

def recovering : Bool :=
  ((previous.bind Record.lastDrift).isSome && statusOf previous != .healthy) ||
    (previous.bind Record.recovery).isSome

/-- `nextRecovery` -/
def nextRecovery (nowMs : Nat) : RecoveryStreak :=
  let recovery := (previous.bind Record.recovery).getD ⟨nowMs, 0⟩
  { recovery with observations := recovery.observations + 1 }

/-- `persistHealthyReconcile` -/
def healthyRecord (nowMs : Nat) : Record :=
  if recovering previous = true ∧ ((nextRecovery previous nowMs).observations < 2 ∨
      nowMs < (nextRecovery previous nowMs).firstObservedAtMs + confirmationMs) then
    { status := .driftBlocked
      consecutiveErrors := 0
      nextReconcileAtMs := nowMs + confirmationMs
      uploadReadFailed := none
      uploadErrorCode := none
      lastGoodAtMs := previous.bind Record.lastGoodAtMs
      lastDrift := previous.bind Record.lastDrift
      recovery := some (nextRecovery previous nowMs)
      salesSuspensionQueuedAtMs := previous.bind Record.salesSuspensionQueuedAtMs }
  else
    { status := .healthy
      consecutiveErrors := 0
      nextReconcileAtMs := nowMs + healthyIntervalMs
      uploadReadFailed := none
      uploadErrorCode := none
      lastGoodAtMs := some nowMs
      lastDrift := previous.bind Record.lastDrift
      recovery := none
      salesSuspensionQueuedAtMs := previous.bind Record.salesSuspensionQueuedAtMs }

/-- The record `ensureReconcileScheduled` leaves. -/
def scheduledRecord (nowMs : Nat) : Record :=
  previous.getD ⟨.providerUnknown, 0, nowMs, none, none, none, none, none, none⟩

/-- The record `persistUploadVerificationResult` leaves for a job whose upload is over. -/
def uploadVerifiedRecord : Option Record :=
  previous.map fun record =>
    { record with
      uploadReadFailed := some false
      uploadErrorCode := none }

end Records

/-! ## The suspension of sales -/

variable (env : JobEnv)

/-- `suspendMethod` -/
def suspendMethod : String := if env.marketV2 then "suspend_sales" else "suspend_livepeer_sales"

/-- `canonicalJson` of what a suspension is for. -/
def suspensionText (jobId code : String) : String :=
  "\x7b\"drift_code\":\"" ++ code ++ "\",\"method\":\"" ++ suspendMethod env ++
    "\",\"publication_id\":\"" ++ jobId ++ "\"\x7d"

def operatorMayAct (job : JobRecord) : Bool :=
  env.operatorJobAllowed job.identity.jobId job.identity.creator && job.identity.generation == 1

namespace PublishedJob

/-- `enqueueSalesSuspension` -/
def enqueueSalesSuspension (object : PublishedJob) (code : String) (nowMs : Nat) : PublishedJob :=
  match object.suspension with
  | some _ => object
  | none =>
    { object with
      suspension := some {
        state := .pending
        idempotencyKey := object.job.identity.jobId ++ ":suspend-sales"
        method := suspendMethod env
        jobId := object.job.identity.jobId
        generation := object.job.identity.generation
        payloadSha256 := env.sha256 (suspensionText env object.job.identity.jobId code)
        createdAtMs := nowMs }
      history := .suspensionQueued code nowMs :: object.history }

/-- `tryProcessSalesSuspension`, with the operator's answer. -/
def processSalesSuspension (object : PublishedJob) (suspended : Bool) : PublishedJob :=
  if operatorMayAct env object.job ∧ suspended then
    { object with suspension := object.suspension.map fun record => { record with state := .confirmed } }
  else object

/-! ## One look at the job -/

def observe (object : PublishedJob) (observation : Observation) (nowMs : Nat) : PublishedJob :=
  { object with history := .observed observation nowMs :: object.history }

def store (object : PublishedJob) (record : Record) : PublishedJob :=
  { object with reconcile := some record }

/-- Does this drift queue a suspension? -/
def queues (object : PublishedJob) (code : String) (nowMs : Nat) : Bool :=
  (driftSeen object.reconcile code nowMs).confirmed nowMs &&
    (object.reconcile.bind Record.salesSuspensionQueuedAtMs).getD 0 == 0 &&
    operatorMayAct env object.job

/-- The first half of `persistDriftReconcile`: what is stored before its record is. -/
def queueDrift (object : PublishedJob) (code : String) (nowMs : Nat) : PublishedJob :=
  if object.queues env code nowMs then
    (object.observe (.drift code) nowMs).enqueueSalesSuspension env code nowMs
  else object.observe (.drift code) nowMs

/-- `persistDriftReconcile` -/
def persistDrift (object : PublishedJob) (code : String) (suspended : Bool) (nowMs : Nat) :
    PublishedJob :=
  let queued := object.queueDrift env code nowMs
  let processed :=
    if (driftSeen object.reconcile code nowMs).confirmed nowMs then
      queued.processSalesSuspension env suspended
    else queued
  processed.store (driftRecord object.reconcile code
    (if object.queues env code nowMs then some nowMs
      else object.reconcile.bind Record.salesSuspensionQueuedAtMs) nowMs)

/-- A drift whose request stops before its record is stored: it counts as observed when it queued
a suspension, and has left nothing otherwise. -/
def interruptDrift (object : PublishedJob) (code : String) (nowMs : Nat) : PublishedJob :=
  if object.queues env code nowMs ∧ object.suspension = none then object.queueDrift env code nowMs
  else object

end PublishedJob

/-- The publication as the final chain has it. -/
structure ChainPublication where
  submission : FinalizePublication
  publishedAvailability : String
  availability : String

/-- `publicationMatches`, for a publication that is on sale or was taken off it. -/
def ChainPublication.serves (found : ChainPublication) (publication : FinalizePublication) : Bool :=
  found.submission == publication && found.publishedAvailability == "ACTIVE" &&
    (found.availability == "ACTIVE" || found.availability == "SALES_SUSPENDED")

/-- What the network answers an alarm. -/
structure Answers where
  verification : Result (VerifiedAsset ⊕ VerificationCheckpoint × Option Nat)
  publication : Result (Option ChainPublication)
  suspendedBefore : Bool
  suspendedAfter : Bool

/-- What `verifyReadyProviderAsset` needs of the job and of the configuration. -/
def verifiable (job : JobRecord) : Bool :=
  env.validConfig job.kind && job.assetId.isSome && job.playbackId.isSome && job.projectId.isSome

/-- What `reconcilePublishedJob` finds. -/
def observation (job : JobRecord) (answers : Answers) : Observation :=
  if verifiable env job = false then .providerUnknown
  else
    match answers.verification with
    | .error code => if code ∈ strongDriftCodes then .drift code else .providerUnknown
    | .ok (.inr (checkpoint, retryAfterMs)) => .verifying checkpoint retryAfterMs
    | .ok (.inl asset) =>
      match job.publication with
      | none => .drift "provider_publication_mismatch"
      | some publication =>
        if job.publicationOf asset ≠ publication then .drift "provider_publication_mismatch"
        else
          match answers.publication with
          | .error code =>
            if code = "near_finalize_pending" then .nearUnknown
            else .drift "near_publication_mismatch"
          | .ok none => .drift "near_publication_mismatch"
          | .ok (some found) =>
            if found.serves publication then .healthy else .drift "near_publication_mismatch"

/-- What a verification leaves of the job. -/
def verifiedJob (job : JobRecord) (answers : Answers) : JobRecord :=
  if verifiable env job = false then job
  else
    match answers.verification with
    | .error code =>
      if code = unavailable then job else { job with providerVerification := none }
    | .ok (.inr (checkpoint, _)) => { job with providerVerification := some checkpoint }
    | .ok (.inl asset) =>
      { job with
        providerVerification := none
        sourceBytesEvidence := asset.sourceBytesEvidence <|> job.sourceBytesEvidence }

namespace PublishedJob

/-- What an observation stores. -/
def persist (object : PublishedJob) (found : Observation) (suspended : Bool) (nowMs : Nat) :
    PublishedJob :=
  match found with
  | .healthy => (object.observe .healthy nowMs).store (healthyRecord object.reconcile nowMs)
  | .drift code => object.persistDrift env code suspended nowMs
  | .providerUnknown =>
    (object.observe .providerUnknown nowMs).store
      (unknownRecord object.reconcile .providerUnknown nowMs)
  | .nearUnknown =>
    (object.observe .nearUnknown nowMs).store (unknownRecord object.reconcile .nearUnknown nowMs)
  | .verifying checkpoint retryAfterMs =>
    (object.observe (.verifying checkpoint retryAfterMs) nowMs).store
      (verifyingRecord object.reconcile (nowMs + retryAfterMs.getD 1000))

/-- What an observation stores when the request stops before its last write. -/
def interrupt (object : PublishedJob) (found : Observation) (nowMs : Nat) : PublishedJob :=
  match found with
  | .drift code => object.interruptDrift env code nowMs
  | _ => object

/-- The part of `reconcilePublishedJob` before it stores what it found. -/
def verify (object : PublishedJob) (answers : Answers) : PublishedJob :=
  let processed := object.processSalesSuspension env answers.suspendedBefore
  { processed with job := verifiedJob env object.job answers }

/-- `reconcilePublishedJob` -/
def reconcilePublishedJob (object : PublishedJob) (answers : Answers) (nowMs : Nat) :
    PublishedJob :=
  (object.verify env answers).persist env (observation env object.job answers)
    answers.suspendedAfter nowMs

/-! ## The playback gate -/

end PublishedJob

structure PlaybackRequest where
  jobId : String
  generation : Nat
  playbackId : String
  requestedTtlSeconds : Nat
  deviceNonce : String
  expiresAtMs : Nat

/-- What `readPlaybackAuthorization` finds on the chain. -/
structure PlaybackAuthorization where
  grantExpiresAtMs : Nat
  family : Option MediaProviderKind

structure PlaybackToken where
  playbackId : String
  token : String
  expiresAtMs : Nat
  hlsUrl : String

/-- What the network and the provider's signer answer a playback request. -/
structure PlaybackAnswers where
  authorization : Result PlaybackAuthorization
  sign : String → Nat → Nat → Result PlaybackToken

/-- `PLAYBACK_MAX_TTL_SECONDS`, or `PLAYBACK_V2_TTL_SECONDS` in the public environments. -/
def playbackTtlSeconds : Nat := if env.publicBetaPacket || env.publicTestnet then 180 else 300

/-- What `issuePlaybackToken` requires of the job and of its reconcile record. -/
def PublishedJob.playable (object : PublishedJob) (request : PlaybackRequest) : Bool :=
  object.job.state == .onchainPublished && object.job.identity.jobId == request.jobId &&
    object.job.identity.generation == request.generation &&
    object.job.playbackId == some request.playbackId &&
    (object.reconcile.map Record.status) == some .healthy

/-- The token of an authorized request. -/
def signToken (object : PublishedJob) (request : PlaybackRequest) (answers : PlaybackAnswers)
    (nowMs : Nat) : Result PlaybackToken := do
  let authorization ← answers.authorization
  require (authorization.family ≠ some .stream ∧ object.job.kind ≠ .stream) "playback_denied"
  let remainingSeconds := (authorization.grantExpiresAtMs - nowMs) / 1000
  require (1 ≤ remainingSeconds) "playback_denied"
  answers.sign request.playbackId
    (min request.requestedTtlSeconds (min remainingSeconds (playbackTtlSeconds env)))
    (nowMs / 1000)

/-- `issuePlaybackToken`, after the checks of the request itself. -/
def issuePlaybackToken (object : PublishedJob) (request : PlaybackRequest)
    (answers : PlaybackAnswers) (nowMs : Nat) : Result PlaybackToken × PublishedJob :=
  if object.playable request = false then (.error "playback_denied", object)
  else if (object.nonces.get request.deviceNonce).isSome then
    (.error "device_nonce_replayed", object)
  else
    (signToken env object request answers nowMs,
      { object with nonces := object.nonces.insert request.deviceNonce request.expiresAtMs })

/-! ## Runs -/

/-- What can happen to the object of a published job. -/
inductive Label where
  | alarm (answers : Answers) (nowMs : Nat)
  | interrupted (answers : Answers) (nowMs : Nat)
  | scheduled (nowMs : Nat)
  | uploadVerified
  | playback (request : PlaybackRequest) (answers : PlaybackAnswers) (nowMs : Nat)

/-- One step: an alarm, whole or cut short, a request that touches the record, or a playback. -/
def exec (object : PublishedJob) : Label → PublishedJob
  | .alarm answers nowMs => object.reconcilePublishedJob env answers nowMs
  | .interrupted answers nowMs =>
    (object.verify env answers).interrupt env (observation env object.job answers) nowMs
  | .scheduled nowMs => object.store (scheduledRecord object.reconcile nowMs)
  | .uploadVerified => { object with reconcile := uploadVerifiedRecord object.reconcile }
  | .playback request answers nowMs => (issuePlaybackToken env object request answers nowMs).2

def Step (object : PublishedJob) (label : Label) (next : PublishedJob) : Prop :=
  ExecStep (fun object label => some (exec env object label)) object label next

end Youtick.Bridge.Reconcile
