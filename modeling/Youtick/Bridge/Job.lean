import Youtick.Lib.Handlers
import Youtick.Lib.LookupMap
import Youtick.Lib.Panic
import Youtick.Lib.Text
import Youtick.Bridge.Operator
import Mathlib.Data.Rat.Defs

/-!
# Bridge: the upload job object

One object of the bridge keeps one upload job: the record under `JOB_KEY`, the nonces of the signed
requests, and a marker for every webhook it has begun to process. Requests read the record, ask the
network, and write a modified copy back.

What the network answers is the input of an operation. The reconcile record, the alarm and the
outbox of the object are not kept here: a read of them is an input too. The journal lists what was
stored under `JOB_KEY` and every upload that was asked of the provider; no program reads it.
-/

set_option autoImplicit false

namespace Youtick.Bridge

open Youtick.Lib

/-! ## States -/

inductive JobState where
  | authorized
  | leased
  | providerCreatePending
  | createPending
  | createAmbiguous
  | uploadReady
  | uploading
  | processing
  | readyVerified
  | finalizeQueued
  | finalizeRetry
  | uploadExpired
  | providerFailed
  | cancelled
  | onchainPublished
  deriving DecidableEq

namespace JobState

/-- `JOB_STATE_TRANSITIONS` -/
def transitions : JobState → List JobState
  | authorized => [leased, uploadExpired, cancelled]
  | leased => [providerCreatePending, uploadExpired, cancelled]
  | providerCreatePending => [createAmbiguous, uploadReady, uploadExpired]
  | createPending => [createAmbiguous, uploadReady]
  | createAmbiguous => []
  | uploadReady => [uploading, processing, readyVerified, uploadExpired, providerFailed]
  | uploading => [processing, readyVerified, uploadExpired, providerFailed]
  | processing => [readyVerified, uploadExpired, providerFailed]
  | readyVerified =>
    [finalizeQueued, finalizeRetry, uploadExpired, providerFailed, onchainPublished]
  | finalizeQueued => [finalizeRetry, uploadExpired, providerFailed, onchainPublished]
  | finalizeRetry => [finalizeQueued, uploadExpired, providerFailed, onchainPublished]
  | uploadExpired => []
  | providerFailed => []
  | onchainPublished => []
  | cancelled => []

/-- Two successive states: the same, or joined by an edge of the table. -/
def Follows (a b : JobState) : Prop := b = a ∨ b ∈ a.transitions

instance (a b : JobState) : Decidable (a.Follows b) := by
  unfold Follows
  infer_instance

/-- The states a cancellation may end. -/
def isOpen (state : JobState) : Bool := state == authorized || state == leased

/-- Nothing was asked of the provider yet, or its answer is awaited. -/
def isEarly (state : JobState) : Bool := state.isOpen || state == providerCreatePending

/-- The upload is under way. -/
def isActive (state : JobState) : Bool :=
  state == uploadReady || state == uploading || state == processing

/-- The states that `transitionJob` stamps with an end. -/
def isEnded (state : JobState) : Bool :=
  state == uploadExpired || state == providerFailed || state == cancelled

/-- Verified and on the way to the chain. -/
def isFinalizing (state : JobState) : Bool :=
  state == readyVerified || state == finalizeQueued || state == finalizeRetry

end JobState

/-! ## Records -/

inductive MediaProviderKind where
  | studio
  | stream
  deriving DecidableEq

/-- What a job is; `sameJob` compares exactly these. -/
structure JobIdentity where
  network : String
  contractId : String
  jobId : String
  generation : Nat
  creator : String
  expectedSourceBytes : String
  sourceFingerprintSha256 : Option String
  sourceType : String
  profileId : String
  profileConfigSha256 : String
  deriving DecidableEq

/-- What is submitted to the contract for a verified upload. -/
structure FinalizePublication where
  jobId : String
  generation : Nat
  creatorId : String
  expectedSourceBytes : String
  profileId : String
  profileConfigSha256 : String
  assetIdHash : String
  playbackId : String
  projectIdHash : String
  verifiedSourceBytes : String
  providerSourceFingerprint : Option String
  readyAtMs : String
  deriving DecidableEq

structure VerificationCheckpoint where
  bindingSha256 : String
  nextThumbnail : Nat
  startedAtMs : Nat
  deriving DecidableEq

structure SourceBytesEvidence where
  offsetBytes : String
  lengthBytes : String
  observedAtMs : Nat
  readyAtMs : Option String
  deriving DecidableEq

structure StreamProgress where
  state : String
  pctComplete : ℚ
  changedAtMs : Nat
  deriving DecidableEq

structure FinalizeRetry where
  attempts : Nat
  lastHttpStatus : Nat
  nextAttemptAtMs : Nat
  deriving DecidableEq

structure ProviderCreate where
  lastAttemptAtMs : Nat
  lastErrorCode : Option String
  ambiguousAtMs : Option Nat
  completedAtMs : Option Nat
  deriving DecidableEq

inductive DeleteOutcome where
  | deleted
  | missing
  | ambiguous
  deriving DecidableEq

structure ProviderDelete where
  assetIdSha256 : String
  outcome : DeleteOutcome
  attemptedAtMs : Nat
  deriving DecidableEq

/-- The record under `JOB_KEY`. -/
structure JobRecord where
  identity : JobIdentity
  state : JobState
  createdAtMs : Nat
  stateChangedAtMs : Option Nat
  terminalAtMs : Option Nat
  provider : Option MediaProviderKind
  apiTokenName : Option String
  leaseId : Option String
  leaseExpiresAtMs : Option Nat
  assetId : Option String
  playbackId : Option String
  projectId : Option String
  tusEndpoint : Option String
  publication : Option FinalizePublication
  providerVerification : Option VerificationCheckpoint
  sourceBytesEvidence : Option SourceBytesEvidence
  streamProgress : Option StreamProgress
  finalizeRetry : Option FinalizeRetry
  providerCreate : Option ProviderCreate
  terminalArchive : Option RecordArchive
  absoluteDeadlineAtMs : Option Nat
  providerDelete : Option ProviderDelete
  deriving DecidableEq

structure AdmissionLease where
  leaseId : String
  expiresAtMs : Nat

/-- What a verification found. -/
structure VerifiedAsset where
  assetIdHash : String
  playbackId : String
  projectIdHash : String
  verifiedSourceBytes : String
  sourceFingerprint : Option String
  readyAtMs : String
  sourceBytesEvidence : Option SourceBytesEvidence
  durationSeconds : Option ℚ

inductive Verification where
  | pending (checkpoint : VerificationCheckpoint)
  | verified (asset : VerifiedAsset)

namespace JobRecord

/-- `jobProviderKind` -/
def kind (record : JobRecord) : MediaProviderKind := record.provider.getD .studio

/-- `transitionJob` at `nowMs` -/
def transition (record : JobRecord) (state : JobState) (nowMs : Nat) : Result JobRecord :=
  if record.state = state then .ok record
  else if state ∈ record.state.transitions then
    .ok { record with
      state := state
      stateChangedAtMs := some nowMs
      terminalAtMs := if state.isEnded then some nowMs else record.terminalAtMs
      terminalArchive :=
        if state.isEnded then
          some {
            status := .pending
            attempts := 0
            createdAtMs := nowMs
            nextAttemptAtMs := nowMs
            archiveSha256 := none
            committedAtMs := none
            cleanupEligibleAtMs := none }
        else record.terminalArchive }
  else .error "invalid_job_transition"

/-- `publicBetaDeadlineExpired` -/
def deadlineExpired (record : JobRecord) (nowMs : Nat) : Bool :=
  record.absoluteDeadlineAtMs.any (· ≤ nowMs)

/-- The lease, cut off at the deadline of the job. -/
def withLease (record : JobRecord) (lease : AdmissionLease) : JobRecord :=
  { record with
    leaseId := some lease.leaseId
    leaseExpiresAtMs :=
      some (min lease.expiresAtMs (record.absoluteDeadlineAtMs.getD lease.expiresAtMs)) }

def leaseExpired (record : JobRecord) (nowMs : Nat) : Bool :=
  record.leaseExpiresAtMs.all (· ≤ nowMs)

/-- The record without what may change while a verification runs. -/
def forVerification (record : JobRecord) : JobRecord :=
  { record with
    providerVerification := none
    streamProgress := none }

/-- The publication a verified asset gives the job. -/
def publicationOf (record : JobRecord) (asset : VerifiedAsset) : FinalizePublication where
  jobId := record.identity.jobId
  generation := record.identity.generation
  creatorId := record.identity.creator
  expectedSourceBytes := record.identity.expectedSourceBytes
  profileId := record.identity.profileId
  profileConfigSha256 := record.identity.profileConfigSha256
  assetIdHash := asset.assetIdHash
  playbackId := asset.playbackId
  projectIdHash := asset.projectIdHash
  verifiedSourceBytes := asset.verifiedSourceBytes
  providerSourceFingerprint := asset.sourceFingerprint
  readyAtMs := asset.readyAtMs

/-- `trackStreamProgress` -/
def trackStreamProgress (record : JobRecord) (progress : Option (String × ℚ)) (nowMs : Nat) :
    JobRecord :=
  match progress with
  | none => record
  | some (state, pctComplete) =>
    if record.kind ≠ .stream then record
    else if ∃ previous ∈ record.streamProgress,
        previous.state = state ∧ previous.pctComplete = pctComplete then record
    else { record with streamProgress := some ⟨state, pctComplete, nowMs⟩ }

end JobRecord

/-! ## Requests and events -/

inductive Recovery where
  | reconcile
  | resume

/-- A parsed upload intent, with what its configuration and the chain say of the job. -/
structure UploadIntent where
  identity : JobIdentity
  provider : Option MediaProviderKind
  apiTokenName : Option String
  absoluteDeadlineAtMs : Option Nat
  deviceNonce : String
  expiresAtMs : Nat
  recovery : Option Recovery

/-- `jobRecord` -/
def UploadIntent.jobRecord (intent : UploadIntent) (nowMs : Nat) : JobRecord where
  identity := intent.identity
  state := .authorized
  createdAtMs := nowMs
  stateChangedAtMs := some nowMs
  terminalAtMs := none
  provider := intent.provider
  apiTokenName := intent.apiTokenName
  leaseId := none
  leaseExpiresAtMs := none
  assetId := none
  playbackId := none
  projectId := none
  tusEndpoint := none
  publication := none
  providerVerification := none
  sourceBytesEvidence := none
  streamProgress := none
  finalizeRetry := none
  providerCreate := none
  terminalArchive := none
  absoluteDeadlineAtMs := intent.absoluteDeadlineAtMs
  providerDelete := none

structure UploadHeartbeat where
  jobId : String
  generation : Nat
  leaseId : String
  deviceNonce : String
  expiresAtMs : Nat

structure UploadCancellation where
  jobId : String
  generation : Nat
  accountId : String
  deviceNonce : String
  expiresAtMs : Nat

inductive ProviderEventKind where
  | ready
  | processing
  | failed
  | deleted
  deriving DecidableEq

/-- `NormalizedWebhookEvent` -/
structure ProviderEvent where
  provider : MediaProviderKind
  kind : ProviderEventKind
  assetId : String
  phase : String
  failureCode : Option String
  streamProgress : Option (String × ℚ)
  digest : String

namespace ProviderEvent

/-- `isReadinessEvent` -/
def isReadiness (event : ProviderEvent) (state : JobState) : Bool :=
  event.kind == .ready || (event.kind == .processing && state.isActive && event.phase == "ready")

/-- `isProviderFailureEvent` -/
def isFailure (event : ProviderEvent) : Bool := event.kind == .failed || event.kind == .deleted

/-- `isProcessingEvent` -/
def isProcessing (event : ProviderEvent) : Bool :=
  event.kind == .processing && event.phase == "processing"

end ProviderEvent

/-! ## The object -/

inductive MarkerState where
  | processing
  | verified

/-- The record under `webhook:<digest>`. -/
structure WebhookMarker where
  state : MarkerState
  receivedAtMs : Nat

inductive JobFact where
  | stored (record : JobRecord)
  | createUpload (identity : JobIdentity)

structure JobObject where
  job : Option JobRecord
  nonces : LookupMap String Nat
  markers : LookupMap String WebhookMarker
  journal : List JobFact

namespace JobObject

def empty : JobObject := ⟨none, .empty, .empty, []⟩

/-- The record is stored under `JOB_KEY`. -/
def store (object : JobObject) (record : JobRecord) : JobObject :=
  { object with
    job := some record
    journal := object.journal ++ [.stored record] }

/-- The nonce of a signed request is used up. -/
def spend (object : JobObject) (nonce : String) (expiresAtMs : Nat) : JobObject :=
  { object with nonces := object.nonces.insert nonce expiresAtMs }

/-- The transaction that opens an upload intent: the record, and whether it is a new one. -/
def reserve (object : JobObject) (newUploads : Bool) (intent : UploadIntent)
    (candidate : JobRecord) : Result (JobRecord × Bool) × JobObject :=
  if object.nonces.get intent.deviceNonce ≠ none then (.error "device_nonce_replayed", object)
  else
    match object.job with
    | some existing =>
      if existing.identity ≠ candidate.identity then (.error "reservation_conflict", object)
      else (.ok (existing, false), object.spend intent.deviceNonce intent.expiresAtMs)
    | none =>
      if intent.recovery.isSome then (.error "provider_recovery_not_ready", object)
      else if newUploads = false then (.error "admission_closed", object)
      else
        (.ok (candidate, true),
          (object.spend intent.deviceNonce intent.expiresAtMs).store candidate)

/-- The transaction that opens a heartbeat. -/
def openHeartbeat (object : JobObject) (heartbeat : UploadHeartbeat) (nowMs : Nat) :
    Result JobRecord × JobObject :=
  if object.nonces.get heartbeat.deviceNonce ≠ none then (.error "device_nonce_replayed", object)
  else
    match object.job with
    | none => (.error "admission_denied", object)
    | some current =>
      if current.identity.jobId ≠ heartbeat.jobId ∨
          current.identity.generation ≠ heartbeat.generation ∨
          current.leaseId ≠ some heartbeat.leaseId ∨ current.deadlineExpired nowMs ∨
          ¬ (current.state = .uploadReady ∨ current.state = .uploading) then
        (.error "admission_denied", object)
      else (.ok current, object.spend heartbeat.deviceNonce heartbeat.expiresAtMs)

/-- The transaction of a cancellation: the cancelled record, and whether it was cancelled before. -/
def cancel (object : JobObject) (cancellation : UploadCancellation) (nowMs : Nat) :
    Result (JobRecord × Bool) × JobObject :=
  if object.nonces.get cancellation.deviceNonce ≠ none then (.error "device_nonce_replayed", object)
  else
    match object.job with
    | none => (.error "upload_cancel_denied", object)
    | some current =>
      if current.identity.jobId ≠ cancellation.jobId ∨
          current.identity.generation ≠ cancellation.generation ∨
          current.identity.creator ≠ cancellation.accountId then
        (.error "upload_cancel_denied", object)
      else if current.state = .cancelled then
        (.ok (current, true), object.spend cancellation.deviceNonce cancellation.expiresAtMs)
      else if current.state.isOpen = false then (.error "upload_cancel_denied", object)
      else
        match current.transition .cancelled nowMs with
        | .error code => (.error code, object)
        | .ok cancelled =>
          (.ok (cancelled, false),
            (object.spend cancellation.deviceNonce cancellation.expiresAtMs).store cancelled)

/-- The transaction that begins a webhook: was its marker there already? -/
def claimMarker (object : JobObject) (digest : String) (nowMs : Nat) : Bool × JobObject :=
  if object.markers.get digest ≠ none then (true, object)
  else (false, { object with markers := object.markers.insert digest ⟨.processing, nowMs⟩ })

/-- The transaction that stores what a verification of `job` found. -/
def storeVerification (object : JobObject) (job : JobRecord) (verification : Verification)
    (nowMs : Nat) : Result Unit × JobObject :=
  match object.job with
  | none => (.error "provider_verification_incomplete", object)
  | some current =>
    if current.forVerification ≠ job.forVerification ∨
        (current.state ≠ .onchainPublished ∧ current.deadlineExpired nowMs) then
      (.error "provider_verification_incomplete", object)
    else
      match verification with
      | .pending checkpoint =>
        (.ok (), object.store { current with providerVerification := some checkpoint })
      | .verified asset =>
        if current.providerVerification.isSome ∨ asset.sourceBytesEvidence.isSome then
          (.ok (), object.store { current with
            providerVerification := none
            sourceBytesEvidence := asset.sourceBytesEvidence <|> current.sourceBytesEvidence })
        else (.ok (), object)

/-- The transaction that drops the checkpoint of a failed verification. -/
def dropCheckpoint (object : JobObject) : JobObject :=
  match object.job with
  | none => object
  | some current =>
    if current.providerVerification.isSome then
      object.store { current with providerVerification := none }
    else object

end JobObject

/-- `LIFECYCLE_DELETE_BATCH` -/
def lifecycleDeleteBatch : Nat := 128

/-- `state.storage.list` and `state.storage.delete`: of the first records in the order of their
keys, those that expired are deleted. -/
def purgeExpired {α : Type} (records : LookupMap String α) (expired : α → Bool) :
    LookupMap String α :=
  ((keysInOrder records.keys).take lifecycleDeleteBatch).foldl
    (fun kept key => if (records.get key).any expired then kept.remove key else kept) records

/-- `WEBHOOK_DEDUP_RETENTION_MS` -/
def webhookDedupRetentionMs : Nat := 30 * 24 * 60 * 60 * 1000

/-! ## Operations -/

structure CreatedUpload where
  assetId : String
  playbackId : String
  projectId : String
  tusEndpoint : String

inductive StreamVideoState where
  | pendingupload
  | downloading
  | queued
  | inprogress
  | ready
  | error
  | other (state : String)
  deriving DecidableEq

/-- What `readVideo` answers; a percentage that is not finite is absent. -/
structure StreamVideo where
  uid : String
  route : Option (String × Nat)
  state : StreamVideoState
  pctComplete : Option ℚ
  errorReasonCode : String
  readyToStream : Bool

/-- What `readAsset` answers: whether the asset is the job's own, and its phase. -/
structure ProviderAsset where
  identityMatches : Bool
  id : String
  phase : String

structure FinalizeReply where
  status : Nat
  finalized : Bool

/-- What is told to the admission object. -/
inductive AdmissionMark where
  | state (state : JobState)
  | providerUnavailable
  | autoClosed

inductive VerificationMode where
  | ready
  | published

/-- What the job object reads of its reconcile record. -/
structure ReconcileView where
  nextReconcileAtMs : Nat
  uploadReadFailed : Bool
  uploadErrorCode : Option String

/-- What the outside gives an operation. -/
structure JobInput where
  nowMs : Nat
  preflight : Result Unit
  lease : Result AdmissionLease
  marked : Result Unit
  created : Result CreatedUpload
  deleted : Result DeleteOutcome
  tusLength : Result String
  asset : Result ProviderAsset
  video : Result StreamVideo
  verification : Result Verification
  finalize : Result FinalizeReply
  published : Result Bool
  archive : Result String
  reconcile : Option ReconcileView

inductive JobOp : Type → Type
  | now : JobOp Nat
  | preflight : JobOp (Result Unit)
  | readStreamStorage : JobOp (Result Unit)
  | requestAdmission (record : JobRecord) : JobOp (Result AdmissionLease)
  | heartbeatAdmission (record : JobRecord) : JobOp (Result AdmissionLease)
  | updateAdmission (record : JobRecord) (mark : AdmissionMark) : JobOp (Result Unit)
  | createUpload (record : JobRecord) : JobOp (Result CreatedUpload)
  | deleteAsset (assetId : String) : JobOp (Result DeleteOutcome)
  | readTusLength (tusEndpoint : String) : JobOp (Result String)
  | readAsset (assetId : String) : JobOp (Result ProviderAsset)
  | readVideo (assetId : String) : JobOp (Result StreamVideo)
  | verifyAsset (record : JobRecord) (mode : VerificationMode) : JobOp (Result Verification)
  | forwardFinalize (publication : FinalizePublication) : JobOp (Result FinalizeReply)
  | readPublication (publication : FinalizePublication) : JobOp (Result Bool)
  | commitArchive (record : JobRecord) : JobOp (Result String)
  | readReconcile : JobOp (Option ReconcileView)
  | putReconcile : JobOp Unit
  | setAlarm : JobOp Unit
  | get : JobOp (Option JobRecord)
  | put (read written : JobRecord) : JobOp Unit
  | reserve (newUploads : Bool) (intent : UploadIntent) (candidate : JobRecord) :
      JobOp (Result (JobRecord × Bool))
  | openHeartbeat (heartbeat : UploadHeartbeat) : JobOp (Result JobRecord)
  | cancel (cancellation : UploadCancellation) : JobOp (Result (JobRecord × Bool))
  | claimMarker (digest : String) : JobOp Bool
  | settleMarker (digest : String) : JobOp Unit
  | deleteMarker (digest : String) : JobOp Unit
  | storeVerification (job : JobRecord) (verification : Verification) : JobOp (Result Unit)
  | dropCheckpoint : JobOp Unit
  | purgeNonces : JobOp Unit
  | purgeMarkers : JobOp Unit

/-- Of `put`, `read` is the copy that the written record was made from; the store does not look at
it. -/
def JobOp.exec : (β : Type) → JobOp β → JobInput → JobObject → Option (β × JobObject)
  | _, .now, i, s => some (i.nowMs, s)
  | _, .preflight, i, s => some (i.preflight, s)
  | _, .readStreamStorage, i, s => some (i.preflight, s)
  | _, .requestAdmission _, i, s => some (i.lease, s)
  | _, .heartbeatAdmission _, i, s => some (i.lease, s)
  | _, .updateAdmission _ _, i, s => some (i.marked, s)
  | _, .createUpload record, i, s =>
    some (i.created, { s with journal := s.journal ++ [.createUpload record.identity] })
  | _, .deleteAsset _, i, s => some (i.deleted, s)
  | _, .readTusLength _, i, s => some (i.tusLength, s)
  | _, .readAsset _, i, s => some (i.asset, s)
  | _, .readVideo _, i, s => some (i.video, s)
  | _, .verifyAsset _ _, i, s => some (i.verification, s)
  | _, .forwardFinalize _, i, s => some (i.finalize, s)
  | _, .readPublication _, i, s => some (i.published, s)
  | _, .commitArchive _, i, s => some (i.archive, s)
  | _, .readReconcile, i, s => some (i.reconcile, s)
  | _, .putReconcile, _, s => some ((), s)
  | _, .setAlarm, _, s => some ((), s)
  | _, .get, _, s => some (s.job, s)
  | _, .put _ written, _, s => some ((), s.store written)
  | _, .reserve newUploads intent candidate, _, s => some (s.reserve newUploads intent candidate)
  | _, .openHeartbeat heartbeat, i, s => some (s.openHeartbeat heartbeat i.nowMs)
  | _, .cancel cancellation, i, s => some (s.cancel cancellation i.nowMs)
  | _, .claimMarker digest, i, s => some (s.claimMarker digest i.nowMs)
  | _, .settleMarker digest, i, s =>
    some ((), { s with markers := s.markers.insert digest ⟨.verified, i.nowMs⟩ })
  | _, .deleteMarker digest, _, s => some ((), { s with markers := s.markers.remove digest })
  | _, .storeVerification job verification, i, s =>
    some (s.storeVerification job verification i.nowMs)
  | _, .dropCheckpoint, _, s => some ((), s.dropCheckpoint)
  | _, .purgeNonces, i, s =>
    some ((), { s with nonces := purgeExpired s.nonces (· ≤ i.nowMs) })
  | _, .purgeMarkers, i, s =>
    some ((), { s with
      markers := purgeExpired s.markers
        fun marker => marker.receivedAtMs + webhookDedupRetentionMs ≤ i.nowMs })

end Youtick.Bridge
