import Youtick.Lib.Requests

/-!
# Bridge: the records of an upload job object

Which keys the durable object of one upload job stores. Every storage transaction is one operation, with
its own capacity check where the source has one; what a record or a provider says is an answer of the
outside. Intents, heartbeats, cancellations, webhooks and alarms go through one queue, the other
requests come in between. The history of an operation is what it wrote, removed and was refused, newest
first.
-/

set_option autoImplicit false

namespace Youtick.Bridge.Records

open Youtick.Lib

/-! ## Keys -/

/-- The keys of an upload job object. -/
inductive RecordKey where
  /-- `JOB_KEY` -/
  | job
  /-- `RECONCILE_KEY` -/
  | reconcile
  | nonce (deviceNonce : String)
  | webhook (digest : String)
  | outbox (idempotencyKey : String)
  deriving DecidableEq

def RecordKey.isNonce : RecordKey → Bool
  | .nonce _ => true
  | _ => false

def RecordKey.isWebhook : RecordKey → Bool
  | .webhook _ => true
  | _ => false

/-- `DURABLE_OBJECT_MAX_PERSISTENT_RECORDS` -/
def maxPersistentRecords : Nat := 256

/-- The keys that a transaction needs and that are not stored yet. -/
def missing (stored : Finset RecordKey) (keys : List RecordKey) : Finset RecordKey :=
  keys.toFinset \ stored

/-- `assertDurableObjectRecordCapacity` does not throw. The listing stops at the limit. -/
def hasCapacity (stored : Finset RecordKey) (keys : List RecordKey) : Bool :=
  decide ((missing stored keys).card = 0) ||
    decide (min stored.card maxPersistentRecords + (missing stored keys).card ≤
      maxPersistentRecords)

def recordLimit : String := "durable_object_record_limit"

/-! ## Operations -/

/-- The requests and the alarm of an upload job object. -/
inductive JobCall where
  /-- The digest is that of an event it may synthesize. -/
  | intent (deviceNonce : String) (recovery : Option String) (digest : String)
  | heartbeat (deviceNonce : String)
  | cancel (deviceNonce : String)
  | playbackToken (deviceNonce : String)
  | outbox (idempotencyKey : String)
  | webhook (digest : String)
  | deleteAsset
  /-- Purges, archives, finalizes or reconciles. -/
  | alarm (jobId digest : String)

/-- What an operation did. -/
inductive Mark where
  | began (call : JobCall)
  | wrote (key : RecordKey)
  | removed (key : RecordKey)
  | purged
  /-- Refused for capacity, when it was to take this new record. -/
  | refused (taken : Option RecordKey)

/-- The keys stored, and what each operation did. -/
structure JobObject where
  keys : Finset RecordKey
  requests : Nat
  own : Nat → List Mark

inductive RecordOp : Type → Type
  | accept : RecordOp Nat
  | begin (call : JobCall) : RecordOp Unit
  /-- What the records, the chain, the provider or the clock say; the expression of the source. -/
  | ask (what : String) : RecordOp Bool
  /-- The record is there. -/
  | read (key : RecordKey) : RecordOp Bool
  /-- The transaction of an intent; the answer is that the job was there. -/
  | reserve (deviceNonce : String) (recovery : Bool) : RecordOp (Except String Bool)
  /-- The transactions of a heartbeat and of a playback token. -/
  | takeNonce (deviceNonce : String) (ofJob : Bool) : RecordOp (Except String Unit)
  /-- The transaction of a cancellation. -/
  | cancelJob (deviceNonce : String) : RecordOp (Except String Unit)
  /-- A new outbox record; the answer is that there was none. -/
  | enqueue (idempotencyKey : String) (compare : Bool) : RecordOp (Except String Bool)
  /-- The dedup record of an event; the answer is that the event was seen. -/
  | takeWebhook (digest : String) : RecordOp (Except String Bool)
  | put (key : RecordKey) : RecordOp Unit
  | deleteWebhook (digest : String) : RecordOp Unit
  /-- `ensureReconcileScheduled` -/
  | ensureReconcile : RecordOp (Except String Unit)
  /-- `persistUploadVerificationResult` -/
  | persistResult (errorCode : Bool) : RecordOp (Except String Unit)
  /-- The transaction of `verifyReadyProviderAsset`; the answer is that the verification is done. -/
  | saveVerification : RecordOp (Except String Bool)
  /-- The transaction of its `catch`. -/
  | dropCheckpoint : RecordOp Unit
  | purgeNonces : RecordOp Unit
  | purgeWebhooks : RecordOp Unit

structure NumberedOp (β : Type) where
  number : Nat
  op : RecordOp β

/-- What the outside answers, and which records a purge finds expired. -/
structure RecordInput where
  answer : String → Bool
  expired : Finset RecordKey

namespace JobObject

def log (s : JobObject) (n : Nat) (mark : Mark) : JobObject :=
  { s with own := Function.update s.own n (mark :: s.own n) }

/-- Operation `n` writes the record of the key. -/
def write (s : JobObject) (n : Nat) (key : RecordKey) : JobObject :=
  { s with keys := insert key s.keys }.log n (.wrote key)

/-- Operation `n` removes the record of the key. -/
def remove (s : JobObject) (n : Nat) (key : RecordKey) : JobObject :=
  { s with keys := s.keys.erase key }.log n (.removed key)

/-- Operation `n` removes what has expired of one kind of records. -/
def purge (s : JobObject) (n : Nat) (kind : RecordKey → Bool) (expired : Finset RecordKey) :
    JobObject :=
  { s with keys := s.keys.filter fun key => ¬ (kind key ∧ key ∈ expired) }.log n .purged

/-- The part of a transaction after its capacity check; `taken` is the new record it is for. -/
def checked {α : Type} (s : JobObject) (n : Nat) (keys : List RecordKey)
    (taken : Option RecordKey) (rest : Except String α × JobObject) :
    Except String α × JobObject :=
  if hasCapacity s.keys keys then rest else (.error recordLimit, s.log n (.refused taken))

end JobObject

/-- One operation. A transaction that throws leaves the keys as they are. -/
def exec (β : Type) (op : NumberedOp β) (i : RecordInput) (s : JobObject) :
    Option (β × JobObject) :=
  let n := op.number
  match op.op with
  | .accept => some (s.requests, { s with requests := s.requests + 1 })
  | .begin call => some ((), s.log n (.began call))
  | .ask what => some (i.answer what, s)
  | .read key => some (decide (key ∈ s.keys), s)
  | .reserve deviceNonce recovery => some <|
      if .nonce deviceNonce ∈ s.keys then (.error "device_nonce_replayed", s)
      else if .job ∈ s.keys then
        s.checked n [.nonce deviceNonce, .reconcile] (some (.nonce deviceNonce)) <|
          if i.answer "sameJob(existing, candidate)" then
            (.ok true, s.write n (.nonce deviceNonce))
          else (.error "reservation_conflict", s)
      else
        s.checked n [.nonce deviceNonce, .job, .reconcile] (some (.nonce deviceNonce)) <|
          if recovery then (.error "provider_recovery_not_ready", s)
          else if i.answer "LIVEPEER_NEW_UPLOADS_ENABLED" then
            (.ok false, (s.write n (.nonce deviceNonce)).write n .job)
          else (.error "admission_closed", s)
  | .takeNonce deviceNonce ofJob => some <|
      if .nonce deviceNonce ∈ s.keys then (.error "device_nonce_replayed", s)
      else if ofJob ∧ ¬ (.job ∈ s.keys ∧ i.answer "lease of the job") then
        (.error "admission_denied", s)
      else
        s.checked n [.nonce deviceNonce, .reconcile] (some (.nonce deviceNonce))
          (.ok (), s.write n (.nonce deviceNonce))
  | .cancelJob deviceNonce => some <|
      if .nonce deviceNonce ∈ s.keys then (.error "device_nonce_replayed", s)
      else if ¬ (.job ∈ s.keys ∧ i.answer "job of the creator") then
        (.error "upload_cancel_denied", s)
      else
        s.checked n [.nonce deviceNonce, .reconcile] (some (.nonce deviceNonce)) <|
          if i.answer "current.state === 'CANCELLED'" then
            (.ok (), s.write n (.nonce deviceNonce))
          else if i.answer "['AUTHORIZED', 'LEASED'].includes(current.state)" then
            (.ok (), (s.write n (.nonce deviceNonce)).write n .job)
          else (.error "upload_cancel_denied", s)
  | .enqueue idempotencyKey compare => some <|
      if .outbox idempotencyKey ∈ s.keys then
        if compare ∧ ¬ i.answer "sameOutbox(existing, candidate)" then
          (.error "outbox_conflict", s)
        else (.ok false, s)
      else
        s.checked n [.outbox idempotencyKey, .reconcile] (some (.outbox idempotencyKey))
          (.ok true, s.write n (.outbox idempotencyKey))
  | .takeWebhook digest => some <|
      if .webhook digest ∈ s.keys then (.ok true, s)
      else
        s.checked n [.webhook digest, .reconcile] (some (.webhook digest))
          (.ok false, s.write n (.webhook digest))
  | .put key => some ((), s.write n key)
  | .deleteWebhook digest => some ((), s.remove n (.webhook digest))
  | .ensureReconcile => some <|
      if .reconcile ∈ s.keys then (.ok (), s)
      else s.checked n [.reconcile] none (.ok (), s.write n .reconcile)
  | .persistResult errorCode => some <|
      if .reconcile ∉ s.keys ∧ ¬ (errorCode ∧ .job ∈ s.keys ∧ i.answer "upload state") then
        (.ok (), s)
      else s.checked n [.reconcile] none (.ok (), s.write n .reconcile)
  | .saveVerification => some <|
      if ¬ (.job ∈ s.keys ∧ i.answer "same job, not expired") then
        (.error "provider_verification_incomplete", s)
      else if i.answer "'pending' in verified" then
        s.checked n [.job, .reconcile] none
          (.ok false, (s.write n .job).write n .reconcile)
      else if i.answer "current.providerVerification || verified.sourceBytesEvidence" then
        (.ok true, s.write n .job)
      else (.ok true, s)
  | .dropCheckpoint => some <|
      if .job ∈ s.keys ∧ i.answer "current?.providerVerification" then ((), s.write n .job)
      else ((), s)
  | .purgeNonces => some ((), s.purge n RecordKey.isNonce i.expired)
  | .purgeWebhooks => some ((), s.purge n RecordKey.isWebhook i.expired)

/-! ## Programs -/

abbrev RecordHandler (α : Type) : Type 1 := Handler RecordOp String α

def ask (what : String) : RecordHandler Bool := Handler.perform "provider_unavailable" (.ask what)

/-- A write of a record; the storage may fail. -/
def put (key : RecordKey) : RecordHandler Unit := Handler.perform "storage_failed" (.put key)

/-- `if (due) program` -/
def runWhen (due : Bool) (program : RecordHandler Unit) : RecordHandler Unit :=
  if due = true then program else return ()

def putWhen (due : Bool) (key : RecordKey) : RecordHandler Unit := runWhen due (put key)

def read (key : RecordKey) : RecordHandler Bool := Handler.perform "storage_failed" (.read key)

/-- A transaction: what it throws is thrown. -/
def transaction {α : Type} (op : RecordOp (Except String α)) : RecordHandler α := do
  let result ← Handler.perform "storage_failed" op
  Handler.ofExcept result

/-- A call to the outside that throws where it is not accepted. -/
def demand (what code : String) : RecordHandler Unit := do
  let accepted ← ask what
  if accepted = true then return () else .raise code

/-- `deleteStreamUpload` -/
def deleteStreamUpload : RecordHandler Unit := do
  let due ← ask "stream && job.assetId && !job.providerDelete && mutations"
  if due = true then do
    put .job
    let ambiguous ← ask "outcome === 'AMBIGUOUS'"
    if ambiguous = true then do
      let _ ← ask "closeAdmissionAfterAmbiguousDelete"
      return ()
    else return ()
  else return ()

/-- `scheduleTerminalArchive` -/
def scheduleTerminalArchive : RecordHandler Unit := transaction (.persistResult false)

/-- `updateAdmission` -/
def updateAdmission : RecordHandler Unit := demand "updateAdmission" "admission_closed"

/-- `terminateStreamJob` -/
def terminateStreamJob : RecordHandler Unit := do
  let ended ← ask "current is terminal"
  putWhen (!ended) .job
  deleteStreamUpload
  scheduleTerminalArchive
  updateAdmission

/-- `expireJob` -/
def expireJob : RecordHandler Unit := do
  let stream ← ask "jobProviderKind(job) === 'stream'"
  if stream = true then terminateStreamJob
  else do
    put .job
    scheduleTerminalArchive
    updateAdmission

/-- `expireLegacyProfileJob`; true when the job was expired. -/
def expireLegacyProfileJob : RecordHandler Bool := do
  let legacy ← ask "isLegacyProfileJobOnMarketV2 && expirable"
  if legacy = true then do
    expireJob
    return true
  else return false

/-- `settleLegacyProfileJob` -/
def settleLegacyProfileJob : RecordHandler Unit := do
  let pending ← ask "NEAR is unavailable"
  if pending = true then return ()
  else do
    let published ← ask "published"
    if published = true then do
      put .job
      updateAdmission
      transaction .ensureReconcile
    else expireJob

/-- `advanceFinalization` -/
def advanceFinalization : RecordHandler Unit := do
  let expired ← ask "publicBetaDeadlineExpired(job)"
  if expired = true then expireJob
  else do
    let legacy ← ask "isLegacyProfileJobOnMarketV2(env, job)"
    if legacy = true then settleLegacyProfileJob
    else do
      let allowed ← ask "operatorJobAllowed && job.generation === 1"
      if allowed = true then do
        let forwarded ← ask "response.ok"
        put .job
        if forwarded = true then do
          updateAdmission
          let published ← ask "record.state === 'ONCHAIN_PUBLISHED'"
          if published = true then transaction .ensureReconcile else return ()
        else return ()
      else return ()

/-- `verifyReadyProviderAsset`; false while the verification is pending. -/
def verifyReadyProviderAsset : RecordHandler Bool := do
  demand "validConfig && job.assetId && job.playbackId && job.projectId" "runtime_not_configured"
  demand "!publicBetaDeadlineExpired(job)" "provider_verification_incomplete"
  (do
    demand "verifyReadyAsset" "provider_verification_incomplete"
    transaction .saveVerification : RecordHandler Bool).rescue fun code =>
      if code ≠ "provider_unavailable" then do
        Handler.perform "storage_failed" .dropCheckpoint
        .raise code
      else .raise code

/-- The codes for which an upload URL has ended. -/
def isTusEnd (code : String) : Bool :=
  decide (code = "provider_tus_state_invalid" ∨ code = "provider_tus_url_expired")

/-- The verification of a new event under its dedup record; false while it is pending. -/
def verifyEvent (digest : String) : RecordHandler Bool :=
  (do
    let verified ← verifyReadyProviderAsset
    if verified = true then do
      put .job
      transaction (.persistResult false)
      updateAdmission
      put (.webhook digest)
      return true
    else do
      Handler.perform "storage_failed" (.deleteWebhook digest)
      return false : RecordHandler Bool).rescue fun code => do
    Handler.perform "storage_failed" (.deleteWebhook digest)
    transaction (.persistResult true)
    let stream ← ask "jobProviderKind(record) === 'stream'"
    if stream = true ∧ isTusEnd code = true then do
      terminateStreamJob
      return false
    else .raise code

/-- The end of `handleProviderEvent`. -/
def finishEvent : RecordHandler Unit := do
  let published ← ask "record.state === 'ONCHAIN_PUBLISHED'"
  if published = true then do
    updateAdmission
    transaction .ensureReconcile
  else do
    demand "record.publication" "provider_state_invalid"
    advanceFinalization

/-- What `handleProviderEvent` does with an event that says the asset is ready. -/
def acceptReadiness (digest : String) : RecordHandler Unit := do
  let legacy ← ask "isLegacyProfileJobOnMarketV2 && existing.publication && finalizing"
  if legacy = true then settleLegacyProfileJob
  else do
    let proven ← ask "stream && existing.publication && finalizing"
    if proven = true then return ()
    else do
      let seen ← transaction (.takeWebhook digest)
      if seen = true then do
        let uploading ← ask "['UPLOAD_READY', 'UPLOADING', 'PROCESSING'].includes(record.state)"
        if uploading = true then return () else finishEvent
      else do
        let verified ← verifyEvent digest
        if verified = true then finishEvent else return ()

/-- What it does with any other event. -/
def recordProgress : RecordHandler Unit := do
  let published ← ask "existing.state === 'ONCHAIN_PUBLISHED'"
  if published = true then return ()
  else do
    let failed ← ask "providerFailed"
    if failed = true then do
      let stream ← ask "jobProviderKind(existing) === 'stream'"
      if stream = true then terminateStreamJob
      else do
        put .job
        scheduleTerminalArchive
        updateAdmission
    else do
      let moved ← ask "processing event or tracked !== existing"
      putWhen moved .job

/-- `handleProviderEvent` of an event of the job that is stored -/
def handleProviderEvent (digest : String) : RecordHandler Unit := do
  let ours ← ask "event.assetId === existing.assetId"
  if ours = true then do
    let legacyExpired ← expireLegacyProfileJob
    if legacyExpired = true then return ()
    else do
      let expired ← ask "publicBetaDeadlineExpired(existing) && not ended"
      if expired = true then expireJob
      else do
        let terminal ← ask "existing is terminal"
        if terminal = true then return ()
        else do
          let readiness ← ask "isReadinessEvent(event, existing.state)"
          if readiness = true then do
            let published ← ask "existing.state === 'ONCHAIN_PUBLISHED'"
            if published = true then do
              updateAdmission
              transaction .ensureReconcile
            else acceptReadiness digest
          else recordProgress
  else return ()

/-- `handleLivepeerWebhook` -/
def handleLivepeerWebhook (digest : String) : RecordHandler Unit := do
  let existing ← read .job
  demand "parseWebhook" "webhook_invalid"
  if existing = true then handleProviderEvent digest else return ()

/-- `pollStreamUpload` -/
def pollStreamUpload (digest : String) : RecordHandler Unit := do
  let due ← ask "upload state && record.assetId"
  if due = true then do
    let ended ← ask "the upload URL, the asset or its route has ended"
    if ended = true then terminateStreamJob
    else do
      let ready ← ask "video.state === 'ready' && video.readyToStream"
      if ready = true then handleProviderEvent digest
      else do
        let tracked ← ask "tracked !== record || processing"
        putWhen tracked .job
        let stuck ← ask "stuck or lease expired"
        if stuck = true then terminateStreamJob
        else do
          let moved ← ask "moved !== tracked"
          putWhen moved .job
  else return ()

/-- The codes for which the next read is put off. -/
def isRetryCode (code : String) : Bool :=
  decide (code = "provider_unavailable" ∨ code = "near_finalize_pending" ∨
    code = "near_job_query_failed")

/-- `reconcileUpload` -/
def reconcileUpload (digest : String) : RecordHandler Unit := do
  let stream ← ask "jobProviderKind(record) === 'stream'"
  if stream = true then pollStreamUpload digest
  else do
    let due ← ask "public && record.absoluteDeadlineAtMs && record.assetId && upload state"
    if due = true then do
      let expired ← ask "publicBetaDeadlineExpired(record)"
      if expired = true then do
        put .job
        transaction (.persistResult false)
        updateAdmission
      else do
        let waiting ← ask "previous.nextReconcileAtMs > Date.now()"
        if waiting = true then return ()
        else do
          put .reconcile
          (do
            demand "identityMatches && asset.policy === 'jwt'" "provider_identity_mismatch"
            demand "asset.phase is known" "provider_state_invalid"
            let existing ← read .job
            runWhen existing (handleProviderEvent digest)
            demand "response.ok" "provider_unavailable"
            put .reconcile : RecordHandler Unit).rescue fun code => do
              -- `persistUnknownReconcile`
              putWhen (isRetryCode code) .reconcile
              transaction (.persistResult true)
              .raise code
    else return ()

/-- The outbox key of `enqueueSalesSuspension` -/
def suspensionKey (jobId : String) : String := jobId ++ ":suspend-sales"

/-- `tryProcessSalesSuspension`; a call that fails is left to the next alarm. -/
def tryProcessSalesSuspension (jobId : String) : RecordHandler Unit := do
  let allowed ← ask "operatorJobAllowed && job.generation === 1"
  if allowed = true then do
    let queued ← read (.outbox (suspensionKey jobId))
    if queued = true then
      (do
        let suspended ← ask "record.state !== 'CONFIRMED' && result.suspended === true"
        putWhen suspended (.outbox (suspensionKey jobId)) : RecordHandler Unit).rescue
          fun _ => return ()
    else return ()
  else return ()

/-- `enqueueSalesSuspension` -/
def enqueueSalesSuspension (jobId : String) : RecordHandler Unit := do
  let _ ← transaction (.enqueue (suspensionKey jobId) false)
  return ()

/-- `persistDriftReconcile` -/
def persistDriftReconcile (jobId : String) : RecordHandler Unit := do
  let confirmed ← ask "confirmed"
  let due ← ask "!salesSuspensionQueuedAtMs && operatorJobAllowed && job.generation === 1"
  runWhen (confirmed && due) (enqueueSalesSuspension jobId)
  runWhen confirmed (tryProcessSalesSuspension jobId)
  put .reconcile

/-- The verification of `reconcilePublishedJob`: it goes on, it is pending, it drifted or it is
unknown. -/
inductive ProviderView where
  | matching
  | pending
  | drifted
  | unknown

def viewProvider : RecordHandler ProviderView :=
  (do
    let verified ← verifyReadyProviderAsset
    if verified = true then do
      let same ← ask "canonicalJson(verified.publication) === canonicalJson(job.publication)"
      return if same = true then .matching else .drifted
    else return .pending : RecordHandler ProviderView).rescue fun _ => do
      let strong ← ask "STRONG_PROVIDER_DRIFT_CODES.has(code)"
      return if strong = true then .drifted else .unknown

/-- `reconcilePublishedJob` -/
def reconcilePublishedJob (jobId : String) : RecordHandler Unit := do
  tryProcessSalesSuspension jobId
  let provider ← viewProvider
  match provider with
  | .pending => return ()
  | .drifted => persistDriftReconcile jobId
  | .unknown => put .reconcile
  | .matching => do
      let drifted ← ask "near_publication_mismatch"
      if drifted = true then persistDriftReconcile jobId
      else put .reconcile

/-- `advanceTerminalArchive` -/
def advanceTerminalArchive : RecordHandler Unit := do
  let _ ← ask "commitUploadJobArchive"
  put .job

/-- `advanceAlarm` of an upload job object -/
def advanceAlarm (jobId digest : String) : RecordHandler Unit := do
  demand "requirePublicUploadPolicy" "runtime_not_configured"
  Handler.perform "storage_failed" .purgeNonces
  Handler.perform "storage_failed" .purgeWebhooks
  let job ← read .job
  if job = true then do
    let archiving ← ask "job.terminalArchive && job.terminalArchive.status !== 'COMMITTED'"
    if archiving = true then do
      let due ← ask "job.terminalArchive.nextAttemptAtMs <= Date.now()"
      if due = true then advanceTerminalArchive else return ()
    else do
      let enabled ← ask "LIVEPEER_BRIDGE_ENABLED"
      if enabled = true then do
        let legacyExpired ← expireLegacyProfileJob
        if legacyExpired = true then return ()
        else do
          let published ← ask "job.publication"
          if published = true then do
            let finalizing ← ask "finalizing && due"
            if finalizing = true then advanceFinalization
            else do
              let onchain ← ask "job.state === 'ONCHAIN_PUBLISHED'"
              if onchain = true then reconcilePublishedJob jobId else return ()
          else do
            let verifying ← ask "job.providerVerification && upload state"
            if verifying = true then handleProviderEvent digest else reconcileUpload digest
      else return ()
  else return ()

/-- A lease is asked for where the job has none that lasts. -/
def renewLease : RecordHandler Unit := do
  let due ← ask "record.state === 'AUTHORIZED' || record.leaseExpiresAtMs <= Date.now()"
  if due = true then do
    demand "requestAdmission" "admission_denied"
    put .job
  else return ()

/-- The creation of the upload at the provider. -/
def createUpload : RecordHandler Unit := do
  demand "['AUTHORIZED', 'LEASED'] && !publicBetaDeadlineExpired && mutations" "provider_create_pending"
  renewLease
  put .job
  let created ← ask "createUpload"
  if created = true then do
    put .job
    let expired ← ask "publicBetaDeadlineExpired(ready)"
    if expired = true then do
      let stream ← ask "jobProviderKind(ready) === 'stream'"
      if stream = true then do
        terminateStreamJob
        .raise "admission_denied"
      else do
        updateAdmission
        .raise "admission_denied"
    else updateAdmission
  else do
    put .job
    updateAdmission
    .raise "provider_create_ambiguous"

/-- The recovery `resume` of an intent. -/
def resumeUpload : RecordHandler Unit := do
  demand "public && record.assetId" "provider_recovery_not_ready"
  let ended ← ask "ended or uploaded"
  if ended = true then return ()
  else do
    demand "upload state && record.tusEndpoint" "provider_recovery_not_ready"
    let gone ← ask "the upload URL has ended"
    if gone = true then terminateStreamJob
    else do
      demand "source.lengthBytes === record.expectedSourceBytes" "provider_identity_mismatch"
      renewLease

/-- `reserveUploadIntent` -/
def reserveUploadIntent (deviceNonce : String) (recovery : Option String) (digest : String) :
    RecordHandler Unit := do
  demand "parseUploadIntentRequest && requireExactChainJob" "invalid_upload_intent"
  let _ ← transaction (.reserve deviceNonce recovery.isSome)
  if recovery = some "reconcile" then do
    reconcileUpload digest
    let uploading ← ask "['UPLOAD_READY', 'UPLOADING', 'PROCESSING'].includes(record.state)"
    if uploading = true then return () else transaction (.persistResult false)
  else if recovery = some "resume" then resumeUpload
  else do
    let reused ← ask "['UPLOAD_READY', 'UPLOADING'].includes(record.state)"
    if reused = true then renewLease else createUpload

/-- `heartbeatUploadLease` -/
def heartbeatUploadLease (deviceNonce : String) : RecordHandler Unit := do
  demand "parseUploadHeartbeatRequest && requireHeartbeatChainJob" "admission_denied"
  transaction (.takeNonce deviceNonce true)
  let renewed ← ask "heartbeatAdmissionLease"
  if renewed = true then put .job
  else do
    let stream ← ask "jobProviderKind(record) === 'stream'"
    if stream = true then do
      terminateStreamJob
      .raise "admission_denied"
    else do
      put .job
      scheduleTerminalArchive
      updateAdmission
      .raise "admission_denied"

/-- `cancelUpload` -/
def cancelUpload (deviceNonce : String) : RecordHandler Unit := do
  demand "parseUploadCancellationRequest && requireCancellationChainJob" "upload_cancel_denied"
  transaction (.cancelJob deviceNonce)
  scheduleTerminalArchive
  updateAdmission

/-- `issuePlaybackToken` -/
def issuePlaybackToken (deviceNonce : String) : RecordHandler Unit := do
  demand "job and reconcile record allow playback" "playback_denied"
  transaction (.takeNonce deviceNonce false)
  demand "readPlaybackAuthorization" "playback_denied"

/-- `deletePublicBetaAsset` -/
def deletePublicBetaAsset : RecordHandler Unit := do
  let existing ← read .job
  if existing = true then do
    let duplicate ← ask "record.providerDelete"
    if duplicate = true then return ()
    else do
      demand "takedown || expired" "provider_identity_mismatch"
      put .job
  else .raise "provider_identity_mismatch"

def program : JobCall → RecordHandler Unit
  | .intent deviceNonce recovery digest => reserveUploadIntent deviceNonce recovery digest
  | .heartbeat deviceNonce => heartbeatUploadLease deviceNonce
  | .cancel deviceNonce => cancelUpload deviceNonce
  | .playbackToken deviceNonce => issuePlaybackToken deviceNonce
  | .outbox idempotencyKey => do
      let _ ← transaction (.enqueue idempotencyKey true)
      return ()
  | .webhook digest => handleLivepeerWebhook digest
  | .deleteAsset => deletePublicBetaAsset
  | .alarm jobId digest => advanceAlarm jobId digest

/-- The calls that go through `operatorTail`, one at a time. -/
def JobCall.queued : JobCall → Bool
  | .playbackToken _ | .outbox _ | .deleteAsset => false
  | _ => true

def handle (call : JobCall) : RecordHandler Unit := do
  Handler.perform "storage_failed" (.begin call)
  program call

/-- Program `p` under the number of its call. -/
def numbered {α : Type} (n : Nat) (p : RecordHandler α) : Handler NumberedOp String α :=
  p.lift fun op => ⟨n, op⟩

/-- The calls of one upload job object. -/
def recordSystem : System JobObject RecordInput NumberedOp String Unit JobCall Empty where
  exec := exec
  handle := fun call =>
    .act ⟨0, .accept⟩ (fun n => numbered n (handle call)) (.raise "storage_failed")
  solo := JobCall.queued
  environment := fun e _ => nomatch e

/-- An object that stores nothing yet. -/
def emptyObject : JobObject := ⟨∅, 0, fun _ => []⟩

end Youtick.Bridge.Records
