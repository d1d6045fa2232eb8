import Youtick.Bridge.Job
import Youtick.Bridge.OperatorRequests

/-!
# Bridge: requests of the job object

Upload intents, heartbeats, cancellations, webhooks and alarms as programs over the operations of
the object. Cancellations and alarms always wait for each other (`operatorTail`); the other requests
join that queue only in the two public environments.
-/

set_option autoImplicit false

namespace Youtick.Bridge

open Youtick.Lib

abbrev JobHandler (α : Type) : Type 1 := Handler JobOp String α

/-- The configuration of a deployment. -/
structure JobEnv where
  publicTestnet : Bool
  publicBetaPacket : Bool
  marketV2 : Bool
  bridgeEnabled : Bool
  newUploadsEnabled : Bool
  providerMutationsEnabled : Bool
  archiveEnabled : Bool
  validConfig : MediaProviderKind → Bool
  operatorJobAllowed : String → String → Bool
  archivable : JobRecord → Bool
  streamStuckTimeoutMs : Option Nat
  sha256 : String → String

/-- Do the requests of an object wait for each other? -/
def JobEnv.serialized (env : JobEnv) : Bool := env.publicBetaPacket || env.publicTestnet

/-- What became of a provider event. -/
inductive EventOutcome where
  | ignored
  | terminal
  | expired
  | failed
  | rejected (code : String)
  | processing
  | duplicate
  | pending
  | reconcileTriggered
  | finalized (duplicate : Bool)
  | forwarded (status : Nat)

/-- `response.ok` -/
def EventOutcome.ok : EventOutcome → Bool
  | .forwarded status => 200 ≤ status && status < 300
  | _ => true

inductive JobAnswer where
  | reported (state : JobState)
  | upload (created : Bool)
  | lease
  | cancelled (duplicate : Bool)
  | event (outcome : EventOutcome)
  | settled

/-! ## Steps -/

def unavailable : String := "provider_unavailable"

/-- An operation whose answer may be an error code. -/
def ask {α : Type} (op : JobOp (Result α)) : JobHandler α := do
  match ← Handler.perform unavailable op with
  | .ok a => return a
  | .error code => .raise code

def dateNow : JobHandler Nat := Handler.perform storageError .now

/-- `storage.get(JOB_KEY)`, or the copy in hand. -/
def readJob (job : JobRecord) : JobHandler JobRecord := do
  let current ← Handler.perform storageError .get
  return current.getD job

/-- `storage.put(JOB_KEY, …)` of a record made from the copy `read`. -/
def writeJob (read written : JobRecord) : JobHandler Unit :=
  Handler.perform storageError (.put read written)

/-- `scheduleReconcile`, `ensureReconcileScheduled`, `scheduleAlarmNoLaterThan` -/
def schedule : JobHandler Unit := Handler.perform storageError .setAlarm

/-- `persistUploadVerificationResult` and the other writes of the reconcile record. -/
def persistReconcile : JobHandler Unit := do
  Handler.perform storageError .putReconcile
  schedule

def updateAdmission (record : JobRecord) (mark : AdmissionMark) : JobHandler Unit :=
  ask (.updateAdmission record mark)

def transitionJob (record : JobRecord) (state : JobState) : JobHandler JobRecord := do
  let nowMs ← dateNow
  match record.transition state nowMs with
  | .ok next => return next
  | .error code => .raise code

section Environment

variable (env : JobEnv)

/-! ## Ends of a job -/

/-- `scheduleTerminalArchive` -/
def scheduleTerminalArchive (job : JobRecord) : JobHandler Unit := do
  persistReconcile
  if env.archiveEnabled ∧ ∃ archive ∈ job.terminalArchive, archive.status ≠ .committed then schedule
  else return ()

/-- `deleteStreamUpload`: at most one deletion is asked for. -/
def deleteStreamUpload (job : JobRecord) : JobHandler JobRecord :=
  match job.assetId with
  | none => .done job
  | some assetId =>
    if job.kind ≠ .stream ∨ job.providerDelete.isSome ∨ env.providerMutationsEnabled = false then
      .done job
    else do
      let outcome ← (ask (.deleteAsset assetId)).rescue fun _ => .done .ambiguous
      let nowMs ← dateNow
      let record := { job with providerDelete := some ⟨env.sha256 assetId, outcome, nowMs⟩ }
      writeJob job record
      if outcome = .ambiguous then do
        let _ ← Handler.perform unavailable (.updateAdmission record .autoClosed)
        return record
      else return record

/-- `terminateStreamJob` -/
def terminateStreamJob (job : JobRecord) (toState : JobState) : JobHandler JobRecord := do
  let current ← readJob job
  let ended ← (
    if current.state.isEnded then .done current
    else do
      let record ← transitionJob current toState
      writeJob current record
      return record : JobHandler JobRecord)
  let record ← deleteStreamUpload env ended
  scheduleTerminalArchive env record
  updateAdmission record (.state record.state)
  return record

/-- The end of a job of either provider in `toState`. -/
def endJob (job : JobRecord) (toState : JobState) : JobHandler Unit :=
  if job.kind = .stream then do
    let _ ← terminateStreamJob env job toState
    return ()
  else do
    let ended ← transitionJob job toState
    writeJob job ended
    scheduleTerminalArchive env ended
    updateAdmission ended (.state toState)

/-- `expireJob` -/
def expireJob (job : JobRecord) : JobHandler EventOutcome := do
  endJob env job .uploadExpired
  return .expired

def legacyProfileId : String := "paid-media-livepeer-v1"

/-- `isLegacyProfileJobOnMarketV2` -/
def isLegacyProfileJob (job : JobRecord) : Bool :=
  env.marketV2 && job.identity.profileId == legacyProfileId

/-- `LEGACY_PROFILE_EXPIRABLE_STATES` -/
def legacyProfileExpirable (state : JobState) : Bool :=
  state.isEarly || state.isActive

/-- `expireLegacyProfileJob` -/
def expireLegacyProfileJob (job : JobRecord) : JobHandler (Option EventOutcome) :=
  if isLegacyProfileJob env job ∧ legacyProfileExpirable job.state then do
    let outcome ← expireJob env job
    return some outcome
  else .done none

/-! ## Finalization -/

/-- The record of a job that reached the chain, or waits for it. -/
def adoptFinalization (job : JobRecord) (state : JobState) : JobHandler Unit := do
  let record ← transitionJob { job with finalizeRetry := none } state
  writeJob job record
  updateAdmission record (.state state)
  schedule

/-- `settleLegacyProfileJob`: a publication that is final on chain is adopted, anything else
expires. -/
def settleLegacyProfileJob (job : JobRecord) : JobHandler EventOutcome := do
  let published ← (
    match job.publication with
    | none => .done (some false)
    | some publication =>
      (do let matched ← ask (.readPublication publication)
          return some matched : JobHandler (Option Bool)).rescue fun code =>
        if code ≠ "near_finalize_mismatch" then do
          schedule
          return none
        else .done (some false) : JobHandler (Option Bool))
  match published with
  | none => return .pending
  | some false => expireJob env job
  | some true =>
    adoptFinalization job .onchainPublished
    return .finalized false

/-- `advanceFinalization` -/
def advanceFinalization (job : JobRecord) (publication : FinalizePublication) :
    JobHandler EventOutcome := do
  let nowMs ← dateNow
  if job.deadlineExpired nowMs then expireJob env job
  else if isLegacyProfileJob env job then settleLegacyProfileJob env job
  else if env.operatorJobAllowed job.identity.jobId job.identity.creator = false ∨
      job.identity.generation ≠ 1 then return .ignored
  else do
    let reply ← ask (.forwardFinalize publication)
    if 200 ≤ reply.status ∧ reply.status < 300 then do
      adoptFinalization job (if reply.finalized then .onchainPublished else .finalizeQueued)
      return .forwarded reply.status
    else do
      let attempts :=
        min ((job.finalizeRetry.elim 0 FinalizeRetry.attempts) + 1) reconcileBackoffMs.length
      let nowMs ← dateNow
      let retry ← transitionJob job .finalizeRetry
      writeJob job { retry with
        finalizeRetry :=
          some ⟨attempts, reply.status, nowMs + (reconcileBackoffMs[attempts - 1]?).getD 0⟩ }
      schedule
      return .forwarded reply.status

/-! ## Verification -/

/-- The provider is asked, and what it answers is stored. -/
def probeAsset (job : JobRecord) (mode : VerificationMode) :
    JobHandler (Option VerifiedAsset) := do
  let verification ← ask (.verifyAsset job mode)
  ask (.storeVerification job verification)
  match verification with
  | .pending _ => do
      schedule
      return none
  | .verified asset => return some asset

/-- `verifyReadyProviderAsset`: nothing while the verification goes on. -/
def verifyReadyProviderAsset (job : JobRecord) (mode : VerificationMode) :
    JobHandler (Option VerifiedAsset) :=
  if env.validConfig job.kind = false ∨ job.assetId = none ∨ job.playbackId = none ∨
      job.projectId = none then
    .raise "runtime_not_configured"
  else do
    let nowMs ← dateNow
    if job.state ≠ .onchainPublished ∧ job.deadlineExpired nowMs then
      .raise "provider_verification_incomplete"
    else
      (probeAsset job mode).rescue fun code =>
        if code = unavailable then .raise code
        else do
          Handler.perform storageError .dropCheckpoint
          .raise code

/-- The verification of a webhook whose marker was just stored: an answer while it goes on, or the
verified record. -/
def verifyClaimed (event : ProviderEvent) (existing : JobRecord) :
    JobHandler (EventOutcome ⊕ JobRecord) := do
  match ← verifyReadyProviderAsset env existing .ready with
  | none =>
    Handler.perform storageError (.deleteMarker event.digest)
    return .inl .processing
  | some asset =>
    let verified ← transitionJob { existing with
      tusEndpoint := none
      providerVerification := none } .readyVerified
    let record := { verified with
      publication := some (existing.publicationOf asset)
      sourceBytesEvidence := asset.sourceBytesEvidence <|> verified.sourceBytesEvidence }
    writeJob existing record
    persistReconcile
    updateAdmission record (.state .readyVerified)
    Handler.perform storageError (.settleMarker event.digest)
    return .inr record

/-- The `catch` around it. -/
def abandonClaim (event : ProviderEvent) (existing : JobRecord) (code : String) :
    JobHandler (EventOutcome ⊕ JobRecord) := do
  Handler.perform storageError (.deleteMarker event.digest)
  persistReconcile
  if existing.kind = .stream ∧
      (code = "provider_tus_state_invalid" ∨ code = "provider_tus_url_expired") then do
    let _ ← terminateStreamJob env existing
      (if code = "provider_tus_url_expired" then .uploadExpired else .providerFailed)
    return .inl (.rejected code)
  else .raise code

/-- What a webhook does once its job is verified. -/
def finishEvent (record : JobRecord) (seen : Bool) : JobHandler EventOutcome :=
  if record.state = .onchainPublished then do
    updateAdmission record (.state .onchainPublished)
    schedule
    return .finalized seen
  else
    match record.publication with
    | none => .raise "provider_state_invalid"
    | some publication => advanceFinalization env record publication

/-- A readiness event: its marker is stored before the verification and settled after it. -/
def verifyEvent (event : ProviderEvent) (existing : JobRecord) : JobHandler EventOutcome := do
  let seen ← Handler.perform storageError (.claimMarker event.digest)
  if seen then do
    let record ← readJob existing
    if record.state.isActive then return .duplicate
    else finishEvent env record true
  else do
    match ← (verifyClaimed env event existing).rescue (abandonClaim env event existing) with
    | .inl outcome => return outcome
    | .inr record => finishEvent env record false

/-! ## Provider events -/

/-- An event that is not a readiness event. -/
def handleProgress (event : ProviderEvent) (existing : JobRecord) : JobHandler EventOutcome :=
  if existing.state = .onchainPublished then do
    schedule
    return .reconcileTriggered
  else if event.isFailure ∧ (existing.state.isActive ∨ existing.state.isFinalizing ∨
      existing.state = .providerFailed) then do
    endJob env existing .providerFailed
    return .failed
  else do
    let nowMs ← dateNow
    let tracked := existing.trackStreamProgress event.streamProgress nowMs
    if (existing.state = .uploadReady ∨ existing.state = .uploading) ∧ event.isProcessing then do
      let processing ← transitionJob tracked .processing
      writeJob existing processing
      return .processing
    else if tracked ≠ existing then do
      writeJob existing tracked
      return .ignored
    else return .ignored

/-- An event of a job that did not end. -/
def handleLiveEvent (event : ProviderEvent) (existing : JobRecord) : JobHandler EventOutcome := do
  let nowMs ← dateNow
  if existing.deadlineExpired nowMs ∧ existing.state.isEnded = false ∧
      existing.state ≠ .onchainPublished then
    expireJob env existing
  else if existing.state.isEnded then return .terminal
  else if existing.state = .onchainPublished ∧ event.isReadiness existing.state then do
    updateAdmission existing (.state .onchainPublished)
    schedule
    return .finalized true
  else if event.isReadiness existing.state = false then handleProgress env event existing
  else if existing.publication.isSome ∧ existing.state.isFinalizing ∧
      isLegacyProfileJob env existing then
    settleLegacyProfileJob env existing
  else if existing.publication.isSome ∧ existing.state.isFinalizing ∧ existing.kind = .stream then
    return .duplicate
  else verifyEvent env event existing

/-- `handleProviderEvent` -/
def handleProviderEvent (event : Option ProviderEvent) (existing : Option JobRecord) :
    JobHandler EventOutcome :=
  match event, existing with
  | some event, some existing =>
    if existing.assetId ≠ some event.assetId ∨ event.provider ≠ existing.kind then .done .ignored
    else do
      match ← expireLegacyProfileJob env existing with
      | some outcome => return outcome
      | none => handleLiveEvent env event existing
  | _, _ => .done .ignored

/-- `synthesizedProviderEvent` -/
def synthesizedProviderEvent (provider : MediaProviderKind) (failed : Bool) (assetId phase : String)
    (nowMs : Nat) : ProviderEvent where
  provider := provider
  kind := if failed then .failed else .processing
  assetId := assetId
  phase := phase
  failureCode := none
  streamProgress := none
  digest := env.sha256 ("\n".intercalate ["youtick.synthesized-provider-event.v1",
    (match provider with | .studio => "studio" | .stream => "stream"),
    (if failed then "failed" else "processing"), toString nowMs, assetId, phase])

/-! ## Reading the provider -/

def streamTusUrlLifetimeMs : Nat := 24 * 60 * 60 * 1000

def streamDefaultStuckTimeoutMs : Nat := 15 * 60 * 1000

/-- When the upload of a job was created. -/
def uploadCreatedAtMs (record : JobRecord) : Nat :=
  (record.providerCreate.bind ProviderCreate.completedAtMs).getD record.createdAtMs

/-- The name of a Stream state. -/
def StreamVideoState.name : StreamVideoState → String
  | .pendingupload => "pendingupload"
  | .downloading => "downloading"
  | .queued => "queued"
  | .inprogress => "inprogress"
  | .ready => "ready"
  | .error => "error"
  | .other state => state

/-- A video whose progress stands still: one more read decides. -/
def confirmStuck (tracked : JobRecord) (assetId : String) (video : StreamVideo) :
    JobHandler Unit := do
  let confirm ← (do
    let again ← ask (.readVideo assetId)
    return some again : JobHandler (Option StreamVideo)).rescue fun _ => .done none
  match confirm with
  | none => schedule
  | some again =>
    if again.state = video.state ∧ again.pctComplete.getD 0 = video.pctComplete.getD 0 then do
      let _ ← terminateStreamJob env tracked .providerFailed
      return ()
    else do
      let nowMs ← dateNow
      let moved :=
        tracked.trackStreamProgress (some (again.state.name, again.pctComplete.getD 0)) nowMs
      if moved ≠ tracked then do
        writeJob tracked moved
        schedule
      else schedule

/-- What a poll does with a video that is neither failed nor ready. -/
def trackVideo (record : JobRecord) (assetId : String) (video : StreamVideo) (nowMs : Nat) :
    JobHandler Unit := do
  let tracked :=
    record.trackStreamProgress (some (video.state.name, video.pctComplete.getD 0)) nowMs
  if video.state = .queued ∨ video.state = .inprogress ∨ video.state = .downloading then
    if record.state ≠ .processing then do
      let processing ← transitionJob tracked .processing
      writeJob record processing
      schedule
    else do
      (if tracked ≠ record then writeJob record tracked else .done () : JobHandler Unit)
      let lastProgressAtMs := (tracked.streamProgress.map StreamProgress.changedAtMs).getD
        (tracked.stateChangedAtMs.getD nowMs)
      if lastProgressAtMs + env.streamStuckTimeoutMs.getD streamDefaultStuckTimeoutMs < nowMs then
        confirmStuck env tracked assetId video
      else schedule
  else do
    (if tracked ≠ record then writeJob record tracked else .done () : JobHandler Unit)
    if video.state = .pendingupload ∧ ∃ expiresAtMs ∈ record.leaseExpiresAtMs, expiresAtMs ≤ nowMs
    then do
      let _ ← terminateStreamJob env record .uploadExpired
      return ()
    else schedule

/-- `pollStreamUpload` -/
def pollStreamUpload (record : JobRecord) : JobHandler Unit :=
  match record.assetId with
  | none => .done ()
  | some assetId =>
    if record.state.isActive = false then .done ()
    else do
      let nowMs ← dateNow
      if uploadCreatedAtMs record + streamTusUrlLifetimeMs ≤ nowMs then do
        let _ ← terminateStreamJob env record .uploadExpired
        return ()
      else do
        let video ← (do
          let video ← ask (.readVideo assetId)
          return .ok video : JobHandler (Result StreamVideo)).rescue fun code =>
            .done (.error code)
        match video with
        | .error code =>
          if code = "provider_asset_missing" then do
            let _ ← terminateStreamJob env record .providerFailed
            return ()
          else schedule
        | .ok video =>
          if video.uid ≠ assetId ∨
              video.route ≠ some (record.identity.jobId, record.identity.generation) then do
            let _ ← terminateStreamJob env record .providerFailed
            return ()
          else if video.state = .error then do
            let _ ← terminateStreamJob env record .providerFailed
            return ()
          else if video.state = .ready ∧ video.readyToStream then do
            let _ ← handleProviderEvent env
              (some (synthesizedProviderEvent env .stream false assetId "ready" nowMs))
              (some record)
            let after ← Handler.perform storageError .get
            if ∃ job ∈ after, job.state.isActive ∧ job.providerVerification = none then schedule
            else return ()
          else trackVideo env record assetId video nowMs

/-- The read of a Studio asset, and what follows from it. -/
def readStudioAsset (record : JobRecord) (assetId : String) : JobHandler Unit := do
  let asset ← ask (.readAsset assetId)
  if asset.identityMatches = false then .raise "provider_identity_mismatch"
  else if asset.phase ≠ "waiting" ∧ asset.phase ≠ "processing" ∧ asset.phase ≠ "ready" ∧
      asset.phase ≠ "failed" then .raise "provider_state_invalid"
  else do
    let nowMs ← dateNow
    let existing ← Handler.perform storageError .get
    let outcome ← handleProviderEvent env
      (some (synthesizedProviderEvent env record.kind (asset.phase == "failed") asset.id asset.phase
        nowMs)) existing
    if outcome.ok = false then .raise unavailable
    else do
      let _ ← Handler.perform storageError .get
      persistReconcile

/-- `reconcileUpload` -/
def reconcileUpload (record : JobRecord) : JobHandler Unit :=
  if record.kind = .stream then pollStreamUpload env record
  else
    match record.assetId, record.absoluteDeadlineAtMs with
    | some assetId, some _ =>
      if env.serialized = false ∨ record.state.isActive = false then .done ()
      else do
        let nowMs ← dateNow
        if record.deadlineExpired nowMs then do
          let expired ← transitionJob record .uploadExpired
          writeJob record expired
          persistReconcile
          updateAdmission expired (.state .uploadExpired)
        else do
          let previous ← Handler.perform storageError .readReconcile
          if ∃ view ∈ previous, nowMs < view.nextReconcileAtMs then schedule
          else do
            persistReconcile
            (readStudioAsset env record assetId).rescue fun code => do
              persistReconcile
              .raise code
    | _, _ => .done ()

/-! ## Upload intents -/

def reportJob (record : JobRecord) : JobHandler JobAnswer := .done (.reported record.state)

/-- The recovery that reads the provider and reports. -/
def reconcileIntent (opened : JobRecord) : JobHandler JobAnswer := do
  reconcileUpload env opened
  let record ← readJob opened
  if record.state.isActive = false then do
    persistReconcile
    reportJob record
  else
    match ← Handler.perform storageError .readReconcile with
    | none => reportJob record
    | some view =>
      if view.uploadReadFailed then .raise (view.uploadErrorCode.getD unavailable)
      else reportJob record

/-- A lease for the rest of an upload: the one the record has, or a new one. -/
def renewLease (record : JobRecord) : JobHandler JobRecord := do
  let nowMs ← dateNow
  if record.leaseExpired nowMs then do
    let lease ← ask (.requestAdmission record)
    let renewed := record.withLease lease
    writeJob record renewed
    return renewed
  else return record

/-- The lease before an upload is created. -/
def leaseJob (record : JobRecord) : JobHandler JobRecord :=
  if record.state = .authorized then do
    (if record.kind = .stream then ask .readStreamStorage else .done () : JobHandler Unit)
    let lease ← ask (.requestAdmission record)
    let leased ← transitionJob record .leased
    let leased := leased.withLease lease
    writeJob record leased
    return leased
  else renewLease record

/-- What is recorded of a creation that failed with `error`. -/
def createErrorCode (error : String) : String :=
  if error = "provider_admission_closed" then error
  else if error = unavailable then error
  else "provider_create_ambiguous"

/-- The `catch` around `createUpload`. -/
def failCreate (pending : JobRecord) (error : String) : JobHandler JobAnswer := do
  let errorCode := createErrorCode error
  let ambiguous ← transitionJob pending .createAmbiguous
  let nowMs ← dateNow
  let ambiguous := { ambiguous with
    providerCreate := pending.providerCreate.map fun create =>
      { create with
        lastErrorCode := some errorCode
        ambiguousAtMs := some nowMs } }
  writeJob pending ambiguous
  updateAdmission ambiguous
    (if errorCode = unavailable then .providerUnavailable else .state .createAmbiguous)
  if errorCode = "provider_admission_closed" then do
    updateAdmission pending .autoClosed
    .raise "provider_create_ambiguous"
  else .raise "provider_create_ambiguous"

/-- The record of a created upload. -/
def JobRecord.withUpload (record : JobRecord) (created : CreatedUpload) (nowMs : Nat) :
    JobRecord :=
  { record with
    assetId := some created.assetId
    playbackId := some created.playbackId
    projectId := some created.projectId
    tusEndpoint := some created.tusEndpoint
    providerCreate := record.providerCreate.map fun create =>
      { create with completedAtMs := some nowMs } }

/-- What follows a created upload. -/
def openUpload (pending : JobRecord) (created : CreatedUpload) : JobHandler JobAnswer := do
  let opened ← transitionJob pending .uploadReady
  let nowMs ← dateNow
  let ready := opened.withUpload created nowMs
  if ready.deadlineExpired nowMs then
    if ready.kind = .stream then do
      writeJob pending ready
      let _ ← terminateStreamJob env ready .uploadExpired
      .raise "admission_denied"
    else do
      let expired ← transitionJob ready .uploadExpired
      writeJob pending expired
      updateAdmission expired (.state .uploadExpired)
      .raise "admission_denied"
  else do
    writeJob pending ready
    updateAdmission ready (.state .uploadReady)
    schedule
    return .upload true

/-- The record is marked before the provider is asked. -/
def createUpload (leased : JobRecord) : JobHandler JobAnswer := do
  let nowMs ← dateNow
  let pending ← transitionJob leased .providerCreatePending
  let pending := { pending with providerCreate := some ⟨nowMs, none, none, none⟩ }
  writeJob leased pending
  let created ← (do
    let created ← ask (.createUpload pending)
    return .ok created : JobHandler (Result CreatedUpload)).rescue fun code => .done (.error code)
  match created with
  | .error error => failCreate pending error
  | .ok created => openUpload env pending created

/-- What an intent does with the record it opened. -/
def continueUpload (record : JobRecord) : JobHandler JobAnswer :=
  if record.state = .uploadReady ∨ record.state = .uploading then do
    let _ ← renewLease record
    return .upload false
  else if record.state.isOpen = false then
    .raise (if record.state = .createPending ∨ record.state = .providerCreatePending then
      "provider_create_pending" else "provider_create_ambiguous")
  else do
    let nowMs ← dateNow
    if record.deadlineExpired nowMs then .raise "admission_denied"
    else if env.providerMutationsEnabled = false then .raise "provider_mutations_disabled"
    else do
      let leased ← leaseJob record
      createUpload env leased

/-- The recovery that goes on with an upload: its resumable source must still be there. -/
def resumeIntent (record : JobRecord) : JobHandler JobAnswer :=
  match record.assetId with
  | none => .raise "provider_recovery_not_ready"
  | some _ =>
    if env.publicTestnet = false then .raise "provider_recovery_not_ready"
    else if record.state = .processing ∨ record.state.isFinalizing ∨
        record.state = .onchainPublished ∨ record.state = .providerFailed ∨
        record.state = .uploadExpired then reportJob record
    else
      match record.tusEndpoint with
      | none => .raise "provider_recovery_not_ready"
      | some tusEndpoint =>
        if ¬ (record.state = .uploadReady ∨ record.state = .uploading) then
          .raise "provider_recovery_not_ready"
        else do
          let nowMs ← dateNow
          if record.kind = .stream ∧
              uploadCreatedAtMs record + streamTusUrlLifetimeMs ≤ nowMs then do
            let ended ← terminateStreamJob env record .uploadExpired
            reportJob ended
          else do
            let length ← (ask (.readTusLength tusEndpoint)).rescue fun code =>
              if code = "provider_tus_state_invalid" then .raise "provider_recovery_not_ready"
              else if code = "provider_tus_url_expired" ∧ record.kind = .stream then do
                let _ ← terminateStreamJob env record .uploadExpired
                .raise code
              else .raise code
            if length ≠ record.identity.expectedSourceBytes then
              .raise "provider_identity_mismatch"
            else continueUpload env record

/-- `reserveUploadIntent` -/
def reserveUploadIntent (intent : UploadIntent) : JobHandler JobAnswer := do
  ask .preflight
  let nowMs ← dateNow
  let (record, _) ← ask (.reserve env.newUploadsEnabled intent (intent.jobRecord nowMs))
  schedule
  match intent.recovery with
  | some .reconcile => reconcileIntent env record
  | some .resume => resumeIntent env record
  | none => continueUpload env record

/-! ## Heartbeats and cancellations -/

/-- `heartbeatUploadLease` -/
def heartbeatUploadLease (heartbeat : UploadHeartbeat) : JobHandler JobAnswer := do
  ask .preflight
  let record ← ask (.openHeartbeat heartbeat)
  schedule
  let lease ← (ask (.heartbeatAdmission record)).rescue fun code =>
    if code = "admission_denied" then do
      endJob env record .uploadExpired
      .raise code
    else .raise code
  let uploading ← transitionJob record .uploading
  writeJob record (uploading.withLease lease)
  return .lease

/-- `cancelUpload` -/
def cancelUpload (cancellation : UploadCancellation) : JobHandler JobAnswer := do
  ask .preflight
  let (record, duplicate) ← ask (.cancel cancellation)
  schedule
  scheduleTerminalArchive env record
  if record.leaseId.isSome then do
    updateAdmission record (.state .cancelled)
    return .cancelled duplicate
  else return .cancelled duplicate

/-! ## Webhooks -/

/-- A delivered webhook: the adapter its ingress names, and what each adapter makes of its body. -/
structure WebhookDelivery where
  provider : Option MediaProviderKind
  parse : MediaProviderKind → Result (Option ProviderEvent)

/-- `handleLivepeerWebhook` -/
def handleLivepeerWebhook (delivery : WebhookDelivery) : JobHandler JobAnswer := do
  let existing ← Handler.perform storageError .get
  let kind := delivery.provider.getD ((existing.map JobRecord.kind).getD .studio)
  match delivery.parse kind with
  | .error code => .raise code
  | .ok event => do
      let outcome ← handleProviderEvent env event existing
      return .event outcome

/-! ## Alarms -/

/-- `advanceTerminalArchive` -/
def advanceTerminalArchive (job : JobRecord) (archive : RecordArchive) : JobHandler Unit := do
  let attempts := min (archive.attempts + 1) reconcileBackoffMs.length
  (do
    (if env.archivable job = false ∨ job.state.isEnded = false then
      .raise "upload_archive_unavailable" else .done () : JobHandler Unit)
    let archiveSha256 ← ask (.commitArchive job)
    let nowMs ← dateNow
    writeJob job { job with
      terminalArchive := some { archive with
        status := .committed
        attempts := attempts
        archiveSha256 := some archiveSha256
        committedAtMs := some nowMs
        cleanupEligibleAtMs := job.terminalAtMs.map (· + outboxRetentionMs) } }
    : JobHandler Unit).rescue fun _ => do
      let nowMs ← dateNow
      writeJob job { job with
        terminalArchive := some { archive with
          status := .retry
          attempts := attempts
          nextAttemptAtMs := nowMs + (reconcileBackoffMs[attempts - 1]?).getD 0 } }
      schedule

/-- `reconcilePublishedJob`: what it finds goes to the reconcile record. -/
def reconcilePublishedJob (job : JobRecord) : JobHandler Unit := do
  ask .preflight
  (do
    match ← verifyReadyProviderAsset env job .published with
    | none => return ()
    | some asset => do
        if some (job.publicationOf asset) = job.publication then do
          ask .preflight
          persistReconcile
        else persistReconcile : JobHandler Unit).rescue fun _ => persistReconcile

/-- What an alarm does with the job once its archive is settled. -/
def advanceJob (job : JobRecord) : JobHandler Unit :=
  if env.bridgeEnabled = false then schedule
  else do
    match ← expireLegacyProfileJob env job with
    | some _ => return ()
    | none =>
      match job.publication with
      | none =>
        match job.providerVerification, job.assetId with
        | some _, some assetId =>
          if job.state.isActive then do
            let nowMs ← dateNow
            let existing ← Handler.perform storageError .get
            let _ ← handleProviderEvent env
              (some (synthesizedProviderEvent env job.kind false assetId "ready" nowMs))
              existing
            return ()
          else reconcileUpload env job
        | _, _ => reconcileUpload env job
      | some publication => do
          let nowMs ← dateNow
          if job.state = .finalizeRetry ∧
              ∃ retry ∈ job.finalizeRetry, nowMs < retry.nextAttemptAtMs then schedule
          else if job.state.isFinalizing then do
            let _ ← advanceFinalization env job publication
            return ()
          else if job.state = .onchainPublished then reconcilePublishedJob env job
          else return ()

/-- `advanceAlarm` -/
def advanceAlarm : JobHandler JobAnswer := do
  (if env.publicTestnet then ask .preflight else .done () : JobHandler Unit)
  Handler.perform storageError .purgeNonces
  Handler.perform storageError .purgeMarkers
  match ← Handler.perform storageError .get with
  | none => return .settled
  | some job =>
    match job.terminalArchive with
    | none => do
        advanceJob env job
        return .settled
    | some archive =>
      if archive.status = .committed ∨ env.archiveEnabled = false then do
        advanceJob env job
        return .settled
      else do
        let nowMs ← dateNow
        if nowMs < archive.nextAttemptAtMs then schedule
        else advanceTerminalArchive env job archive
        return .settled

/-! ## The object as a system -/

inductive JobRequest where
  | intent (intent : UploadIntent)
  | heartbeat (heartbeat : UploadHeartbeat)
  | cancellation (cancellation : UploadCancellation)
  | webhook (delivery : WebhookDelivery)
  | alarm

/-- The program of a request. -/
def JobRequest.program : JobRequest → JobHandler JobAnswer
  | .intent request => reserveUploadIntent env request
  | .heartbeat request => heartbeatUploadLease env request
  | .cancellation request => cancelUpload env request
  | .webhook delivery => handleLivepeerWebhook env delivery
  | .alarm => advanceAlarm env

/-- Requests that wait in `operatorTail`. -/
def JobRequest.queued : JobRequest → Bool
  | .cancellation _ => true
  | .alarm => true
  | _ => env.serialized

def jobSystem : System JobObject JobInput JobOp String JobAnswer JobRequest Empty where
  exec := JobOp.exec
  handle := JobRequest.program env
  solo := JobRequest.queued env
  environment := fun e _ => nomatch e

end Environment

end Youtick.Bridge
