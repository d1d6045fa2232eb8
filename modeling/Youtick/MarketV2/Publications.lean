import Youtick.MarketV2.Guards

/-!
# Market V2: publications

Finalising a job into a publication, suspending its sales, taking it down, and the paged view of
the publication index.
-/

set_option autoImplicit false

namespace Youtick.MarketV2

open Youtick.Lib

/-! ## Finalisation -/

def publicationMatches (publication : Publication) (submission : PublicationSubmission) : Prop :=
  publication.generation = submission.generation ∧
    publication.creatorId = submission.creatorId ∧
    publication.expectedSourceBytes = submission.expectedSourceBytes ∧
    publication.profileId = submission.profileId ∧
    publication.profileConfigSha256 = submission.profileConfigSha256 ∧
    publication.assetIdHash = submission.assetIdHash ∧
    publication.playbackId = submission.playbackId ∧
    publication.projectIdHash = submission.projectIdHash ∧
    publication.verifiedSourceBytes = submission.verifiedSourceBytes ∧
    publication.providerSourceFingerprint = submission.providerSourceFingerprint ∧
    publication.readyAtMs = submission.readyAtMs ∧
    publication.publishedAvailability = submission.availability

instance (publication : Publication) (submission : PublicationSubmission) :
    Decidable (publicationMatches publication submission) := by
  unfold publicationMatches
  infer_instance

def jobForGeneration (s : Contract) (jobId : String) (generation : Nat) : Result MediaJob := do
  let job ← expect (s.mediaJobs.get jobId) "Media job not found"
  require (job.generation = generation) "Media job generation mismatch"
  return job

/-- An identity may be unbound or already bound to the same job. -/
def bindIdentity (bindings : LookupMap String String) (identity jobId label : String) :
    Result PUnit.{1} :=
  match bindings.get identity with
  | some existing => require (existing = jobId) (label ++ " is already bound")
  | none => .ok ⟨⟩

/-- The argument checks of `finalize_publication`, up to the replay test. -/
def assertSubmission (env : Env) (s : Contract) (submission : PublicationSubmission) :
    Result MediaJob := do
  assertBridge env s
  require (submission.availability = .active) "Initial publication availability must be active"
  assertProfile submission.profileId submission.profileConfigSha256
  assertSha256 "asset_id_hash" submission.assetIdHash
  assertPlaybackId submission.playbackId
  assertSha256 "project_id_hash" submission.projectIdHash
  checkSome submission.providerSourceFingerprint (assertSha256 "provider_source_fingerprint")
  require (submission.readyAtMs > 0) "ready_at_ms must be positive"
  let job ← jobForGeneration s submission.jobId submission.generation
  require (job.creatorId = submission.creatorId) "Media job creator mismatch"
  require (job.expectedSourceBytes = submission.expectedSourceBytes) "Expected source byte mismatch"
  require (submission.verifiedSourceBytes = submission.expectedSourceBytes)
    "Verified source byte mismatch"
  require (job.profileId = submission.profileId) "Media job profile mismatch"
  require (job.profileConfigSha256 = submission.profileConfigSha256)
    "Media job profile configuration mismatch"
  return job

/-- The deadline checks a first finalisation passes under the public upload and the public beta. -/
def assertFinalizeDeadlines (env : Env) (s : Contract) (job : MediaJob) : Result PUnit.{1} := do
  checkWhen (s.publicUploadPolicy ≠ none) do
    let deadline ← requirePublicUploadJob job
    require (env.blockTimestampMs < deadline) "Public upload deadline expired"
  checkWhen (s.publicTestnetBeta ≠ none) do
    require ((activePublicTestnetBeta env s).isSome = true) "Public beta is not active"
    let marker ← requirePublicTestnetBetaJob s job
    require (env.blockTimestampMs ≤ marker.deadlineAtMs) "Public beta job deadline expired"

/-- The publication a submission creates for its job. -/
def publicationOf (env : Env) (job : MediaJob) (submission : PublicationSubmission) :
    Publication where
  publicationId := submission.jobId
  creatorId := submission.creatorId
  title := job.title
  priceUsdc := job.priceUsdc
  generation := submission.generation
  expectedSourceBytes := submission.expectedSourceBytes
  profileId := submission.profileId
  profileConfigSha256 := submission.profileConfigSha256
  assetIdHash := submission.assetIdHash
  playbackId := submission.playbackId
  projectIdHash := submission.projectIdHash
  verifiedSourceBytes := submission.verifiedSourceBytes
  providerSourceFingerprint := submission.providerSourceFingerprint
  readyAtMs := submission.readyAtMs
  publishedAvailability := submission.availability
  availability := submission.availability
  publishedAtMs := env.blockTimestampMs

/-- The catalogue after a first finalisation. -/
def Catalog.finalized (catalog : Catalog) (job : MediaJob) (publication : Publication) :
    Catalog where
  mediaJobs := catalog.mediaJobs.insert publication.publicationId
    { job with status := .published, publishedAtMs := some publication.publishedAtMs }
  publications := catalog.publications.insert publication.publicationId publication
  assetBindings := catalog.assetBindings.insert publication.assetIdHash publication.publicationId
  playbackBindings :=
    catalog.playbackBindings.insert publication.playbackId publication.publicationId
  takedowns := catalog.takedowns
  publicationIds := catalog.publicationIds.insert catalog.publicationCount publication.publicationId
  publicationCount := catalog.publicationCount + 1

def finalizePublication (env : Env) (s : Contract) (submission : PublicationSubmission) :
    Result (Outcome Publication) := do
  let job ← assertSubmission env s submission
  match s.publications.get submission.jobId with
  | some existing =>
    require (publicationMatches existing submission) "Conflicting finalize request"
    return { state := s, value := existing }
  | none =>
    assertFinalizeDeadlines env s job
    bindIdentity s.assetBindings submission.assetIdHash submission.jobId "asset_id_hash"
    bindIdentity s.playbackBindings submission.playbackId submission.jobId "playback_id"
    let publication := publicationOf env job submission
    let _nextCount ← checkedAdd 64 s.publicationCount 1 "Publication count overflow"
    let state := { s with toCatalog := s.toCatalog.finalized job publication }
    checkWhen (s.publicTestnetBeta ≠ none)
      (assertRunway env state publicTestnetBetaEmergencyRunwayBytes)
    return {
      state := state
      value := publication
      events := [emitMarketEvent env "publication_finalized"
        ("publication:" ++ publication.publicationId ++ ":" ++ decimal publication.generation ++
          ":finalized")
        [("account_id", .str publication.creatorId),
         ("publication_id", .str publication.publicationId),
         ("job_id", .str submission.jobId),
         ("generation", .num publication.generation),
         ("title", .str publication.title),
         ("playback_id", .str publication.playbackId),
         ("published_at_ms", .num publication.publishedAtMs),
         ("asset", .str "USDC"),
         ("amount", .dec publication.priceUsdc),
         ("availability", .str publication.availability.name)]] }

/-! ## Availability -/

def suspendSales (env : Env) (s : Contract) (publicationId : String) :
    Result (Outcome Publication) := do
  assertBridge env s
  let publication ← expect (s.publications.get publicationId) "Publication not found"
  checkWhen ((activePublicTestnetBeta env s).isSome = true) do
    let job ← expect (s.mediaJobs.get publicationId) "Media job not found"
    let _marker ← requirePublicTestnetBetaJob s job
    return ⟨⟩
  require (publication.availability ≠ .takedown)
    "Takedown publication cannot change through sales suspension"
  if publication.availability = .salesSuspended then
    return { state := s, value := publication }
  else
    let suspended := { publication with availability := .salesSuspended }
    return {
      state := { s with publications := s.publications.insert publicationId suspended }
      value := suspended
      events := [emitMarketEvent env "publication_sales_suspended"
        ("publication:" ++ publicationId ++ ":sales-suspended")
        [("account_id", .str suspended.creatorId),
         ("publication_id", .str publicationId),
         ("generation", .num suspended.generation),
         ("availability", .str suspended.availability.name)]] }

def takedownReasons : List String :=
  ["PUBLIC_MEDIA_EXPOSURE", "LEGAL_REQUIREMENT", "KEY_COMPROMISE", "GOVERNANCE_DECISION"]

def takedownPublication (env : Env) (s : Contract)
    (publicationId reasonCode incidentId evidenceSha256 : String) (effectiveAtMs : Nat) :
    Result (Outcome Publication) := do
  assertTakedownAuthority env s
  require (reasonCode ∈ takedownReasons) "Unsupported takedown reason"
  assertIdentifier "incident_id" incidentId
  assertSha256 "evidence_sha256" evidenceSha256
  require (effectiveAtMs > 0 ∧ effectiveAtMs ≤ env.blockTimestampMs)
    "Takedown effective time must have arrived"
  let publication ← expect (s.publications.get publicationId) "Publication not found"
  if publication.availability = .takedown then
    let existing ← expect (s.takedowns.get publicationId) "Takedown record missing"
    require (existing.reasonCode = reasonCode ∧ existing.incidentId = incidentId ∧
        existing.evidenceSha256 = evidenceSha256 ∧ existing.effectiveAtMs = effectiveAtMs)
      "Conflicting takedown request"
    return { state := s, value := publication }
  else
    require (publication.availability = .active ∨ publication.availability = .salesSuspended)
      "Publication cannot transition to takedown"
    let record : TakedownRecord := {
      publicationId := publicationId
      reasonCode := reasonCode
      incidentId := incidentId
      evidenceSha256 := evidenceSha256
      effectiveAtMs := effectiveAtMs
      recordedAtMs := env.blockTimestampMs }
    let takenDown := { publication with availability := .takedown }
    return {
      state := { s with
        publications := s.publications.insert publicationId takenDown
        takedowns := s.takedowns.insert publicationId record }
      value := takenDown
      events := [emitMarketEvent env "publication_takedown"
        ("publication:" ++ publicationId ++ ":takedown:" ++ record.incidentId)
        [("account_id", .str takenDown.creatorId),
         ("publication_id", .str publicationId),
         ("generation", .num takenDown.generation),
         ("reason_code", .str record.reasonCode),
         ("incident_id", .str record.incidentId),
         ("evidence_sha256", .str record.evidenceSha256),
         ("effective_at_ms", .dec record.effectiveAtMs),
         ("availability", .str takenDown.availability.name)]] }

/-- The publication of a ticket is taken down; a missing publication counts as not taken down. -/
def takenDown (s : Contract) (publicationId : String) : Bool :=
  (s.publications.get publicationId).any fun publication =>
    decide (publication.availability = .takedown)

/-! ## The paged view -/

/-- The publication at one position of the index. -/
def publicationAt (s : Contract) (position : Nat) : Result Publication := do
  let publicationId ← expect (s.publicationIds.get position) "Publication index is inconsistent"
  expect (s.publications.get publicationId) "Indexed publication is missing"

def getPublications (s : Contract) (fromIndex limit : Option Nat) : Result (List Publication) :=
  let start := Nat.min (fromIndex.getD 0) s.publicationCount
  let stop := Nat.min (saturatingAdd 64 start (Nat.min (limit.getD 50) 100)) s.publicationCount
  (List.range' start (stop - start)).mapM (publicationAt s)

end Youtick.MarketV2
