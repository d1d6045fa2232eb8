import Youtick.MarketV2.Publications
import Youtick.NftTicket.Contract

/-!
# The V1 market: publications

Finalising a job into a publication, suspending its sales and taking it down.
-/

set_option autoImplicit false

namespace Youtick.NftTicket

open Youtick.Lib
open Youtick.MarketV2 (MediaJob Publication TakedownRecord publicTestnetBetaEmergencyRunwayBytes
  assertIdentifier assertSha256 assertPlaybackId publicationMatches bindIdentity takedownReasons)

/-! ## Finalisation -/

def jobForGeneration (s : Contract) (jobId : String) (generation : Nat) : Result MediaJob := do
  let job ← expect (s.mediaJobs.get jobId) "Media job not found"
  require (job.generation = generation) "Media job generation mismatch"
  return job

/-- The checks of `finalize_livepeer_publication`, up to the replay test. -/
def assertSubmission (env : Env) (s : Contract) (submission : LivepeerPublicationSubmission) :
    Result MediaJob := do
  assertBridge env s
  require (submission.availability = .active) "Initial publication availability must be active"
  assertProfile submission.profileId submission.profileConfigSha256
  assertSha256 "asset_id_hash" submission.assetIdHash
  assertPlaybackId submission.playbackId
  assertSha256 "project_id_hash" submission.projectIdHash
  checkSome submission.providerSourceFingerprint (assertSha256 "provider_source_fingerprint")
  require (submission.readyAtMs > 0) "ready_at_ms must be positive"
  let job ← jobForGeneration s submission.jobId submission.generation
  require (job.creatorId = submission.creatorId) "Media job creator mismatch"
  require (job.expectedSourceBytes = submission.expectedSourceBytes) "Expected source byte mismatch"
  require (submission.verifiedSourceBytes = submission.expectedSourceBytes)
    "Verified source byte mismatch"
  require (job.profileId = submission.profileId) "Media job profile mismatch"
  require (job.profileConfigSha256 = submission.profileConfigSha256)
    "Media job profile configuration mismatch"
  return job

/-- The deadline checks a first finalisation passes under the public upload and the public beta. -/
def assertFinalizeDeadlines (env : Env) (s : Contract) (job : MediaJob) : Result PUnit.{1} := do
  checkWhen (s.publicUploadPolicy ≠ none) do
    let deadline ← requirePublicUploadJob job
    require (env.blockTimestampMs < deadline) "Public upload deadline expired"
  checkWhen (s.publicTestnetBeta ≠ none) do
    require ((activePublicTestnetBeta env s).isSome = true) "Public beta is not active"
    let marker ← requirePublicTestnetBetaJob s job
    require (env.blockTimestampMs ≤ marker.deadlineAtMs) "Public beta job deadline expired"

/-- The publication a submission creates for its job. -/
def publicationOf (env : Env) (job : MediaJob) (submission : LivepeerPublicationSubmission) :
    Publication where
  publicationId := submission.jobId
  creatorId := submission.creatorId
  title := job.title
  priceUsdc := job.priceUsdc
  generation := submission.generation
  expectedSourceBytes := submission.expectedSourceBytes
  profileId := submission.profileId
  profileConfigSha256 := submission.profileConfigSha256
  assetIdHash := submission.assetIdHash
  playbackId := submission.playbackId
  projectIdHash := submission.projectIdHash
  verifiedSourceBytes := submission.verifiedSourceBytes
  providerSourceFingerprint := submission.providerSourceFingerprint
  readyAtMs := submission.readyAtMs
  publishedAvailability := submission.availability
  availability := submission.availability
  publishedAtMs := env.blockTimestampMs

def finalizeLivepeerPublication (env : Env) (s : Contract)
    (submission : LivepeerPublicationSubmission) : Result (Outcome Publication) := do
  let job ← assertSubmission env s submission
  match s.publications.get submission.jobId with
  | some existing =>
    require (publicationMatches existing submission) "Conflicting finalize request"
    return { state := s, value := existing }
  | none =>
    assertFinalizeDeadlines env s job
    bindIdentity s.assetBindings submission.assetIdHash submission.jobId "asset_id_hash"
    bindIdentity s.playbackBindings submission.playbackId submission.jobId "playback_id"
    let publication := publicationOf env job submission
    let nextCount ← checkedAdd 64 s.publicationCount 1 "Publication count overflow"
    let state := { s with
      mediaJobs := s.mediaJobs.insert submission.jobId
        { job with status := .published, publishedAtMs := some publication.publishedAtMs }
      publications := s.publications.insert submission.jobId publication
      publicationIds := s.publicationIds.insert s.publicationCount submission.jobId
      publicationCount := nextCount
      assetBindings := s.assetBindings.insert submission.assetIdHash submission.jobId
      playbackBindings := s.playbackBindings.insert submission.playbackId submission.jobId }
    checkWhen (s.publicTestnetBeta ≠ none)
      (assertRunway env state publicTestnetBetaEmergencyRunwayBytes)
    return { state := state, value := publication }

/-! ## Availability -/

def suspendLivepeerSales (env : Env) (s : Contract) (publicationId : String) :
    Result (Outcome Publication) := do
  assertBridge env s
  let publication ← expect (s.publications.get publicationId) "Publication not found"
  checkWhen ((activePublicTestnetBeta env s).isSome = true) do
    let job ← expect (s.mediaJobs.get publicationId) "Media job not found"
    let _marker ← requirePublicTestnetBetaJob s job
    return ⟨⟩
  require (publication.availability ≠ .takedown)
    "Takedown publication cannot change through sales suspension"
  if publication.availability = .salesSuspended then
    return { state := s, value := publication }
  else
    let suspended := { publication with availability := .salesSuspended }
    return {
      state := { s with publications := s.publications.insert publicationId suspended }
      value := suspended }

def takedownLivepeerPublication (env : Env) (s : Contract)
    (publicationId reasonCode incidentId evidenceSha256 : String) (effectiveAtMs : Nat) :
    Result (Outcome Publication) := do
  assertTakedownAuthority env s
  require (reasonCode ∈ takedownReasons) "Unsupported takedown reason"
  assertIdentifier "incident_id" incidentId
  assertSha256 "evidence_sha256" evidenceSha256
  require (effectiveAtMs > 0 ∧ effectiveAtMs ≤ env.blockTimestampMs)
    "Takedown effective time must have arrived"
  let publication ← expect (s.publications.get publicationId) "Publication not found"
  if publication.availability = .takedown then
    let existing ← expect (s.takedowns.get publicationId) "Takedown record missing"
    require (existing.reasonCode = reasonCode ∧ existing.incidentId = incidentId ∧
        existing.evidenceSha256 = evidenceSha256 ∧ existing.effectiveAtMs = effectiveAtMs)
      "Conflicting takedown request"
    return { state := s, value := publication }
  else
    require (publication.availability = .active ∨ publication.availability = .salesSuspended)
      "Publication cannot transition to takedown"
    let record : TakedownRecord := {
      publicationId := publicationId
      reasonCode := reasonCode
      incidentId := incidentId
      evidenceSha256 := evidenceSha256
      effectiveAtMs := effectiveAtMs
      recordedAtMs := env.blockTimestampMs }
    let takenDown := { publication with availability := .takedown }
    return {
      state := { s with
        publications := s.publications.insert publicationId takenDown
        takedowns := s.takedowns.insert publicationId record }
      value := takenDown }

end Youtick.NftTicket
