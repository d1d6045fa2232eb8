import Youtick.MarketV2.GovernanceLogs

/-!
# Market V2: logs of the upload and publication methods

What the methods of `Uploads` and `Publications` logged, read off a call that succeeded. The
admission rules and the account playback devices change nothing the events speak of.
-/

set_option autoImplicit false

namespace Youtick.MarketV2

open Youtick.Lib

variable {env : Env} {s : Contract}

/-! ## Parts of a job payment -/

theorem admitPublicUpload_shown {request : PaidJobRequest} {s' : Contract}
    (h : admitPublicUpload env s request = .ok s') : s'.shown = s.shown := by
  simp only [admitPublicUpload, bind_eq_ok, pure_eq_ok] at h
  obtain ⟨-, -, _, -, -, -, -, -, -, -, rfl⟩ := h
  rfl

theorem admitPublicTestnetBetaJob_shown {request : PaidJobRequest} {quote : SponsoredUploadQuote}
    {s' : Contract} (h : admitPublicTestnetBetaJob env s request quote = .ok s') :
    s'.shown = s.shown := by
  simp only [admitPublicTestnetBetaJob, bind_eq_ok, pure_eq_ok] at h
  obtain ⟨_, -, -, -, -, -, -, -, -, -, -, -, _, -, -, -, _, -, rfl⟩ := h
  rfl

theorem authorizePlaybackDevice_shown {accountId : AccountId}
    {authorization : Option PlaybackSessionAuthorization} {s' : Contract}
    (h : authorizePlaybackDevice env s accountId authorization = .ok s') : s'.shown = s.shown := by
  cases authorization with
  | none =>
    cases ok_eq_ok.mp h
    rfl
  | some authorization =>
    simp only [authorizePlaybackDevice, bind_eq_ok, pure_eq_ok] at h
    obtain ⟨_, -, rfl⟩ := h
    rfl

/-- What the USDC path logs. -/
theorem createUsdcPaidJob_logs {request : PaidJobRequest} {fee : Nat} {hash : Option String}
    {o : Outcome MediaJob} (h : createUsdcPaidJob env s request fee hash = .ok o) :
    o.value.generation = 1 ∧ s.mediaJobs.get o.value.jobId = none ∧ o.promises = [] ∧
      o.state = { s with mediaJobs := s.mediaJobs.insert o.value.jobId o.value } ∧
      o.events = [mediaJobAuthorizedEvent env o.value] := by
  simp only [createUsdcPaidJob, bind_eq_ok, require_eq_ok, pure_eq_ok] at h
  obtain ⟨_, -, -, -, -, -, _, -, -, hfresh, rfl⟩ := h
  exact ⟨rfl, hfresh, rfl, rfl, rfl⟩

/-! ## Jobs -/

theorem createPaidJob_logs {request : PaidJobRequest} {o : Outcome MediaJob}
    (h : createPaidJob env s request = .ok o) :
    Logs env s (.createPaidJob request) o.state.shown o.promises o.events := by
  simp only [createPaidJob, bind_eq_ok] at h
  obtain ⟨-, -, -, -, _, -, h⟩ := h
  obtain ⟨hgeneration, hfresh, hpromises, hstate, hevents⟩ := createUsdcPaidJob_logs h
  rw [hpromises, hstate, hevents]
  exact .jobAuthorized o.value rfl hfresh hgeneration

theorem createPaidJobNear_logs {request : PaidJobRequest} {quote : CreatorFeeQuote}
    {signature : Bytes} {o : Outcome (Option MediaJob)}
    (h : createPaidJobNear env s request quote signature = .ok o) :
    Logs env s (.createPaidJobNear request quote signature) o.state.shown o.promises o.events := by
  simp only [createPaidJobNear, bind_eq_ok] at h
  obtain ⟨-, -, -, -, -, -, _, -, -, -, h⟩ := h
  split at h
  · simp only [bind_eq_ok, pure_eq_ok] at h
    obtain ⟨-, -, rfl⟩ := h
    exact .quiet rfl (by simp [Promise.withdrawalId, Promise.callback]) (by simp)
  · next hfresh =>
      simp only [bind_eq_ok, pure_eq_ok] at h
      obtain ⟨-, -, _, -, _, -, rfl⟩ := h
      exact .jobAuthorized _ rfl hfresh rfl

theorem replaceUploadKey_logs {jobId newPublicKey : String} {expiresAtMs : Nat}
    {o : Outcome MediaJob} (h : replaceUploadKey env s jobId newPublicKey expiresAtMs = .ok o) :
    Logs env s (.replaceUploadKey jobId newPublicKey expiresAtMs) o.state.shown o.promises
      o.events := by
  simp only [replaceUploadKey, bind_eq_ok, expect_eq_ok, pure_eq_ok] at h
  obtain ⟨job, hjob, -, -, -, -, _, -, -, -, -, -, rfl⟩ := h
  exact .uploadKeyReplaced hjob rfl

theorem rotateQuotePublicKey_logs {version : Nat} {publicKey : Bytes} {o : Outcome Unit}
    (h : rotateQuotePublicKey env s version publicKey = .ok o) :
    Logs env s (.rotateQuotePublicKey version publicKey) o.state.shown o.promises o.events := by
  simp only [rotateQuotePublicKey, bind_eq_ok, require_eq_ok, checkedAdd_eq_ok, pure_eq_ok] at h
  obtain ⟨-, -, _, ⟨-, rfl⟩, -, hversion, -, -, rfl⟩ := h
  exact .quoteKeyRotated hversion

theorem restartPaidJob_logs {jobId profileId profileConfigSha256 : String}
    {expectedSourceBytes : Nat} {o : Outcome MediaJob}
    (h : restartPaidJob env s jobId expectedSourceBytes profileId profileConfigSha256 = .ok o) :
    Logs env s (.restartPaidJob jobId expectedSourceBytes profileId profileConfigSha256)
      o.state.shown o.promises o.events := by
  simp only [restartPaidJob, bind_eq_ok, checkedAdd_eq_ok, pure_eq_ok] at h
  obtain ⟨-, -, _, -, -, -, -, -, -, -, _, -, _, -, -, -, _, ⟨-, rfl⟩, rfl⟩ := h
  exact .restarted

theorem setPublicUploadFullHd_logs {enabled : Bool} {o : Outcome PublicUploadPolicy}
    (h : setPublicUploadFullHd env s enabled = .ok o) :
    Logs env s (.setPublicUploadFullHd enabled) o.state.shown o.promises o.events := by
  simp only [setPublicUploadFullHd, bind_eq_ok] at h
  obtain ⟨-, -, _, -, -, -, -, -, policy, -, -, -, -, -, h⟩ := h
  rcases ite_eq_ok.mp h with ⟨-, h⟩ | ⟨-, h⟩
  · cases pure_eq_ok.mp h
    exact .quiet rfl (by simp) (by simp)
  · simp only [bind_eq_ok, pure_eq_ok] at h
    obtain ⟨_, -, rfl⟩ := h
    exact .quiet (s := s) rfl (by simp) (by simp)

theorem activatePlaybackDevice_logs {publicationId : String}
    {session : PlaybackSessionAuthorization} {o : Outcome Unit}
    (h : activatePlaybackDevice env s publicationId session = .ok o) :
    Logs env s (.activatePlaybackDevice publicationId session) o.state.shown o.promises
      o.events := by
  simp only [activatePlaybackDevice, bind_eq_ok] at h
  obtain ⟨-, -, -, -, -, -, -, -, _, -, _, -, -, -, -, -, h⟩ := h
  rcases ite_eq_ok.mp h with ⟨-, h⟩ | ⟨-, h⟩
  · cases pure_eq_ok.mp h
    exact .quiet rfl (by simp) (by simp)
  · simp only [bind_eq_ok, pure_eq_ok] at h
    obtain ⟨state, hdevice, -, -, rfl⟩ := h
    rw [authorizePlaybackDevice_shown hdevice]
    exact .quiet rfl (by simp) (by simp)

theorem withdrawPlatformNear_logs {amount : Nat} {o : Outcome Unit}
    (h : withdrawPlatformNear env s amount = .ok o) :
    Logs env s (.withdrawPlatformNear amount) o.state.shown o.promises o.events := by
  simp only [withdrawPlatformNear, bind_eq_ok, pure_eq_ok] at h
  obtain ⟨-, -, -, -, _, -, -, -, rfl⟩ := h
  exact .nearWithdrawal

/-! ## Publications -/

theorem finalizePublication_logs {submission : PublicationSubmission} {o : Outcome Publication}
    (h : finalizePublication env s submission = .ok o) :
    Logs env s (.finalizePublication submission) o.state.shown o.promises o.events := by
  simp only [finalizePublication, bind_eq_ok] at h
  obtain ⟨_, -, h⟩ := h
  split at h
  · simp only [bind_eq_ok, pure_eq_ok] at h
    obtain ⟨-, -, rfl⟩ := h
    exact .quiet rfl (by simp) (by simp)
  · next hfresh =>
      simp only [bind_eq_ok, pure_eq_ok] at h
      obtain ⟨_, -, _, -, _, -, _, -, -, -, rfl⟩ := h
      exact .finalized hfresh rfl

theorem suspendSales_logs {publicationId : String} {o : Outcome Publication}
    (h : suspendSales env s publicationId = .ok o) :
    Logs env s (.suspendSales publicationId) o.state.shown o.promises o.events := by
  simp only [suspendSales, bind_eq_ok, expect_eq_ok, require_eq_ok] at h
  obtain ⟨_, -, publication, hget, -, -, -, hup, h⟩ := h
  rcases ite_eq_ok.mp h with ⟨-, h⟩ | ⟨hactive, h⟩
  · cases pure_eq_ok.mp h
    exact .quiet rfl (by simp) (by simp)
  · cases pure_eq_ok.mp h
    have : publication.availability = .active := by
      cases havailability : publication.availability with
      | active => rfl
      | salesSuspended => exact absurd havailability hactive
      | takedown => exact absurd havailability hup
    exact .suspended hget this rfl

theorem takenDown_of_get {publicationId : String} {publication : Publication}
    (hget : s.publications.get publicationId = some publication) :
    takenDown s publicationId = decide (publication.availability = .takedown) := by
  rw [takenDown, hget]
  rfl

theorem takedownPublication_logs
    {publicationId reasonCode incidentId evidenceSha256 : String} {effectiveAtMs : Nat}
    {o : Outcome Publication}
    (h : takedownPublication env s publicationId reasonCode incidentId evidenceSha256
      effectiveAtMs = .ok o) :
    Logs env s
      (.takedownPublication publicationId reasonCode incidentId evidenceSha256 effectiveAtMs)
      o.state.shown o.promises o.events := by
  simp only [takedownPublication, bind_eq_ok, expect_eq_ok] at h
  obtain ⟨_, -, -, -, _, -, _, -, -, -, publication, hget, h⟩ := h
  rcases ite_eq_ok.mp h with ⟨htaken, h⟩ | ⟨hup, h⟩
  · simp only [bind_eq_ok, pure_eq_ok] at h
    obtain ⟨_, -, -, -, rfl⟩ := h
    exact .quiet (by simp [Call.announces, takenDown_of_get hget, htaken]) (by simp) (by simp)
  · simp only [bind_eq_ok, pure_eq_ok] at h
    obtain ⟨-, -, rfl⟩ := h
    exact .takenDown hget hup rfl

end Youtick.MarketV2
