import Youtick.MarketV2.GovernanceEffects

/-!
# Market V2: effects of the upload and publication methods

What the methods of `Uploads` and `Publications` did, read off a call that succeeded. The admission
rules and the account playback devices write the upload part only.
-/

set_option autoImplicit false

namespace Youtick.MarketV2

open Youtick.Lib

variable {env : Env} {s : Contract}

/-! ## Parts of a job payment -/

theorem admitPublicUpload_ok {request : PaidJobRequest} {s' : Contract}
    (h : admitPublicUpload env s request = .ok s') : ∃ uploads, s' = { s with toUploads := uploads } := by
  simp only [admitPublicUpload, bind_eq_ok, pure_eq_ok] at h
  obtain ⟨-, -, _, -, -, -, -, -, -, -, rfl⟩ := h
  exact ⟨_, rfl⟩

theorem admitPublicTestnetBetaJob_ok {request : PaidJobRequest} {quote : SponsoredUploadQuote}
    {s' : Contract} (h : admitPublicTestnetBetaJob env s request quote = .ok s') :
    ∃ uploads, s' = { s with toUploads := uploads } := by
  simp only [admitPublicTestnetBetaJob, bind_eq_ok, pure_eq_ok] at h
  obtain ⟨_, -, -, -, -, -, -, -, -, -, -, -, _, -, -, -, _, -, rfl⟩ := h
  exact ⟨_, rfl⟩

theorem authorizePlaybackDevice_ok {accountId : AccountId}
    {authorization : Option PlaybackSessionAuthorization} {s' : Contract}
    (h : authorizePlaybackDevice env s accountId authorization = .ok s') :
    ∃ uploads, s' = { s with toUploads := uploads } := by
  cases authorization with
  | none =>
    cases ok_eq_ok.mp h
    exact ⟨_, rfl⟩
  | some authorization =>
    simp only [authorizePlaybackDevice, bind_eq_ok, pure_eq_ok] at h
    obtain ⟨_, -, rfl⟩ := h
    exact ⟨_, rfl⟩

theorem createUsdcPaidJob_ok {request : PaidJobRequest} {fee : Nat} {hash : Option String}
    {o : Outcome MediaJob} (h : createUsdcPaidJob env s request fee hash = .ok o) :
    s.mediaJobs.get request.jobId = none ∧
      o.value = authorizedJob env request .usdc fee fee hash ∧
      o.state = { s with mediaJobs := s.mediaJobs.insert request.jobId o.value } ∧
      o.promises = [] := by
  simp only [createUsdcPaidJob, bind_eq_ok, require_eq_ok, pure_eq_ok] at h
  obtain ⟨_, -, -, -, -, -, -, -, -, hfresh, rfl⟩ := h
  exact ⟨hfresh, rfl, rfl, rfl⟩

/-! ## Jobs -/

theorem createPaidJob_effect {request : PaidJobRequest} {o : Outcome MediaJob}
    (h : createPaidJob env s request = .ok o) :
    Effect env s (.createPaidJob request) o.state o.promises := by
  simp only [createPaidJob, bind_eq_ok] at h
  obtain ⟨-, -, -, -, fee, -, h⟩ := h
  obtain ⟨hfresh, hvalue, hstate, hpromises⟩ := createUsdcPaidJob_ok h
  rw [hstate, hpromises, hvalue]
  exact .ofCatalog s.toUploads (.newJob (authorizedJob env request .usdc fee fee none)
    hfresh rfl) rfl

theorem createPaidJobNear_effect {request : PaidJobRequest} {quote : CreatorFeeQuote}
    {signature : Bytes} {o : Outcome (Option MediaJob)}
    (h : createPaidJobNear env s request quote signature = .ok o) :
    Effect env s (.createPaidJobNear request quote signature) o.state o.promises := by
  simp only [createPaidJobNear, bind_eq_ok] at h
  obtain ⟨-, -, -, -, -, -, -, -, -, -, h⟩ := h
  split at h
  · simp only [bind_eq_ok, pure_eq_ok] at h
    obtain ⟨-, -, rfl⟩ := h
    exact .ofUploads s.toUploads rfl (by simp [Promise.isUsdc]) (by simp [Promise.isDeploy])
  · next hfresh =>
      simp only [bind_eq_ok, pure_eq_ok] at h
      obtain ⟨-, -, -, -, balance, -, rfl⟩ := h
      exact .ofCatalog { s.toUploads with platformNearBalance := balance }
        (.newJob (authorizedJob env request .near quote.feeNearYocto quote.feeUsdMicro
          (some quote.quoteId)) hfresh rfl) rfl

theorem replaceUploadKey_effect {jobId newPublicKey : String} {expiresAtMs : Nat}
    {o : Outcome MediaJob} (h : replaceUploadKey env s jobId newPublicKey expiresAtMs = .ok o) :
    Effect env s (.replaceUploadKey jobId newPublicKey expiresAtMs) o.state o.promises := by
  simp only [replaceUploadKey, bind_eq_ok, expect_eq_ok, require_eq_ok, pure_eq_ok] at h
  obtain ⟨job, hjob, -, -, -, hauthorized, -, -, -, -, -, -, rfl⟩ := h
  exact .ofCatalog s.toUploads (.editJob hjob {
    jobId := rfl
    creatorId := rfl
    title := rfl
    priceUsdc := rfl
    expectedSourceBytes := rfl
    wasAuthorized := hauthorized
    isAuthorized := hauthorized }) rfl

theorem rotateQuotePublicKey_effect {version : Nat} {publicKey : Bytes} {o : Outcome Unit}
    (h : rotateQuotePublicKey env s version publicKey = .ok o) :
    Effect env s (.rotateQuotePublicKey version publicKey) o.state o.promises := by
  simp only [rotateQuotePublicKey, bind_eq_ok, pure_eq_ok] at h
  obtain ⟨-, -, _, -, -, -, -, -, rfl⟩ := h
  exact .ofUploads _ rfl (by simp) (by simp)

theorem restartPaidJob_effect {jobId profileId profileConfigSha256 : String}
    {expectedSourceBytes : Nat} {o : Outcome MediaJob}
    (h : restartPaidJob env s jobId expectedSourceBytes profileId profileConfigSha256 = .ok o) :
    Effect env s (.restartPaidJob jobId expectedSourceBytes profileId profileConfigSha256)
      o.state o.promises := by
  simp only [restartPaidJob, bind_eq_ok, expect_eq_ok, require_eq_ok, pure_eq_ok] at h
  obtain ⟨-, -, job, hjob, -, -, -, -, -, hopen, -, -, -, -, -, -, generation, -, rfl⟩ := h
  have hauthorized : job.status = .authorized := by
    cases hstatus : job.status with
    | authorized => rfl
    | published => exact absurd hstatus hopen
  exact .ofCatalog s.toUploads (.editJob hjob {
    jobId := rfl
    creatorId := rfl
    title := rfl
    priceUsdc := rfl
    expectedSourceBytes := rfl
    wasAuthorized := hauthorized
    isAuthorized := hauthorized }) rfl

theorem setPublicUploadFullHd_effect {enabled : Bool} {o : Outcome PublicUploadPolicy}
    (h : setPublicUploadFullHd env s enabled = .ok o) :
    Effect env s (.setPublicUploadFullHd enabled) o.state o.promises := by
  simp only [setPublicUploadFullHd, bind_eq_ok] at h
  obtain ⟨-, -, _, -, -, -, -, -, _, -, -, -, -, -, h⟩ := h
  rcases ite_eq_ok.mp h with ⟨-, h⟩ | ⟨-, h⟩
  · cases pure_eq_ok.mp h
    exact .refl rfl
  · simp only [bind_eq_ok, pure_eq_ok] at h
    obtain ⟨-, -, rfl⟩ := h
    exact .ofUploads _ rfl (by simp) (by simp)

/-! ## Account playback devices and NEAR fees -/

theorem activatePlaybackDevice_effect {publicationId : String}
    {session : PlaybackSessionAuthorization} {o : Outcome Unit}
    (h : activatePlaybackDevice env s publicationId session = .ok o) :
    Effect env s (.activatePlaybackDevice publicationId session) o.state o.promises := by
  simp only [activatePlaybackDevice, bind_eq_ok] at h
  obtain ⟨-, -, -, -, -, -, -, -, -, -, _, -, -, -, -, -, h⟩ := h
  split at h
  · cases pure_eq_ok.mp h
    exact .refl rfl
  · simp only [bind_eq_ok, pure_eq_ok] at h
    obtain ⟨state, hstate, -, -, rfl⟩ := h
    obtain ⟨uploads, rfl⟩ := authorizePlaybackDevice_ok hstate
    exact .ofUploads uploads rfl (by simp) (by simp)

theorem withdrawPlatformNear_effect {amount : Nat} {o : Outcome Unit}
    (h : withdrawPlatformNear env s amount = .ok o) :
    Effect env s (.withdrawPlatformNear amount) o.state o.promises := by
  simp only [withdrawPlatformNear, bind_eq_ok, pure_eq_ok] at h
  obtain ⟨-, -, -, -, _, -, -, -, rfl⟩ := h
  exact .ofUploads _ rfl (by simp [Promise.isUsdc, Call.settlesUsdc])
    (by simp [Promise.isDeploy])

/-! ## Publications -/

theorem finalizePublication_effect {submission : PublicationSubmission} {o : Outcome Publication}
    (h : finalizePublication env s submission = .ok o) :
    Effect env s (.finalizePublication submission) o.state o.promises := by
  simp only [finalizePublication, bind_eq_ok] at h
  obtain ⟨job, hcheck, h⟩ := h
  split at h
  · simp only [bind_eq_ok, pure_eq_ok] at h
    obtain ⟨-, -, rfl⟩ := h
    exact .refl rfl
  · next hfresh =>
      simp only [bind_eq_ok, checkedAdd_eq_ok, pure_eq_ok] at h
      obtain ⟨-, -, _, hasset, _, hplayback, _, ⟨hcount, -⟩, -, -, rfl⟩ := h
      exact .ofCatalog s.toUploads (.finalize hcheck hfresh hasset hplayback hcount) rfl

theorem suspendSales_effect {publicationId : String} {o : Outcome Publication}
    (h : suspendSales env s publicationId = .ok o) :
    Effect env s (.suspendSales publicationId) o.state o.promises := by
  simp only [suspendSales, bind_eq_ok, expect_eq_ok, require_eq_ok] at h
  obtain ⟨-, -, publication, hget, -, -, -, hup, h⟩ := h
  split at h
  · cases pure_eq_ok.mp h
    exact .refl rfl
  · next hnot =>
      cases pure_eq_ok.mp h
      have hactive : publication.availability = .active := by
        cases havailability : publication.availability with
        | active => rfl
        | salesSuspended => exact absurd havailability hnot
        | takedown => exact absurd havailability hup
      exact .ofCatalog s.toUploads (.suspend hget hactive) rfl

theorem takedownPublication_effect
    {publicationId reasonCode incidentId evidenceSha256 : String} {effectiveAtMs : Nat}
    {o : Outcome Publication}
    (h : takedownPublication env s publicationId reasonCode incidentId evidenceSha256
      effectiveAtMs = .ok o) :
    Effect env s
      (.takedownPublication publicationId reasonCode incidentId evidenceSha256 effectiveAtMs)
      o.state o.promises := by
  simp only [takedownPublication, bind_eq_ok, expect_eq_ok] at h
  obtain ⟨-, -, -, -, -, -, -, -, -, -, publication, hget, h⟩ := h
  split at h
  · simp only [bind_eq_ok, pure_eq_ok] at h
    obtain ⟨_, -, -, -, rfl⟩ := h
    exact .refl rfl
  · next hup =>
      simp only [bind_eq_ok, pure_eq_ok] at h
      obtain ⟨-, -, rfl⟩ := h
      exact .ofCatalog s.toUploads (.takedown hget hup) rfl

end Youtick.MarketV2
