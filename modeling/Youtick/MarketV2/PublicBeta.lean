import Youtick.Lib.Keys
import Youtick.MarketV2.PublicUpload

/-!
# Market V2: the public beta

While the beta's window is stored, a job is created by a sponsored payment only, which writes the
job's marker, its creator's day and the counter with it. `BetaStep` says what a call can do to these
and to the jobs, and `BetaBook.Sound` how they agree. A marker is never edited, and the jobs that
have one keep what the marker was made from.
-/

set_option autoImplicit false

namespace Youtick.MarketV2

open Youtick.Lib

/-! ## One call -/

/-- A marker as an admission writes it. -/
structure PublicTestnetBetaJob.AdmittedFor (marker : PublicTestnetBetaJob) (job : MediaJob)
    (state : PublicTestnetBetaState) (now : Nat) : Prop where
  creatorId : marker.creatorId = job.creatorId
  generation : marker.generation = 1
  jobGeneration : job.generation = 1
  quote : job.feeQuoteHash = some marker.sponsorQuoteId
  admittedAtMs : marker.admittedAtMs = now
  deadlineAtMs : marker.deadlineAtMs = Nat.min (now + publicTestnetBetaJobTtlMs) state.endsAtMs
  createdAtMs : job.createdAtMs = now

/-- What one call can do to the beta and the jobs. -/
inductive BetaStep (env : Env) (s s' : Contract) : Prop where
  | quiet (hbook : s'.betaBook = s.betaBook) (hjobs : s'.mediaJobs = s.mediaJobs)
  | started (state : PublicTestnetBetaState) (hnone : s.publicTestnetBeta = none)
      (hcount : state.totalJobCount = 0)
      (hbook : s'.betaBook = { s.betaBook with state := some state })
      (hjobs : s'.mediaJobs = s.mediaJobs)
  | closed (state : PublicTestnetBetaState) (closedAtMs : Nat)
      (hstate : s.publicTestnetBeta = some state)
      (hbook : s'.betaBook =
        { s.betaBook with state := some { state with closedAtMs := some closedAtMs } })
      (hjobs : s'.mediaJobs = s.mediaJobs)
  | created (job : MediaJob) (hnone : s.publicTestnetBeta = none)
      (hfresh : s.mediaJobs.get job.jobId = none) (hbook : s'.betaBook = s.betaBook)
      (hjobs : s'.mediaJobs = s.mediaJobs.insert job.jobId job)
  | admitted (state : PublicTestnetBetaState) (marker : PublicTestnetBetaJob) (job : MediaJob)
      (hstate : s.publicTestnetBeta = some state) (hopen : state.closedAtMs = none)
      (hwindow : env.blockTimestampMs < state.uploadClosesAtMs)
      (hroom : state.totalJobCount < publicTestnetBetaMaxJobs)
      (hday : s.publicTestnetBetaDays.get
        (publicTestnetBetaDayKey marker.creatorId (env.blockTimestampMs / dayMs)) = none)
      (hmarker : s.publicTestnetBetaJobs.get job.jobId = none)
      (hfresh : s.mediaJobs.get job.jobId = none)
      (hmade : marker.AdmittedFor job state env.blockTimestampMs)
      (hbook : s'.betaBook = {
        state := some { state with totalJobCount := state.totalJobCount + 1 }
        markers := s.publicTestnetBetaJobs.insert job.jobId marker
        days := s.publicTestnetBetaDays.insert
          (publicTestnetBetaDayKey marker.creatorId (env.blockTimestampMs / dayMs)) job.jobId })
      (hjobs : s'.mediaJobs = s.mediaJobs.insert job.jobId job)
  | edited (k : String) (old new : MediaJob) (hget : s.mediaJobs.get k = some old)
      (hcreator : new.creatorId = old.creatorId) (hquote : new.feeQuoteHash = old.feeQuoteHash)
      (hgeneration : new.generation = old.generation ∨ s.publicTestnetBetaJobs.get k = none)
      (hbook : s'.betaBook = s.betaBook) (hjobs : s'.mediaJobs = s.mediaJobs.insert k new)

section Call

variable {env : Env} {s : Contract}

theorem activePublicTestnetBeta_some {state : PublicTestnetBetaState}
    (h : activePublicTestnetBeta env s = some state) :
    s.publicTestnetBeta = some state ∧ state.closedAtMs = none ∧
      env.blockTimestampMs < state.endsAtMs := by
  obtain ⟨hstate, hactive⟩ := Option.filter_eq_some_iff.mp h
  rw [Bool.and_eq_true, decide_eq_true_eq, Option.isNone_iff_eq_none] at hactive
  exact ⟨hstate, hactive⟩

theorem betaStep_of_frame {s' : Contract} (h : s'.uploadFrame = s.uploadFrame) :
    BetaStep env s s' :=
  .quiet (congrArg Prod.snd h) (congrArg (fun frame => frame.1.jobs) h)

theorem startPublicTestnetBeta_beta {o : Outcome PublicTestnetBetaState}
    (h : startPublicTestnetBeta env s = .ok o) : BetaStep env s o.state := by
  simp only [startPublicTestnetBeta, bind_eq_ok, require_eq_ok, pure_eq_ok] at h
  obtain ⟨_, -, _, -, _, -, _, -, _, -, _, hnone, _, -, _, -, _, -, rfl⟩ := h
  exact .started _ hnone rfl rfl rfl

theorem closePublicTestnetBeta_beta {o : Outcome PublicTestnetBetaState}
    (h : closePublicTestnetBeta env s = .ok o) : BetaStep env s o.state := by
  simp only [closePublicTestnetBeta, bind_eq_ok, expect_eq_ok] at h
  obtain ⟨_, -, state, hstate, h⟩ := h
  rcases ite_eq_ok.mp h with ⟨-, h⟩ | ⟨-, h⟩
  · cases pure_eq_ok.mp h
    exact .quiet rfl rfl
  · cases pure_eq_ok.mp h
    exact .closed state env.blockTimestampMs hstate rfl rfl

theorem createPaidJob_beta {request : PaidJobRequest} {o : Outcome MediaJob}
    (h : createPaidJob env s request = .ok o) : BetaStep env s o.state := by
  simp only [createPaidJob, bind_eq_ok, require_eq_ok] at h
  obtain ⟨_, -, _, hnone, fee, -, h⟩ := h
  obtain ⟨hfresh, hvalue, hstate, -⟩ := createUsdcPaidJob_ok h
  rw [hstate, hvalue]
  exact .created (authorizedJob env request .usdc fee fee none) hnone hfresh rfl rfl

theorem createPaidJobNear_beta {request : PaidJobRequest} {quote : CreatorFeeQuote}
    {signature : Bytes} {o : Outcome (Option MediaJob)}
    (h : createPaidJobNear env s request quote signature = .ok o) : BetaStep env s o.state := by
  simp only [createPaidJobNear, bind_eq_ok, require_eq_ok] at h
  obtain ⟨_, -, _, hnone, _, -, _, -, _, -, h⟩ := h
  split at h
  · simp only [bind_eq_ok, pure_eq_ok] at h
    obtain ⟨_, -, rfl⟩ := h
    exact .quiet rfl rfl
  · next hfresh =>
      simp only [bind_eq_ok, pure_eq_ok] at h
      obtain ⟨_, -, _, -, balance, -, rfl⟩ := h
      exact .created (authorizedJob env request .near quote.feeNearYocto quote.feeUsdMicro
        (some quote.quoteId)) hnone hfresh rfl rfl

theorem replaceUploadKey_beta {jobId newPublicKey : String} {expiresAtMs : Nat}
    {o : Outcome MediaJob} (h : replaceUploadKey env s jobId newPublicKey expiresAtMs = .ok o) :
    BetaStep env s o.state := by
  simp only [replaceUploadKey, bind_eq_ok, expect_eq_ok, pure_eq_ok] at h
  obtain ⟨job, hget, _, -, _, -, _, -, _, -, _, -, rfl⟩ := h
  exact .edited jobId job
    { job with uploadPublicKey := newPublicKey, uploadKeyExpiresAtMs := expiresAtMs }
    hget rfl rfl (.inl rfl) rfl rfl

/-- A restart raises the generation; a job with a marker has none. -/
theorem restartPaidJob_beta {jobId profileId profileConfigSha256 : String} {bytes : Nat}
    {o : Outcome MediaJob}
    (h : restartPaidJob env s jobId bytes profileId profileConfigSha256 = .ok o) :
    BetaStep env s o.state := by
  simp only [restartPaidJob, bind_eq_ok, expect_eq_ok, require_eq_ok, pure_eq_ok] at h
  obtain ⟨_, -, job, hget, _, hunmarked, _, -, _, -, _, -, _, -, _, -, generation, -, rfl⟩ := h
  exact .edited jobId job
    { job with
      generation := generation
      profileId := profileId
      profileConfigSha256 := profileConfigSha256 }
    hget rfl rfl (.inr hunmarked) rfl rfl

theorem setPublicUploadFullHd_beta {enabled : Bool} {o : Outcome PublicUploadPolicy}
    (h : setPublicUploadFullHd env s enabled = .ok o) : BetaStep env s o.state := by
  simp only [setPublicUploadFullHd, bind_eq_ok] at h
  obtain ⟨_, -, _, -, _, -, _, -, _, -, _, -, _, -, h⟩ := h
  rcases ite_eq_ok.mp h with ⟨-, h⟩ | ⟨-, h⟩
  · cases pure_eq_ok.mp h
    exact .quiet rfl rfl
  · simp only [bind_eq_ok, pure_eq_ok] at h
    obtain ⟨_, -, rfl⟩ := h
    exact .quiet rfl rfl

theorem finalizePublication_beta {submission : PublicationSubmission} {o : Outcome Publication}
    (h : finalizePublication env s submission = .ok o) : BetaStep env s o.state := by
  obtain ⟨job, hcheck, h⟩ := bind_eq_ok.mp h
  obtain ⟨-, hget, -⟩ := assertSubmission_ok hcheck
  split at h
  · simp only [bind_eq_ok, pure_eq_ok] at h
    obtain ⟨_, -, rfl⟩ := h
    exact .quiet rfl rfl
  · simp only [bind_eq_ok, pure_eq_ok] at h
    obtain ⟨_, -, _, -, _, -, _, -, _, -, rfl⟩ := h
    exact .edited submission.jobId job
      { job with status := .published, publishedAtMs := some env.blockTimestampMs }
      hget rfl rfl (.inl rfl) rfl rfl

/-- What an admission checks, and the marker, the day and the count it writes. -/
theorem admitPublicTestnetBetaJob_admitted {request : PaidJobRequest}
    {quote : SponsoredUploadQuote} {s' : Contract}
    (h : admitPublicTestnetBetaJob env s request quote = .ok s') :
    ∃ (state : PublicTestnetBetaState) (marker : PublicTestnetBetaJob),
      s.publicTestnetBeta = some state ∧ state.closedAtMs = none ∧
      env.blockTimestampMs < state.uploadClosesAtMs ∧
      state.totalJobCount < publicTestnetBetaMaxJobs ∧
      s.publicTestnetBetaDays.get
        (publicTestnetBetaDayKey request.creatorId (env.blockTimestampMs / dayMs)) = none ∧
      s.publicTestnetBetaJobs.get request.jobId = none ∧
      marker.creatorId = request.creatorId ∧ marker.generation = 1 ∧
      marker.sponsorQuoteId = quote.quoteId ∧ marker.admittedAtMs = env.blockTimestampMs ∧
      marker.deadlineAtMs =
        Nat.min (env.blockTimestampMs + publicTestnetBetaJobTtlMs) state.endsAtMs ∧
      s' = { s with
        publicTestnetBeta := some { state with totalJobCount := state.totalJobCount + 1 }
        publicTestnetBetaJobs := s.publicTestnetBetaJobs.insert request.jobId marker
        publicTestnetBetaDays := s.publicTestnetBetaDays.insert
          (publicTestnetBetaDayKey request.creatorId (env.blockTimestampMs / dayMs))
          request.jobId } := by
  simp only [admitPublicTestnetBetaJob, bind_eq_ok, expect_eq_ok, require_eq_ok, checkedAdd_eq_ok,
    pure_eq_ok] at h
  obtain ⟨state, hactive, _, hwindow, _, -, _, hroom, _, hday, _, hmarker, _, ⟨-, rfl⟩, _, -, _,
    ⟨-, rfl⟩, rfl⟩ := h
  obtain ⟨hstate, hopen, -⟩ := activePublicTestnetBeta_some hactive
  exact ⟨state, _, hstate, hopen, hwindow, hroom, hday, hmarker, rfl, rfl, rfl, rfl, rfl, rfl⟩

/-- The public upload's admission leaves the beta and the jobs alone. -/
theorem admitPublicUpload_beta {request : PaidJobRequest} {s' : Contract}
    (h : (if s.publicUploadPolicy ≠ none then admitPublicUpload env s request else .ok s) =
      .ok s') :
    s'.betaBook = s.betaBook ∧ s'.mediaJobs = s.mediaJobs := by
  rcases ite_eq_ok.mp h with ⟨-, h⟩ | ⟨-, h⟩
  · obtain ⟨-, -, rfl⟩ := admitPublicUpload_admitted h
    exact ⟨rfl, rfl⟩
  · cases ok_eq_ok.mp h
    exact ⟨rfl, rfl⟩

/-- A paid job is admitted to the beta while its window is stored, and created either way. -/
theorem acceptPaidJob_beta {senderId : AccountId} {amount fee : Nat} {request : PaidJobRequest}
    {quote : Option SponsoredUploadQuote} {session : Option PlaybackSessionAuthorization}
    {o : Outcome Nat}
    (h : acceptPaidJob env s senderId amount request quote fee session = .ok o) :
    BetaStep env s o.state ∧ o.value = 0 ∧
      (s.publicTestnetBeta = none → o.state.betaBook = s.betaBook) ∧
      (s.publicTestnetBeta ≠ none → quote.isSome = true) := by
  simp only [acceptPaidJob, admitJob, bind_eq_ok, pure_eq_ok] at h
  obtain ⟨s₂, ⟨s₁, hupload, hbeta⟩, created, hcreate, _, -, state, hdevice, _, -, rfl⟩ := h
  obtain ⟨hbook₁, hjobs₁⟩ := admitPublicUpload_beta hupload
  obtain ⟨hfresh, hvalue, hstate, -⟩ := createUsdcPaidJob_ok hcreate
  have hframe := authorizePlaybackDevice_uploadFrame hdevice
  have hbook : state.betaBook = s₂.betaBook := by
    rw [show state.betaBook = _ from congrArg Prod.snd hframe, hstate]
    rfl
  have hjobs : state.mediaJobs = s₂.mediaJobs.insert request.jobId
      (authorizedJob env request .usdc fee fee (quote.map (·.quoteId))) := by
    rw [show state.mediaJobs = _ from congrArg (fun frame => frame.1.jobs) hframe, hstate, hvalue]
    rfl
  rcases ite_eq_ok.mp hbeta with ⟨hset, hbeta⟩ | ⟨hset, hbeta⟩
  · obtain ⟨sponsor, hquote, hadmit⟩ := bind_eq_ok.mp hbeta
    obtain rfl := expect_eq_ok.mp hquote
    have hstate₁ : s₁.publicTestnetBeta = s.publicTestnetBeta := congrArg BetaBook.state hbook₁
    have hdays₁ : s₁.publicTestnetBetaDays = s.publicTestnetBetaDays :=
      congrArg BetaBook.days hbook₁
    have hmarkers₁ : s₁.publicTestnetBetaJobs = s.publicTestnetBetaJobs :=
      congrArg BetaBook.markers hbook₁
    obtain ⟨beta, marker, hstored, hopen, hwindow, hroom, hday, hmarker, hcreator, hgeneration,
      hsponsor, hadmitted, hdeadline, rfl⟩ := admitPublicTestnetBetaJob_admitted hadmit
    rw [← hcreator] at hday hbook
    refine ⟨?_, rfl, fun hnone => absurd hnone hset, fun _ => rfl⟩
    refine .admitted beta marker (authorizedJob env request .usdc fee fee (some sponsor.quoteId))
      (hstate₁ ▸ hstored) hopen hwindow hroom (hdays₁ ▸ hday) (hmarkers₁ ▸ hmarker) (hjobs₁ ▸ hfresh)
      ⟨hcreator, hgeneration, rfl, congrArg some hsponsor.symm, hadmitted, hdeadline, rfl⟩ ?_ ?_
    · rw [hbook, ← hdays₁, ← hmarkers₁]
      rfl
    · rw [hjobs]
      show s₁.mediaJobs.insert _ _ = _
      rw [hjobs₁]
      rfl
  · cases pure_eq_ok.mp hbeta
    have hnone : s.publicTestnetBeta = none := not_not.mp hset
    refine ⟨?_, rfl, fun _ => hbook.trans hbook₁, fun h => absurd hnone h⟩
    refine .created (authorizedJob env request .usdc fee fee (quote.map (·.quoteId))) hnone
      (hjobs₁ ▸ hfresh) (hbook.trans hbook₁) ?_
    rw [hjobs, hjobs₁]
    rfl

theorem ftOnTransfer_beta {senderId msg : String} {amount : Nat} {o : Outcome Nat}
    (h : ftOnTransfer env s senderId amount msg = .ok o) : BetaStep env s o.state := by
  rcases ftOnTransfer_paid h with hframe | ⟨request, quote, fee, session, -, haccept⟩
  · exact betaStep_of_frame hframe
  · exact (acceptPaidJob_beta haccept).1

/-- A transfer that gives its amount back leaves the beta alone. -/
theorem ftOnTransfer_returned {senderId msg : String} {amount : Nat} {o : Outcome Nat}
    (h : ftOnTransfer env s senderId amount msg = .ok o) (hreturned : o.value = amount) :
    o.state.betaBook = s.betaBook := by
  rcases ftOnTransfer_paid h with hframe | ⟨request, quote, fee, session, hpositive, haccept⟩
  · exact congrArg Prod.snd hframe
  · obtain ⟨-, hvalue, hnone, hquote⟩ := acceptPaidJob_beta haccept
    by_cases hset : s.publicTestnetBeta = none
    · exact hnone hset
    · -- An accepted payment is kept whole, and a sponsored one is not empty.
      have hpaid : 0 < amount := hpositive (hquote hset)
      rw [← hreturned, hvalue] at hpaid
      cases hpaid

/-- A NEAR payment never touches the beta. -/
theorem createPaidJobNear_betaBook {request : PaidJobRequest} {quote : CreatorFeeQuote}
    {signature : Bytes} {o : Outcome (Option MediaJob)}
    (h : createPaidJobNear env s request quote signature = .ok o) :
    o.state.betaBook = s.betaBook := by
  simp only [createPaidJobNear, bind_eq_ok] at h
  obtain ⟨_, -, _, -, _, -, _, -, _, -, h⟩ := h
  split at h
  · simp only [bind_eq_ok, pure_eq_ok] at h
    obtain ⟨_, -, rfl⟩ := h
    rfl
  · simp only [bind_eq_ok, pure_eq_ok] at h
    obtain ⟨_, -, _, -, balance, -, rfl⟩ := h
    rfl

/-- Every call that goes through makes a beta step. -/
theorem Call.run_beta {c : Call} {o : Outcome Unit} (h : c.run env s = .ok o) :
    BetaStep env s o.state := by
  obtain ⟨_, -, hbody⟩ := bind_eq_ok.mp h
  cases hc : c.writesUploads with
  | false =>
    cases hbeta : c.writesBeta with
    | false => exact betaStep_of_frame (callBody_uploadFrame hc hbeta o hbody)
    | true =>
      cases c with
      | startPublicTestnetBeta =>
        obtain ⟨o', ho', ho⟩ := bind_eq_ok.mp hbody
        cases pure_eq_ok.mp ho
        exact startPublicTestnetBeta_beta ho'
      | closePublicTestnetBeta =>
        obtain ⟨o', ho', ho⟩ := bind_eq_ok.mp hbody
        cases pure_eq_ok.mp ho
        exact closePublicTestnetBeta_beta ho'
      | _ => cases hbeta
  | true =>
    cases c with
    | createPaidJob =>
      obtain ⟨o', ho', ho⟩ := bind_eq_ok.mp hbody
      cases pure_eq_ok.mp ho
      exact createPaidJob_beta ho'
    | createPaidJobNear =>
      obtain ⟨o', ho', ho⟩ := bind_eq_ok.mp hbody
      cases pure_eq_ok.mp ho
      exact createPaidJobNear_beta ho'
    | restartPaidJob =>
      obtain ⟨o', ho', ho⟩ := bind_eq_ok.mp hbody
      cases pure_eq_ok.mp ho
      exact restartPaidJob_beta ho'
    | replaceUploadKey =>
      obtain ⟨o', ho', ho⟩ := bind_eq_ok.mp hbody
      cases pure_eq_ok.mp ho
      exact replaceUploadKey_beta ho'
    | setPublicUploadFullHd =>
      obtain ⟨o', ho', ho⟩ := bind_eq_ok.mp hbody
      cases pure_eq_ok.mp ho
      exact setPublicUploadFullHd_beta ho'
    | finalizePublication =>
      obtain ⟨o', ho', ho⟩ := bind_eq_ok.mp hbody
      cases pure_eq_ok.mp ho
      exact finalizePublication_beta ho'
    | ftOnTransfer =>
      obtain ⟨o', ho', ho⟩ := bind_eq_ok.mp hbody
      cases pure_eq_ok.mp ho
      exact ftOnTransfer_beta ho'
    | _ => cases hc

/-- A first finalisation during the beta comes within the window and the job's deadline. -/
theorem finalizePublication_due {submission : PublicationSubmission} {o : Outcome Publication}
    (h : finalizePublication env s submission = .ok o)
    (hfresh : s.publications.get submission.jobId = none) {state : PublicTestnetBetaState}
    (hstate : s.publicTestnetBeta = some state) :
    state.closedAtMs = none ∧ env.blockTimestampMs < state.endsAtMs ∧
      ∃ job marker, s.mediaJobs.get submission.jobId = some job ∧
        s.publicTestnetBetaJobs.get job.jobId = some marker ∧
        env.blockTimestampMs ≤ marker.deadlineAtMs := by
  obtain ⟨job, hcheck, h⟩ := bind_eq_ok.mp h
  obtain ⟨-, hget, -⟩ := assertSubmission_ok hcheck
  rw [hfresh] at h
  obtain ⟨_, hdeadlines, -⟩ := bind_eq_ok.mp h
  simp only [assertFinalizeDeadlines, bind_eq_ok] at hdeadlines
  obtain ⟨_, -, hbeta⟩ := hdeadlines
  have hset : s.publicTestnetBeta ≠ none := by
    rw [hstate]
    exact Option.some_ne_none state
  have hchecks := checkWhen_eq_ok.mp hbeta hset
  simp only [bind_eq_ok, require_eq_ok] at hchecks
  obtain ⟨_, hactive, marker, hmarker, hdue⟩ := hchecks
  obtain ⟨active, hsome⟩ := Option.isSome_iff_exists.mp hactive
  obtain ⟨hactiveState, hopen, hends⟩ := activePublicTestnetBeta_some hsome
  obtain rfl := Option.some.inj (hstate.symm.trans hactiveState)
  simp only [requirePublicTestnetBetaJob, bind_eq_ok, expect_eq_ok, pure_eq_ok] at hmarker
  obtain ⟨_, hget', _, -, _, -, _, -, rfl⟩ := hmarker
  exact ⟨hopen, hends, job, _, hget, hget', hdue⟩

end Call

/-! ## What the markers say about the jobs -/

/-- The job is still the one the marker was written for. -/
structure PublicTestnetBetaJob.Of (marker : PublicTestnetBetaJob) (job : MediaJob) : Prop where
  creatorId : job.creatorId = marker.creatorId
  markerGeneration : marker.generation = 1
  generation : job.generation = 1
  quote : job.feeQuoteHash = some marker.sponsorQuoteId

structure BetaBook.Sound (book : BetaBook) (jobs : LookupMap String MediaJob) : Prop where
  unstarted : book.state = none → book.markers = .empty
  counted : ∀ state, book.state = some state → state.totalJobCount = book.markers.keys.card
  limit : ∀ state, book.state = some state → state.totalJobCount ≤ publicTestnetBetaMaxJobs
  deadline : ∀ state, book.state = some state → ∀ k marker, book.markers.get k = some marker →
    marker.deadlineAtMs = Nat.min (marker.admittedAtMs + publicTestnetBetaJobTtlMs) state.endsAtMs
  day : ∀ k marker, book.markers.get k = some marker →
    book.days.get (publicTestnetBetaDayKey marker.creatorId (marker.admittedAtMs / dayMs)) = some k
  job : ∀ k marker, book.markers.get k = some marker → ∃ job, jobs.get k = some job ∧ marker.Of job

/-- Every marker stays as it was written. -/
def BetaBook.KeptBy (before after : BetaBook) : Prop :=
  ∀ k marker, before.markers.get k = some marker → after.markers.get k = some marker

section Step

variable {env : Env} {s s' : Contract}

/-- Two markers of one creator on one day are one. -/
theorem BetaBook.Sound.day_unique {book : BetaBook} {jobs : LookupMap String MediaJob}
    (hs : book.Sound jobs) {k k' : String} {marker marker' : PublicTestnetBetaJob}
    (hget : book.markers.get k = some marker) (hget' : book.markers.get k' = some marker')
    (hcreator : marker.creatorId = marker'.creatorId)
    (hday : marker.admittedAtMs / dayMs = marker'.admittedAtMs / dayMs) : k = k' := by
  have hk := hs.day k marker hget
  rw [hcreator, hday, hs.day k' marker' hget'] at hk
  exact (Option.some.inj hk).symm

/-- The jobs may change as long as each keeps what a marker of it says. -/
theorem BetaBook.Sound.of_jobs {book : BetaBook} {jobs jobs' : LookupMap String MediaJob}
    (hs : book.Sound jobs)
    (hjobs : ∀ k marker job, book.markers.get k = some marker → jobs.get k = some job →
      marker.Of job → ∃ job', jobs'.get k = some job' ∧ marker.Of job') : book.Sound jobs' where
  unstarted := hs.unstarted
  counted := hs.counted
  limit := hs.limit
  deadline := hs.deadline
  day := hs.day
  job k marker hget := by
    obtain ⟨job, hjob, hof⟩ := hs.job k marker hget
    exact hjobs k marker job hget hjob hof

/-- One beta step keeps the markers right. -/
theorem BetaStep.sound (h : BetaStep env s s') (hs : s.betaBook.Sound s.mediaJobs) :
    s'.betaBook.Sound s'.mediaJobs := by
  cases h with
  | quiet hbook hjobs =>
    rw [hbook, hjobs]
    exact hs
  | started state hnone hcount hbook hjobs =>
    have hempty : s.betaBook.markers = .empty := hs.unstarted hnone
    rw [hbook, hjobs]
    constructor
    · rintro ⟨⟩
    · rintro _ ⟨⟩
      show state.totalJobCount = s.betaBook.markers.keys.card
      rw [hcount, hempty]
      rfl
    · rintro _ ⟨⟩
      rw [hcount]
      exact Nat.zero_le _
    · rintro _ ⟨⟩ k marker hget
      change s.betaBook.markers.get k = some marker at hget
      rw [hempty, LookupMap.get_empty] at hget
      cases hget
    · exact hs.day
    · exact hs.job
  | closed state closedAtMs hstate hbook hjobs =>
    rw [hbook, hjobs]
    constructor
    · rintro ⟨⟩
    · rintro _ ⟨⟩
      exact hs.counted state hstate
    · rintro _ ⟨⟩
      exact hs.limit state hstate
    · rintro _ ⟨⟩
      exact hs.deadline state hstate
    · exact hs.day
    · exact hs.job
  | created job hnone hfresh hbook hjobs =>
    rw [hbook, hjobs]
    refine hs.of_jobs fun k marker job' hget => ?_
    rw [hs.unstarted hnone, LookupMap.get_empty] at hget
    cases hget
  | edited k old new hget hcreator hquote hgeneration hbook hjobs =>
    rw [hbook, hjobs]
    refine hs.of_jobs fun k' marker job hmarker hjob hof => ?_
    rw [LookupMap.get_insert]
    split
    · next hk =>
        subst hk
        obtain rfl := Option.some.inj (hget.symm.trans hjob)
        rcases hgeneration with hsame | hunmarked
        · exact ⟨new, rfl, hcreator.trans hof.creatorId, hof.markerGeneration,
            hsame.trans hof.generation, hquote.trans hof.quote⟩
        · cases hunmarked.symm.trans hmarker
    · exact ⟨job, hjob, hof⟩
  | admitted state marker job hstate hopen hwindow hroom hday hmarker hfresh hmade hbook hjobs =>
    rw [hbook, hjobs]
    constructor
    · rintro ⟨⟩
    · rintro _ ⟨⟩
      have hnew : job.jobId ∉ s.publicTestnetBetaJobs.keys := by
        intro hmem
        obtain ⟨_, hget⟩ := LookupMap.mem_keys.mp hmem
        cases hmarker.symm.trans hget
      rw [LookupMap.keys_insert, Finset.card_insert_of_notMem hnew]
      exact congrArg (· + 1) (hs.counted state hstate)
    · rintro _ ⟨⟩
      exact hroom
    · rintro _ ⟨⟩ k marker' hget
      rw [LookupMap.get_insert] at hget
      split at hget
      · cases hget
        rw [hmade.deadlineAtMs, hmade.admittedAtMs]
      · exact hs.deadline state hstate k marker' hget
    · intro k marker' hget
      rw [LookupMap.get_insert] at hget ⊢
      split at hget
      · next hk =>
          cases hget
          rw [hmade.admittedAtMs, if_pos rfl, hk]
      · -- The day key that is written was free, so it is not the key of an older marker.
        have hkept := hs.day k marker' hget
        rw [if_neg]
        · exact hkept
        · intro hkey
          rw [hkey] at hkept
          cases hday.symm.trans hkept
    · intro k marker' hget
      rw [LookupMap.get_insert] at hget ⊢
      split at hget
      · next hk =>
          cases hget
          rw [if_pos hk]
          exact ⟨job, rfl, hmade.creatorId.symm, hmade.generation, hmade.jobGeneration,
            hmade.quote⟩
      · next hk =>
          rw [if_neg hk]
          exact hs.job k marker' hget

theorem BetaStep.keeps (h : BetaStep env s s') : s.betaBook.KeptBy s'.betaBook := by
  intro k marker hget
  cases h with
  | quiet hbook => rwa [hbook]
  | started _ _ _ hbook => rwa [hbook]
  | closed _ _ _ hbook => rwa [hbook]
  | created _ _ _ hbook => rwa [hbook]
  | edited _ _ _ _ _ _ _ hbook => rwa [hbook]
  | admitted _ _ _ _ _ _ _ _ hmarker _ _ hbook =>
    rw [hbook]
    refine (LookupMap.get_insert_of_ne _ _ ?_).trans hget
    rintro rfl
    cases hmarker.symm.trans hget

/-- A job that a step adds while the window is stored was admitted in it. -/
theorem BetaStep.job_admitted (h : BetaStep env s s') {state : PublicTestnetBetaState}
    (hstate : s.publicTestnetBeta = some state) {k : String} {job : MediaJob}
    (hbefore : s.mediaJobs.get k = none) (hafter : s'.mediaJobs.get k = some job) :
    state.closedAtMs = none ∧ env.blockTimestampMs < state.uploadClosesAtMs ∧
      job.createdAtMs = env.blockTimestampMs ∧
      ∃ marker, s'.betaBook.markers.get k = some marker ∧
        marker.admittedAtMs = env.blockTimestampMs := by
  cases h with
  | quiet _ hjobs | started _ _ _ _ hjobs | closed _ _ _ _ hjobs =>
    rw [hjobs] at hafter
    cases hbefore.symm.trans hafter
  | created _ hnone => cases hnone.symm.trans hstate
  | edited k' _ _ hget _ _ _ _ hjobs =>
    rw [hjobs, LookupMap.get_insert_of_ne] at hafter
    · cases hbefore.symm.trans hafter
    · rintro rfl
      cases hbefore.symm.trans hget
  | admitted state' marker job' hstate' hopen hwindow _ _ _ _ hmade hbook hjobs =>
    obtain rfl := Option.some.inj (hstate.symm.trans hstate')
    rw [hjobs, LookupMap.get_insert] at hafter
    split at hafter
    · next hk =>
        cases hafter
        refine ⟨hopen, hwindow, hmade.createdAtMs, marker, ?_, hmade.admittedAtMs⟩
        rw [hbook, hk]
        exact LookupMap.get_insert_self _ _ _
    · cases hbefore.symm.trans hafter

end Step

/-! ## Runs -/

/-- What a step publishes anew was submitted in its call. -/
theorem CatalogStep.newlyFinalized {env : Env} {s : Contract} {c : Call} {after : Catalog}
    (h : CatalogStep env s c after) {k : String} (hbefore : s.publications.get k = none)
    (hafter : (after.publications.get k).isSome = true) :
    ∃ submission, c = .finalizePublication submission ∧ submission.jobId = k := by
  cases h with
  | same | newJob | editJob =>
    rw [hbefore] at hafter
    cases hafter
  | @finalize submission job =>
    refine ⟨submission, rfl, ?_⟩
    by_contra hne
    change ((s.publications.insert submission.jobId _).get k).isSome = true at hafter
    rw [LookupMap.get_insert_of_ne _ _ (Ne.symm hne), hbefore] at hafter
    cases hafter
  | @suspend id publication hget =>
    cases (stored_of_edit hget k hafter).symm.trans (congrArg Option.isSome hbefore)
  | @takedown id _ _ _ _ publication hget =>
    cases (stored_of_edit hget k hafter).symm.trans (congrArg Option.isSome hbefore)

/-- The payment comes back, or its call panics. -/
def PaymentRefused (host : Host) (x : Transition World Label) : Prop :=
  (∃ ctx senderId amount msg, x.label = .call ctx (.ftOnTransfer senderId amount msg) ∧
    ((∃ e, (Call.ftOnTransfer senderId amount msg).run ⟨host, ctx⟩ x.pre.contract = .error e) ∨
      ∃ o, ftOnTransfer ⟨host, ctx⟩ x.pre.contract senderId amount msg = .ok o ∧
        o.value = amount)) ∨
  ∃ ctx request quote signature,
    x.label = .call ctx (.createPaidJobNear request quote signature) ∧
    ((∃ e, (Call.createPaidJobNear request quote signature).run ⟨host, ctx⟩ x.pre.contract =
        .error e) ∨
      ∃ o, createPaidJobNear ⟨host, ctx⟩ x.pre.contract request quote signature = .ok o ∧
        o.value = none)

section Runs

variable {host : Host} {w₀ w w' : World} {l : Label} {tr : List (Transition World Label)}

/-- A step of the world runs a beta step at the time it leaves, or leaves the storage alone. -/
theorem World.beta_cases (h : worldStep host w l w') :
    w'.contract = w.contract ∨
      ∃ env : Env, env.blockTimestampMs = w'.now ∧ BetaStep env w.contract w'.contract := by
  cases World.step_cases h with
  | ran _ _ hrun => exact .inr ⟨_, rfl, Call.run_beta hrun⟩
  | panicked | landed | dropped => exact .inl rfl

theorem new_betaBook {env : Env} {config : MarketInitConfig} {c : Contract}
    (h : new env config = .ok c) : c.betaBook = ⟨none, .empty, .empty⟩ := by
  simp only [new, bind_eq_ok, pure_eq_ok] at h
  obtain ⟨-, -, -, -, -, -, _, -, -, -, -, -, -, -, -, -, -, -, -, -, rfl⟩ := h
  rfl

theorem Initial.betaBook (h : Initial host w₀) :
    w₀.contract.betaBook.Sound w₀.contract.mediaJobs := by
  have hbook : w₀.contract.betaBook = ⟨none, .empty, .empty⟩ := by
    cases h with
    | new _ h => exact new_betaBook h
    | newPublicTestnet _ h =>
      simp only [MarketV2.newPublicTestnet, bind_eq_ok, pure_eq_ok] at h
      obtain ⟨c, hc, -, -, -, -, -, -, rfl⟩ := h
      show c.betaBook = _
      exact new_betaBook hc
  rw [hbook]
  constructor
  · exact fun _ => rfl
  · rintro _ ⟨⟩
  · rintro _ ⟨⟩
  · rintro _ ⟨⟩
  · rintro k marker ⟨⟩
  · rintro k marker ⟨⟩

theorem betaBook_sound (h₀ : Initial host w₀) (h : Trace (worldStep host) w₀ tr w) :
    w.contract.betaBook.Sound w.contract.mediaJobs := by
  refine h.invariant (I := fun w => w.contract.betaBook.Sound w.contract.mediaJobs) ?_ h₀.betaBook
  intro w l w' hw hst
  rcases World.beta_cases hst with hsame | ⟨env, -, hstep⟩
  · rwa [hsame]
  · exact hstep.sound hw

theorem betaBook_kept (h : Trace (worldStep host) w tr w') :
    w.contract.betaBook.KeptBy w'.contract.betaBook := by
  refine h.relate (I := fun _ => True)
    (R := fun a b => a.contract.betaBook.KeptBy b.contract.betaBook) ?_ ?_ ?_ ?_ trivial
  · intro w k marker hget
    exact hget
  · intro a b c hab hbc k marker hget
    exact hbc k marker (hab k marker hget)
  · intros
    trivial
  · intro a l b _ hst
    rcases World.beta_cases hst with hsame | ⟨env, -, hstep⟩
    · intro k marker hget
      rwa [hsame]
    · exact hstep.keeps

/-- A step that publishes a job during the beta comes within the window and the job's deadline. -/
theorem World.publication_due {published : List String}
    (hs : w.contract.toCatalog.Sound published) (h : worldStep host w l w')
    {state : PublicTestnetBetaState} (hstate : w.contract.publicTestnetBeta = some state)
    {k : String} (hbefore : w.contract.publications.get k = none)
    (hafter : (w'.contract.publications.get k).isSome = true) :
    state.closedAtMs = none ∧ w'.now < state.endsAtMs ∧
      ∃ marker, w.contract.betaBook.markers.get k = some marker ∧
        w'.now ≤ marker.deadlineAtMs := by
  cases World.step_cases h with
  | ran hdelivery hnow hrun =>
    obtain ⟨submission, rfl, rfl⟩ :=
      (Call.run_effect hrun).catalog.newlyFinalized hbefore hafter
    obtain ⟨_, -, hbody⟩ := bind_eq_ok.mp hrun
    obtain ⟨o', hfinalize, -⟩ := bind_eq_ok.mp hbody
    obtain ⟨hopen, hends, job, marker, hjob, hmarker, hdue⟩ :=
      finalizePublication_due hfinalize hbefore hstate
    rw [hs.jobKey _ job hjob] at hmarker
    exact ⟨hopen, hends, marker, hmarker, hdue⟩
  | panicked | landed | dropped =>
    rw [hbefore] at hafter
    cases hafter

/-- A payment that is refused leaves the counter, the markers and the day keys alone. -/
theorem PaymentRefused.betaBook {x : Transition World Label} (h : PaymentRefused host x)
    (hst : worldStep host x.pre x.label x.post) :
    x.post.contract.betaBook = x.pre.contract.betaBook := by
  obtain ⟨w, l, w'⟩ := x
  dsimp only at hst ⊢
  rcases h with ⟨ctx, senderId, amount, msg, hlabel, hrefused⟩ |
    ⟨ctx, request, quote, signature, hlabel, hrefused⟩
  · cases World.step_cases hst with
    | ran hdelivery hnow hrun =>
      cases hlabel
      cases hdelivery
      rcases hrefused with ⟨e, herror⟩ | ⟨o, hpay, hreturned⟩
      · cases hrun.symm.trans herror
      · obtain ⟨_, -, hbody⟩ := bind_eq_ok.mp hrun
        obtain ⟨o', hpay', ho⟩ := bind_eq_ok.mp hbody
        obtain rfl := Except.ok.inj (hpay.symm.trans hpay')
        cases pure_eq_ok.mp ho
        exact ftOnTransfer_returned hpay hreturned
    | panicked | landed | dropped => rfl
  · cases World.step_cases hst with
    | ran hdelivery hnow hrun =>
      cases hlabel
      cases hdelivery
      obtain ⟨_, -, hbody⟩ := bind_eq_ok.mp hrun
      obtain ⟨o', hpay, ho⟩ := bind_eq_ok.mp hbody
      cases pure_eq_ok.mp ho
      exact createPaidJobNear_betaBook hpay
    | panicked | landed | dropped => rfl

/-- Purchases are paused, the beta is started, and a sponsored job is paid for and published. -/
def Vectors.betaUpload : List Label :=
  [.call (context config.guardianAccountId issuedAtMs) .pauseNewPurchases,
   .call (context config.adminAccountId issuedAtMs) .startPublicTestnetBeta,
   .call (context config.adminAccountId issuedAtMs) .requestNewPurchasesUnpause,
   .call (context config.adminAccountId issuedAtMs) .unpauseNewPurchases,
   .call (context testnetUsdc issuedAtMs) (.ftOnTransfer creatorId 600000 "job"),
   .call (context config.bridgeAccountId issuedAtMs)
     (.finalizePublication { submission with profileConfigSha256 := publicUploadProfileHash })]

/-! ## Every run -/

/-- The limits of the public beta, in every run: the counter is the number of markers and at most
ten, a creator has one marker a day, and every marker is of a job in its first generation that was
paid under the marker's quote. A job created while the window is stored gets a marker, before uploads
close; a publication has one, within the job's day and the window; and a refused payment writes
nothing of the beta. -/
theorem public_beta_limits (h₀ : Initial host w₀) (h : Trace (worldStep host) w₀ tr w) :
    (∀ state, w.contract.publicTestnetBeta = some state →
      state.totalJobCount = w.contract.publicTestnetBetaJobs.keys.card ∧
        state.totalJobCount ≤ 10) ∧
    (∀ k k' marker marker', w.contract.publicTestnetBetaJobs.get k = some marker →
      w.contract.publicTestnetBetaJobs.get k' = some marker' →
      marker.creatorId = marker'.creatorId →
      marker.admittedAtMs / dayMs = marker'.admittedAtMs / dayMs → k = k') ∧
    (∀ k marker, w.contract.publicTestnetBetaJobs.get k = some marker →
      ∃ job, w.contract.mediaJobs.get k = some job ∧ marker.Of job) ∧
    (∀ x ∈ tr, ∀ state, x.pre.contract.publicTestnetBeta = some state →
      ∀ k job, x.pre.contract.mediaJobs.get k = none →
        x.post.contract.mediaJobs.get k = some job →
        state.closedAtMs = none ∧ x.post.now < state.uploadClosesAtMs ∧
          job.createdAtMs = x.post.now ∧
          ∃ marker, w.contract.publicTestnetBetaJobs.get k = some marker ∧
            marker.admittedAtMs = x.post.now) ∧
    (∀ x ∈ tr, ∀ state, x.pre.contract.publicTestnetBeta = some state →
      ∀ k, x.pre.contract.publications.get k = none →
        (x.post.contract.publications.get k).isSome = true →
        state.closedAtMs = none ∧ x.post.now < state.endsAtMs ∧
          ∃ marker, w.contract.publicTestnetBetaJobs.get k = some marker ∧
            x.post.now ≤ Nat.min (marker.admittedAtMs + 24 * 60 * 60 * 1000) state.endsAtMs) ∧
    ∀ x ∈ tr, PaymentRefused host x → x.post.contract.betaBook = x.pre.contract.betaBook := by
  have hsound := betaBook_sound h₀ h
  refine ⟨?_, ?_, hsound.job, ?_, ?_, ?_⟩
  · intro state hstate
    exact ⟨hsound.counted state hstate, hsound.limit state hstate⟩
  · intro k k' marker marker' hget hget' hcreator hday
    exact hsound.day_unique hget hget' hcreator hday
  · intro x hx state hstate k job hbefore hafter
    obtain ⟨a, b, rfl⟩ := List.append_of_mem hx
    obtain ⟨-, hst, hrest⟩ := h.at_mem
    rcases World.beta_cases hst with hsame | ⟨env, hclock, hstep⟩
    · rw [hsame, hbefore] at hafter
      cases hafter
    · obtain ⟨hopen, hwindow, hcreated, marker, hget, hadmitted⟩ :=
        hstep.job_admitted hstate hbefore hafter
      rw [hclock] at hwindow hcreated hadmitted
      exact ⟨hopen, hwindow, hcreated, marker, betaBook_kept hrest k marker hget, hadmitted⟩
  · intro x hx state hstate k hbefore hafter
    obtain ⟨a, b, rfl⟩ := List.append_of_mem hx
    obtain ⟨ha, hst, hrest⟩ := h.at_mem
    obtain ⟨hopen, hends, marker, hget, hdue⟩ :=
      World.publication_due (catalog_sound h₀ ha) hst hstate hbefore hafter
    have hkept : x.pre.contract.betaBook.KeptBy w.contract.betaBook :=
      betaBook_kept (.cons hst hrest)
    refine ⟨hopen, hends, marker, hkept k marker hget, ?_⟩
    exact hdue.trans_eq ((betaBook_sound h₀ ha).deadline state hstate k marker hget)
  · intro x hx hrefused
    exact hrefused.betaBook (h.step_of_mem hx)

/-- A beta with one published job has one marker, of that job. -/
theorem public_beta_limits_published :
    ∃ w₀ tr w, Initial Vectors.uploadHost w₀ ∧ Trace (worldStep Vectors.uploadHost) w₀ tr w ∧
      (w.contract.publications.get Vectors.publicationId).isSome = true ∧
      w.contract.publicTestnetBetaJobs.keys.card = 1 ∧
      ∃ marker job, w.contract.publicTestnetBetaJobs.get Vectors.publicationId = some marker ∧
        w.contract.mediaJobs.get Vectors.publicationId = some job ∧ marker.Of job := by
  have hrun : (Vectors.worldRun Vectors.uploadHost Vectors.betaUpload).map (fun r =>
      (r.2.contract.publicTestnetBeta.map (·.totalJobCount),
        (r.2.contract.publications.get Vectors.publicationId).isSome,
        (r.2.contract.publicTestnetBetaJobs.get Vectors.publicationId).isSome)) =
      some (some 1, true, true) := by
    decide +kernel
  obtain ⟨w₀, tr, w, h₀, h, hf⟩ := Vectors.trace_of_worldRun hrun
  obtain ⟨hcount, hf⟩ := Prod.mk.inj hf
  obtain ⟨hpublished, hmarked⟩ := Prod.mk.inj hf
  obtain ⟨state, hstate, hone⟩ := Option.map_eq_some_iff.mp hcount
  obtain ⟨marker, hmarker⟩ := Option.isSome_iff_exists.mp hmarked
  obtain ⟨hcounter, -, hjob, -⟩ := public_beta_limits h₀ h
  refine ⟨w₀, tr, w, h₀, h, hpublished, ?_, marker, ?_⟩
  · rw [← (hcounter state hstate).1, hone]
  · obtain ⟨job, hget, hof⟩ := hjob _ marker hmarker
    exact ⟨job, hmarker, hget, hof⟩

end Runs

end Youtick.MarketV2
