import Youtick.MarketV2.PublicationIndex

/-!
# Market V2: the public upload policy

Under the policy a creator has one unfinished upload at a time, two admissions a day, and a day to
finish each. The storage keeps one record per creator: the UTC day of the last admission, how many
there were on it, and the last job. `UploadStep` says what a call can do to the jobs and the records,
and `UploadSound` what the records say about all jobs of a run: every job that is still active is the
latest of its creator, and the count of the stored day is the number of jobs created on it.
-/

set_option autoImplicit false

namespace Youtick.MarketV2

open Youtick.Lib

/-! ## What the policy reads and writes -/

structure UploadBook where
  jobs : LookupMap String MediaJob
  creators : LookupMap AccountId PublicUploadCreator
  policySet : Bool

def Contract.uploadBook (s : Contract) : UploadBook where
  jobs := s.mediaJobs
  creators := s.publicUploadCreators
  policySet := s.publicUploadPolicy.isSome

/-- The beta's window and counter, its markers and its day keys. -/
structure BetaBook where
  state : Option PublicTestnetBetaState
  markers : LookupMap String PublicTestnetBetaJob
  days : LookupMap String String

def Contract.betaBook (s : Contract) : BetaBook where
  state := s.publicTestnetBeta
  markers := s.publicTestnetBetaJobs
  days := s.publicTestnetBetaDays

/-- What the upload limits read. -/
def Contract.uploadFrame (s : Contract) : UploadBook × BetaBook := (s.uploadBook, s.betaBook)

/-- The calls that can change it. -/
def Call.writesUploads : Call → Bool
  | .createPaidJob .. | .createPaidJobNear .. | .replaceUploadKey .. | .restartPaidJob ..
  | .setPublicUploadFullHd _ | .finalizePublication _ | .ftOnTransfer .. => true
  | _ => false

/-- The calls that change the beta's window. -/
def Call.writesBeta : Call → Bool
  | .startPublicTestnetBeta | .closePublicTestnetBeta => true
  | _ => false

/-- The admissions the creator's record counts for the day. -/
def countedOn (creators : LookupMap AccountId PublicUploadCreator) (creator : AccountId)
    (day : Nat) : Nat :=
  (((creators.get creator).filter fun record => decide (record.day = day)).map (·.count)).getD 0

/-- What one call can do under the policy. -/
inductive UploadStep (env : Env) (s : Contract) : Call → UploadBook → Prop where
  | quiet {c : Call} : UploadStep env s c s.uploadBook
  | admitted {senderId msg : String} {amount : Nat} (job : MediaJob)
      (hfresh : s.mediaJobs.get job.jobId = none) (hcreated : job.createdAtMs = env.blockTimestampMs)
      (hidle : ∀ record latest, s.publicUploadCreators.get job.creatorId = some record →
        s.mediaJobs.get record.latestJobId = some latest →
          latest.status = .published ∨ latest.createdAtMs + dayMs ≤ env.blockTimestampMs)
      (hcount : countedOn s.publicUploadCreators job.creatorId
        (env.blockTimestampMs / dayMs) < 2) :
      UploadStep env s (.ftOnTransfer senderId amount msg) {
        jobs := s.mediaJobs.insert job.jobId job
        creators := s.publicUploadCreators.insert job.creatorId {
          day := env.blockTimestampMs / dayMs
          count := countedOn s.publicUploadCreators job.creatorId
            (env.blockTimestampMs / dayMs) + 1
          latestJobId := job.jobId }
        policySet := s.publicUploadPolicy.isSome }
  | edited {c : Call} {k : String} {old new : MediaJob} (hget : s.mediaJobs.get k = some old)
      (hcreator : new.creatorId = old.creatorId) (hcreated : new.createdAtMs = old.createdAtMs)
      (hstatus : new.status = .authorized → old.status = .authorized) :
      UploadStep env s c { s.uploadBook with jobs := s.mediaJobs.insert k new }

section Call

variable {env : Env} {s : Contract}

/-! ## Calls that leave it alone -/

theorem settleTicket_uploadFrame {ticket : Ticket} :
    Ensures (fun s' => s'.uploadFrame = s.uploadFrame) (settleTicket s ticket) := by
  unfold settleTicket creditCreator
  repeat refine ensures_bind fun _ _ => ?_
  exact ensures_pure rfl

theorem releaseLoop_uploadFrame {ids : List String} :
    Ensures (fun r => r.1.uploadFrame = s.uploadFrame) (releaseLoop env s ids) := by
  induction ids generalizing s with
  | nil => exact ensures_ok rfl
  | cons id rest ih =>
    have hone : Ensures (fun r => ∀ s' event, r = some (s', event) →
        s'.uploadFrame = s.uploadFrame) (releaseOne env s id) := by
      unfold releaseOne
      split
      · exact ensures_ok (by simp)
      · refine ensures_bind fun _ _ => ensures_ite (fun _ => ensures_pure (by simp)) fun _ => ?_
        refine ensures_seq settleTicket_uploadFrame fun s' hs' => ensures_pure ?_
        rintro _ _ ⟨⟩
        exact hs'
    unfold releaseLoop
    refine ensures_seq hone fun r hr => ?_
    split
    · exact ih
    · next s' event =>
        refine ensures_seq ih fun last hlast => ensures_pure ?_
        exact hlast.trans (hr s' event rfl)

/-- What holds of the state holds when the return value is forgotten. -/
theorem ensures_void {α : Type} (Q : Contract → Prop) {x : Result (Outcome α)}
    (h : Ensures (fun o => Q o.state) x) :
    Ensures (fun o => Q o.state) (do return (← x).void) :=
  ensures_seq h fun _ ho => ensures_pure ho

/-- No other call writes a job, a record, the policy or the beta. -/
theorem callBody_uploadFrame {c : Call} (hc : c.writesUploads = false)
    (hbeta : c.writesBeta = false) :
    Ensures (fun o => o.state.uploadFrame = s.uploadFrame) (callBody env s c) := by
  cases c with
  | createPaidJob | createPaidJobNear | replaceUploadKey | restartPaidJob | setPublicUploadFullHd
  | finalizePublication | ftOnTransfer => cases hc
  | startPublicTestnetBeta | closePublicTestnetBeta => cases hbeta
  | releaseExpired =>
    apply ensures_void (·.uploadFrame = s.uploadFrame)
    refine ensures_bind fun _ _ => ensures_seq releaseLoop_uploadFrame fun r hr => ?_
    exact ensures_bind fun _ _ => ensures_pure hr
  | callback callback =>
    apply ensures_void (·.uploadFrame = s.uploadFrame)
    cases callback
    all_goals
      dsimp only [runCallback, onTicketRefund, onCreatorWithdraw, onPlatformWithdraw,
        onTaxWithdraw, onPlatformNearWithdraw, creditCreator]
      repeat
        first
          | refine ensures_bind fun _ _ => ?_
          | refine ensures_ite (fun _ => ?_) fun _ => ?_
          | exact ensures_pure rfl
          | exact ensures_error
          | split
  | activatePlaybackDevice publicationId session =>
    dsimp only [callBody, activatePlaybackDevice]
    repeat refine ensures_bind fun _ _ => ?_
    refine ensures_ite (fun _ => ensures_pure rfl) fun _ => ?_
    refine ensures_bind fun s' hs' => ensures_bind fun _ _ => ensures_pure ?_
    simp only [authorizePlaybackDevice, bind_eq_ok, pure_eq_ok] at hs'
    obtain ⟨_, -, rfl⟩ := hs'
    rfl
  | requestBridgeUnfreeze | requestNewPurchasesUnpause | proposeRoleRotation | proposeCodeUpgrade
  | suspendSales | takedownPublication | markWatched | addDevice | issueCardTicket =>
    apply ensures_void (·.uploadFrame = s.uploadFrame)
    dsimp only [requestBridgeUnfreeze, requestNewPurchasesUnpause, proposeRoleRotation,
      proposeCodeUpgrade, suspendSales, takedownPublication, markWatched, addDevice,
      issueCardTicket]
    repeat
      first
        | refine ensures_bind fun _ _ => ?_
        | refine ensures_ite (fun _ => ?_) fun _ => ?_
        | exact ensures_pure rfl
        | exact ensures_error
        | split
  | _ =>
    dsimp only [callBody, freezeBridge, cancelBridgeUnfreeze, unfreezeBridge, pauseNewPurchases,
      cancelNewPurchasesUnpause, unpauseNewPurchases, proposeBridge, cancelBridgeRotation,
      executeBridgeRotation, cancelRoleRotation, executeRoleRotation, cancelCodeUpgrade,
      executeCodeUpgrade, migrate, rotateQuotePublicKey, withdrawCreatorBalance,
      withdrawPlatformBalance, withdrawTaxBalance, withdrawPlatformNear, refundTicket,
      revokeDevice, platformRevokeDevice, revokeTicketDevice, voidCardTicket, revokeVatKey]
    repeat
      first
        | refine ensures_bind fun _ _ => ?_
        | refine ensures_ite (fun _ => ?_) fun _ => ?_
        | exact ensures_pure rfl
        | exact ensures_error
        | split

theorem startPublicTestnetBeta_uploadBook {o : Outcome PublicTestnetBetaState}
    (h : startPublicTestnetBeta env s = .ok o) : o.state.uploadBook = s.uploadBook := by
  simp only [startPublicTestnetBeta, bind_eq_ok, pure_eq_ok] at h
  obtain ⟨_, -, _, -, _, -, _, -, _, -, _, -, _, -, _, -, _, -, rfl⟩ := h
  rfl

theorem closePublicTestnetBeta_uploadBook {o : Outcome PublicTestnetBetaState}
    (h : closePublicTestnetBeta env s = .ok o) : o.state.uploadBook = s.uploadBook := by
  simp only [closePublicTestnetBeta, bind_eq_ok] at h
  obtain ⟨_, -, state, -, h⟩ := h
  rcases ite_eq_ok.mp h with ⟨-, h⟩ | ⟨-, h⟩
  · cases pure_eq_ok.mp h
    rfl
  · cases pure_eq_ok.mp h
    rfl

/-- No other call writes a job, a record or the policy. -/
theorem callBody_uploadBook {c : Call} (hc : c.writesUploads = false) :
    Ensures (fun o => o.state.uploadBook = s.uploadBook) (callBody env s c) := by
  intro o h
  cases hbeta : c.writesBeta with
  | false => exact congrArg Prod.fst (callBody_uploadFrame hc hbeta o h)
  | true =>
    cases c with
    | startPublicTestnetBeta =>
      obtain ⟨o', ho', ho⟩ := bind_eq_ok.mp h
      cases pure_eq_ok.mp ho
      exact startPublicTestnetBeta_uploadBook ho'
    | closePublicTestnetBeta =>
      obtain ⟨o', ho', ho⟩ := bind_eq_ok.mp h
      cases pure_eq_ok.mp ho
      exact closePublicTestnetBeta_uploadBook ho'
    | _ => cases hbeta

/-! ## Calls that write it -/

/-- The policy's check of the creator, and the record it writes. -/
theorem admitPublicUpload_admitted {request : PaidJobRequest} {s' : Contract}
    (h : admitPublicUpload env s request = .ok s') :
    (∀ record latest, s.publicUploadCreators.get request.creatorId = some record →
      s.mediaJobs.get record.latestJobId = some latest →
        latest.status = .published ∨ latest.createdAtMs + dayMs ≤ env.blockTimestampMs) ∧
    countedOn s.publicUploadCreators request.creatorId (env.blockTimestampMs / dayMs) < 2 ∧
    s' = { s with
      publicUploadCreators := s.publicUploadCreators.insert request.creatorId {
        day := env.blockTimestampMs / dayMs
        count := countedOn s.publicUploadCreators request.creatorId
          (env.blockTimestampMs / dayMs) + 1
        latestJobId := request.jobId } } := by
  simp only [admitPublicUpload, bind_eq_ok, require_eq_ok, pure_eq_ok] at h
  obtain ⟨_, -, _, -, _, -, _, hidle, _, hcount, rfl⟩ := h
  refine ⟨?_, hcount, rfl⟩
  intro record latest hrecord hlatest
  by_cases hstatus : latest.status = .published
  · exact .inl hstatus
  · right
    have hjob := checkSome_eq_ok.mp hidle latest (by rw [hrecord]; exact hlatest)
    obtain ⟨deadline, hdeadline, hdue⟩ := bind_eq_ok.mp (checkWhen_eq_ok.mp hjob hstatus)
    simp only [requirePublicUploadJob, bind_eq_ok, checkedAdd_eq_ok] at hdeadline
    obtain ⟨_, -, _, -, -, rfl⟩ := hdeadline
    exact require_eq_ok.mp hdue

theorem admitPublicTestnetBetaJob_uploadBook {request : PaidJobRequest}
    {quote : SponsoredUploadQuote} {s' : Contract}
    (h : admitPublicTestnetBetaJob env s request quote = .ok s') :
    s'.uploadBook = s.uploadBook := by
  simp only [admitPublicTestnetBetaJob, bind_eq_ok, pure_eq_ok] at h
  obtain ⟨_, -, _, -, _, -, _, -, _, -, _, -, _, -, _, -, _, -, _, -, rfl⟩ := h
  rfl

theorem authorizePlaybackDevice_uploadFrame {accountId : AccountId}
    {authorization : Option PlaybackSessionAuthorization} {s' : Contract}
    (h : authorizePlaybackDevice env s accountId authorization = .ok s') :
    s'.uploadFrame = s.uploadFrame := by
  cases authorization with
  | none =>
    cases ok_eq_ok.mp h
    rfl
  | some authorization =>
    simp only [authorizePlaybackDevice, bind_eq_ok, pure_eq_ok] at h
    obtain ⟨_, -, rfl⟩ := h
    rfl

/-- A job is admitted, created and paid for in one call. -/
theorem acceptPaidJob_uploads (hpolicy : s.publicUploadPolicy ≠ none) {senderId msg : String}
    {amount fee : Nat} {request : PaidJobRequest} {quote : Option SponsoredUploadQuote}
    {session : Option PlaybackSessionAuthorization} {o : Outcome Nat}
    (h : acceptPaidJob env s senderId amount request quote fee session = .ok o) :
    UploadStep env s (.ftOnTransfer senderId amount msg) o.state.uploadBook := by
  simp only [acceptPaidJob, admitJob, if_pos hpolicy, bind_eq_ok, pure_eq_ok] at h
  obtain ⟨s₂, ⟨s₁, hadmit, hbeta⟩, created, hcreate, _, -, state, hdevice, _, -, rfl⟩ := h
  obtain ⟨hidle, hcount, hs₁⟩ := admitPublicUpload_admitted hadmit
  have hs₂ : s₂.uploadBook = s₁.uploadBook := by
    rcases ite_eq_ok.mp hbeta with ⟨-, hbeta⟩ | ⟨-, hbeta⟩
    · obtain ⟨sponsor, -, hbeta⟩ := bind_eq_ok.mp hbeta
      exact admitPublicTestnetBetaJob_uploadBook hbeta
    · rw [pure_eq_ok.mp hbeta]
  obtain ⟨hfresh, hvalue, hstate, -⟩ := createUsdcPaidJob_ok hcreate
  have hjobs : s₂.mediaJobs = s.mediaJobs := by
    rw [show s₂.mediaJobs = s₁.mediaJobs from congrArg UploadBook.jobs hs₂, hs₁]
  have hbook : state.uploadBook = { s₁.uploadBook with
      jobs := s.mediaJobs.insert request.jobId created.value } := by
    have hdevice := congrArg Prod.fst (authorizePlaybackDevice_uploadFrame hdevice)
    rw [show state.uploadBook = _ from hdevice, hstate, ← hs₂, ← hjobs]
    rfl
  rw [hbook, hvalue, hs₁]
  exact .admitted (authorizedJob env request .usdc fee fee _) (hjobs ▸ hfresh) rfl hidle hcount

theorem buyTicketV2_uploadFrame {amount : Nat} {purchase : PurchaseMessageV2} :
    Ensures (fun o => o.state.uploadFrame = s.uploadFrame) (buyTicketV2 env s amount purchase) := by
  unfold buyTicketV2
  repeat
    first
      | refine ensures_bind fun _ _ => ?_
      | refine ensures_ite (fun _ => ?_) fun _ => ?_
      | exact ensures_pure rfl

/-- A verified sponsor quote asks for a positive fee. -/
theorem sponsorQuoteOf_fee {message : TransferMessage} {request : PaidJobRequest}
    {quote : SponsoredUploadQuote} (h : sponsorQuoteOf env s message request = .ok (some quote)) :
    0 < quote.totalFeeUsdc := by
  unfold sponsorQuoteOf at h
  split at h
  · cases ok_eq_ok.mp h
  · obtain ⟨_, hverify, h⟩ := bind_eq_ok.mp h
    cases pure_eq_ok.mp h
    simp only [verifySponsoredUploadQuote, bind_eq_ok, require_eq_ok, checkedAdd_eq_ok] at hverify
    obtain ⟨_, -, _, -, _, -, _, -, _, -, _, -, _, -, _, -, _, -, _, -, _, -, _, -, _, -, _, -,
      _, -, uploadFee, -, _, -, _, -, total, ⟨-, rfl⟩, _, hfee, -⟩ := hverify
    rw [hfee]
    exact Nat.add_pos_right _ (by decide)
  · cases h

/-- A transfer pays for a new job, or leaves the jobs, the records and the beta alone. -/
theorem ftOnTransfer_paid {senderId msg : String} {amount : Nat} {o : Outcome Nat}
    (h : ftOnTransfer env s senderId amount msg = .ok o) :
    o.state.uploadFrame = s.uploadFrame ∨
      ∃ (request : PaidJobRequest) (quote : Option SponsoredUploadQuote) (fee : Nat)
        (session : Option PlaybackSessionAuthorization),
        (quote.isSome = true → 0 < amount) ∧
          acceptPaidJob env s senderId amount request quote fee session = .ok o := by
  simp only [ftOnTransfer, bind_eq_ok] at h
  obtain ⟨_, -, _, -, h⟩ := h
  rcases ite_eq_ok.mp h with ⟨-, h⟩ | ⟨-, h⟩
  · obtain ⟨purchase, -, h⟩ := bind_eq_ok.mp h
    exact .inl (buyTicketV2_uploadFrame o h)
  · simp only [bind_eq_ok] at h
    obtain ⟨message, -, _, -, h⟩ := h
    rcases ite_eq_ok.mp h with ⟨-, h⟩ | ⟨-, h⟩
    · simp only [payForJob, bind_eq_ok] at h
      obtain ⟨⟨request, uploadFee⟩, -, quote, hquote, h⟩ := h
      rcases ite_eq_ok.mp h with ⟨-, h⟩ | ⟨-, h⟩
      · cases pure_eq_ok.mp h
        exact .inl rfl
      rcases ite_eq_ok.mp h with ⟨-, h⟩ | ⟨-, h⟩
      · cases pure_eq_ok.mp h
        exact .inl rfl
      simp only [bind_eq_ok, require_eq_ok] at h
      obtain ⟨_, hamount, h⟩ := h
      split at h
      · simp only [bind_eq_ok, pure_eq_ok] at h
        obtain ⟨_, -, _, -, rfl⟩ := h
        exact .inl rfl
      · rcases ite_eq_ok.mp h with ⟨-, h⟩ | ⟨-, h⟩
        · cases pure_eq_ok.mp h
          exact .inl rfl
        · refine .inr ⟨request, quote, _, message.playbackSession, ?_, h⟩
          intro hsome
          obtain ⟨sponsor, rfl⟩ := Option.isSome_iff_exists.mp hsome
          rw [hamount]
          exact sponsorQuoteOf_fee hquote
    · cases h

theorem ftOnTransfer_uploads (hpolicy : s.publicUploadPolicy ≠ none) {senderId msg : String}
    {amount : Nat} {o : Outcome Nat} (h : ftOnTransfer env s senderId amount msg = .ok o) :
    UploadStep env s (.ftOnTransfer senderId amount msg) o.state.uploadBook := by
  rcases ftOnTransfer_paid h with hframe | ⟨request, quote, fee, session, -, haccept⟩
  · rw [show o.state.uploadBook = s.uploadBook from congrArg Prod.fst hframe]
    exact .quiet
  · exact acceptPaidJob_uploads hpolicy haccept

theorem replaceUploadKey_uploads {jobId newPublicKey : String} {expiresAtMs : Nat}
    {o : Outcome MediaJob} (h : replaceUploadKey env s jobId newPublicKey expiresAtMs = .ok o) :
    UploadStep env s (.replaceUploadKey jobId newPublicKey expiresAtMs) o.state.uploadBook := by
  simp only [replaceUploadKey, bind_eq_ok, expect_eq_ok, pure_eq_ok] at h
  obtain ⟨job, hget, _, -, _, -, _, -, _, -, _, -, rfl⟩ := h
  exact .edited hget rfl rfl id

/-- A profile switch writes the policy and leaves it set. -/
theorem setPublicUploadFullHd_uploads {enabled : Bool} {o : Outcome PublicUploadPolicy}
    (h : setPublicUploadFullHd env s enabled = .ok o) : o.state.uploadBook = s.uploadBook := by
  simp only [setPublicUploadFullHd, bind_eq_ok, expect_eq_ok] at h
  obtain ⟨_, -, network, -, _, -, _, -, policy, hpolicy, _, -, _, -, h⟩ := h
  rcases ite_eq_ok.mp h with ⟨-, h⟩ | ⟨-, h⟩
  · cases pure_eq_ok.mp h
    rfl
  · simp only [bind_eq_ok, pure_eq_ok] at h
    obtain ⟨_, -, rfl⟩ := h
    simp [Contract.uploadBook, hpolicy]

/-- The first finalisation of a job comes before the job's deadline. -/
theorem finalizePublication_uploads (hpolicy : s.publicUploadPolicy ≠ none)
    {submission : PublicationSubmission} {o : Outcome Publication}
    (h : finalizePublication env s submission = .ok o) :
    UploadStep env s (.finalizePublication submission) o.state.uploadBook ∧
      (s.publications.get submission.jobId = none →
        ∃ job, s.mediaJobs.get submission.jobId = some job ∧
          env.blockTimestampMs < job.createdAtMs + publicTestnetBetaJobTtlMs) := by
  obtain ⟨job, hcheck, h⟩ := bind_eq_ok.mp h
  obtain ⟨-, hget, -⟩ := assertSubmission_ok hcheck
  split at h
  · next existing hexisting =>
      simp only [bind_eq_ok, pure_eq_ok] at h
      obtain ⟨_, -, rfl⟩ := h
      refine ⟨.quiet, fun hnone => ?_⟩
      cases hnone.symm.trans hexisting
  · simp only [bind_eq_ok, pure_eq_ok] at h
    obtain ⟨_, hdeadlines, _, -, _, -, _, -, _, -, rfl⟩ := h
    refine ⟨.edited hget rfl rfl (by simp), fun _ => ⟨job, hget, ?_⟩⟩
    simp only [assertFinalizeDeadlines, bind_eq_ok] at hdeadlines
    obtain ⟨_, hupload, -⟩ := hdeadlines
    obtain ⟨deadline, hdeadline, hdue⟩ := bind_eq_ok.mp (checkWhen_eq_ok.mp hupload hpolicy)
    simp only [requirePublicUploadJob, bind_eq_ok, checkedAdd_eq_ok] at hdeadline
    obtain ⟨_, -, _, -, -, rfl⟩ := hdeadline
    exact require_eq_ok.mp hdue

/-- Under the policy every call that goes through makes an upload step. -/
theorem Call.run_uploads (hpolicy : s.publicUploadPolicy ≠ none) {c : Call} {o : Outcome Unit}
    (h : c.run env s = .ok o) : UploadStep env s c o.state.uploadBook := by
  obtain ⟨_, -, hbody⟩ := bind_eq_ok.mp h
  cases hc : c.writesUploads with
  | false =>
    rw [callBody_uploadBook hc o hbody]
    exact .quiet
  | true =>
    cases c with
    | createPaidJob request =>
      obtain ⟨_, hcreate, -⟩ := bind_eq_ok.mp hbody
      obtain ⟨_, hnone, -⟩ := bind_eq_ok.mp hcreate
      exact absurd (require_eq_ok.mp hnone) hpolicy
    | createPaidJobNear request quote signature =>
      obtain ⟨_, hcreate, -⟩ := bind_eq_ok.mp hbody
      obtain ⟨_, hnone, -⟩ := bind_eq_ok.mp hcreate
      exact absurd (require_eq_ok.mp hnone) hpolicy
    | restartPaidJob =>
      obtain ⟨_, hrestart, -⟩ := bind_eq_ok.mp hbody
      obtain ⟨_, hnone, -⟩ := bind_eq_ok.mp hrestart
      exact absurd (require_eq_ok.mp hnone) hpolicy
    | replaceUploadKey =>
      obtain ⟨o', ho', ho⟩ := bind_eq_ok.mp hbody
      cases pure_eq_ok.mp ho
      exact replaceUploadKey_uploads ho'
    | setPublicUploadFullHd =>
      obtain ⟨o', ho', ho⟩ := bind_eq_ok.mp hbody
      cases pure_eq_ok.mp ho
      rw [show o'.void.state.uploadBook = s.uploadBook from setPublicUploadFullHd_uploads ho']
      exact .quiet
    | finalizePublication =>
      obtain ⟨o', ho', ho⟩ := bind_eq_ok.mp hbody
      cases pure_eq_ok.mp ho
      exact (finalizePublication_uploads hpolicy ho').1
    | ftOnTransfer =>
      obtain ⟨o', ho', ho⟩ := bind_eq_ok.mp hbody
      cases pure_eq_ok.mp ho
      exact ftOnTransfer_uploads hpolicy ho'
    | _ => cases hc

end Call

/-! ## What the records say about the jobs -/

/-- Still uploading: authorized, and younger than its time to live. -/
def MediaJob.Active (job : MediaJob) (now : Nat) : Prop :=
  job.status = .authorized ∧ now < job.createdAtMs + publicTestnetBetaJobTtlMs

instance (job : MediaJob) (now : Nat) : Decidable (job.Active now) :=
  inferInstanceAs (Decidable (_ ∧ _))

/-- How many of the creator's jobs were created on the UTC day. -/
def admittedOn (jobs : LookupMap String MediaJob) (creator : AccountId) (day : Nat) : Nat :=
  jobs.total fun _ job => if job.creatorId = creator ∧ job.createdAtMs / dayMs = day then 1 else 0

structure UploadBook.Sound (book : UploadBook) (now : Nat) : Prop where
  policy : book.policySet = true
  latest : ∀ k job, book.jobs.get k = some job → job.Active now →
    ∃ record, book.creators.get job.creatorId = some record ∧ record.latestJobId = k
  later : ∀ creator day, now / dayMs < day → admittedOn book.jobs creator day = 0
  counted : ∀ creator day, now / dayMs ≤ day →
    countedOn book.creators creator day = admittedOn book.jobs creator day
  limit : ∀ creator day, admittedOn book.jobs creator day ≤ 2

/-- A job is created for the creator on the day of `now`. -/
def UploadBook.Admits (before after : UploadBook) (now : Nat) (creator : AccountId)
    (day : Nat) : Prop :=
  now / dayMs = day ∧ ∃ k job, before.jobs.get k = none ∧ after.jobs.get k = some job ∧
    job.creatorId = creator

theorem MediaJob.Active.anti {job : MediaJob} {now now' : Nat} (h : job.Active now')
    (hnow : now ≤ now') : job.Active now :=
  ⟨h.1, hnow.trans_lt h.2⟩

/-- An edit that keeps creator and time counts the same. -/
theorem admittedOn_edit {jobs : LookupMap String MediaJob} {k : String} {old new : MediaJob}
    (hget : jobs.get k = some old) (hcreator : new.creatorId = old.creatorId)
    (hcreated : new.createdAtMs = old.createdAtMs) (creator : AccountId) (day : Nat) :
    admittedOn (jobs.insert k new) creator day = admittedOn jobs creator day := by
  have h := LookupMap.total_insert_add new
    (fun _ job => if job.creatorId = creator ∧ job.createdAtMs / dayMs = day then 1 else 0) hget
  simp only [hcreator, hcreated] at h
  exact Nat.add_right_cancel h

/-- A new job counts for its creator and its day. -/
theorem admittedOn_insert {jobs : LookupMap String MediaJob} {job : MediaJob}
    (hfresh : jobs.get job.jobId = none) (creator : AccountId) (day : Nat) :
    admittedOn (jobs.insert job.jobId job) creator day =
      (if job.creatorId = creator ∧ job.createdAtMs / dayMs = day then 1 else 0) +
        admittedOn jobs creator day :=
  LookupMap.total_insert_of_fresh job _ hfresh

theorem countedOn_insert (creators : LookupMap AccountId PublicUploadCreator)
    (creator creator' : AccountId) (record : PublicUploadCreator) (day : Nat) :
    countedOn (creators.insert creator' record) creator day =
      if creator = creator' then (if record.day = day then record.count else 0)
      else countedOn creators creator day := by
  simp only [countedOn, LookupMap.get_insert]
  split
  · by_cases hday : record.day = day
    · simp [hday, Option.filter]
    · simp [hday, Option.filter]
  · rfl

section Step

variable {env : Env} {s : Contract} {c : Call} {book : UploadBook} {now : Nat}

/-- An upload step keeps the records right, at any later time. -/
theorem UploadStep.sound (h : UploadStep env s c book) (hs : s.uploadBook.Sound now)
    (hnow : now ≤ env.blockTimestampMs) : book.Sound env.blockTimestampMs := by
  have hday : now / dayMs ≤ env.blockTimestampMs / dayMs := Nat.div_le_div_right hnow
  cases h with
  | quiet =>
    constructor
    · exact hs.policy
    · intro k job hget hactive
      exact hs.latest k job hget (hactive.anti hnow)
    · intro creator day hlater
      exact hs.later creator day (hday.trans_lt hlater)
    · intro creator day hle
      exact hs.counted creator day (hday.trans hle)
    · exact hs.limit
  | @edited _ k old new hget hcreator hcreated hstatus =>
    have hadmitted := admittedOn_edit hget hcreator hcreated
    constructor
    · exact hs.policy
    · intro k' job hget' hactive
      change (s.mediaJobs.insert k new).get k' = some job at hget'
      rw [LookupMap.get_insert] at hget'
      split at hget'
      · next hk =>
          cases hget'
          rw [hcreator, hk]
          refine hs.latest k old hget ⟨hstatus hactive.1, ?_⟩
          rw [← hcreated]
          exact (hactive.anti hnow).2
      · exact hs.latest k' job hget' (hactive.anti hnow)
    · intro creator day hlater
      exact (hadmitted creator day).trans (hs.later creator day (hday.trans_lt hlater))
    · intro creator day hle
      exact (hs.counted creator day (hday.trans hle)).trans (hadmitted creator day).symm
    · intro creator day
      exact (hadmitted creator day).trans_le (hs.limit creator day)
  | @admitted _ _ _ job hfresh hcreated hidle hcount =>
    have hadmitted := admittedOn_insert hfresh
    constructor
    · exact hs.policy
    · intro k job' hget hactive
      change (s.mediaJobs.insert job.jobId job).get k = some job' at hget
      show ∃ record, (s.publicUploadCreators.insert job.creatorId _).get job'.creatorId =
        some record ∧ record.latestJobId = k
      rw [LookupMap.get_insert] at hget ⊢
      split at hget
      · next hk =>
          cases hget
          rw [if_pos rfl, hk]
          exact ⟨_, rfl, rfl⟩
      · obtain ⟨record, hrecord, hlatest⟩ := hs.latest k job' hget (hactive.anti hnow)
        -- The creator of a job that is still active was not let in again.
        have hother : job'.creatorId ≠ job.creatorId := by
          intro hsame
          rcases hidle record job' (hsame ▸ hrecord) (hlatest ▸ hget) with hpublished | hdue
          · cases hpublished.symm.trans hactive.1
          · exact absurd hactive.2 (Nat.not_lt.mpr hdue)
        rw [if_neg hother]
        exact ⟨record, hrecord, hlatest⟩
    · intro creator day hlater
      have hzero : admittedOn s.mediaJobs creator day = 0 :=
        hs.later creator day (hday.trans_lt hlater)
      rw [hadmitted, hzero, hcreated, if_neg]
      rintro ⟨-, hsame⟩
      exact hlater.ne hsame
    · intro creator day hle
      rw [hadmitted, countedOn_insert, hcreated]
      split
      · next hcreator =>
          subst hcreator
          split
          · next hsame =>
              obtain rfl := hsame
              have hbefore : countedOn s.publicUploadCreators job.creatorId _ = _ :=
                hs.counted job.creatorId _ hday
              rw [if_pos ⟨rfl, rfl⟩]
              exact (congrArg (· + 1) hbefore).trans (Nat.add_comm _ _)
          · next hsame =>
              rw [if_neg (fun h => hsame h.2), Nat.zero_add]
              exact (hs.later _ _ (hday.trans_lt (hle.lt_of_ne hsame))).symm
      · next hcreator =>
          rw [if_neg (fun h => hcreator h.1.symm), Nat.zero_add]
          exact hs.counted creator day (hday.trans hle)
    · intro creator day
      rw [hadmitted, hcreated]
      split
      · next hsame =>
          obtain ⟨rfl, rfl⟩ := hsame
          have hbefore : countedOn s.publicUploadCreators job.creatorId _ =
              admittedOn s.mediaJobs job.creatorId _ := hs.counted job.creatorId _ hday
          omega
      · rw [Nat.zero_add]
        exact hs.limit creator day

/-- What a step adds to the count of a day. -/
theorem UploadStep.admitted_le (h : UploadStep env s c book) (creator : AccountId) (day : Nat) :
    admittedOn s.mediaJobs creator day ≤ admittedOn book.jobs creator day ∧
      (s.uploadBook.Admits book env.blockTimestampMs creator day →
        admittedOn s.mediaJobs creator day + 1 ≤ admittedOn book.jobs creator day) := by
  cases h with
  | quiet =>
    refine ⟨le_rfl, ?_⟩
    rintro ⟨-, k, job, hnone, hsome, -⟩
    cases hnone.symm.trans hsome
  | @edited _ k old new hget hcreator hcreated =>
    refine ⟨(admittedOn_edit hget hcreator hcreated creator day).ge, ?_⟩
    rintro ⟨-, k', job, hnone, hsome, -⟩
    change (s.mediaJobs.insert k new).get k' = some job at hsome
    change s.mediaJobs.get k' = none at hnone
    rw [LookupMap.get_insert_of_ne, hnone] at hsome
    · cases hsome
    · rintro rfl
      cases hnone.symm.trans hget
  | @admitted _ _ _ job hfresh hcreated =>
    rw [admittedOn_insert hfresh]
    refine ⟨Nat.le_add_left _ _, ?_⟩
    rintro ⟨hday, k, job', hnone, hsome, hcreator⟩
    change (s.mediaJobs.insert job.jobId job).get k = some job' at hsome
    change s.mediaJobs.get k = none at hnone
    rw [LookupMap.get_insert] at hsome
    split at hsome
    · cases hsome
      rw [if_pos ⟨hcreator, hcreated ▸ hday⟩, Nat.add_comm]
    · cases hnone.symm.trans hsome

/-- Only an admission writes its creator's record. -/
theorem UploadStep.record_kept (h : UploadStep env s c book) {creator : AccountId}
    (hnot : ¬ s.uploadBook.Admits book env.blockTimestampMs creator
      (env.blockTimestampMs / dayMs)) :
    book.creators.get creator = s.publicUploadCreators.get creator := by
  cases h with
  | quiet => rfl
  | edited => rfl
  | admitted job hfresh =>
    refine LookupMap.get_insert_of_ne _ _ ?_
    rintro rfl
    exact hnot ⟨rfl, job.jobId, job, hfresh, LookupMap.get_insert_self _ _ _, rfl⟩

end Step

/-! ## A public testnet -/

namespace Vectors

/-- The job of the vectors with a sponsored quote for it. -/
def sponsoredMessage : TransferMessage := { jobMessage with
  profileConfigSha256 := some publicUploadProfileHash
  sponsorQuote := some {
    domain := "youtick.sponsored-upload-quote"
    version := "1"
    network := "testnet"
    contractId := contractId
    creatorId := creatorId
    jobId := publicationId
    requestSha256 := ticketId
    expectedSourceBytes := 734003200
    uploadFeeUsdc := 500000
    sponsorFeeUsdc := sponsoredUploadFeeUsdc
    totalFeeUsdc := 600000
    delegateReceiverId := testnetUsdc
    delegateMethod := "ft_transfer_call"
    delegateGas := sponsoredUploadDelegateGas
    delegateDepositYocto := sponsoredUploadDepositYocto
    issuedAtMs := issuedAtMs
    quoteBlockHeight := 1
    maxDelegateBlockHeight := 2
    expiresAtMs := issuedAtMs + quoteMaxLifetimeMs
    quoteKeyVersion := 1
    quoteId := ticketId }
  sponsorQuoteSignature := some vatSignature.bytes }

/-- A host on which every message is that one, and its quote is signed. -/
def uploadHost : Host := { host with
  sha256 := fun _ => ticketIdBytes
  ed25519Verify := fun _ _ _ => true
  actionProbeOfJson := fun _ => some sponsoredMessage.action
  transferMessageOfJson := fun _ => some sponsoredMessage }

/-- Purchases are opened, and an upload is admitted. -/
def sponsoredUpload : List Label :=
  [.call (context config.adminAccountId issuedAtMs) .requestNewPurchasesUnpause,
   .call (context config.adminAccountId issuedAtMs) .unpauseNewPurchases,
   .call (context testnetUsdc issuedAtMs) (.ftOnTransfer creatorId 600000 "job")]

/-- A run of a public testnet from its initialiser. -/
def publicRun (labels : List Label) : Option (List (Transition World Label) × World) :=
  match newPublicTestnet ⟨uploadHost, context "" issuedAtMs⟩ config with
  | .ok c => execTrace (World.exec uploadHost) ⟨c, [], issuedAtMs⟩ labels
  | .error _ => none

theorem trace_of_publicRun {labels : List Label} {α : Type}
    {f : List (Transition World Label) × World → α} {a : α}
    (h : (publicRun labels).map f = some a) :
    ∃ w₀ tr w, Initial uploadHost w₀ ∧ w₀.contract.publicUploadPolicy ≠ none ∧
      Trace (worldStep uploadHost) w₀ tr w ∧ f (tr, w) = a := by
  obtain ⟨⟨tr, w⟩, hrun, hf⟩ := Option.map_eq_some_iff.mp h
  unfold publicRun at hrun
  split at hrun
  · next c hc =>
      refine ⟨_, tr, w, .newPublicTestnet rfl hc, ?_, trace_of_execTrace _ hrun, hf⟩
      simp only [newPublicTestnet, bind_eq_ok, pure_eq_ok] at hc
      obtain ⟨_, -, -, -, -, -, -, -, rfl⟩ := hc
      exact Option.some_ne_none _
  · cases hrun

end Vectors

/-! ## Runs -/

/-- The transition admits an upload of the creator on the day. -/
def Admits (creator : AccountId) (day : Nat) (x : Transition World Label) : Prop :=
  x.pre.contract.uploadBook.Admits x.post.contract.uploadBook x.post.now creator day

section Runs

variable {host : Host} {w₀ w w' : World} {l : Label} {tr : List (Transition World Label)}

/-- A step of the world runs an upload step at the time it leaves, or leaves the storage alone. -/
theorem World.upload_cases (hpolicy : w.contract.uploadBook.policySet = true)
    (h : worldStep host w l w') :
    w'.contract = w.contract ∨ ∃ env c, env.blockTimestampMs = w'.now ∧
      UploadStep env w.contract c w'.contract.uploadBook := by
  have hset : w.contract.publicUploadPolicy ≠ none := Option.isSome_iff_ne_none.mp hpolicy
  cases World.step_cases h with
  | ran _ _ hrun => exact .inr ⟨_, _, rfl, Call.run_uploads hset hrun⟩
  | panicked | landed | dropped => exact .inl rfl

theorem UploadBook.Sound.step (hw : w.contract.uploadBook.Sound w.now)
    (h : worldStep host w l w') : w'.contract.uploadBook.Sound w'.now := by
  have hnow : w.now ≤ w'.now := World.step_now h
  rcases World.upload_cases hw.policy h with hsame | ⟨env, c, hclock, hstep⟩
  · rw [hsame]
    have hday : w.now / dayMs ≤ w'.now / dayMs := Nat.div_le_div_right hnow
    constructor
    · exact hw.policy
    · intro k job hget hactive
      exact hw.latest k job hget (hactive.anti hnow)
    · intro creator day hlater
      exact hw.later creator day (hday.trans_lt hlater)
    · intro creator day hle
      exact hw.counted creator day (hday.trans hle)
    · exact hw.limit
  · rw [← hclock] at hnow ⊢
    exact hstep.sound hw hnow

theorem Initial.uploadBook (h : Initial host w₀) (hpolicy : w₀.contract.publicUploadPolicy ≠ none) :
    w₀.contract.uploadBook.Sound w₀.now := by
  have hfresh := h.fresh.1
  have hnone (creator : AccountId) (day : Nat) :
      admittedOn w₀.contract.uploadBook.jobs creator day = 0 := by
    show admittedOn w₀.contract.mediaJobs creator day = 0
    rw [hfresh.mediaJobs]
    exact LookupMap.total_empty _
  constructor
  · exact Option.isSome_iff_ne_none.mpr hpolicy
  · intro k job hget
    change w₀.contract.mediaJobs.get k = some job at hget
    rw [hfresh.mediaJobs, LookupMap.get_empty] at hget
    cases hget
  · intro creator day _
    exact hnone creator day
  · intro creator day _
    rw [hnone]
    show countedOn w₀.contract.publicUploadCreators creator day = 0
    rw [hfresh.publicUploadCreators]
    rfl
  · intro creator day
    rw [hnone]
    exact Nat.zero_le 2

theorem uploadBook_sound (h₀ : Initial host w₀)
    (hpolicy : w₀.contract.publicUploadPolicy ≠ none) (h : Trace (worldStep host) w₀ tr w) :
    w.contract.uploadBook.Sound w.now :=
  h.invariant (I := fun w => w.contract.uploadBook.Sound w.now) (fun _ _ _ hw hst => hw.step hst)
    (h₀.uploadBook hpolicy)

/-- The admissions of a run on one day are among the jobs created on it. -/
theorem admissions_le (h₀ : Initial host w₀) (hpolicy : w₀.contract.publicUploadPolicy ≠ none)
    (h : Trace (worldStep host) w₀ tr w) {creator : AccountId} {day : Nat}
    {sub : List (Transition World Label)} (hsub : sub.Sublist tr)
    (hadmits : ∀ x ∈ sub, Admits creator day x) :
    sub.length ≤ admittedOn w.contract.mediaJobs creator day := by
  induction h generalizing sub with
  | nil =>
    rw [List.sublist_nil.mp hsub]
    exact Nat.zero_le _
  | @snoc tr w l w' htr hst ih =>
    have hcases := World.upload_cases (uploadBook_sound h₀ hpolicy htr).policy hst
    obtain ⟨a, b, rfl, ha, hb⟩ := List.sublist_append_iff.mp hsub
    have hbefore := ih ha fun x hx => hadmits x (List.mem_append_left _ hx)
    rw [List.length_append]
    rcases List.sublist_singleton.mp hb with rfl | rfl
    · rcases hcases with hsame | ⟨env, c, hclock, hstep⟩
      · rwa [hsame]
      · exact hbefore.trans (hstep.admitted_le creator day).1
    · have hadmit : Admits creator day ⟨w, l, w'⟩ := hadmits _ (by simp)
      rcases hcases with hsame | ⟨env, c, hclock, hstep⟩
      · obtain ⟨-, k, job, hnone, hsome, -⟩ := hadmit
        rw [hsame] at hsome
        cases hnone.symm.trans hsome
      · refine (Nat.add_le_add_right hbefore 1).trans ((hstep.admitted_le creator day).2 ?_)
        rw [hclock]
        exact hadmit

/-! ## Every run -/

/-- Under the public upload policy, in every run and for every creator: at any time one job at most
is authorized and within its day, two jobs at most are admitted in a UTC day, a job that is not
published yet is finalised only within its day, and a step that admits nothing of the creator leaves
the creator's record as it was. -/
theorem public_upload_limits (h₀ : Initial host w₀)
    (hpolicy : w₀.contract.publicUploadPolicy ≠ none) (h : Trace (worldStep host) w₀ tr w) :
    (∀ now, w.now ≤ now → ∀ k k' job job', w.contract.mediaJobs.get k = some job →
      w.contract.mediaJobs.get k' = some job' → job.creatorId = job'.creatorId →
      job.Active now → job'.Active now → k = k') ∧
    (∀ creator day (sub : List (Transition World Label)), sub.Sublist tr →
      (∀ x ∈ sub, Admits creator day x) → sub.length ≤ 2) ∧
    (∀ (ctx : Context) (submission : PublicationSubmission) (job : MediaJob) (o : Outcome Unit),
      w.contract.mediaJobs.get submission.jobId = some job → job.status ≠ .published →
      (Call.finalizePublication submission).run ⟨host, ctx⟩ w.contract = .ok o →
      ctx.blockTimestampMs < job.createdAtMs + publicTestnetBetaJobTtlMs) ∧
    ∀ x ∈ tr, ∀ creator, (¬ ∃ day, Admits creator day x) →
      x.post.contract.publicUploadCreators.get creator =
        x.pre.contract.publicUploadCreators.get creator := by
  have hsound := uploadBook_sound h₀ hpolicy h
  refine ⟨?_, ?_, ?_, ?_⟩
  · intro now hnow k k' job job' hget hget' hcreator hactive hactive'
    obtain ⟨record, hrecord, rfl⟩ := hsound.latest k job hget (hactive.anti hnow)
    obtain ⟨record', hrecord', rfl⟩ := hsound.latest k' job' hget' (hactive'.anti hnow)
    rw [hcreator] at hrecord
    rw [Option.some.inj (hrecord.symm.trans hrecord')]
  · intro creator day sub hsub hadmits
    exact (admissions_le h₀ hpolicy h hsub hadmits).trans (hsound.limit creator day)
  · intro ctx submission job o hget hstatus hrun
    have hset : w.contract.publicUploadPolicy ≠ none :=
      Option.isSome_iff_ne_none.mp hsound.policy
    have hunpublished : w.contract.publications.get submission.jobId = none := by
      rw [Option.eq_none_iff_forall_ne_some]
      intro publication hpublication
      obtain ⟨job', hget', hof⟩ := (catalog_sound h₀ h).publication _ publication hpublication
      obtain rfl := Option.some.inj (hget.symm.trans hget')
      exact hstatus hof.status
    obtain ⟨_, -, hbody⟩ := bind_eq_ok.mp hrun
    obtain ⟨o', hfinalize, -⟩ := bind_eq_ok.mp hbody
    obtain ⟨job', hget', hdue⟩ := (finalizePublication_uploads hset hfinalize).2 hunpublished
    obtain rfl := Option.some.inj (hget.symm.trans hget')
    exact hdue
  · intro x hx creator hnot
    obtain ⟨a, b, rfl⟩ := List.append_of_mem hx
    obtain ⟨ha, hst, -⟩ := h.at_mem
    rcases World.upload_cases (uploadBook_sound h₀ hpolicy ha).policy hst with
      hsame | ⟨env, c, hclock, hstep⟩
    · rw [hsame]
    · refine hstep.record_kept fun hadmit => hnot ⟨env.blockTimestampMs / dayMs, ?_⟩
      show UploadBook.Admits _ _ x.post.now creator _
      rw [← hclock]
      exact hadmit

/-- An upload is admitted, and it is the only one its creator has. -/
theorem public_upload_limits_admitted :
    ∃ w₀ tr w, Initial Vectors.uploadHost w₀ ∧ Trace (worldStep Vectors.uploadHost) w₀ tr w ∧
      ∃ job, w.contract.mediaJobs.get Vectors.publicationId = some job ∧ job.Active w.now ∧
        ∀ k job', w.contract.mediaJobs.get k = some job' → job.creatorId = job'.creatorId →
          job'.Active w.now → Vectors.publicationId = k := by
  have hrun : (Vectors.publicRun Vectors.sponsoredUpload).map (fun r =>
      (r.2.contract.mediaJobs.get Vectors.publicationId).any fun job =>
        decide (job.Active r.2.now)) = some true := by
    decide +kernel
  obtain ⟨w₀, tr, w, h₀, hpolicy, h, hany⟩ := Vectors.trace_of_publicRun hrun
  obtain ⟨job, hget, hdecide⟩ := (Option.any_eq_true _ _).mp hany
  have hactive : job.Active w.now := of_decide_eq_true hdecide
  refine ⟨w₀, tr, w, h₀, h, job, hget, hactive, ?_⟩
  intro k job' hget' hcreator hactive'
  exact (public_upload_limits h₀ hpolicy h).1 w.now le_rfl _ k job job' hget hget' hcreator hactive
    hactive'

end Runs

end Youtick.MarketV2
