import Youtick.Bridge.JobEvents

/-!
# Bridge: runs of the job object

Every request gives the guarantee of `jobDiscipline` with each of its operations, whatever the
others do meanwhile.
-/

set_option autoImplicit false

namespace Youtick.Bridge.Job

open Youtick.Lib

section Safe

variable {env : JobEnv} {accepts : JobRecord → VerifiedAsset → Prop}
  {allows : JobRecord → JobRecord → JobObject → Prop} {r : JobRequest} {s : JobObject}

/-! ## Reading the provider -/

/-- The copy that tracks the progress of a Stream job, written when it differs. -/
theorem safe_writeTracked {record tracked : JobRecord} (hs : JobSound s) (held : Held env s record)
    (hlate : record.state.isEarly = false) (htracked : tracked.Agrees record) :
    (jobDiscipline env accepts allows).Safe r (Finishes (fun _ t => Held env t tracked) Fails)
      (if tracked ≠ record then writeJob record tracked else .done () : JobHandler Unit) s := by
  split
  · exact safe_writeJob held (.of_agrees htracked hlate)
      ((hs.wellFormed _ held.stored).of_agrees htracked hlate)
  · next hsame =>
      have hsame : tracked = record := not_not.mp hsame
      exact safe_done (hsame ▸ held)

theorem safe_terminate {job : JobRecord} {toState : JobState} (hs : JobSound s)
    (held : Held env s job) (hended : toState.isEnded = true) (hnot : toState ≠ .cancelled) :
    (jobDiscipline env accepts allows).Safe r (Finishes (fun _ _ => True) Fails)
      (terminateStreamJob env job toState >>= fun _ => .done ()) s := by
  refine safe_bind hs (safe_terminateStreamJob hs held.stored hended hnot) (fun _ _ _ _ => ?_)
    fun _ _ => trivial
  exact safe_done trivial

theorem safe_confirmStuck {tracked : JobRecord} {assetId : String} {video : StreamVideo}
    (hs : JobSound s) (held : Held env s tracked) (hlate : tracked.state.isEarly = false) :
    (jobDiscipline env accepts allows).Safe r (Finishes (fun _ _ => True) Fails)
      (confirmStuck env tracked assetId video) s := by
  unfold confirmStuck
  refine safe_bind hs (P := fun _ t => Later env s t) (F := Fails) ?_ (fun confirm t ht hst => ?_)
    fun _ _ => trivial
  · refine safe_rescue (F := fun t => Later env s t) hs (safe_bind hs
      (safe_ask hs (JobOp.quiet_of_answer fun _ _ => ⟨_, rfl⟩)) (fun _ _ _ hst => safe_done hst)
      fun _ hst => hst) (fun _ _ h => h) fun _ _ _ hst => safe_done hst
  have held := held.later hst
  split
  · exact safe_ends safe_schedule
  · next again =>
      split
      · exact safe_terminate ht held rfl (by decide)
      · refine safe_bind ht safe_dateNow (fun nowMs u hu htu => ?_) fun _ _ => trivial
        have hmoved := tracked.trackStreamProgress_agrees
          (some (again.state.name, again.pctComplete.getD 0)) nowMs
        dsimp only
        split
        · refine safe_bind hu (safe_writeJob (held.later htu) (.of_agrees hmoved hlate)
            ((ht.wellFormed _ held.stored).of_agrees hmoved hlate)) (fun _ _ _ _ => ?_)
            fun _ _ => trivial
          exact safe_ends safe_schedule
        · exact safe_ends safe_schedule

theorem safe_trackVideo {record : JobRecord} {assetId : String} {video : StreamVideo} {nowMs : Nat}
    (hs : JobSound s) (held : Held env s record) (hlate : record.state.isEarly = false) :
    (jobDiscipline env accepts allows).Safe r (Finishes (fun _ _ => True) Fails)
      (trackVideo env record assetId video nowMs) s := by
  have htracked := record.trackStreamProgress_agrees
    (some (video.state.name, video.pctComplete.getD 0)) nowMs
  unfold trackVideo
  dsimp only
  split
  · split
    · refine safe_bind hs (safe_transitionJob hs) ?_ fun _ _ => trivial
      rintro next t ht ⟨hst, nowMs', hnext⟩
      refine safe_bind ht (safe_writeTransition (held.later hst) hnext htracked (.refl _) rfl
        (by decide) (by decide)) (fun _ _ _ _ => ?_) fun _ _ => trivial
      exact safe_ends safe_schedule
    · refine safe_bind hs (safe_writeTracked hs held hlate htracked) (fun _ t ht heldt => ?_)
        fun _ _ => trivial
      split
      · exact safe_confirmStuck ht heldt (htracked.state ▸ hlate)
      · exact safe_ends safe_schedule
  · refine safe_bind hs (safe_stored held.stored (safe_writeTracked hs held hlate htracked))
      (fun _ t ht hstored => ?_) fun _ _ => trivial
    split
    · exact safe_bind ht (safe_terminateStreamJob ht hstored rfl (by decide))
        (fun _ _ _ _ => safe_done trivial) fun _ _ => trivial
    · exact safe_ends safe_schedule

theorem safe_pollStreamUpload {record : JobRecord} (hs : JobSound s) (held : Held env s record) :
    (jobDiscipline env accepts allows).Safe r (Finishes (fun _ _ => True) Fails)
      (pollStreamUpload env record) s := by
  unfold pollStreamUpload
  split
  · exact safe_done trivial
  split
  · exact safe_done trivial
  next hactive =>
  have hlate := JobState.not_isEarly_of_isActive (Bool.not_eq_false _ ▸ hactive)
  refine safe_bind hs safe_dateNow (fun nowMs t ht hst => ?_) fun _ _ => trivial
  have held := held.later hst
  split
  · exact safe_terminate ht held rfl (by decide)
  refine safe_bind ht (P := fun _ u => Later env t u) (F := Fails) ?_ (fun video u hu htu => ?_)
    fun _ _ => trivial
  · refine safe_rescue (F := fun u => Later env t u) ht (safe_bind ht
      (safe_ask ht (JobOp.quiet_of_answer fun _ _ => ⟨_, rfl⟩)) (fun _ _ _ htu => safe_done htu)
      fun _ htu => htu) (fun _ _ h => h) fun _ _ _ htu => safe_done htu
  have held := held.later htu
  cases video with
  | error code =>
    dsimp only
    split
    · exact safe_terminate hu held rfl (by decide)
    · exact safe_ends safe_schedule
  | ok video =>
    dsimp only
    split
    · exact safe_terminate hu held rfl (by decide)
    split
    · exact safe_terminate hu held rfl (by decide)
    split
    · refine safe_bind hu (safe_handleProviderEvent hu ?_) (fun _ v hv _ => ?_) fun _ _ => trivial
      · intro existing hexisting
        cases hexisting
        exact held
      · refine safe_bind hv (safe_quiet fun i t b u hx => by cases hx; rfl)
          (fun after w _ _ => ?_) fun _ _ => trivial
        split
        · exact safe_ends safe_schedule
        · exact safe_done trivial
    · exact safe_trackVideo hu held hlate

theorem safe_readStudioAsset {record : JobRecord} {assetId : String} (hs : JobSound s) :
    (jobDiscipline env accepts allows).Safe r (Finishes (fun _ _ => True) Fails)
      (readStudioAsset env record assetId) s := by
  unfold readStudioAsset
  refine safe_bind hs (safe_ask hs (JobOp.quiet_of_answer fun _ _ => ⟨_, rfl⟩)) (fun asset t ht _ => ?_)
    fun _ _ => trivial
  split
  · exact safe_raise
  split
  · exact safe_raise
  refine safe_bind ht safe_dateNow (fun nowMs u hu _ => ?_) fun _ _ => trivial
  refine safe_bind hu safe_get (fun existing v hv held => ?_) fun _ _ => trivial
  refine safe_bind hv (safe_handleProviderEvent hv held) (fun outcome w hw _ => ?_)
    fun _ _ => trivial
  split
  · exact safe_raise
  · refine safe_bind hw safe_get (fun _ x hx _ => ?_) fun _ _ => trivial
    exact safe_ends (safe_persistReconcile hx)

theorem safe_reconcileUpload {record : JobRecord} (hs : JobSound s) (held : Held env s record) :
    (jobDiscipline env accepts allows).Safe r (Finishes (fun _ _ => True) Fails)
      (reconcileUpload env record) s := by
  unfold reconcileUpload
  split
  · exact safe_pollStreamUpload hs held
  split
  · split
    · exact safe_done trivial
    refine safe_bind hs safe_dateNow (fun nowMs t ht hst => ?_) fun _ _ => trivial
    split
    · refine safe_bind ht (safe_transitionJob ht) ?_ fun _ _ => trivial
      rintro expired u hu ⟨htu, nowMs', hexpired⟩
      refine safe_bind hu (safe_writeTransition (held.later (hst.trans htu)) hexpired (.refl _)
        (.refl _) rfl (by decide) (by decide)) (fun _ v hv _ => ?_) fun _ _ => trivial
      refine safe_bind hv (safe_persistReconcile hv) (fun _ w hw _ => ?_) fun _ _ => trivial
      exact safe_ends (safe_updateAdmission hw)
    · refine safe_bind ht (safe_quiet fun i t b u hx => by cases hx; rfl) (fun _ u hu _ => ?_)
        fun _ _ => trivial
      split
      · exact safe_ends safe_schedule
      · refine safe_bind hu (safe_persistReconcile hu) (fun _ v hv _ => ?_) fun _ _ => trivial
        refine safe_rescue (F := Fails) hv (safe_readStudioAsset hv) (fun _ _ h => h)
          fun code w hw _ => ?_
        refine safe_bind hw (safe_persistReconcile hw) (fun _ _ _ _ => safe_raise)
          fun _ _ => trivial
  · exact safe_done trivial

/-! ## Upload intents -/

theorem safe_renewLease {record : JobRecord} (hs : JobSound s) (held : Held env s record)
    (hearly : record.state.isEarly = true → record.state.isOpen = true)
    (hbegun : record.state ≠ .authorized) :
    (jobDiscipline env accepts allows).Safe r
      (Finishes (fun renewed t => Held env t renewed ∧ renewed.state = record.state) Fails)
      (renewLease record) s := by
  unfold renewLease
  refine safe_bind hs safe_dateNow (fun nowMs t ht hst => ?_) fun _ _ => trivial
  split
  · refine safe_bind ht (safe_ask ht (JobOp.quiet_of_answer fun _ _ => ⟨_, rfl⟩)) (fun lease u hu htu => ?_)
      fun _ _ => trivial
    have hwf := hs.wellFormed _ held.stored
    have hmade : (record.withLease lease).MadeFrom accepts record :=
      ⟨rfl, .inl rfl, hearly, hbegun, id, fun _ hp => .inl hp⟩
    refine safe_bind hu (safe_writeJob (held.later (hst.trans htu)) hmade
      ⟨hwf.late, hwf.published⟩) (fun _ v _ heldv => ?_) fun _ _ => trivial
    exact safe_done ⟨heldv, rfl⟩
  · exact safe_done ⟨held.later hst, rfl⟩

theorem safe_leaseJob {record : JobRecord} (hs : JobSound s) (held : Held env s record)
    (hopen : record.state.isOpen = true) :
    (jobDiscipline env accepts allows).Safe r
      (Finishes (fun leased t => Held env t leased ∧ leased.state = .leased) Fails)
      (leaseJob record) s := by
  unfold leaseJob
  split
  · refine safe_bind hs (P := fun _ t => Later env s t) (F := Fails) ?_ (fun _ t ht hst => ?_)
      fun _ _ => trivial
    · split
      · exact safe_weaken (safe_ask hs (JobOp.quiet_of_answer fun _ _ => ⟨_, rfl⟩)) (fun _ _ h => h)
          fun _ _ => trivial
      · exact safe_done (.refl s)
    refine safe_bind ht (safe_ask ht (JobOp.quiet_of_answer fun _ _ => ⟨_, rfl⟩)) (fun lease u hu htu => ?_)
      fun _ _ => trivial
    refine safe_bind hu (safe_transitionJob hu) ?_ fun _ _ => trivial
    rintro leased v hv ⟨huv, nowMs, hleased⟩
    have hwf := (hs.wellFormed _ held.stored).of_transition_early hleased rfl
    obtain ⟨hstate, hfollows, hidentity, hpublication, -⟩ := JobRecord.transition_spec hleased
    have hmade : (leased.withLease lease).MadeFrom accepts record := by
      constructor
      · exact hidentity
      · change record.state.Follows leased.state
        rw [hstate]
        exact hfollows
      · exact fun _ => hopen
      · exact fun hbegun => absurd (hstate.symm.trans hbegun) (by decide)
      · exact fun hcancelled => absurd (hstate.symm.trans hcancelled) (by decide)
      · exact fun publication hp => .inl (hpublication.trans hp)
    refine safe_bind hv (safe_writeJob (held.later ((hst.trans htu).trans huv)) hmade
      ⟨hwf.late, hwf.published⟩) (fun _ w _ heldw => ?_) fun _ _ => trivial
    exact safe_done ⟨heldw, hstate⟩
  · next hstate =>
      have hleased : record.state = .leased := by
        simpa [JobState.isOpen, hstate] using hopen
      exact safe_weaken (safe_renewLease hs held (fun _ => hopen) hstate)
        (fun _ _ h => ⟨h.1, h.2.trans hleased⟩) fun _ _ => trivial

theorem safe_failCreate {pending : JobRecord} {error : String} (hs : JobSound s)
    (held : Held env s pending) :
    (jobDiscipline env accepts allows).Safe r (Finishes (fun _ _ => True) Fails)
      (failCreate pending error) s := by
  unfold failCreate
  refine safe_bind hs (safe_transitionJob hs) ?_ fun _ _ => trivial
  rintro ambiguous t ht ⟨hst, nowMs, hambiguous⟩
  refine safe_bind ht safe_dateNow (fun nowMs' u hu htu => ?_) fun _ _ => trivial
  refine safe_bind hu (safe_writeTransition (held.later (hst.trans htu)) hambiguous (.refl _)
    ⟨rfl, rfl, rfl⟩ rfl (by decide) (by decide)) (fun _ v hv _ => ?_) fun _ _ => trivial
  refine safe_bind hv (safe_updateAdmission hv) (fun _ w hw _ => ?_) fun _ _ => trivial
  split
  · exact safe_bind hw (safe_updateAdmission hw) (fun _ _ _ _ => safe_raise) fun _ _ => trivial
  · exact safe_raise

theorem safe_openUpload {pending : JobRecord} {created : CreatedUpload} (hs : JobSound s)
    (held : Held env s pending) (hpending : pending.state = .providerCreatePending) :
    (jobDiscipline env accepts allows).Safe r (Finishes (fun _ _ => True) Fails)
      (openUpload env pending created) s := by
  unfold openUpload
  refine safe_bind hs (safe_transitionJob hs) ?_ fun _ _ => trivial
  rintro opened t ht ⟨hst, nowMs, hopened⟩
  refine safe_bind ht safe_dateNow (fun nowMs' u hu htu => ?_) fun _ _ => trivial
  have held := held.later (hst.trans htu)
  have hready : (opened.withUpload created nowMs').Agrees opened := ⟨rfl, rfl, rfl⟩
  dsimp only
  split
  · split
    · refine safe_bind hu (safe_writeTransition held hopened (.refl _) hready rfl (by decide)
        (by decide)) (fun _ v hv heldv => ?_) fun _ _ => trivial
      exact safe_bind hv (safe_terminateStreamJob hv heldv.stored rfl (by decide))
        (fun _ _ _ _ => safe_raise) fun _ _ => trivial
    · refine safe_bind hu (safe_transitionJob hu) ?_ fun _ _ => trivial
      rintro expired v hv ⟨huv, nowMs'', hexpired⟩
      obtain ⟨-, -, hidentity, hpublication, -⟩ := JobRecord.transition_spec hopened
      obtain ⟨hstate', -, hidentity', hpublication', -⟩ := JobRecord.transition_spec hexpired
      have hmade : expired.MadeFrom accepts pending := by
        constructor
        · exact hidentity'.trans hidentity
        · rw [hstate', hpending]
          decide
        · intro hearly
          rw [hstate'] at hearly
          cases hearly
        · exact fun hbegun => absurd (hstate'.symm.trans hbegun) (by decide)
        · exact fun hcancelled => absurd (hstate'.symm.trans hcancelled) (by decide)
        · exact fun publication hp => .inl ((hpublication'.trans hpublication).trans hp)
      have hwf : expired.WellFormed := by
        refine JobRecord.wellFormed_of_late (hstate' ▸ rfl) fun h => ?_
        exact absurd (hstate'.symm.trans h) (by decide)
      refine safe_bind hv (safe_writeJob (held.later huv) hmade hwf) (fun _ w hw _ => ?_)
        fun _ _ => trivial
      exact safe_bind hw (safe_updateAdmission hw) (fun _ _ _ _ => safe_raise) fun _ _ => trivial
  · refine safe_bind hu (safe_writeTransition held hopened (.refl _) hready rfl (by decide)
      (by decide)) (fun _ v hv _ => ?_) fun _ _ => trivial
    refine safe_bind hv (safe_updateAdmission hv) (fun _ w hw _ => ?_) fun _ _ => trivial
    refine safe_bind hw safe_schedule (fun _ _ _ _ => ?_) fun _ _ => trivial
    exact safe_done trivial

/-- The provider is asked, and the record in hand is still a copy of what is stored. -/
theorem safe_askCreateUpload {pending : JobRecord} (hs : JobSound s) (held : Held env s pending) :
    (jobDiscipline env accepts allows).Safe r
      (Finishes (fun _ t => Held env t pending) fun t => Held env t pending)
      (ask (.createUpload pending)) s := by
  unfold ask
  refine safe_bind hs (P := fun _ t => Held env t pending) ?_ (fun result t _ held => ?_)
    fun _ held => held
  · refine safe_operation (fun t hst => held.later hst) fun t i b u hst ht _ hx => ?_
    cases hx
    have hstep : JobStep env accepts allows t
        { t with journal := t.journal ++ [.createUpload pending.identity] } := .asked _ rfl rfl
    obtain ⟨hstored, hfresh⟩ := held.later hst
    have heldu : Held env { t with journal := t.journal ++ [.createUpload pending.identity] }
        pending := ⟨List.mem_append_left _ hstored, hfresh⟩
    exact ⟨ht.step_same hstep rfl, hstep, heldu, heldu⟩
  · cases result with
    | ok created => exact held
    | error code => exact held

theorem safe_createUpload {leased : JobRecord} (hs : JobSound s) (held : Held env s leased)
    (hleased : leased.state = .leased) :
    (jobDiscipline env accepts allows).Safe r (Finishes (fun _ _ => True) Fails)
      (createUpload env leased) s := by
  unfold createUpload
  refine safe_bind hs safe_dateNow (fun nowMs t ht hst => ?_) fun _ _ => trivial
  refine safe_bind ht (safe_transitionJob ht) ?_ fun _ _ => trivial
  rintro pending u hu ⟨htu, nowMs', hpending⟩
  have hwf := (hs.wellFormed _ held.stored).of_transition_early hpending rfl
  obtain ⟨hstate, hfollows, hidentity, hpublication, -⟩ := JobRecord.transition_spec hpending
  have hmade : ({ pending with providerCreate := some ⟨nowMs, none, none, none⟩ } :
      JobRecord).MadeFrom accepts leased := by
    constructor
    · exact hidentity
    · change leased.state.Follows pending.state
      rw [hstate]
      exact hfollows
    · exact fun _ => by rw [hleased]; rfl
    · exact fun hbegun => absurd (hstate.symm.trans hbegun) (by decide)
    · exact fun hcancelled => absurd (hstate.symm.trans hcancelled) (by decide)
    · exact fun publication hp => .inl (hpublication.trans hp)
  dsimp only
  refine safe_bind hu (safe_writeJob (held.later (hst.trans htu)) hmade
    ⟨hwf.late, hwf.published⟩) (fun _ v hv heldv => ?_) fun _ _ => trivial
  refine safe_bind hv (P := fun _ w => Held env w
    { pending with providerCreate := some ⟨nowMs, none, none, none⟩ }) (F := Fails) ?_
    (fun created w hw heldw => ?_) fun _ _ => trivial
  · refine safe_rescue (F := fun w => Held env w
      { pending with providerCreate := some ⟨nowMs, none, none, none⟩ }) hv ?_ (fun _ _ h => h)
      fun _ _ _ held => safe_done held
    refine safe_bind hv (P := fun _ w => Held env w
      { pending with providerCreate := some ⟨nowMs, none, none, none⟩ }) ?_
      (fun _ _ _ held => safe_done held) fun _ held => held
    exact safe_askCreateUpload hv heldv
  · cases created with
    | error error => exact safe_failCreate hw heldw
    | ok created => exact safe_openUpload hw heldw hstate

theorem safe_continueUpload {record : JobRecord} (hs : JobSound s) (held : Held env s record) :
    (jobDiscipline env accepts allows).Safe r (Finishes (fun _ _ => True) Fails)
      (continueUpload env record) s := by
  unfold continueUpload
  split
  · next hstate =>
      refine safe_bind hs (safe_renewLease hs held ?_ ?_) (fun _ _ _ _ => ?_) fun _ _ => trivial
      · rcases hstate with hstate | hstate <;> rw [hstate] <;> decide
      · rcases hstate with hstate | hstate <;> rw [hstate] <;> decide
      · exact safe_done trivial
  split
  · exact safe_raise
  next hopen =>
  have hopen : record.state.isOpen = true := Bool.not_eq_false _ ▸ hopen
  refine safe_bind hs safe_dateNow (fun nowMs t ht hst => ?_) fun _ _ => trivial
  split
  · exact safe_raise
  split
  · exact safe_raise
  refine safe_bind ht (safe_leaseJob ht (held.later hst) hopen) ?_ fun _ _ => trivial
  rintro leased u hu ⟨heldu, hleased⟩
  exact safe_createUpload hu heldu hleased

theorem safe_reportJob {record : JobRecord} :
    (jobDiscipline env accepts allows).Safe r (Finishes (fun _ _ => True) Fails)
      (reportJob record) s := trivial

theorem safe_resumeIntent {record : JobRecord} (hs : JobSound s) (held : Held env s record) :
    (jobDiscipline env accepts allows).Safe r (Finishes (fun _ _ => True) Fails)
      (resumeIntent env record) s := by
  unfold resumeIntent
  split
  · exact safe_raise
  split
  · exact safe_raise
  split
  · exact safe_reportJob
  split
  · exact safe_raise
  split
  · exact safe_raise
  refine safe_bind hs safe_dateNow (fun nowMs t ht hst => ?_) fun _ _ => trivial
  have held := held.later hst
  split
  · exact safe_bind ht (safe_terminateStreamJob ht held.stored rfl (by decide))
      (fun _ _ _ _ => safe_reportJob) fun _ _ => trivial
  · refine safe_bind ht (P := fun _ u => Later env t u) (F := Fails) ?_ (fun length u hu htu => ?_)
      fun _ _ => trivial
    · refine safe_rescue ht (safe_ask ht (JobOp.quiet_of_answer fun _ _ => ⟨_, rfl⟩)) (fun _ _ h => h)
        fun code u hu htu => ?_
      split
      · exact safe_raise
      split
      · exact safe_bind hu (safe_terminateStreamJob hu (held.later htu).stored rfl (by decide))
          (fun _ _ _ _ => safe_raise) fun _ _ => trivial
      · exact safe_raise
    · split
      · exact safe_raise
      · exact safe_continueUpload hu (held.later htu)

theorem safe_reconcileIntent {record : JobRecord} (hs : JobSound s) (held : Held env s record) :
    (jobDiscipline env accepts allows).Safe r (Finishes (fun _ _ => True) Fails)
      (reconcileIntent env record) s := by
  unfold reconcileIntent
  refine safe_bind hs (safe_stored held.stored (safe_reconcileUpload hs held))
    (fun _ t ht hstored => ?_) fun _ _ => trivial
  refine safe_bind ht (safe_readJob hstored) (fun current u hu _ => ?_) fun _ _ => trivial
  split
  · exact safe_bind hu (safe_persistReconcile hu) (fun _ _ _ _ => safe_reportJob) fun _ _ => trivial
  · refine safe_bind hu (safe_quiet fun i t b u hx => by cases hx; rfl) (fun view _ _ _ => ?_)
      fun _ _ => trivial
    split
    · exact safe_reportJob
    · split
      · exact safe_raise
      · exact safe_reportJob

/-! ## Requests -/

variable (env accepts allows) in
/-- What the transaction that opens an intent leaves. -/
theorem reserve_spec {newUploads : Bool} {intent : UploadIntent} {nowMs : Nat} {s u : JobObject}
    {result : Result (JobRecord × Bool)} (hs : JobSound s)
    (h : s.reserve newUploads intent (intent.jobRecord nowMs) = (result, u)) :
    u.markers = s.markers ∧ JobStep env accepts allows s u ∧
      ∀ record created, result = .ok (record, created) → Held env u record := by
  unfold JobObject.reserve at h
  split at h
  · cases h
    exact ⟨rfl, .quiet rfl rfl, fun _ _ hr => (by cases hr)⟩
  split at h
  · next existing hget =>
      split at h
      · cases h
        exact ⟨rfl, .quiet rfl rfl, fun _ _ hr => (by cases hr)⟩
      · cases h
        refine ⟨rfl, .quiet rfl rfl, fun record created hr => ?_⟩
        cases hr
        exact ⟨hs.kept existing hget, fun _ => ⟨existing, hget, .refl existing⟩⟩
  · next hget =>
      split at h
      · cases h
        exact ⟨rfl, .quiet rfl rfl, fun _ _ hr => (by cases hr)⟩
      split at h
      · cases h
        exact ⟨rfl, .quiet rfl rfl, fun _ _ hr => (by cases hr)⟩
      · cases h
        have hwf : (intent.jobRecord nowMs).WellFormed := by
          constructor
          · intro hlate
            simp [UploadIntent.jobRecord] at hlate
          · intro hready
            cases hready
        refine ⟨rfl, .created (intent.jobRecord nowMs) hget rfl hwf rfl rfl, ?_⟩
        intro record created hr
        cases hr
        refine ⟨?_, fun _ => ⟨_, rfl, .refl _⟩⟩
        simp [JobObject.store]

theorem safe_reserve {newUploads : Bool} {intent : UploadIntent} {nowMs : Nat} (hs : JobSound s) :
    (jobDiscipline env accepts allows).Safe r
      (Finishes (fun opened t => Held env t opened.1) Fails)
      (ask (.reserve newUploads intent (intent.jobRecord nowMs))) s := by
  unfold ask
  refine safe_bind hs (P := fun result t => ∀ record created, result = .ok (record, created) →
    Held env t record) (F := Fails) ?_ (fun result t _ h => ?_) fun _ _ => trivial
  · refine safe_operation (fun _ _ => trivial) fun t i b u _ ht _ hx => ?_
    obtain ⟨hmarkers, hstep, hheld⟩ := reserve_spec env accepts allows ht (Option.some.inj hx)
    exact ⟨ht.step_same hstep hmarkers, hstep, hheld, trivial⟩
  · cases result with
    | ok opened => exact h opened.1 opened.2 rfl
    | error code => trivial

theorem safe_reserveUploadIntent {intent : UploadIntent} (hs : JobSound s) :
    (jobDiscipline env accepts allows).Safe r (Finishes (fun _ _ => True) Fails)
      (reserveUploadIntent env intent) s := by
  unfold reserveUploadIntent
  refine safe_bind hs (safe_ask hs (JobOp.quiet_of_answer fun _ _ => ⟨_, rfl⟩)) (fun _ t ht _ => ?_)
    fun _ _ => trivial
  refine safe_bind ht safe_dateNow (fun nowMs u hu _ => ?_) fun _ _ => trivial
  refine safe_bind hu (safe_reserve hu) ?_ fun _ _ => trivial
  rintro ⟨record, created⟩ v hv held
  refine safe_bind hv safe_schedule (fun _ w hw hvw => ?_) fun _ _ => trivial
  have held := held.later hvw
  split
  · exact safe_reconcileIntent hw held
  · exact safe_resumeIntent hw held
  · exact safe_continueUpload hw held

variable (env accepts allows) in
/-- What the transaction that opens a heartbeat leaves. -/
theorem openHeartbeat_spec {heartbeat : UploadHeartbeat} {nowMs : Nat} {s u : JobObject}
    {result : Result JobRecord} (hs : JobSound s)
    (h : s.openHeartbeat heartbeat nowMs = (result, u)) :
    u.markers = s.markers ∧ JobStep env accepts allows s u ∧
      ∀ record, result = .ok record → Held env u record := by
  unfold JobObject.openHeartbeat at h
  split at h
  · cases h
    exact ⟨rfl, .quiet rfl rfl, fun _ hr => (by cases hr)⟩
  split at h
  · cases h
    exact ⟨rfl, .quiet rfl rfl, fun _ hr => (by cases hr)⟩
  · next current hget =>
      split at h
      · cases h
        exact ⟨rfl, .quiet rfl rfl, fun _ hr => (by cases hr)⟩
      · cases h
        refine ⟨rfl, .quiet rfl rfl, fun record hr => ?_⟩
        cases hr
        exact ⟨hs.kept current hget, fun _ => ⟨current, hget, .refl current⟩⟩

theorem safe_heartbeatUploadLease {heartbeat : UploadHeartbeat} (hs : JobSound s) :
    (jobDiscipline env accepts allows).Safe r (Finishes (fun _ _ => True) Fails)
      (heartbeatUploadLease env heartbeat) s := by
  unfold heartbeatUploadLease
  refine safe_bind hs (safe_ask hs (JobOp.quiet_of_answer fun _ _ => ⟨_, rfl⟩)) (fun _ t ht _ => ?_)
    fun _ _ => trivial
  refine safe_bind ht (P := fun record u => Held env u record) (F := Fails) ?_
    (fun record u hu held => ?_) fun _ _ => trivial
  · unfold ask
    refine safe_bind ht (P := fun result u => ∀ record, result = .ok record → Held env u record)
      (F := Fails) ?_ (fun result u _ h => ?_) fun _ _ => trivial
    · refine safe_operation (fun _ _ => trivial) fun t i b u _ ht _ hx => ?_
      obtain ⟨hmarkers, hstep, hheld⟩ := openHeartbeat_spec env accepts allows ht (Option.some.inj hx)
      exact ⟨ht.step_same hstep hmarkers, hstep, hheld, trivial⟩
    · cases result with
      | ok record => exact h record rfl
      | error code => trivial
  · refine safe_bind hu safe_schedule (fun _ v hv huv => ?_) fun _ _ => trivial
    have held := held.later huv
    refine safe_bind hv (P := fun _ w => Later env v w) (F := Fails) ?_ (fun lease w hw hvw => ?_)
      fun _ _ => trivial
    · refine safe_rescue hv (safe_ask hv (JobOp.quiet_of_answer fun _ _ => ⟨_, rfl⟩)) (fun _ _ h => h)
        fun code w hw hvw => ?_
      split
      · exact safe_bind hw (safe_endJob hw (held.later hvw) rfl (by decide))
          (fun _ _ _ _ => safe_raise) fun _ _ => trivial
      · exact safe_raise
    · refine safe_bind hw (safe_transitionJob hw) ?_ fun _ _ => trivial
      rintro uploading x hx ⟨hwx, nowMs, huploading⟩
      refine safe_bind hx (safe_writeTransition (held.later (hvw.trans hwx)) huploading (.refl _)
        ⟨rfl, rfl, rfl⟩ rfl (by decide) (by decide)) (fun _ _ _ _ => ?_) fun _ _ => trivial
      exact safe_done trivial

variable (env accepts allows) in
/-- What the transaction of a cancellation leaves. -/
theorem cancel_spec {cancellation : UploadCancellation} {nowMs : Nat} {s u : JobObject}
    {result : Result (JobRecord × Bool)} (h : s.cancel cancellation nowMs = (result, u)) :
    u.markers = s.markers ∧ JobStep env accepts allows s u := by
  unfold JobObject.cancel at h
  split at h
  · cases h
    exact ⟨rfl, .quiet rfl rfl⟩
  split at h
  · cases h
    exact ⟨rfl, .quiet rfl rfl⟩
  · next current hget =>
      split at h
      · cases h
        exact ⟨rfl, .quiet rfl rfl⟩
      split at h
      · cases h
        exact ⟨rfl, .quiet rfl rfl⟩
      split at h
      · cases h
        exact ⟨rfl, .quiet rfl rfl⟩
      · next hopen =>
          have hopen : current.state.isOpen = true := Bool.not_eq_false _ ▸ hopen
          split at h
          · cases h
            exact ⟨rfl, .quiet rfl rfl⟩
          · next cancelled hcancelled =>
              cases h
              obtain ⟨hstate, -, hidentity, hpublication, -⟩ :=
                JobRecord.transition_spec hcancelled
              have hwf : cancelled.WellFormed := by
                refine JobRecord.wellFormed_of_late (hstate ▸ rfl) fun hready => ?_
                exact absurd (hstate.symm.trans hready) (by decide)
              exact ⟨rfl, .updated current cancelled hget hidentity hpublication
                (.inr ⟨hopen, hstate⟩) hwf rfl rfl⟩

theorem safe_cancelUpload {cancellation : UploadCancellation} (hs : JobSound s) :
    (jobDiscipline env accepts allows).Safe r (Finishes (fun _ _ => True) Fails)
      (cancelUpload env cancellation) s := by
  unfold cancelUpload
  refine safe_bind hs (safe_ask hs (JobOp.quiet_of_answer fun _ _ => ⟨_, rfl⟩)) (fun _ t ht _ => ?_)
    fun _ _ => trivial
  refine safe_bind ht (P := fun _ _ => True) (F := Fails) ?_ ?_ fun _ _ => trivial
  · unfold ask
    refine safe_bind ht (P := fun _ _ => True) (F := Fails) ?_ (fun result _ _ _ => ?_)
      fun _ _ => trivial
    · refine safe_operation (fun _ _ => trivial) fun t i b u _ ht _ hx => ?_
      obtain ⟨hmarkers, hstep⟩ := cancel_spec env accepts allows (Option.some.inj hx)
      exact ⟨ht.step_same hstep hmarkers, hstep, trivial, trivial⟩
    · cases result <;> trivial
  · rintro ⟨record, duplicate⟩ u hu -
    refine safe_bind hu safe_schedule (fun _ v hv _ => ?_) fun _ _ => trivial
    refine safe_bind hv (safe_scheduleTerminalArchive hv) (fun _ w hw _ => ?_) fun _ _ => trivial
    split
    · exact safe_bind hw (safe_updateAdmission hw) (fun _ _ _ _ => safe_done trivial)
        fun _ _ => trivial
    · exact safe_done trivial

theorem safe_handleLivepeerWebhook {delivery : WebhookDelivery} (hs : JobSound s) :
    (jobDiscipline env accepts allows).Safe r (Finishes (fun _ _ => True) Fails)
      (handleLivepeerWebhook env delivery) s := by
  unfold handleLivepeerWebhook
  refine safe_bind hs safe_get (fun existing t ht held => ?_) fun _ _ => trivial
  dsimp only
  split
  · exact safe_raise
  · exact safe_bind ht (safe_handleProviderEvent ht held) (fun _ _ _ _ => safe_done trivial)
      fun _ _ => trivial

/-! ## Alarms -/

/-- A write of a copy with other details: also when it throws, the copy in hand is still one. -/
theorem safe_rewriteJob {read written : JobRecord} (hs : JobSound s) (held : Held env s read)
    (hagrees : written.Agrees read) (hlate : read.state.isEarly = false) :
    (jobDiscipline env accepts allows).Safe r
      (Finishes (fun _ t => Held env t read) fun t => Held env t read)
      (writeJob read written) s := by
  have hwf := (hs.wellFormed _ held.stored).of_agrees hagrees hlate
  refine safe_operation (fun t hst => held.later hst) fun t i b u hst ht hm hx => ?_
  cases hx
  have hstep : JobStep env accepts allows t (t.store written) :=
    .wrote read written (held.later hst) (.of_agrees hagrees hlate) hm hwf rfl rfl
  have heldu : Held env (t.store written) read :=
    ⟨hstep.stored (hst.stored held.stored), fun _ => ⟨written, rfl, hagrees⟩⟩
  exact ⟨ht.step_same hstep rfl, hstep, heldu, heldu⟩

theorem safe_advanceTerminalArchive {job : JobRecord} {archive : RecordArchive} (hs : JobSound s)
    (held : Held env s job) (harchive : job.terminalArchive.isSome) :
    (jobDiscipline env accepts allows).Safe r (Finishes (fun _ _ => True) Fails)
      (advanceTerminalArchive env job archive) s := by
  have hlate := (hs.wellFormed _ held.stored).late (.inr (.inr harchive))
  unfold advanceTerminalArchive
  refine safe_rescue (P := fun _ _ => True) (F := fun t => Held env t job) hs ?_
    (fun _ _ _ => trivial) fun code t ht held => ?_
  · refine safe_bind hs (P := fun _ t => Held env t job) (F := fun t => Held env t job) ?_
      (fun _ t ht held => ?_) fun _ held => held
    · split
      · exact held
      · exact held
    refine safe_bind ht (safe_ask ht (JobOp.quiet_of_answer fun _ _ => ⟨_, rfl⟩)) (fun sha u hu htu => ?_)
      fun _ htu => held.later htu
    refine safe_bind hu safe_dateNow (fun nowMs v hv huv => ?_)
      fun _ huv => held.later (htu.trans huv)
    exact safe_weaken (safe_rewriteJob hv (held.later (htu.trans huv)) ⟨rfl, rfl, rfl⟩ hlate)
      (fun _ _ _ => trivial) fun _ held => held
  · refine safe_bind ht safe_dateNow (fun nowMs u hu htu => ?_) fun _ _ => trivial
    refine safe_bind hu (safe_rewriteJob hu (held.later htu) ⟨rfl, rfl, rfl⟩ hlate)
      (fun _ _ _ _ => ?_) fun _ _ => trivial
    exact safe_ends safe_schedule

theorem safe_reconcilePublishedJob {job : JobRecord} (hs : JobSound s) (held : Held env s job) :
    (jobDiscipline env accepts allows).Safe r (Finishes (fun _ _ => True) Fails)
      (reconcilePublishedJob env job) s := by
  unfold reconcilePublishedJob
  refine safe_bind hs (safe_ask hs (JobOp.quiet_of_answer fun _ _ => ⟨_, rfl⟩)) (fun _ t ht hst => ?_)
    fun _ _ => trivial
  refine safe_rescue (P := fun _ _ => True) (F := Fails) ht ?_ (fun _ _ _ => trivial)
    fun code u hu _ => safe_ends (safe_persistReconcile hu)
  refine safe_bind ht (safe_verifyReadyProviderAsset ht (held.later hst)) (fun answer u hu _ => ?_)
    fun _ _ => trivial
  split
  · exact safe_done trivial
  · split
    · exact safe_bind hu (safe_ask hu (JobOp.quiet_of_answer fun _ _ => ⟨_, rfl⟩))
        (fun _ _ hv _ => safe_ends (safe_persistReconcile hv)) fun _ _ => trivial
    · exact safe_ends (safe_persistReconcile hu)

theorem safe_advanceJob {job : JobRecord} (hs : JobSound s) (held : Held env s job) :
    (jobDiscipline env accepts allows).Safe r (Finishes (fun _ _ => True) Fails)
      (advanceJob env job) s := by
  unfold advanceJob
  split
  · exact safe_ends safe_schedule
  refine safe_bind hs (safe_expireLegacyProfileJob hs held) (fun outcome t ht hkeeps => ?_)
    fun _ _ => trivial
  split
  · exact safe_done trivial
  have held := hkeeps rfl
  split
  · split
    · split
      · refine safe_bind ht safe_dateNow (fun nowMs u hu _ => ?_) fun _ _ => trivial
        refine safe_bind hu safe_get (fun existing v hv held => ?_) fun _ _ => trivial
        exact safe_bind hv (safe_handleProviderEvent hv held) (fun _ _ _ _ => safe_done trivial)
          fun _ _ => trivial
      · exact safe_reconcileUpload ht held
    · exact safe_reconcileUpload ht held
  · refine safe_bind ht safe_dateNow (fun nowMs u hu htu => ?_) fun _ _ => trivial
    have held := held.later htu
    split
    · exact safe_ends safe_schedule
    split
    · exact safe_bind hu (safe_advanceFinalization hu held) (fun _ _ _ _ => safe_done trivial)
        fun _ _ => trivial
    split
    · exact safe_reconcilePublishedJob hu held
    · exact safe_done trivial

theorem safe_purgeMarkers {code : String} :
    (jobDiscipline env accepts allows).Safe r
      (Finishes (fun _ t => ∀ job, Held env s job → Held env t job) Fails)
      (Handler.perform code .purgeMarkers) s := by
  refine safe_markers fun i t b u hx => ?_
  cases hx
  exact ⟨rfl, rfl, fun digest marker hget _ => get_purgeExpired hget⟩

theorem safe_purgeNonces {code : String} :
    (jobDiscipline env accepts allows).Safe r
      (Finishes (fun _ t => ∀ job, Held env s job → Held env t job) Fails)
      (Handler.perform code .purgeNonces) s := by
  refine safe_markers fun i t b u hx => ?_
  cases hx
  exact ⟨rfl, rfl, fun _ _ hget _ => hget⟩

theorem safe_advanceAlarm (hs : JobSound s) :
    (jobDiscipline env accepts allows).Safe r (Finishes (fun _ _ => True) Fails)
      (advanceAlarm env) s := by
  unfold advanceAlarm
  refine safe_bind hs (P := fun _ _ => True) (F := Fails) ?_ (fun _ t ht _ => ?_)
    fun _ _ => trivial
  · split
    · exact safe_ends (safe_ask hs (JobOp.quiet_of_answer fun _ _ => ⟨_, rfl⟩))
    · exact safe_done trivial
  refine safe_bind ht safe_purgeNonces (fun _ u hu _ => ?_) fun _ _ => trivial
  refine safe_bind hu safe_purgeMarkers (fun _ v hv _ => ?_) fun _ _ => trivial
  refine safe_bind hv safe_get (fun existing w hw held => ?_) fun _ _ => trivial
  split
  · exact safe_done trivial
  next job =>
  have held := held job rfl
  split
  · exact safe_bind hw (safe_advanceJob hw held) (fun _ _ _ _ => safe_done trivial)
      fun _ _ => trivial
  · next archive harchive =>
      split
      · exact safe_bind hw (safe_advanceJob hw held) (fun _ _ _ _ => safe_done trivial)
          fun _ _ => trivial
      · refine safe_bind hw safe_dateNow (fun nowMs x hx hwx => ?_) fun _ _ => trivial
        dsimp only
        split
        · exact safe_bind hx safe_schedule (fun _ _ _ _ => safe_done trivial) fun _ _ => trivial
        · refine safe_bind hx (safe_advanceTerminalArchive hx (held.later hwx) ?_)
            (fun _ _ _ _ => safe_done trivial) fun _ _ => trivial
          rw [harchive]
          rfl

/-- Every request gives its guarantee. -/
theorem safe_request (r : JobRequest) (s : JobObject) (hs : JobSound s) :
    (jobDiscipline env accepts allows).Safe r Discipline.Anywhere (JobRequest.program env r) s := by
  have h : ∀ {p : JobHandler JobAnswer},
      (jobDiscipline env accepts allows).Safe r (Finishes (fun _ _ => True) Fails) p s →
        (jobDiscipline env accepts allows).Safe r Discipline.Anywhere p s := by
    intro p hp
    exact hp.mono fun _ _ _ => trivial
  cases r with
  | intent request => exact h (safe_reserveUploadIntent hs)
  | heartbeat request => exact h (safe_heartbeatUploadLease hs)
  | cancellation request => exact h (safe_cancelUpload hs)
  | webhook delivery => exact h (safe_handleLivepeerWebhook hs)
  | alarm => exact h (safe_advanceAlarm hs)

end Safe

/-! ## Every run -/

/-- Over a run whose writes are allowed and whose verifications are accepted, the object is sound,
and every event that changes it is a step. -/
theorem job_run {env : JobEnv} (accepts : JobRecord → VerifiedAsset → Prop)
    {allows : JobRecord → JobRecord → JobObject → Prop}
    {tr : List (Transition (Config JobObject JobOp String JobAnswer JobRequest)
      (Event JobInput JobRequest Empty))}
    {c : Config JobObject JobOp String JobAnswer JobRequest}
    (h : Trace (ExecStep (jobSystem env).next) ⟨.empty, []⟩ tr c)
    (hput : ∀ x ∈ tr, ∀ (r : JobRequest) (read written : JobRecord) (i : JobInput),
      x.pre.Executes x.label r (.put read written) i → allows read written x.pre.shared)
    (hverified : ∀ x ∈ tr, ∀ (r : JobRequest) (job : JobRecord) (asset : VerifiedAsset)
      (i : JobInput), x.pre.Executes x.label r (.storeVerification job (.verified asset)) i →
        accepts job asset) :
    JobSound c.shared ∧ ∀ x ∈ tr, JobSound x.pre.shared ∧
      (x.post.shared = x.pre.shared ∨ JobStep env accepts allows x.pre.shared x.post.shared) := by
  have hmeets : ∀ x ∈ tr, (jobDiscipline env accepts allows).Meets x := by
    intro x hx r β op i hexec
    cases op
    case put read written => exact hput x hx r read written i hexec
    case storeVerification job verification =>
      cases verification with
      | pending checkpoint => trivial
      | verified asset => exact hverified x hx r job asset i hexec
    all_goals trivial
  obtain ⟨hsound, hmoves⟩ := Discipline.run (D := jobDiscipline env accepts allows) safe_request
    (Discipline.sound_idle jobSound_empty) h hmeets
  refine ⟨hsound.inv, fun x hx => ?_⟩
  obtain ⟨hpre, hmove⟩ := hmoves x hx
  refine ⟨hpre.inv, ?_⟩
  cases hmove with
  | still heq => exact .inl heq
  | world w => exact nomatch w
  | acted r hstep => exact .inr hstep

end Youtick.Bridge.Job
