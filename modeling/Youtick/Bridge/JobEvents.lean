import Youtick.Bridge.JobRules

/-!
# Bridge: events of the job object

Ends of a job, finalization, verification and provider events give the guarantee of the
discipline. One lemma for each part says what it may rely on and what it leaves.
-/

set_option autoImplicit false

namespace Youtick.Bridge.Job

open Youtick.Lib

section Safe

variable {env : JobEnv} {accepts : JobRecord → VerifiedAsset → Prop}
  {allows : JobRecord → JobRecord → JobObject → Prop} {r : JobRequest} {s : JobObject}

/-! ## Ends of a job -/

theorem safe_scheduleTerminalArchive {job : JobRecord} (hs : JobSound s) :
    (jobDiscipline env accepts allows).Safe r (Finishes (fun _ t => Later env s t) Fails)
      (scheduleTerminalArchive env job) s := by
  unfold scheduleTerminalArchive
  refine safe_bind hs (safe_persistReconcile hs) (fun _ t _ hst => ?_) fun _ _ => trivial
  split
  · exact safe_weaken safe_schedule (fun _ u htu => hst.trans htu) fun _ _ => trivial
  · exact safe_done hst

theorem safe_deleteStreamUpload {job : JobRecord} (hs : JobSound s) (held : Held env s job) :
    (jobDiscipline env accepts allows).Safe r (Finishes (fun record t => Held env t record) Fails)
      (deleteStreamUpload env job) s := by
  unfold deleteStreamUpload
  split
  · exact safe_done held
  · next assetId hasset =>
      have hwf := hs.wellFormed job held.stored
      have hlate := hwf.late (.inl (by rw [hasset]; rfl))
      split
      · exact safe_done held
      · refine safe_bind hs (P := fun _ t => Later env s t) (F := Fails) ?_
          (fun outcome t ht hst => ?_) fun _ _ => trivial
        · refine safe_rescue hs (safe_ask hs (JobOp.quiet_of_answer fun _ _ => ⟨_, rfl⟩)) (fun _ _ h => h)
            fun code t _ hst => safe_done hst
        refine safe_bind ht safe_dateNow (fun nowMs u hu htu => ?_) fun _ _ => trivial
        have held' := held.later (hst.trans htu)
        have hagrees : JobRecord.Agrees { job with
            providerDelete := some ⟨env.sha256 assetId, outcome, nowMs⟩ } job := ⟨rfl, rfl, rfl⟩
        refine safe_bind hu (safe_writeJob held' (.of_agrees hagrees hlate)
          (hwf.of_agrees hagrees hlate)) (fun _ v hv heldv => ?_) fun _ _ => trivial
        split
        · refine safe_bind hv (safe_quiet fun i t b u hx => by cases hx; rfl)
            (fun _ w _ hvw => ?_) fun _ _ => trivial
          exact safe_done (heldv.later hvw)
        · exact safe_done heldv

/-- A job ends in a state that is not a cancellation. -/
theorem safe_terminateStreamJob {job : JobRecord} {toState : JobState} (hs : JobSound s)
    (hjob : .stored job ∈ s.journal) (hended : toState.isEnded = true)
    (hnot : toState ≠ .cancelled) :
    (jobDiscipline env accepts allows).Safe r (Finishes (fun record t => Held env t record) Fails)
      (terminateStreamJob env job toState) s := by
  unfold terminateStreamJob
  refine safe_bind hs (safe_readJob hjob) (fun current t ht held => ?_) fun _ _ => trivial
  refine safe_bind ht (P := fun ended u => Held env u ended) (F := Fails) ?_
    (fun ended u hu heldEnded => ?_) fun _ _ => trivial
  · split
    · exact safe_done held
    · refine safe_bind ht (safe_transitionJob ht) ?_ fun _ _ => trivial
      rintro next u hu ⟨htu, nowMs, hnext⟩
      have hlate := JobState.not_isEarly_of_isEnded hended
      have hstate := (JobRecord.transition_spec hnext).1
      have hwf : next.WellFormed := by
        refine JobRecord.wellFormed_of_late (hstate ▸ hlate) fun hready => ?_
        rw [hstate] at hready
        rw [hready] at hended
        cases hended
      refine safe_bind hu (safe_writeJob (held.later htu)
        (.of_transition hnext (.refl _) (.refl _) hlate hnot) hwf) (fun _ v _ heldv => ?_)
        fun _ _ => trivial
      exact safe_done heldv
  · refine safe_bind hu (safe_deleteStreamUpload hu heldEnded) (fun record v hv heldv => ?_)
      fun _ _ => trivial
    refine safe_bind hv (safe_scheduleTerminalArchive hv) (fun _ w hw hvw => ?_)
      fun _ _ => trivial
    refine safe_bind hw (safe_updateAdmission hw) (fun _ x _ hwx => ?_) fun _ _ => trivial
    exact safe_done (heldv.later (hvw.trans hwx))

/-- A record of a job that goes on after its upload was created. -/
theorem safe_writeTransition {read base next written : JobRecord} {state : JobState} {nowMs : Nat}
    (held : Held env s read) (hnext : base.transition state nowMs = .ok next)
    (hbase : base.Agrees read) (hwritten : written.Agrees next) (hlate : state.isEarly = false)
    (hnot : state ≠ .cancelled) (hready : state ≠ .readyVerified) :
    (jobDiscipline env accepts allows).Safe r (Finishes (fun _ t => Held env t written) Fails)
      (writeJob read written) s := by
  have hstate := hwritten.state.trans (JobRecord.transition_spec hnext).1
  refine safe_writeJob held (.of_transition hnext hbase hwritten hlate hnot)
    (JobRecord.wellFormed_of_late (hstate ▸ hlate) fun h => ?_)
  exact absurd (hstate.symm.trans h) hready

theorem safe_endJob {job : JobRecord} {toState : JobState} (hs : JobSound s)
    (held : Held env s job) (hended : toState.isEnded = true) (hnot : toState ≠ .cancelled) :
    (jobDiscipline env accepts allows).Safe r (Finishes (fun _ _ => True) Fails)
      (endJob env job toState) s := by
  unfold endJob
  split
  · refine safe_bind hs (safe_terminateStreamJob hs held.stored hended hnot) (fun _ _ _ _ => ?_)
      fun _ _ => trivial
    exact safe_done trivial
  · refine safe_bind hs (safe_transitionJob hs) ?_ fun _ _ => trivial
    rintro next t ht ⟨hst, nowMs, hnext⟩
    have hready : toState ≠ .readyVerified := by
      rintro rfl
      cases hended
    refine safe_bind ht (safe_writeTransition (held.later hst) hnext (.refl _) (.refl _)
      (JobState.not_isEarly_of_isEnded hended) hnot hready) (fun _ u hu _ => ?_) fun _ _ => trivial
    refine safe_bind hu (safe_scheduleTerminalArchive hu) (fun _ v hv _ => ?_) fun _ _ => trivial
    exact safe_weaken (safe_updateAdmission hv) (fun _ _ _ => trivial) fun _ _ => trivial

theorem safe_expireJob {job : JobRecord} (hs : JobSound s) (held : Held env s job) :
    (jobDiscipline env accepts allows).Safe r (Finishes (fun _ _ => True) Fails)
      (expireJob env job) s := by
  unfold expireJob
  refine safe_bind hs (safe_endJob hs held rfl (by decide)) (fun _ _ _ _ => ?_) fun _ _ => trivial
  exact safe_done trivial

theorem safe_expireLegacyProfileJob {job : JobRecord} (hs : JobSound s) (held : Held env s job) :
    (jobDiscipline env accepts allows).Safe r
      (Finishes (fun outcome t => outcome = none → Held env t job) Fails)
      (expireLegacyProfileJob env job) s := by
  unfold expireLegacyProfileJob
  split
  · refine safe_bind hs (safe_expireJob hs held) (fun _ _ _ _ => ?_) fun _ _ => trivial
    exact safe_done fun h => (nomatch h)
  · exact safe_done fun _ => held

/-! ## Finalization -/

theorem safe_adoptFinalization {job : JobRecord} {state : JobState} (hs : JobSound s)
    (held : Held env s job) (hlate : state.isEarly = false) (hnot : state ≠ .cancelled)
    (hready : state ≠ .readyVerified) :
    (jobDiscipline env accepts allows).Safe r (Finishes (fun _ _ => True) Fails)
      (adoptFinalization job state) s := by
  unfold adoptFinalization
  refine safe_bind hs (safe_transitionJob hs) ?_ fun _ _ => trivial
  rintro next t ht ⟨hst, nowMs, hnext⟩
  refine safe_bind ht (safe_writeTransition (held.later hst) hnext ⟨rfl, rfl, rfl⟩ (.refl _) hlate
    hnot hready) (fun _ u hu _ => ?_) fun _ _ => trivial
  refine safe_bind hu (safe_updateAdmission hu) (fun _ v _ _ => ?_) fun _ _ => trivial
  exact safe_weaken safe_schedule (fun _ _ _ => trivial) fun _ _ => trivial

theorem safe_settleLegacyProfileJob {job : JobRecord} (hs : JobSound s) (held : Held env s job) :
    (jobDiscipline env accepts allows).Safe r (Finishes (fun _ _ => True) Fails)
      (settleLegacyProfileJob env job) s := by
  unfold settleLegacyProfileJob
  refine safe_bind hs (P := fun _ t => Later env s t) (F := Fails) ?_
    (fun published t ht hst => ?_) fun _ _ => trivial
  · split
    · exact safe_done (.refl s)
    · refine safe_rescue (F := fun t => Later env s t) hs
        (safe_bind hs (safe_ask hs (JobOp.quiet_of_answer fun _ _ => ⟨_, rfl⟩))
          (fun _ t _ hst => safe_done hst) fun t hst => hst) (fun _ _ h => h)
        fun code t ht hst => ?_
      split
      · refine safe_bind ht safe_schedule (fun _ u _ htu => ?_) fun _ _ => trivial
        exact safe_done (hst.trans htu)
      · exact safe_done hst
  · split
    · exact safe_done trivial
    · exact safe_expireJob ht (held.later hst)
    · refine safe_bind ht (safe_adoptFinalization ht (held.later hst) rfl (by decide) (by decide))
        (fun _ _ _ _ => ?_) fun _ _ => trivial
      exact safe_done trivial

theorem safe_advanceFinalization {job : JobRecord} {publication : FinalizePublication}
    (hs : JobSound s) (held : Held env s job) :
    (jobDiscipline env accepts allows).Safe r (Finishes (fun _ _ => True) Fails)
      (advanceFinalization env job publication) s := by
  unfold advanceFinalization
  refine safe_bind hs safe_dateNow (fun nowMs t ht hst => ?_) fun _ _ => trivial
  have held := held.later hst
  split
  · exact safe_expireJob ht held
  split
  · exact safe_settleLegacyProfileJob ht held
  split
  · exact safe_done trivial
  refine safe_bind ht (safe_ask ht (JobOp.quiet_of_answer fun _ _ => ⟨_, rfl⟩)) (fun reply u hu htu => ?_)
    fun _ _ => trivial
  have held := held.later htu
  split
  · refine safe_bind hu (safe_adoptFinalization hu held ?_ ?_ ?_) (fun _ _ _ _ => ?_)
      fun _ _ => trivial
    · split <;> rfl
    · split <;> decide
    · split <;> decide
    · exact safe_done trivial
  · refine safe_bind hu safe_dateNow (fun nowMs v hv huv => ?_) fun _ _ => trivial
    refine safe_bind hv (safe_transitionJob hv) ?_ fun _ _ => trivial
    rintro retry w hw ⟨hvw, nowMs', hretry⟩
    refine safe_bind hw (safe_writeTransition (held.later (huv.trans hvw)) hretry (.refl _)
      ⟨rfl, rfl, rfl⟩ rfl (by decide) (by decide)) (fun _ x hx _ => ?_) fun _ _ => trivial
    refine safe_bind hx safe_schedule (fun _ _ _ _ => ?_) fun _ _ => trivial
    exact safe_done trivial

/-! ## Verification -/

/-- What the transaction after a verification leaves: the record it checked, with other details. -/
theorem storeVerification_spec {job : JobRecord} {verification : Verification} {nowMs : Nat}
    {s u : JobObject} {result : Result Unit} (hs : JobSound s) (hasset : job.assetId.isSome)
    (h : s.storeVerification job verification nowMs = (result, u)) :
    u.markers = s.markers ∧ JobStep env accepts allows s u ∧
      (result = .ok () → Held env s job → Held env u job) := by
  unfold JobObject.storeVerification at h
  split at h
  · cases h
    exact ⟨rfl, .quiet rfl rfl, fun hr => (nomatch hr)⟩
  · next current hget =>
      split at h
      · cases h
        exact ⟨rfl, .quiet rfl rfl, fun hr => (nomatch hr)⟩
      · next hsame =>
          have hsame : current.forVerification = job.forVerification := by
            by_contra hne
            exact hsame (.inl hne)
          have hcurrent : current.Agrees job := .of_forVerification hsame
          have hlate : current.state.isEarly = false := by
            refine (hs.wellFormed _ (hs.kept current hget)).late (.inl ?_)
            have := congrArg JobRecord.assetId hsame
            change current.assetId = job.assetId at this
            rw [this]
            exact hasset
          have hstore : ∀ written : JobRecord, written.Agrees current →
              (s.store written).markers = s.markers ∧
                JobStep env accepts allows s (s.store written) ∧
                  ((.ok () : Result Unit) = .ok () → Held env s job →
                    Held env (s.store written) job) := by
            intro written hwritten
            refine ⟨rfl, .updated current written hget hwritten.identity hwritten.publication
              (.inl ⟨hwritten.state, hlate⟩)
              ((hs.wellFormed _ (hs.kept current hget)).of_agrees hwritten hlate) rfl rfl,
              fun _ held => ⟨List.mem_append_left _ held.stored,
                fun _ => ⟨written, rfl, hwritten.trans hcurrent⟩⟩⟩
          split at h
          · cases h
            exact hstore _ ⟨rfl, rfl, rfl⟩
          · split at h
            · cases h
              exact hstore _ ⟨rfl, rfl, rfl⟩
            · cases h
              exact ⟨rfl, .quiet rfl rfl, fun _ held => held⟩

variable (env accepts allows) in
theorem dropCheckpoint_spec {s : JobObject} (hs : JobSound s) :
    s.dropCheckpoint.markers = s.markers ∧ JobStep env accepts allows s s.dropCheckpoint := by
  unfold JobObject.dropCheckpoint
  split
  · exact ⟨rfl, .quiet rfl rfl⟩
  · next current hget =>
      split
      · next hsome =>
          have hwf := hs.wellFormed _ (hs.kept current hget)
          have hlate := hwf.late (.inr (.inl hsome))
          have hagrees : JobRecord.Agrees { current with providerVerification := none } current :=
            ⟨rfl, rfl, rfl⟩
          exact ⟨rfl, .updated current { current with providerVerification := none } hget rfl rfl
            (.inl ⟨rfl, hlate⟩) (hwf.of_agrees hagrees hlate) rfl rfl⟩
      · exact ⟨rfl, .quiet rfl rfl⟩

/-- An answer of a verification: it was accepted, and the copy in hand is still one. -/
def Verifies (env : JobEnv) (accepts : JobRecord → VerifiedAsset → Prop) (job : JobRecord)
    (answer : Option VerifiedAsset) (t : JobObject) : Prop :=
  ∀ asset ∈ answer, accepts job asset ∧ Held env t job

theorem safe_storeVerification {job : JobRecord} {verification : Verification} (hs : JobSound s)
    (held : Held env s job) (hasset : job.assetId.isSome) :
    (jobDiscipline env accepts allows).Safe r
      (Finishes (fun _ t => Held env t job ∧
        ∀ asset, verification = .verified asset → accepts job asset) Fails)
      (ask (.storeVerification job verification)) s := by
  unfold ask
  refine safe_bind hs (P := fun result t => result = .ok () → Held env t job ∧
    ∀ asset, verification = .verified asset → accepts job asset) (F := Fails) ?_
    (fun result t _ h => ?_) fun _ _ => trivial
  · refine safe_operation (fun _ _ => trivial) fun t i b u hst ht hm hx => ?_
    have hx : t.storeVerification job verification i.nowMs = (b, u) := Option.some.inj hx
    obtain ⟨hmarkers, hstep, hheld⟩ := storeVerification_spec ht hasset hx
    refine ⟨ht.step_same hstep hmarkers, hstep, fun hb => ⟨hheld hb (held.later hst), ?_⟩, trivial⟩
    rintro asset rfl
    exact hm
  · cases result with
    | ok a => exact h rfl
    | error code => trivial

theorem safe_probeAsset {job : JobRecord} {mode : VerificationMode} (hs : JobSound s)
    (held : Held env s job) (hasset : job.assetId.isSome) :
    (jobDiscipline env accepts allows).Safe r
      (Finishes (Verifies env accepts job) Fails) (probeAsset job mode) s := by
  unfold probeAsset
  refine safe_bind hs (safe_ask hs (JobOp.quiet_of_answer fun _ _ => ⟨_, rfl⟩)) (fun verification t ht hst => ?_)
    fun _ _ => trivial
  refine safe_bind ht (safe_storeVerification ht (held.later hst) hasset) ?_ fun _ _ => trivial
  rintro ⟨⟩ u hu ⟨heldu, haccepts⟩
  cases verification with
  | pending checkpoint =>
    refine safe_bind hu safe_schedule (fun _ _ _ _ => ?_) fun _ _ => trivial
    exact safe_done fun asset hmem => (nomatch hmem)
  | verified asset =>
    refine safe_done fun asset' hmem => ?_
    cases hmem
    exact ⟨haccepts asset rfl, heldu⟩

theorem safe_verifyReadyProviderAsset {job : JobRecord} {mode : VerificationMode} (hs : JobSound s)
    (held : Held env s job) :
    (jobDiscipline env accepts allows).Safe r
      (Finishes (Verifies env accepts job) Fails) (verifyReadyProviderAsset env job mode) s := by
  unfold verifyReadyProviderAsset
  split
  · exact safe_raise
  · next hconfig =>
      have hasset : job.assetId.isSome := by
        rw [Option.isSome_iff_ne_none]
        intro hnone
        exact hconfig (.inr (.inl hnone))
      refine safe_bind hs safe_dateNow (fun nowMs t ht hst => ?_) fun _ _ => trivial
      split
      · exact safe_raise
      · refine safe_rescue (F := Fails) ht (safe_probeAsset ht (held.later hst) hasset)
          (fun _ _ h => h) fun code u hu _ => ?_
        split
        · exact safe_raise
        · refine safe_bind (P := fun _ _ => True) (F := Fails) hu ?_ (fun _ _ _ _ => safe_raise)
            fun _ _ => trivial
          refine safe_operation (fun _ _ => trivial) fun v i b w _ hv _ hx => ?_
          cases hx
          obtain ⟨hmarkers, hstep⟩ := dropCheckpoint_spec env accepts allows hv
          exact ⟨hv.step_same hstep hmarkers, hstep, trivial, trivial⟩

/-- An operation on the markers alone. -/
theorem safe_markers {β : Type} {op : JobOp β} {code : String}
    (h : ∀ i t b u, JobOp.exec β op i t = some (b, u) → u.job = t.job ∧ u.journal = t.journal ∧
      ∀ digest marker, u.markers.get digest = some marker → marker.state = .verified →
        t.markers.get digest = some marker) :
    (jobDiscipline env accepts allows).Safe r
      (Finishes (fun _ t => ∀ job, Held env s job → Held env t job) Fails)
      (Handler.perform code op) s := by
  refine safe_operation (fun _ _ => trivial) fun t i b u hst ht _ hx => ?_
  obtain ⟨hjob, hjournal, hmarkers⟩ := h i t b u hx
  have hstep : JobStep env accepts allows t u := .quiet hjob hjournal
  refine ⟨ht.step hstep fun digest marker hget hstate =>
    ht.verified digest marker (hmarkers digest marker hget hstate) hstate, hstep, ?_, trivial⟩
  intro job held
  obtain ⟨hstored, hfresh⟩ := held.later hst
  exact ⟨hjournal ▸ hstored, fun hs => hjob ▸ hfresh hs⟩

theorem safe_deleteMarker {digest code : String} :
    (jobDiscipline env accepts allows).Safe r
      (Finishes (fun _ t => ∀ job, Held env s job → Held env t job) Fails)
      (Handler.perform code (.deleteMarker digest)) s := by
  refine safe_markers fun i t b u hx => ?_
  cases hx
  refine ⟨rfl, rfl, fun other marker hget _ => ?_⟩
  by_cases hother : other = digest
  · subst hother
    rw [LookupMap.get_remove_self] at hget
    cases hget
  · rwa [LookupMap.get_remove_of_ne _ hother] at hget

theorem safe_claimMarker {digest code : String} :
    (jobDiscipline env accepts allows).Safe r
      (Finishes (fun _ t => ∀ job, Held env s job → Held env t job) Fails)
      (Handler.perform code (.claimMarker digest)) s := by
  refine safe_markers fun i t b u hx => ?_
  have hx : t.claimMarker digest i.nowMs = (b, u) := Option.some.inj hx
  unfold JobObject.claimMarker at hx
  split at hx
  · cases hx
    exact ⟨rfl, rfl, fun _ _ hget _ => hget⟩
  · cases hx
    refine ⟨rfl, rfl, fun other marker hget hstate => ?_⟩
    by_cases hother : other = digest
    · subst hother
      rw [LookupMap.get_insert_self] at hget
      cases hget
      cases hstate
    · rwa [LookupMap.get_insert_of_ne _ _ hother] at hget

/-- A marker is settled once the verified record was stored. -/
theorem safe_settleMarker {digest code : String} {record : JobRecord} (held : Held env s record)
    (hready : record.state = .readyVerified) :
    (jobDiscipline env accepts allows).Safe r
      (Finishes (fun _ t => Held env t record) Fails)
      (Handler.perform code (.settleMarker digest)) s := by
  refine safe_operation (fun _ _ => trivial) fun t i b u hst ht _ hx => ?_
  cases hx
  obtain ⟨hstored, hfresh⟩ := held.later hst
  have hstep : JobStep env accepts allows t
      { t with markers := t.markers.insert digest ⟨.verified, i.nowMs⟩ } := .quiet rfl rfl
  refine ⟨ht.step hstep fun other marker hget hstate => ?_, hstep, ⟨hstored, hfresh⟩, trivial⟩
  by_cases hother : other = digest
  · exact ⟨record, hstored, hready⟩
  · rw [LookupMap.get_insert_of_ne _ _ hother] at hget
    exact ht.verified other marker hget hstate

/-- A verified record in hand, when there is one. -/
def Hands (env : JobEnv) (result : EventOutcome ⊕ JobRecord) (t : JobObject) : Prop :=
  ∀ record, result = .inr record → Held env t record

theorem safe_verifyClaimed {event : ProviderEvent} {existing : JobRecord} (hs : JobSound s)
    (held : Held env s existing) :
    (jobDiscipline env accepts allows).Safe r (Finishes (Hands env) Fails)
      (verifyClaimed env event existing) s := by
  unfold verifyClaimed
  refine safe_bind hs (safe_verifyReadyProviderAsset hs held) (fun answer t ht hverifies => ?_)
    fun _ _ => trivial
  cases answer with
  | none =>
    refine safe_bind ht safe_deleteMarker (fun _ _ _ _ => ?_) fun _ _ => trivial
    exact safe_done fun record hr => (nomatch hr)
  | some asset =>
    obtain ⟨haccepts, held⟩ := hverifies asset rfl
    refine safe_bind ht (safe_transitionJob ht) ?_ fun _ _ => trivial
    rintro verified u hu ⟨htu, nowMs, hnext⟩
    obtain ⟨hstate, hfollows, hidentity, -⟩ := JobRecord.transition_spec hnext
    refine safe_bind hu (safe_writeJob (held.later htu) ?_ ?_) (fun _ v hv heldv => ?_)
      fun _ _ => trivial
    · constructor
      · exact hidentity
      · change existing.state.Follows verified.state
        rw [hstate]
        exact hfollows
      · intro hearly
        change verified.state.isEarly = true at hearly
        rw [hstate] at hearly
        cases hearly
      · intro hbegun
        exact absurd (hstate.symm.trans hbegun) (by decide)
      · intro hcancelled
        exact absurd (hstate.symm.trans hcancelled) (by decide)
      · intro publication _
        exact .inr ⟨hstate, asset, haccepts, rfl⟩
    · refine JobRecord.wellFormed_of_late ?_ fun _ => rfl
      change verified.state.isEarly = false
      rw [hstate]
      rfl
    · refine safe_bind hv (safe_persistReconcile hv) (fun _ w hw hvw => ?_) fun _ _ => trivial
      refine safe_bind hw (safe_updateAdmission hw) (fun _ x hx hwx => ?_) fun _ _ => trivial
      refine safe_bind hx (safe_settleMarker (heldv.later (hvw.trans hwx)) hstate)
        (fun _ y _ heldy => ?_) fun _ _ => trivial
      refine safe_done fun record hr => ?_
      cases hr
      exact heldy

theorem safe_abandonClaim {event : ProviderEvent} {existing : JobRecord} {code : String}
    (hs : JobSound s) (hstored : .stored existing ∈ s.journal) :
    (jobDiscipline env accepts allows).Safe r (Finishes (Hands env) Fails)
      (abandonClaim env event existing code) s := by
  unfold abandonClaim
  refine safe_bind hs (P := fun _ t => .stored existing ∈ t.journal) (F := Fails) ?_
    (fun _ t ht hstored => ?_) fun _ _ => trivial
  · refine safe_operation (fun _ _ => trivial) fun t i b u hst ht _ hx => ?_
    cases hx
    have hstep : JobStep env accepts allows t
        { t with markers := t.markers.remove event.digest } := .quiet rfl rfl
    refine ⟨ht.step hstep fun other marker hget hstate => ?_, hstep, hst.stored hstored, trivial⟩
    by_cases hother : other = event.digest
    · subst hother
      rw [LookupMap.get_remove_self] at hget
      cases hget
    · rw [LookupMap.get_remove_of_ne _ hother] at hget
      exact ht.verified other marker hget hstate
  · refine safe_bind ht (safe_persistReconcile ht) (fun _ u hu htu => ?_) fun _ _ => trivial
    split
    · refine safe_bind hu (safe_terminateStreamJob hu (htu.stored hstored) ?_ ?_)
        (fun _ _ _ _ => ?_) fun _ _ => trivial
      · split <;> rfl
      · split <;> decide
      · exact safe_done fun record hr => (nomatch hr)
    · exact safe_raise

theorem safe_finishEvent {record : JobRecord} {seen : Bool} (hs : JobSound s)
    (held : Held env s record) :
    (jobDiscipline env accepts allows).Safe r (Finishes (fun _ _ => True) Fails)
      (finishEvent env record seen) s := by
  unfold finishEvent
  split
  · refine safe_bind hs (safe_updateAdmission hs) (fun _ t ht _ => ?_) fun _ _ => trivial
    refine safe_bind ht safe_schedule (fun _ _ _ _ => ?_) fun _ _ => trivial
    exact safe_done trivial
  · split
    · exact safe_raise
    · exact safe_advanceFinalization hs held

theorem safe_verifyEvent {event : ProviderEvent} {existing : JobRecord} (hs : JobSound s)
    (held : Held env s existing) :
    (jobDiscipline env accepts allows).Safe r (Finishes (fun _ _ => True) Fails)
      (verifyEvent env event existing) s := by
  unfold verifyEvent
  refine safe_bind hs safe_claimMarker (fun seen t ht hkeeps => ?_) fun _ _ => trivial
  have held := hkeeps existing held
  cases seen with
  | true =>
    refine safe_bind ht (safe_readJob held.stored) (fun record u hu heldu => ?_) fun _ _ => trivial
    split
    · exact safe_done trivial
    · exact safe_finishEvent hu heldu
  | false =>
    refine safe_bind ht (P := Hands env) (F := Fails) ?_ (fun result u hu hhands => ?_)
      fun _ _ => trivial
    · refine Discipline.Safe.rescue ((safe_verifyClaimed ht held).trail
        (A := fun s t => .stored existing ∈ s.journal → .stored existing ∈ t.journal)
        (fun _ => id) (fun _ _ _ h h' hs => h' (h hs)) (fun _ _ h => Later.stored h)
        fun _ _ h hs => JobStep.stored h hs) ht (fun _ _ _ h => h.1) fun code u hu h => ?_
      exact safe_abandonClaim hu (h.2 held.stored)
    · cases result with
      | inl outcome => exact safe_done trivial
      | inr record => exact safe_finishEvent hu (hhands record rfl)

/-! ## Provider events -/

theorem safe_handleProgress {event : ProviderEvent} {existing : JobRecord} (hs : JobSound s)
    (held : Held env s existing) (hasset : existing.assetId.isSome) :
    (jobDiscipline env accepts allows).Safe r (Finishes (fun _ _ => True) Fails)
      (handleProgress env event existing) s := by
  have hwf := hs.wellFormed _ held.stored
  have hlate := hwf.late (.inl hasset)
  unfold handleProgress
  split
  · refine safe_bind hs safe_schedule (fun _ _ _ _ => ?_) fun _ _ => trivial
    exact safe_done trivial
  split
  · refine safe_bind hs (safe_endJob hs held rfl (by decide)) (fun _ _ _ _ => ?_) fun _ _ => trivial
    exact safe_done trivial
  refine safe_bind hs safe_dateNow (fun nowMs t ht hst => ?_) fun _ _ => trivial
  have held := held.later hst
  have htracked := existing.trackStreamProgress_agrees event.streamProgress nowMs
  dsimp only
  split
  · refine safe_bind ht (safe_transitionJob ht) ?_ fun _ _ => trivial
    rintro next u hu ⟨htu, nowMs', hnext⟩
    refine safe_bind hu (safe_writeTransition (held.later htu) hnext htracked (.refl _) rfl
      (by decide) (by decide)) (fun _ _ _ _ => ?_) fun _ _ => trivial
    exact safe_done trivial
  · split
    · refine safe_bind ht (safe_writeJob held (.of_agrees htracked hlate)
        (hwf.of_agrees htracked hlate)) (fun _ _ _ _ => ?_) fun _ _ => trivial
      exact safe_done trivial
    · exact safe_done trivial

theorem safe_handleLiveEvent {event : ProviderEvent} {existing : JobRecord} (hs : JobSound s)
    (held : Held env s existing) (hasset : existing.assetId.isSome) :
    (jobDiscipline env accepts allows).Safe r (Finishes (fun _ _ => True) Fails)
      (handleLiveEvent env event existing) s := by
  unfold handleLiveEvent
  refine safe_bind hs safe_dateNow (fun nowMs t ht hst => ?_) fun _ _ => trivial
  have held := held.later hst
  split
  · exact safe_expireJob ht held
  split
  · exact safe_done trivial
  split
  · refine safe_bind ht (safe_updateAdmission ht) (fun _ u hu _ => ?_) fun _ _ => trivial
    refine safe_bind hu safe_schedule (fun _ _ _ _ => ?_) fun _ _ => trivial
    exact safe_done trivial
  split
  · exact safe_handleProgress ht held hasset
  split
  · exact safe_settleLegacyProfileJob ht held
  split
  · exact safe_done trivial
  · exact safe_verifyEvent ht held

theorem safe_handleProviderEvent {event : Option ProviderEvent} {existing : Option JobRecord}
    (hs : JobSound s) (held : ∀ record ∈ existing, Held env s record) :
    (jobDiscipline env accepts allows).Safe r (Finishes (fun _ _ => True) Fails)
      (handleProviderEvent env event existing) s := by
  unfold handleProviderEvent
  split
  · next event existing =>
      have held := held existing rfl
      split
      · exact safe_done trivial
      · next hmatch =>
          have hasset : existing.assetId.isSome := by
            rw [Option.isSome_iff_ne_none]
            intro hnone
            refine hmatch (.inl ?_)
            rw [hnone]
            exact nofun
          refine safe_bind hs (safe_expireLegacyProfileJob hs held) (fun outcome t ht hkeeps => ?_)
            fun _ _ => trivial
          cases outcome with
          | some outcome => exact safe_done trivial
          | none => exact safe_handleLiveEvent ht (hkeeps rfl) hasset
  · exact safe_done trivial

end Safe

end Youtick.Bridge.Job
