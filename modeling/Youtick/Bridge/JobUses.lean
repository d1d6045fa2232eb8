import Youtick.Lib.Obligations
import Youtick.Bridge.JobRequests

/-!
# Bridge: which operations a request uses

Only an upload intent asks the provider for an upload, once, after it marked the record; and only a
readiness event stores the marker of a webhook. Every other part of a program is `Plain`.
-/

set_option autoImplicit false

namespace Youtick.Bridge

open Youtick.Lib

/-- The operation neither asks for an upload nor begins a webhook. -/
def JobOp.Plain : {β : Type} → JobOp β → Prop
  | _, .createUpload _ => False
  | _, .claimMarker _ => False
  | _, _ => True

/-- A program of plain operations. -/
def Plain {τ : Type} (p : JobHandler τ) : Prop := p.Uses fun op => op.Plain

section Uses

variable {τ υ : Type} {env : JobEnv}

theorem Plain.bind {p : JobHandler υ} {f : υ → JobHandler τ} (hp : Plain p)
    (hf : ∀ a, Plain (f a)) : Plain (p >>= f) := Handler.Uses.bind hp hf

theorem Plain.rescue {p : JobHandler τ} {handle : String → JobHandler τ} (hp : Plain p)
    (hh : ∀ code, Plain (handle code)) : Plain (p.rescue handle) := Handler.Uses.rescue hp hh

theorem plain_done {a : τ} : Plain (.done a) := trivial

theorem plain_raise {code : String} : Plain (.raise code : JobHandler τ) := trivial

theorem plain_perform {op : JobOp τ} {code : String} (h : op.Plain) :
    Plain (Handler.perform code op) := Handler.Uses.perform h

/-! ## Steps -/

theorem plain_ask {op : JobOp (Result τ)} (h : op.Plain) : Plain (ask op) := by
  unfold ask
  refine .bind (plain_perform h) fun result => ?_
  cases result
  · exact plain_raise
  · exact plain_done

theorem plain_dateNow : Plain dateNow := plain_perform trivial

theorem plain_schedule : Plain schedule := plain_perform trivial

theorem plain_writeJob {read written : JobRecord} : Plain (writeJob read written) :=
  plain_perform trivial

theorem plain_readJob {job : JobRecord} : Plain (readJob job) :=
  .bind (plain_perform trivial) fun _ => plain_done

theorem plain_persistReconcile : Plain persistReconcile :=
  .bind (plain_perform trivial) fun _ => plain_schedule

theorem plain_updateAdmission {record : JobRecord} {mark : AdmissionMark} :
    Plain (updateAdmission record mark) := plain_ask trivial

theorem plain_transitionJob {record : JobRecord} {state : JobState} :
    Plain (transitionJob record state) := by
  unfold transitionJob
  refine .bind plain_dateNow fun nowMs => ?_
  split
  · exact plain_done
  · exact plain_raise

/-! ## Ends of a job -/

theorem plain_scheduleTerminalArchive {job : JobRecord} :
    Plain (scheduleTerminalArchive env job) := by
  unfold scheduleTerminalArchive
  refine .bind plain_persistReconcile fun _ => ?_
  split
  · exact plain_schedule
  · exact plain_done

theorem plain_deleteStreamUpload {job : JobRecord} : Plain (deleteStreamUpload env job) := by
  unfold deleteStreamUpload
  split
  · exact plain_done
  split
  · exact plain_done
  refine .bind (.rescue (plain_ask trivial) fun _ => plain_done) fun outcome => ?_
  refine .bind plain_dateNow fun nowMs => .bind plain_writeJob fun _ => ?_
  split
  · exact .bind (plain_perform trivial) fun _ => plain_done
  · exact plain_done

theorem plain_terminateStreamJob {job : JobRecord} {toState : JobState} :
    Plain (terminateStreamJob env job toState) := by
  unfold terminateStreamJob
  refine .bind plain_readJob fun current => .bind ?_ fun ended => ?_
  · split
    · exact plain_done
    · exact .bind plain_transitionJob fun _ => .bind plain_writeJob fun _ => plain_done
  · refine .bind plain_deleteStreamUpload fun record => ?_
    refine .bind plain_scheduleTerminalArchive fun _ => ?_
    exact .bind plain_updateAdmission fun _ => plain_done

theorem plain_endJob {job : JobRecord} {toState : JobState} : Plain (endJob env job toState) := by
  unfold endJob
  split
  · exact .bind plain_terminateStreamJob fun _ => plain_done
  · refine .bind plain_transitionJob fun ended => .bind plain_writeJob fun _ => ?_
    exact .bind plain_scheduleTerminalArchive fun _ => plain_updateAdmission

theorem plain_expireJob {job : JobRecord} : Plain (expireJob env job) :=
  .bind plain_endJob fun _ => plain_done

theorem plain_expireLegacyProfileJob {job : JobRecord} :
    Plain (expireLegacyProfileJob env job) := by
  unfold expireLegacyProfileJob
  split
  · exact .bind plain_expireJob fun _ => plain_done
  · exact plain_done

/-! ## Finalization -/

theorem plain_adoptFinalization {job : JobRecord} {state : JobState} :
    Plain (adoptFinalization job state) := by
  unfold adoptFinalization
  refine .bind plain_transitionJob fun record => .bind plain_writeJob fun _ => ?_
  exact .bind plain_updateAdmission fun _ => plain_schedule

theorem plain_settleLegacyProfileJob {job : JobRecord} : Plain (settleLegacyProfileJob env job) := by
  unfold settleLegacyProfileJob
  refine .bind ?_ fun published => ?_
  · split
    · exact plain_done
    · refine .rescue (.bind (plain_ask trivial) fun _ => plain_done) fun code => ?_
      split
      · exact .bind plain_schedule fun _ => plain_done
      · exact plain_done
  · split
    · exact plain_done
    · exact plain_expireJob
    · exact .bind plain_adoptFinalization fun _ => plain_done

theorem plain_advanceFinalization {job : JobRecord} {publication : FinalizePublication} :
    Plain (advanceFinalization env job publication) := by
  unfold advanceFinalization
  refine .bind plain_dateNow fun nowMs => ?_
  split
  · exact plain_expireJob
  split
  · exact plain_settleLegacyProfileJob
  split
  · exact plain_done
  refine .bind (plain_ask trivial) fun reply => ?_
  split
  · exact .bind plain_adoptFinalization fun _ => plain_done
  · refine .bind plain_dateNow fun nowMs => .bind plain_transitionJob fun retry => ?_
    exact .bind plain_writeJob fun _ => .bind plain_schedule fun _ => plain_done

/-! ## Verification -/

theorem plain_probeAsset {job : JobRecord} {mode : VerificationMode} :
    Plain (probeAsset job mode) := by
  unfold probeAsset
  refine .bind (plain_ask trivial) fun verification => .bind (plain_ask trivial) fun _ => ?_
  split
  · exact .bind plain_schedule fun _ => plain_done
  · exact plain_done

theorem plain_verifyReadyProviderAsset {job : JobRecord} {mode : VerificationMode} :
    Plain (verifyReadyProviderAsset env job mode) := by
  unfold verifyReadyProviderAsset
  split
  · exact plain_raise
  refine .bind plain_dateNow fun nowMs => ?_
  split
  · exact plain_raise
  refine .rescue plain_probeAsset fun code => ?_
  split
  · exact plain_raise
  · exact .bind (plain_perform trivial) fun _ => plain_raise

theorem plain_verifyClaimed {event : ProviderEvent} {existing : JobRecord} :
    Plain (verifyClaimed env event existing) := by
  unfold verifyClaimed
  refine .bind plain_verifyReadyProviderAsset fun answer => ?_
  split
  · exact .bind (plain_perform trivial) fun _ => plain_done
  · refine .bind plain_transitionJob fun verified => .bind plain_writeJob fun _ => ?_
    refine .bind plain_persistReconcile fun _ => .bind plain_updateAdmission fun _ => ?_
    exact .bind (plain_perform trivial) fun _ => plain_done

theorem plain_abandonClaim {event : ProviderEvent} {existing : JobRecord} {code : String} :
    Plain (abandonClaim env event existing code) := by
  unfold abandonClaim
  refine .bind (plain_perform trivial) fun _ => .bind plain_persistReconcile fun _ => ?_
  split
  · exact .bind plain_terminateStreamJob fun _ => plain_done
  · exact plain_raise

theorem plain_finishEvent {record : JobRecord} {seen : Bool} :
    Plain (finishEvent env record seen) := by
  unfold finishEvent
  split
  · exact .bind plain_updateAdmission fun _ => .bind plain_schedule fun _ => plain_done
  · split
    · exact plain_raise
    · exact plain_advanceFinalization

theorem plain_handleProgress {event : ProviderEvent} {existing : JobRecord} :
    Plain (handleProgress env event existing) := by
  unfold handleProgress
  split
  · exact .bind plain_schedule fun _ => plain_done
  split
  · exact .bind plain_endJob fun _ => plain_done
  refine .bind plain_dateNow fun nowMs => ?_
  dsimp only
  split
  · exact .bind plain_transitionJob fun _ => .bind plain_writeJob fun _ => plain_done
  split
  · exact .bind plain_writeJob fun _ => plain_done
  · exact plain_done

theorem plain_confirmStuck {tracked : JobRecord} {assetId : String} {video : StreamVideo} :
    Plain (confirmStuck env tracked assetId video) := by
  unfold confirmStuck
  refine .bind (.rescue (.bind (plain_ask trivial) fun _ => plain_done) fun _ => plain_done)
    fun confirm => ?_
  split
  · exact plain_schedule
  split
  · exact .bind plain_terminateStreamJob fun _ => plain_done
  refine .bind plain_dateNow fun nowMs => ?_
  dsimp only
  split
  · exact .bind plain_writeJob fun _ => plain_schedule
  · exact plain_schedule

theorem plain_trackVideo {record : JobRecord} {assetId : String} {video : StreamVideo}
    {nowMs : Nat} : Plain (trackVideo env record assetId video nowMs) := by
  have hwrite : ∀ tracked : JobRecord, Plain
      (if tracked ≠ record then writeJob record tracked else .done () : JobHandler Unit) := by
    intro tracked
    split
    · exact plain_writeJob
    · exact plain_done
  unfold trackVideo
  dsimp only
  split
  · split
    · refine .bind plain_transitionJob fun _ => .bind plain_writeJob fun _ => plain_schedule
    · refine .bind (hwrite _) fun _ => ?_
      split
      · exact plain_confirmStuck
      · exact plain_schedule
  · refine .bind (hwrite _) fun _ => ?_
    split
    · exact .bind plain_terminateStreamJob fun _ => plain_done
    · exact plain_schedule

/-! ## Upload intents -/

theorem plain_renewLease {record : JobRecord} : Plain (renewLease record) := by
  unfold renewLease
  refine .bind plain_dateNow fun nowMs => ?_
  split
  · exact .bind (plain_ask trivial) fun _ => .bind plain_writeJob fun _ => plain_done
  · exact plain_done

theorem plain_leaseJob {record : JobRecord} : Plain (leaseJob record) := by
  unfold leaseJob
  split
  · refine .bind ?_ fun _ => .bind (plain_ask trivial) fun lease => ?_
    · split
      · exact plain_ask trivial
      · exact plain_done
    · refine .bind plain_transitionJob fun leased => .bind plain_writeJob fun _ => plain_done
  · exact plain_renewLease

theorem plain_failCreate {pending : JobRecord} {error : String} :
    Plain (failCreate pending error) := by
  unfold failCreate
  refine .bind plain_transitionJob fun ambiguous => .bind plain_dateNow fun nowMs => ?_
  refine .bind plain_writeJob fun _ => .bind plain_updateAdmission fun _ => ?_
  split
  · exact .bind plain_updateAdmission fun _ => plain_raise
  · exact plain_raise

theorem plain_openUpload {pending : JobRecord} {created : CreatedUpload} :
    Plain (openUpload env pending created) := by
  unfold openUpload
  refine .bind plain_transitionJob fun opened => .bind plain_dateNow fun nowMs => ?_
  dsimp only
  split
  · split
    · exact .bind plain_writeJob fun _ => .bind plain_terminateStreamJob fun _ => plain_raise
    · refine .bind plain_transitionJob fun expired => .bind plain_writeJob fun _ => ?_
      exact .bind plain_updateAdmission fun _ => plain_raise
  · refine .bind plain_writeJob fun _ => .bind plain_updateAdmission fun _ => ?_
    exact .bind plain_schedule fun _ => plain_done

/-! ## Heartbeats, cancellations and alarms -/

theorem plain_heartbeatUploadLease {heartbeat : UploadHeartbeat} :
    Plain (heartbeatUploadLease env heartbeat) := by
  unfold heartbeatUploadLease
  refine .bind (plain_ask trivial) fun _ => .bind (plain_ask trivial) fun record => ?_
  refine .bind plain_schedule fun _ => .bind (.rescue (plain_ask trivial) fun code => ?_)
    fun lease => ?_
  · split
    · exact .bind plain_endJob fun _ => plain_raise
    · exact plain_raise
  · exact .bind plain_transitionJob fun _ => .bind plain_writeJob fun _ => plain_done

theorem plain_cancelUpload {cancellation : UploadCancellation} :
    Plain (cancelUpload env cancellation) := by
  unfold cancelUpload
  refine .bind (plain_ask trivial) fun _ => .bind (plain_ask trivial) fun opened => ?_
  refine .bind plain_schedule fun _ => .bind plain_scheduleTerminalArchive fun _ => ?_
  split
  · exact .bind plain_updateAdmission fun _ => plain_done
  · exact plain_done

theorem plain_advanceTerminalArchive {job : JobRecord} {archive : RecordArchive} :
    Plain (advanceTerminalArchive env job archive) := by
  unfold advanceTerminalArchive
  refine .rescue (.bind ?_ fun _ => .bind (plain_ask trivial) fun _ => ?_) fun code => ?_
  · split
    · exact plain_raise
    · exact plain_done
  · exact .bind plain_dateNow fun _ => plain_writeJob
  · exact .bind plain_dateNow fun _ => .bind plain_writeJob fun _ => plain_schedule

theorem plain_reconcilePublishedJob {job : JobRecord} : Plain (reconcilePublishedJob env job) := by
  unfold reconcilePublishedJob
  refine .bind (plain_ask trivial) fun _ =>
    .rescue (.bind plain_verifyReadyProviderAsset fun answer => ?_) fun _ => plain_persistReconcile
  split
  · exact plain_done
  split
  · exact .bind (plain_ask trivial) fun _ => plain_persistReconcile
  · exact plain_persistReconcile

/-! ## Requests -/

/-- A property of programs that holds of plain ones and is kept by sequencing and `try … catch`. -/
structure Closed (C : {τ : Type} → JobHandler τ → Prop) : Prop where
  plain : ∀ {τ : Type} {p : JobHandler τ}, Plain p → C p
  bind : ∀ {τ υ : Type} {p : JobHandler υ} {f : υ → JobHandler τ}, C p → (∀ a, C (f a)) →
    C (p >>= f)
  rescue : ∀ {τ : Type} {p : JobHandler τ} {handle : String → JobHandler τ}, C p →
    (∀ code, C (handle code)) → C (p.rescue handle)

variable {C : {τ : Type} → JobHandler τ → Prop} (hC : Closed C)

include hC

section Events

variable (hverify : ∀ event existing, C (verifyEvent env event existing))

include hverify

theorem Closed.handleProviderEvent (event : Option ProviderEvent) (existing : Option JobRecord) :
    C (handleProviderEvent env event existing) := by
  unfold Bridge.handleProviderEvent
  split
  · split
    · exact hC.plain plain_done
    refine hC.bind (hC.plain plain_expireLegacyProfileJob) fun outcome => ?_
    split
    · exact hC.plain plain_done
    unfold handleLiveEvent
    refine hC.bind (hC.plain plain_dateNow) fun nowMs => ?_
    split
    · exact hC.plain plain_expireJob
    split
    · exact hC.plain plain_done
    split
    · exact hC.plain (.bind plain_updateAdmission fun _ => .bind plain_schedule fun _ => plain_done)
    split
    · exact hC.plain plain_handleProgress
    split
    · exact hC.plain plain_settleLegacyProfileJob
    split
    · exact hC.plain plain_done
    · exact hverify _ _
  · exact hC.plain plain_done

theorem Closed.reconcileUpload (record : JobRecord) : C (reconcileUpload env record) := by
  have hterminate : ∀ (job : JobRecord) (toState : JobState),
      C (terminateStreamJob env job toState >>= fun _ => .done () : JobHandler Unit) :=
    fun job toState => hC.plain (.bind plain_terminateStreamJob fun _ => plain_done)
  unfold Bridge.reconcileUpload
  split
  · unfold pollStreamUpload
    split
    · exact hC.plain plain_done
    split
    · exact hC.plain plain_done
    refine hC.bind (hC.plain plain_dateNow) fun nowMs => ?_
    split
    · exact hterminate _ _
    refine hC.bind (hC.plain (.rescue (.bind (plain_ask trivial) fun _ => plain_done)
      fun _ => plain_done)) fun video => ?_
    split
    · split
      · exact hterminate _ _
      · exact hC.plain plain_schedule
    split
    · exact hterminate _ _
    split
    · exact hterminate _ _
    split
    · refine hC.bind (Closed.handleProviderEvent hC hverify _ _) fun _ => ?_
      refine hC.plain (.bind (plain_perform trivial) fun after => ?_)
      split
      · exact plain_schedule
      · exact plain_done
    · exact hC.plain plain_trackVideo
  split
  · split
    · exact hC.plain plain_done
    refine hC.bind (hC.plain plain_dateNow) fun nowMs => ?_
    split
    · refine hC.plain (.bind plain_transitionJob fun _ => .bind plain_writeJob fun _ => ?_)
      exact .bind plain_persistReconcile fun _ => plain_updateAdmission
    refine hC.bind (hC.plain (plain_perform trivial)) fun previous => ?_
    split
    · exact hC.plain plain_schedule
    refine hC.bind (hC.plain plain_persistReconcile) fun _ => hC.rescue ?_ fun code =>
      hC.plain (.bind plain_persistReconcile fun _ => plain_raise)
    unfold readStudioAsset
    refine hC.bind (hC.plain (plain_ask trivial)) fun asset => ?_
    split
    · exact hC.plain plain_raise
    split
    · exact hC.plain plain_raise
    refine hC.bind (hC.plain plain_dateNow) fun nowMs => ?_
    refine hC.bind (hC.plain (plain_perform trivial)) fun existing => ?_
    refine hC.bind (Closed.handleProviderEvent hC hverify _ _) fun outcome => ?_
    split
    · exact hC.plain plain_raise
    · exact hC.plain (.bind (plain_perform trivial) fun _ => plain_persistReconcile)
  · exact hC.plain plain_done

theorem Closed.alarm : C (advanceAlarm env) := by
  have hadvance : ∀ job : JobRecord, C (advanceJob env job) := by
    intro job
    unfold advanceJob
    split
    · exact hC.plain plain_schedule
    refine hC.bind (hC.plain plain_expireLegacyProfileJob) fun outcome => ?_
    split
    · exact hC.plain plain_done
    split
    · split
      · split
        · refine hC.bind (hC.plain plain_dateNow) fun nowMs => ?_
          refine hC.bind (hC.plain (plain_perform trivial)) fun existing => ?_
          exact hC.bind (Closed.handleProviderEvent hC hverify _ _) fun _ => hC.plain plain_done
        · exact Closed.reconcileUpload hC hverify _
      · exact Closed.reconcileUpload hC hverify _
    refine hC.plain (.bind plain_dateNow fun nowMs => ?_)
    split
    · exact plain_schedule
    split
    · exact .bind plain_advanceFinalization fun _ => plain_done
    split
    · exact plain_reconcilePublishedJob
    · exact plain_done
  unfold advanceAlarm
  refine hC.bind (hC.plain ?_) fun _ => ?_
  · split
    · exact plain_ask trivial
    · exact plain_done
  refine hC.bind (hC.plain (plain_perform trivial)) fun _ => ?_
  refine hC.bind (hC.plain (plain_perform trivial)) fun _ => ?_
  refine hC.bind (hC.plain (plain_perform trivial)) fun existing => ?_
  split
  · exact hC.plain plain_done
  split
  · exact hC.bind (hadvance _) fun _ => hC.plain plain_done
  split
  · exact hC.bind (hadvance _) fun _ => hC.plain plain_done
  refine hC.plain (.bind plain_dateNow fun nowMs => ?_)
  dsimp only
  split
  · exact .bind plain_schedule fun _ => plain_done
  · exact .bind plain_advanceTerminalArchive fun _ => plain_done

/-- A closed property of the two parts that are not plain is one of every request. -/
theorem Closed.request (hcreate : ∀ leased, C (createUpload env leased)) (r : JobRequest) :
    C (JobRequest.program env r) := by
  have hcontinue : ∀ record : JobRecord, C (continueUpload env record) := by
    intro record
    unfold continueUpload
    split
    · exact hC.plain (.bind plain_renewLease fun _ => plain_done)
    split
    · exact hC.plain plain_raise
    refine hC.bind (hC.plain plain_dateNow) fun nowMs => ?_
    split
    · exact hC.plain plain_raise
    split
    · exact hC.plain plain_raise
    exact hC.bind (hC.plain plain_leaseJob) fun leased => hcreate leased
  cases r with
  | intent intent =>
    change C (reserveUploadIntent env intent)
    unfold reserveUploadIntent
    refine hC.bind (hC.plain (plain_ask trivial)) fun _ => ?_
    refine hC.bind (hC.plain plain_dateNow) fun nowMs => ?_
    refine hC.bind (hC.plain (plain_ask trivial)) fun opened => ?_
    refine hC.bind (hC.plain plain_schedule) fun _ => ?_
    split
    · unfold reconcileIntent
      refine hC.bind (Closed.reconcileUpload hC hverify _) fun _ => ?_
      refine hC.plain (.bind plain_readJob fun record => ?_)
      split
      · exact .bind plain_persistReconcile fun _ => plain_done
      refine .bind (plain_perform trivial) fun view => ?_
      split
      · exact plain_done
      split
      · exact plain_raise
      · exact plain_done
    · unfold resumeIntent
      split
      · exact hC.plain plain_raise
      split
      · exact hC.plain plain_raise
      split
      · exact hC.plain plain_done
      split
      · exact hC.plain plain_raise
      split
      · exact hC.plain plain_raise
      refine hC.bind (hC.plain plain_dateNow) fun nowMs => ?_
      split
      · exact hC.plain (.bind plain_terminateStreamJob fun _ => plain_done)
      refine hC.bind (hC.plain (.rescue (plain_ask trivial) fun code => ?_)) fun length => ?_
      · split
        · exact plain_raise
        split
        · exact .bind plain_terminateStreamJob fun _ => plain_raise
        · exact plain_raise
      · split
        · exact hC.plain plain_raise
        · exact hcontinue _
    · exact hcontinue _
  | heartbeat heartbeat => exact hC.plain plain_heartbeatUploadLease
  | cancellation cancellation => exact hC.plain plain_cancelUpload
  | webhook delivery =>
    change C (handleLivepeerWebhook env delivery)
    unfold handleLivepeerWebhook
    refine hC.bind (hC.plain (plain_perform trivial)) fun existing => ?_
    dsimp only
    split
    · exact hC.plain plain_raise
    · exact hC.bind (Closed.handleProviderEvent hC hverify _ _) fun _ => hC.plain plain_done
  | alarm => exact Closed.alarm hC hverify

end Events

end Uses

end Youtick.Bridge
