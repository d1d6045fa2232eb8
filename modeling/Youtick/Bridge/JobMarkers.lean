import Youtick.Lib.Obligations
import Youtick.Bridge.JobStates

/-!
# Bridge: webhook markers

A readiness event stores a marker under its digest before the job is verified; a delivery that finds
the marker verifies nothing. The request that stored a marker owes its end: the marker is settled
with the verified job, or deleted. As long as no debt is abandoned, a marker that is not settled
belongs to a request in flight.
-/

set_option autoImplicit false

namespace Youtick.Bridge

open Youtick.Lib

/-! ## Debts -/

/-- The operation ends the marker of `digest`. -/
def Settles (digest : String) : (β : Type) → JobOp β → Prop
  | _, .settleMarker other => other = digest
  | _, .deleteMarker other => other = digest
  | _, _ => False

/-- The answer says that the marker of `digest` is stored now. -/
def Incurs (digest : String) : (β : Type) → JobOp β → β → Prop
  | _, .claimMarker other, seen => other = digest ∧ seen = false
  | _, _, _ => False

/-- The marker of `digest` is stored and not settled. -/
def Unsettled (digest : String) (s : JobObject) : Prop :=
  ∃ marker, s.markers.get digest = some marker ∧ marker.state = .processing

section Debts

variable {env : JobEnv} {digest : String}

/-- A marker that is not settled was just claimed, or was there before and not settled now. -/
theorem job_tracks (env : JobEnv) (digest : String) :
    (jobSystem env).Tracks (Settles digest) (Incurs digest) (Unsettled digest) where
  exec := by
    rintro β op i s t b h ⟨marker, hget, hstate⟩
    have hbefore : s.markers.get digest = some marker → Unsettled digest s :=
      fun hget => ⟨marker, hget, hstate⟩
    by_cases hdirect : op.Direct
    · cases op
      case createUpload record =>
        cases h
        exact .inr ⟨hbefore hget, id⟩
      case put read written =>
        cases h
        exact .inr ⟨hbefore hget, id⟩
      case claimMarker other =>
        simp only [jobSystem, JobOp.exec, JobObject.claimMarker, Option.some.injEq] at h
        split at h
        · cases h
          exact .inr ⟨hbefore hget, id⟩
        · cases h
          by_cases hother : digest = other
          · exact .inl ⟨hother.symm, rfl⟩
          · rw [LookupMap.get_insert_of_ne _ _ hother] at hget
            exact .inr ⟨hbefore hget, id⟩
      case settleMarker other =>
        cases h
        by_cases hother : digest = other
        · subst hother
          rw [LookupMap.get_insert_self] at hget
          cases hget
          cases hstate
        · rw [LookupMap.get_insert_of_ne _ _ hother] at hget
          exact .inr ⟨hbefore hget, fun hsettles => hother hsettles.symm⟩
      case deleteMarker other =>
        cases h
        by_cases hother : digest = other
        · subst hother
          rw [LookupMap.get_remove_self] at hget
          cases hget
        · rw [LookupMap.get_remove_of_ne _ hother] at hget
          exact .inr ⟨hbefore hget, fun hsettles => hother hsettles.symm⟩
      case purgeMarkers =>
        cases h
        exact .inr ⟨hbefore (get_purgeExpired hget), id⟩
      all_goals exact hdirect.elim
    · rw [(exec_touches h hdirect).1] at hget
      refine .inr ⟨hbefore hget, fun hsettles => ?_⟩
      cases op <;> first | exact hsettles | exact hdirect trivial
  world := fun e => by cases e

/-- A program that owes the marker of every claim of its own. -/
def Honest (digest : String) {τ : Type} (p : JobHandler τ) : Prop :=
  p.Honours (Settles digest) (Incurs digest)

theorem closed_honest : Closed (Honest digest) where
  plain := by
    intro τ p hp
    refine Handler.honours_of_uses (hp.mono fun op hop b hb => ?_)
    cases op <;> first | exact hb | exact hop
  bind := fun hp hf => hp.bind hf
  rescue := fun hp hh => hp.rescue hh

/-- Whatever a verification comes to, its marker is settled or deleted. -/
theorem owes_verification (event : ProviderEvent) (existing : JobRecord) :
    ((verifyClaimed env event existing).rescue (abandonClaim env event existing)).Owes
      (Settles event.digest) := by
  have habandon : ∀ code, (abandonClaim env event existing code).Owes (Settles event.digest) :=
    fun code => Handler.owes_perform rfl
  unfold verifyClaimed
  refine Handler.owes_rescue_bind (fun answer => ?_) habandon
  split
  · exact Handler.Owes.rescue (Handler.owes_perform rfl)
  · refine Handler.owes_rescue_bind (fun verified => ?_) habandon
    refine Handler.owes_rescue_bind (fun _ => ?_) habandon
    refine Handler.owes_rescue_bind (fun _ => ?_) habandon
    refine Handler.owes_rescue_bind (fun _ => ?_) habandon
    exact Handler.Owes.rescue (Handler.owes_perform rfl)

theorem honest_verifyEvent (event : ProviderEvent) (existing : JobRecord) :
    Honest digest (verifyEvent env event existing) := by
  unfold verifyEvent
  refine ⟨fun seen hseen => ?_, fun seen => ?_, trivial⟩
  · obtain ⟨hdigest, rfl⟩ := hseen
    exact hdigest ▸ (owes_verification event existing).bind
  · change Honest digest (if seen = true then _ else _ : JobHandler EventOutcome)
    split
    · refine closed_honest.plain (.bind plain_readJob fun record => ?_)
      split
      · exact plain_done
      · exact plain_finishEvent
    · refine closed_honest.plain (.bind (.rescue plain_verifyClaimed fun _ => plain_abandonClaim)
        fun ended => ?_)
      split
      · exact plain_done
      · exact plain_finishEvent

theorem honest_createUpload (leased : JobRecord) : Honest digest (createUpload env leased) := by
  have hask : ∀ pending, Honest digest
      (ask (.createUpload pending) >>= fun created => .done (.ok created) :
        JobHandler (Result CreatedUpload)) := by
    intro pending
    refine closed_honest.bind ?_ fun _ => trivial
    refine ⟨fun _ hb => hb.elim, fun answer => ?_, trivial⟩
    cases answer <;> trivial
  unfold createUpload
  refine closed_honest.bind (closed_honest.plain plain_dateNow) fun nowMs => ?_
  refine closed_honest.bind (closed_honest.plain plain_transitionJob) fun pending => ?_
  refine closed_honest.bind (closed_honest.plain plain_writeJob) fun _ => ?_
  refine closed_honest.bind (closed_honest.rescue (hask _) fun _ => trivial) fun created => ?_
  split
  · exact closed_honest.plain plain_failCreate
  · exact closed_honest.plain plain_openUpload

end Debts

/-! ## Verified jobs -/

/-- Nothing was verified yet. -/
def JobState.isUnverified (state : JobState) : Bool :=
  state.isEarly || state == .createPending || state.isActive

theorem JobState.Follows.unverified {a b : JobState} (h : a.Follows b)
    (hb : b.isUnverified = true) : a.isUnverified = true := by
  revert h hb
  cases a <;> cases b <;> decide

/-- A write of a record that is not verified finds a job that is not, unless requests wait for each
other. -/
def UnverifiedWrite (env : JobEnv) (_ written : JobRecord) (s : JobObject) : Prop :=
  env.serialized = true ∨ (written.state.isUnverified = true →
    ∃ current ∈ s.job, current.state.isUnverified = true)

/-- Once a job was verified, it is never again stored as one that is not. -/
def VerifiedLasts (s : JobObject) : Prop :=
  ∀ record, .stored record ∈ s.journal → record.state = .readyVerified →
    ∀ current ∈ s.job, current.state.isUnverified = false

section Verified

variable {env : JobEnv} {accepts : JobRecord → VerifiedAsset → Prop} {s t : JobObject}

theorem verifiedLasts_empty : VerifiedLasts .empty := fun _ hr => absurd hr List.not_mem_nil

/-- A record stored over a job that was verified, if that one is not taken back. -/
theorem VerifiedLasts.store (h : VerifiedLasts s) {written : JobRecord}
    (hkept : written.state.isUnverified = true →
      (∃ current ∈ s.job, current.state.isUnverified = true) ∨
        ∀ record, .stored record ∉ s.journal)
    (hjob : t.job = some written) (hjournal : t.journal = s.journal ++ [.stored written]) :
    VerifiedLasts t := by
  intro record hr hverified current hcurrent
  rw [hjob] at hcurrent
  cases hcurrent
  by_contra hopen
  rw [Bool.not_eq_false] at hopen
  rw [hjournal, List.mem_append, List.mem_singleton] at hr
  rcases hr with hr | hr
  · rcases hkept hopen with ⟨current, hcurrent, hunverified⟩ | hnone
    · rw [h record hr hverified current hcurrent] at hunverified
      cases hunverified
    · exact hnone record hr
  · cases hr
    rw [hverified] at hopen
    cases hopen

theorem VerifiedLasts.step (h : VerifiedLasts s) (hs : JobSound s)
    (hst : JobStep env accepts (UnverifiedWrite env) s t) : VerifiedLasts t := by
  cases hst with
  | quiet job journal =>
    unfold VerifiedLasts
    rw [job, journal]
    exact h
  | asked identity job journal =>
    intro record hr
    rw [journal, List.mem_append, List.mem_singleton] at hr
    rw [job]
    rcases hr with hr | hr
    · exact h record hr
    · cases hr
  | created record absent state wellFormed job journal =>
    exact h.store (fun _ => .inr (hs.absent absent)) job journal
  | wrote read written held made allowed wellFormed job journal =>
    refine h.store (fun hunverified => .inl ?_) job journal
    rcases allowed with hserialized | hallowed
    · obtain ⟨current, hcurrent, hagrees⟩ := held.fresh hserialized
      exact ⟨current, hcurrent, hagrees.state ▸ made.follows.unverified hunverified⟩
    · exact hallowed hunverified
  | updated current written get identity publication state wellFormed job journal =>
    refine h.store (fun hunverified => .inl ⟨current, get, ?_⟩) job journal
    rcases state with ⟨hsame, -⟩ | ⟨-, hcancelled⟩
    · exact hsame ▸ hunverified
    · rw [hcancelled] at hunverified
      cases hunverified

end Verified

/-! ## Every run -/

/-- A delivery that comes to its marker while the job is active and no request in flight is
verifying it finds no marker: it stores one, and verifies. -/
def Restarts (digest : String)
    (c : Config JobObject JobOp String JobAnswer JobRequest) : Prop :=
  ∀ (r : JobRequest) (next : Bool → JobHandler JobAnswer) (onError : JobHandler JobAnswer),
    (r, .act (.claimMarker digest) next onError) ∈ c.pool →
    (∀ p ∈ c.pool, ¬ p.2.Owes (Settles digest)) →
    (∃ current ∈ c.shared.job, current.state.isActive = true) →
    ∀ nowMs, (c.shared.claimMarker digest nowMs).1 = false

section Runs

variable (env : JobEnv) (digest : String)
  (tr : List (Transition (Config JobObject JobOp String JobAnswer JobRequest)
    (Event JobInput JobRequest Empty)))

/-- No verified job is taken back in the run. -/
def UnverifiedWrites : Prop :=
  ∀ x ∈ tr, ∀ (r : JobRequest) (read written : JobRecord) (i : JobInput),
    x.pre.Executes x.label r (.put read written) i → UnverifiedWrite env read written x.pre.shared

/-- No request of the run is cut off while it owes the marker, fails to delete it for good, or loses
the answer that it stored it. -/
def MarkersKept : Prop :=
  ∀ x ∈ tr, ¬ (jobSystem env).Abandons (Settles digest) (Incurs digest) x.pre x.label

variable {env digest tr}

end Runs

/-! ### A crash during the verification -/

/-- An upload is created. -/
def createdRun : List (Event JobInput JobRequest Empty) :=
  .start (.intent uploadIntent) :: List.replicate 17 (.run 0 uploadInput) ++ [.stop 0]

/-- The object stops while the provider is asked; the event comes again, as far as its marker. -/
def crashedRun : List (Event JobInput JobRequest Empty) :=
  createdRun ++ deliver "a" "5" 4 ++ (deliver "a" "5" 2).dropLast

/-- The redelivery that comes to its marker. -/
def redelivery (existing : JobRecord) : JobHandler JobAnswer :=
  verifyEvent (uploadEnv true) (readyEvent "a") existing >>= fun outcome => .done (.event outcome)

theorem crashedRun_redelivery :
    (execTrace (jobSystem (uploadEnv true)).next ⟨.empty, []⟩ crashedRun).map
        (fun r => (r.2.pool.map (·.2), r.2.shared.job.map JobRecord.state,
          r.2.shared.markers.get "a"))
      = (execTrace (jobSystem (uploadEnv true)).next ⟨.empty, []⟩ crashedRun).map
        (fun r => (r.2.shared.job.toList.map redelivery, some .uploadReady,
          some ⟨.processing, 1⟩)) := by
  rfl

theorem crashedRun_isSome :
    (execTrace (jobSystem (uploadEnv true)).next ⟨.empty, []⟩ crashedRun).isSome = true := by
  rfl

/-- The first delivery of the event, as far as its marker. -/
def firstRun : List (Event JobInput JobRequest Empty) :=
  createdRun ++ (deliver "a" "5" 2).dropLast

theorem firstRun_undisturbed :
    (execTrace (jobSystem (uploadEnv true)).next ⟨.empty, []⟩ firstRun).map
        (fun r => (r.2.pool.map (·.2), r.1.all fun x => System.Undisturbed x.pre x.label))
      = (execTrace (jobSystem (uploadEnv true)).next ⟨.empty, []⟩ firstRun).map
        (fun r => (r.2.shared.job.toList.map redelivery, true)) := by
  rfl

theorem firstRun_isSome :
    (execTrace (jobSystem (uploadEnv true)).next ⟨.empty, []⟩ firstRun).isSome = true := by
  rfl

end Youtick.Bridge
