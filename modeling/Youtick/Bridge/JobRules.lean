import Youtick.Bridge.JobSteps

/-!
# Bridge: rules for the job object

How the guarantee of `jobDiscipline` is shown for a program, operation by operation. A part of a
program ends with an answer or an error (`Finishes`); a copy of the record in hand is `Held` from the
read that gave it.
-/

set_option autoImplicit false

namespace Youtick.Bridge.Job

open Youtick.Lib

section Safe

variable {env : JobEnv} {accepts : JobRecord → VerifiedAsset → Prop}
  {allows : JobRecord → JobRecord → JobObject → Prop} {r : JobRequest} {τ υ : Type}
  {s : JobObject}

/-- Where a part ends: `P` with an answer, `E` with an error. -/
def Finishes (P : τ → JobObject → Prop) (E : JobObject → Prop) :
    Except String τ → JobObject → Prop
  | .ok a, t => P a t
  | .error _, t => E t

/-- Nothing is asked of a part that throws. -/
def Fails (_ : JobObject) : Prop := True

/-- The rule for one operation. -/
theorem safe_operation {β : Type} {op : JobOp β} {code : String} {P : β → JobObject → Prop}
    {E : JobObject → Prop} (hbefore : ∀ t, Later env s t → E t)
    (h : ∀ t i b u, Later env s t → JobSound t → op.Meets accepts allows t →
      JobOp.exec β op i t = some (b, u) →
        JobSound u ∧ JobStep env accepts allows t u ∧ P b u ∧ E u) :
    (jobDiscipline env accepts allows).Safe r (Finishes P E) (Handler.perform code op) s := by
  intro t hst ht
  refine ⟨hbefore t hst, fun i b u hm hx => ?_⟩
  obtain ⟨hu, hstep, hp, he⟩ := h t i b u hst ht hm hx
  exact ⟨hu, hstep, hp, he⟩

/-- The rule for two parts in a row. -/
theorem safe_bind {p : JobHandler υ} {f : υ → JobHandler τ} {P : υ → JobObject → Prop}
    {Q : τ → JobObject → Prop} {E F : JobObject → Prop} (hs : JobSound s)
    (hp : (jobDiscipline env accepts allows).Safe r (Finishes P F) p s)
    (hf : ∀ a t, JobSound t → P a t →
      (jobDiscipline env accepts allows).Safe r (Finishes Q E) (f a) t)
    (he : ∀ t, F t → E t) :
    (jobDiscipline env accepts allows).Safe r (Finishes Q E) (p >>= f) s :=
  Discipline.Safe.bind hp hs hf fun _ t _ herr => he t herr

/-- The rule for `try … catch`. -/
theorem safe_rescue {p : JobHandler τ} {handle : String → JobHandler τ} {P : τ → JobObject → Prop}
    {Q : τ → JobObject → Prop} {E F : JobObject → Prop} (hs : JobSound s)
    (hp : (jobDiscipline env accepts allows).Safe r (Finishes P F) p s)
    (hok : ∀ a t, P a t → Q a t)
    (herr : ∀ code t, JobSound t → F t →
      (jobDiscipline env accepts allows).Safe r (Finishes Q E) (handle code) t) :
    (jobDiscipline env accepts allows).Safe r (Finishes Q E) (p.rescue handle) s :=
  Discipline.Safe.rescue hp hs (fun a t _ => hok a t) herr

theorem safe_weaken {p : JobHandler τ} {P Q : τ → JobObject → Prop} {E E' : JobObject → Prop}
    (hp : (jobDiscipline env accepts allows).Safe r (Finishes P E) p s)
    (hok : ∀ a t, P a t → Q a t) (herr : ∀ t, E t → E' t) :
    (jobDiscipline env accepts allows).Safe r (Finishes Q E') p s := by
  refine hp.mono fun x t hx => ?_
  cases x with
  | ok a => exact hok a t hx
  | error code => exact herr t hx

/-- A copy that was stored stays one that was stored. -/
theorem safe_stored {record : JobRecord} (hstored : .stored record ∈ s.journal) {p : JobHandler τ}
    {P : τ → JobObject → Prop} {E : JobObject → Prop}
    (hp : (jobDiscipline env accepts allows).Safe r (Finishes P E) p s) :
    (jobDiscipline env accepts allows).Safe r
      (Finishes (fun _ t => .stored record ∈ t.journal) fun t => .stored record ∈ t.journal) p s := by
  refine (Discipline.Safe.trail (A := fun s t => .stored record ∈ s.journal →
    .stored record ∈ t.journal) (fun _ => id) (fun _ _ _ h h' hs => h' (h hs))
    (fun _ _ h => Later.stored h) (fun _ _ h hs => ?_) hp).mono fun x t hx => ?_
  · exact JobStep.stored h hs
  · cases x with
    | ok a => exact hx.2 hstored
    | error code => exact hx.2 hstored

/-! ## Steps of a program -/

theorem safe_quiet {β : Type} {op : JobOp β} {code : String} (hquiet : op.Quiet) :
    (jobDiscipline env accepts allows).Safe r
      (Finishes (fun _ t => Later env s t) fun t => Later env s t) (Handler.perform code op) s := by
  refine safe_operation (fun t hst => hst) fun t i b u hst ht _ hx => ?_
  have hu := hquiet i t b u hx
  subst hu
  exact ⟨ht, .quiet rfl rfl, hst, hst⟩

theorem safe_dateNow : (jobDiscipline env accepts allows).Safe r
    (Finishes (fun _ t => Later env s t) fun t => Later env s t) dateNow s :=
  safe_quiet fun i t b u hx => by cases hx; rfl

theorem safe_schedule : (jobDiscipline env accepts allows).Safe r
    (Finishes (fun _ t => Later env s t) fun t => Later env s t) schedule s :=
  safe_quiet fun i t b u hx => by cases hx; rfl

/-- A part that ends at once. -/
theorem safe_done {P : τ → JobObject → Prop} {E : JobObject → Prop} {a : τ} (h : P a s) :
    (jobDiscipline env accepts allows).Safe r (Finishes P E) (.done a) s := h

theorem safe_raise {P : τ → JobObject → Prop} {code : String} :
    (jobDiscipline env accepts allows).Safe r (Finishes P Fails) (.raise code) s := trivial

/-- An operation whose answer may be an error code. -/
theorem safe_ask {α : Type} {op : JobOp (Result α)} (hs : JobSound s) (hquiet : op.Quiet) :
    (jobDiscipline env accepts allows).Safe r
      (Finishes (fun _ t => Later env s t) fun t => Later env s t) (ask op) s := by
  unfold ask
  refine safe_bind hs (safe_quiet hquiet) (fun a t _ hst => ?_) fun t hst => hst
  cases a with
  | ok a => exact hst
  | error code => exact hst

theorem safe_updateAdmission {record : JobRecord} {mark : AdmissionMark} (hs : JobSound s) :
    (jobDiscipline env accepts allows).Safe r
      (Finishes (fun _ t => Later env s t) fun t => Later env s t)
      (updateAdmission record mark) s :=
  safe_ask hs (JobOp.quiet_of_answer fun _ _ => ⟨_, rfl⟩)

theorem safe_persistReconcile (hs : JobSound s) : (jobDiscipline env accepts allows).Safe r
    (Finishes (fun _ t => Later env s t) fun t => Later env s t) persistReconcile s := by
  unfold persistReconcile
  refine safe_bind hs (safe_quiet fun i t b u hx => by cases hx; rfl) (fun _ t _ hst => ?_)
    fun t hst => hst
  exact safe_weaken safe_schedule (fun _ u htu => hst.trans htu) fun u htu => hst.trans htu

theorem safe_transitionJob {record : JobRecord} {state : JobState} (hs : JobSound s) :
    (jobDiscipline env accepts allows).Safe r
      (Finishes (fun next t => Later env s t ∧ ∃ nowMs, record.transition state nowMs = .ok next)
        fun t => Later env s t) (transitionJob record state) s := by
  unfold transitionJob
  refine safe_bind hs safe_dateNow (fun nowMs t _ hst => ?_) fun t hst => hst
  cases h : record.transition state nowMs with
  | ok next => exact ⟨hst, nowMs, h⟩
  | error code => exact hst

/-- The stored record, or the copy in hand: either way a copy of what is stored. -/
theorem safe_readJob {job : JobRecord} (hjob : .stored job ∈ s.journal) :
    (jobDiscipline env accepts allows).Safe r
      (Finishes (fun current t => Held env t current) Fails) (readJob job) s := by
  unfold readJob
  intro t hst ht
  refine ⟨trivial, fun i b u _ hx => ?_⟩
  cases hx
  refine ⟨ht, .quiet rfl rfl, ?_, trivial⟩
  have hstored := hst.stored hjob
  cases hget : t.job with
  | none => exact absurd hstored (ht.absent hget job)
  | some current =>
    exact ⟨ht.kept current hget, fun _ => ⟨current, hget, .refl current⟩⟩

/-- A write back of a copy in hand. -/
theorem safe_writeJob {read written : JobRecord} (held : Held env s read)
    (made : written.MadeFrom accepts read) (wellFormed : written.WellFormed) :
    (jobDiscipline env accepts allows).Safe r
      (Finishes (fun _ t => Held env t written) Fails) (writeJob read written) s := by
  refine safe_operation (fun _ _ => trivial) fun t i b u hst ht hm hx => ?_
  cases hx
  have hstep : JobStep env accepts allows t (t.store written) :=
    .wrote read written (held.later hst) made hm wellFormed rfl rfl
  refine ⟨ht.step_same hstep rfl, hstep, ?_, trivial⟩
  exact ⟨by simp [JobObject.store], fun _ => ⟨written, rfl, .refl written⟩⟩

/-- The record under `JOB_KEY`, when there is one. -/
theorem safe_get {code : String} : (jobDiscipline env accepts allows).Safe r
    (Finishes (fun existing t => ∀ record ∈ existing, Held env t record) Fails)
    (Handler.perform code .get) s := by
  refine safe_operation (fun _ _ => trivial) fun t i b u _ ht _ hx => ?_
  cases hx
  refine ⟨ht, .quiet rfl rfl, fun record hrecord => ?_, trivial⟩
  exact ⟨ht.kept record hrecord, fun _ => ⟨record, hrecord, .refl record⟩⟩

theorem safe_ends {p : JobHandler τ} {P : τ → JobObject → Prop} {E : JobObject → Prop}
    (hp : (jobDiscipline env accepts allows).Safe r (Finishes P E) p s) :
    (jobDiscipline env accepts allows).Safe r (Finishes (fun _ _ => True) Fails) p s :=
  safe_weaken hp (fun _ _ _ => trivial) fun _ _ => trivial

end Safe

end Youtick.Bridge.Job
