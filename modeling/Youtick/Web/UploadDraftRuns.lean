import Youtick.Lib.Obligations
import Youtick.Web.UploadDrafts

/-!
# Web: what removes the record of a paid upload

A write keeps the paid draft of another job and never moves a stage back (`Written`). What is left are
the operations that clear: giving a job up removes the draft of that job, and a lookup clears what it
finds stored at the end, for a job it has found settled. Where that is no other job's paid draft, no
paid draft is lost (`paid_draft_kept`); where it is, one is (`paid_draft_lost`).
-/

set_option autoImplicit false

namespace Youtick.Web.Uploads

open Youtick.Lib

/-! ## Writes -/

/-- What a write leaves in place of the record it found. -/
structure Written (before after : DraftRecord) (jobId : String) : Prop where
  own : after.read.map (·.jobId) = some jobId
  blocked : ∀ draft, before.read = some draft → isPaidUploadDraft draft = true → draft.jobId = jobId
  stage : ∀ old new, before.read = some old → after.read = some new → old.jobId = new.jobId →
    old.sourceFingerprintSha256 = new.sourceFingerprintSha256 → old.stage.order ≤ new.stage.order

theorem stage_encoded {existing draft : LivepeerUploadDraft} :
    existing.stage.order ≤ (draft.encoded (some existing)).stage.order := by
  unfold LivepeerUploadDraft.encoded
  dsimp only
  split
  · exact le_rfl
  · next hstage => exact Nat.le_of_not_lt hstage

theorem write_written {accountId : String} {draft : LivepeerUploadDraft} {before after : DraftRecord}
    (h : before.write accountId draft = .ok after) : Written before after draft.jobId := by
  unfold DraftRecord.write at h
  obtain ⟨_, -, h⟩ := bind_eq_ok.mp h
  split at h
  · next hvalid =>
      obtain ⟨_, hblocks, h⟩ := bind_eq_ok.mp h
      have hfree := require_eq_ok.mp hblocks
      cases h
      refine ⟨rfl, fun old hold hpaid => ?_, fun old new hold hnew hjob hsource => ?_⟩
      · -- a paid draft of another job would have blocked the write
        rw [hold, Option.any_some, blocksWrite, hpaid, Bool.and_true] at hfree
        have hsame := of_decide_eq_false hfree
        exact not_not.mp hsame
      · cases hnew
        have hcontinued : LivepeerUploadDraft.continued before.read draft = some old := by
          rw [LivepeerUploadDraft.continued, hold]
          refine Option.filter_eq_some_iff.mpr ⟨rfl, ?_⟩
          rw [Bool.and_eq_true]
          exact ⟨decide_eq_true hjob, decide_eq_true hsource⟩
        change old.stage.order ≤ (draft.encoded (LivepeerUploadDraft.continued before.read draft)).stage.order
        rw [hcontinued]
        exact stage_encoded
  · cases h

/-! ## Operations -/

/-- The job for which the operation clears. -/
def StorageOp.clears : {β : Type} → StorageOp β → Option String
  | _, .clear jobId => some jobId
  | _, _ => none

/-- What an operation does to the record: nothing, a write, a clear, or the removal of the draft of a
job that is given up. -/
inductive Changes {β : Type} (op : NumberedOp β) (s t : UploadStorage) : Prop where
  | still (h : t.draft = s.draft)
  | written (jobId : String) (h : Written s.draft t.draft jobId)
  | cleared (jobId : String) (hop : op.op.clears = some jobId) (hdraft : t.draft = .missing)
      (hown : t.own op.number = .cleared jobId :: s.own op.number)
  | abandoned (jobId : String) (hown : .abandoned jobId ∈ t.own op.number)
      (hdraft : t.draft = .missing) (hjob : s.draft.read.map (·.jobId) = some jobId)

section Operations

variable {env : UploadEnv} {s t : UploadStorage} {i : StorageInput} {n : Nat}

@[simp] theorem own_learn (finding : Finding) :
    (s.learn n finding).own n = finding :: s.own n := Function.update_self ..

theorem own_learn_of_ne {m : Nat} (hm : m ≠ n) (finding : Finding) :
    (s.learn n finding).own m = s.own m := Function.update_of_ne hm ..

@[simp] theorem draft_rememberJob (available : Bool) (jobId : String) :
    (s.rememberJob available jobId).draft = s.draft := by
  unfold UploadStorage.rememberJob
  split <;> rfl

@[simp] theorem own_rememberJob (available : Bool) (jobId : String) :
    (s.rememberJob available jobId).own = s.own := by
  unfold UploadStorage.rememberJob
  split <;> rfl

@[simp] theorem requests_rememberJob (available : Bool) (jobId : String) :
    (s.rememberJob available jobId).requests = s.requests := by
  unfold UploadStorage.rememberJob
  split <;> rfl

@[simp] theorem draft_forgetJob (jobId : String) : (s.forgetJob jobId).draft = s.draft := by
  unfold UploadStorage.forgetJob
  split <;> rfl

@[simp] theorem own_forgetJob (jobId : String) : (s.forgetJob jobId).own = s.own := by
  unfold UploadStorage.forgetJob
  split <;> rfl

@[simp] theorem requests_forgetJob (jobId : String) :
    (s.forgetJob jobId).requests = s.requests := by
  unfold UploadStorage.forgetJob
  split <;> rfl

/-- A function that may throw, where it does not: the record is written or still, and the rest of
what operations know of each other is as it was. -/
structure Tidy (s t : UploadStorage) : Prop where
  record : t.draft = s.draft ∨ ∃ jobId, Written s.draft t.draft jobId
  requests : t.requests = s.requests
  own : t.own = s.own

theorem writeDraft_tidy {accountId : String} {draft : LivepeerUploadDraft}
    (h : s.writeDraft accountId draft = .ok t) : Tidy s t := by
  obtain ⟨record, hwrite, h⟩ := bind_eq_ok.mp h
  cases h
  exact ⟨.inr ⟨_, write_written hwrite⟩, rfl, rfl⟩

theorem Tidy.remember {available : Bool} {jobId : String} (h : Tidy s t) :
    Tidy s (t.rememberJob available jobId) := by
  refine ⟨?_, ?_, ?_⟩
  · rw [draft_rememberJob]
    exact h.record
  · rw [requests_rememberJob]
    exact h.requests
  · rw [own_rememberJob]
    exact h.own

theorem setUploadDraftFlag_tidy {accountId jobId : String} {available value : Bool}
    {flag : UploadDraftFlag}
    (h : s.setUploadDraftFlag accountId jobId available flag value = .ok t) : Tidy s t := by
  obtain ⟨draft, -, h⟩ := bind_eq_ok.mp h
  obtain ⟨written, hwrite, h⟩ := bind_eq_ok.mp h
  have htidy := writeDraft_tidy hwrite
  cases h
  split
  · exact htidy.remember
  · exact htidy

theorem advanceDraftStage_tidy {accountId jobId : String} {available : Bool}
    {stage : UploadRecoveryStage}
    (h : s.advanceDraftStage accountId jobId available stage = .ok t) : Tidy s t := by
  obtain ⟨_, -, h⟩ := bind_eq_ok.mp h
  have hsame : Tidy s s := ⟨.inl rfl, rfl, rfl⟩
  split at h
  · cases h
    exact hsame
  · split at h
    · cases h
      exact hsame
    · obtain ⟨written, hwrite, h⟩ := bind_eq_ok.mp h
      have htidy := writeDraft_tidy hwrite
      cases h
      split
      · exact htidy.remember
      · exact htidy

/-- Giving a job up removes its own draft only. -/
theorem abandonJob_draft {accountId jobId : String} {available : Bool}
    (h : s.abandonJob accountId jobId available = .ok t) :
    (t.draft = s.draft ∨ t.draft = .missing ∧ s.draft.read.map (·.jobId) = some jobId) ∧
      t.requests = s.requests ∧ t.own = s.own := by
  obtain ⟨_, -, h⟩ := bind_eq_ok.mp h
  cases h
  unfold UploadStorage.forgetDraft
  split
  · rw [draft_forgetJob, requests_forgetJob, own_forgetJob]
    split
    · next hjob => exact ⟨.inr ⟨rfl, hjob⟩, rfl, rfl⟩
    · exact ⟨.inl rfl, rfl, rfl⟩
  · exact ⟨.inl rfl, rfl, rfl⟩

/-- A finding that is no clear. -/
def Finding.Learnt : Finding → Prop
  | .cleared _ => False
  | _ => True

/-- An operation changes the record as it may, and of what operations have learnt only its own. -/
structure Step {β : Type} (op : NumberedOp β) (s t : UploadStorage) : Prop where
  record : Changes op s t
  requests : s.requests ≤ t.requests
  others : ∀ m, m ≠ op.number → t.own m = s.own m
  learns : t.own op.number = s.own op.number ∨
    (∃ finding : Finding, finding.Learnt ∧ t.own op.number = finding :: s.own op.number) ∨
    ∃ jobId, op.op.clears = some jobId ∧
      t.own op.number = .cleared jobId :: s.own op.number

variable {β : Type} {b : β} {op : NumberedOp β}

theorem Step.refl : Step op s s := ⟨.still rfl, le_rfl, fun _ _ => rfl, .inl rfl⟩

theorem Step.learn {finding : Finding} (hfinding : finding.Learnt) :
    Step op s (s.learn op.number finding) :=
  ⟨.still rfl, le_rfl, fun _ hm => own_learn_of_ne hm finding,
    .inr (.inl ⟨finding, hfinding, own_learn finding⟩)⟩

theorem Step.of_tidy (h : Tidy s t) : Step op s t := by
  refine ⟨?_, h.requests.ge, fun m _ => congrFun h.own m, .inl (congrFun h.own _)⟩
  rcases h.record with hstill | ⟨jobId, hwritten⟩
  · exact .still hstill
  · exact .written jobId hwritten

/-- A function that throws leaves the storage as it was. -/
theorem settle_snd {written : Result UploadStorage} {out : Result Unit}
    (h : some (s.settle written) = some (out, t)) : t = s ∨ written = .ok t := by
  cases written with
  | ok u =>
    cases h
    exact .inr rfl
  | error code =>
    cases h
    exact .inl rfl

theorem Step.settle {written : Result UploadStorage} {out : Result Unit}
    (h : some (s.settle written) = some (out, t))
    (hok : ∀ u, written = .ok u → Step op s u) : Step op s t := by
  rcases settle_snd h with rfl | hwritten
  · exact .refl
  · exact hok t hwritten

theorem exec_step (h : exec env β op i s = some (b, t)) : Step op s t := by
  obtain ⟨n, op⟩ := op
  cases op with
  | accept =>
    cases h
    exact ⟨.still rfl, Nat.le_succ _, fun _ _ => rfl, .inl rfl⟩
  | readStoredUploadDraft | readRememberedJob | readBridgePendingJob | fingerprint =>
    cases h
    exact .refl
  | isAbandoned jobId =>
    change (if i.available = true ∧ jobId ∈ s.abandonedJobs then
      some (true, s.learn n (.abandoned jobId)) else some (false, s)) = some (b, t) at h
    split at h
    · cases h
      exact .learn trivial
    · cases h
      exact .refl
  | clear jobId =>
    cases h
    exact ⟨.cleared jobId rfl rfl (own_learn _), le_rfl,
      fun _ hm => own_learn_of_ne hm _, .inr (.inr ⟨jobId, rfl, own_learn _⟩)⟩
  | readMediaJob | readPublication | now =>
    cases h
    exact .learn trivial
  | remember jobId =>
    cases h
    exact .of_tidy (Tidy.remember ⟨.inl rfl, rfl, rfl⟩)
  | write draft => exact Step.settle h fun u hu => .of_tidy (writeDraft_tidy hu)
  | setFlag jobId flag value =>
    exact Step.settle h fun u hu => .of_tidy (setUploadDraftFlag_tidy hu)
  | advance jobId stage => exact Step.settle h fun u hu => .of_tidy (advanceDraftStage_tidy hu)
  | abandon jobId =>
    refine Step.settle h fun u hu => ?_
    obtain ⟨v, hv, rfl⟩ : ∃ v, s.abandonJob env.accountId jobId i.available = .ok v ∧
        v.learn n (.abandoned jobId) = u := by
      cases hjob : s.abandonJob env.accountId jobId i.available with
      | ok v =>
        rw [hjob] at hu
        cases hu
        exact ⟨v, rfl, rfl⟩
      | error code =>
        rw [hjob] at hu
        cases hu
    obtain ⟨hdraft, hrequests, hown⟩ := abandonJob_draft hv
    have hlearnt : (v.learn n (.abandoned jobId)).own n = .abandoned jobId :: s.own n := by
      rw [own_learn, hown]
    refine ⟨?_, hrequests.ge, fun m hm => ?_, .inr (.inl ⟨.abandoned jobId, trivial, hlearnt⟩)⟩
    · rcases hdraft with hstill | ⟨hmissing, hjob⟩
      · exact .still hstill
      · refine .abandoned jobId ?_ hmissing hjob
        rw [hlearnt]
        exact List.mem_cons_self
    · rw [own_learn_of_ne hm, hown]

end Operations

/-! ## What a call has found before it clears -/

section Grounds

variable {env : UploadEnv} {n : Nat} {past : List Finding} {accountId jobId : String}

theorem Settled.cons {finding : Finding} (h : Settled accountId jobId past) :
    Settled accountId jobId (finding :: past) := by
  cases h with
  | abandoned h => exact .abandoned (List.mem_cons_of_mem _ h)
  | missing block h => exact .missing block (List.mem_cons_of_mem _ h)
  | foreign block job h hcreator => exact .foreign block job (List.mem_cons_of_mem _ h) hcreator
  | closed block job h hstatus => exact .closed block job (List.mem_cons_of_mem _ h) hstatus
  | published block h => exact .published block (List.mem_cons_of_mem _ h)
  | expired block nowMs job h hclock hdeadline =>
    exact .expired block nowMs job (List.mem_cons_of_mem _ h) (List.mem_cons_of_mem _ hclock)
      hdeadline

/-- Every clear of a call comes after the call has found the job settled. -/
def Grounded (accountId : String) (past : List Finding) : Prop :=
  ∀ newer jobId older, past = newer ++ .cleared jobId :: older → Settled accountId jobId older

theorem Grounded.nil : Grounded accountId [] := by
  intro newer jobId older h
  cases newer <;> cases h

theorem Grounded.cons {finding : Finding} (h : Grounded accountId past)
    (hfinding : ∀ jobId, finding = .cleared jobId → Settled accountId jobId past) :
    Grounded accountId (finding :: past) := by
  intro newer jobId older heq
  cases newer with
  | nil =>
    obtain ⟨rfl, rfl⟩ := List.cons.inj heq
    exact hfinding jobId rfl
  | cons first newer =>
    obtain ⟨rfl, hpast⟩ := List.cons.inj heq
    exact h newer jobId older hpast

theorem Grounded.learn (finding : Finding) (h : Grounded accountId past)
    (hfinding : finding.Learnt) : Grounded accountId (finding :: past) := by
  apply h.cons
  rintro jobId rfl
  cases hfinding

/-- The numbers of the calls of a run. -/
def uploadNumbering (env : UploadEnv) : Numbering (uploadSystem env) Finding where
  taken := UploadStorage.requests
  own := UploadStorage.own
  number := fun op => op.number
  accept := fun _ => ⟨0, .accept⟩
  rest := fun call n => numbered n (handle env call)
  broken := unavailable
  handle_eq := fun _ => rfl
  accept_exec := by
    intro call i s n t h
    cases h
    exact ⟨rfl, rfl, fun _ => rfl⟩
  rest_uses := fun _ _ => Handler.Uses.lift _ fun _ => rfl
  exec_own := by
    intro β op i s b t h
    have hstep := exec_step h
    exact ⟨hstep.requests, hstep.others⟩
  world_own := fun e => nomatch e

/-- Program `p` of call `n` clears only on grounds, and ends with `Q`. -/
abbrev Founded (env : UploadEnv) (n : Nat) {α : Type}
    (Q : Except String α → List Finding → Prop) (p : StorageHandler α)
    (past : List Finding) : Prop :=
  (uploadNumbering env).Alone (Grounded env.accountId) n Q (numbered n p) past

/-- Nothing is asked but that the clears were founded. -/
def GroundedEnd (env : UploadEnv) {α : Type} (_ : Except String α) (past : List Finding) : Prop :=
  Grounded env.accountId past

variable {α β : Type}

theorem quiet_founded {p : StorageHandler α} (hp : p.Uses fun op => op.clears = none)
    (hpast : Grounded env.accountId past) : Founded env n (GroundedEnd env) p past := by
  apply Numbering.Alone.of_uses (P := fun op => op.number = n ∧ op.op.clears = none)
  · rintro γ op ⟨rfl, hop⟩ i s b t hs hexec
    rcases (exec_step hexec).learns with hown | ⟨finding, hlearnt, hown⟩ | ⟨jobId, hclear, -⟩
    · change Grounded env.accountId (t.own op.number)
      rw [hown]
      exact hs
    · change Grounded env.accountId (t.own op.number)
      rw [hown]
      exact Grounded.learn _ hs hlearnt
    · rw [hop] at hclear
      cases hclear
  · exact Handler.Uses.lift_of _ (hp.mono fun _ hop => ⟨rfl, hop⟩)
  · exact hpast

/-- A part of a program that clears nothing. -/
theorem quiet_bind {p : StorageHandler α} {f : α → StorageHandler β}
    (hp : p.Uses fun op => op.clears = none) (hpast : Grounded env.accountId past)
    (h : ∀ a past, Grounded env.accountId past → Founded env n (GroundedEnd env) (f a) past) :
    Founded env n (GroundedEnd env) (p >>= f) past := by
  unfold Founded
  rw [numbered, Handler.lift_bind]
  apply (quiet_founded hp hpast).bind
  · exact h
  · exact fun _ _ hend => hend

theorem founded_bind {Q : Except String α → List Finding → Prop} {p : StorageHandler α}
    {f : α → StorageHandler β} (hp : Founded env n Q p past)
    (hok : ∀ a past, Q (.ok a) past → Founded env n (GroundedEnd env) (f a) past)
    (herr : ∀ e past, Q (.error e) past → Grounded env.accountId past) :
    Founded env n (GroundedEnd env) (p >>= f) past := by
  unfold Founded
  rw [numbered, Handler.lift_bind]
  apply hp.bind
  · exact hok
  · exact herr

/-- A read of the chain or of the clock, with what it answers. -/
theorem learn_founded {Q : Except String α → List Finding → Prop} {op : StorageOp β}
    {code : String} {f : β → StorageHandler α} {answer : StorageInput → β}
    {finding : StorageInput → Finding}
    (hexec : ∀ i s, exec env β ⟨n, op⟩ i s = some (answer i, s.learn n (finding i)))
    (hfinding : ∀ i, (finding i).Learnt) (hpast : Grounded env.accountId past)
    (herr : ∀ e past, Grounded env.accountId past → Q (.error e) past)
    (h : ∀ i, Founded env n Q (f (answer i)) (finding i :: past)) :
    Founded env n Q (Handler.perform code op >>= f) past := by
  unfold Founded
  rw [numbered, Handler.lift_bind]
  refine ⟨herr _ _ hpast, fun i s b t hs hb => ?_⟩
  rw [show (uploadSystem env).exec β ⟨n, op⟩ i s = _ from hexec i s] at hb
  obtain ⟨rfl, rfl⟩ := Prod.mk.inj (Option.some.inj hb)
  change s.own n = past at hs
  have hown : (s.learn n (finding i)).own n = finding i :: past := by
    rw [own_learn, hs]
  change Grounded env.accountId ((s.learn n (finding i)).own n) ∧
    (uploadNumbering env).Alone _ _ _ _ ((s.learn n (finding i)).own n) ∧
    Q (.error code) ((s.learn n (finding i)).own n)
  rw [hown]
  have hlearnt := hpast.learn _ (hfinding i)
  exact ⟨hlearnt, h i, herr _ _ hlearnt⟩

/-- What `readLivepeerUploadProgress` has found of the job when it returns. -/
def ProgressEnd (env : UploadEnv) (jobId : String) (result : Except String (Option UploadProgress))
    (past : List Finding) : Prop :=
  Grounded env.accountId past ∧
    match result with
    | .ok none => Settled env.accountId jobId past
    | .ok (some progress) => progress.published = true ∨ progress.expired = true ∨
        progress.job.status ≠ .authorized → Settled env.accountId jobId past
    | .error _ => True

theorem readLivepeerUploadProgress_founded (hpast : Grounded env.accountId past) :
    Founded env n (ProgressEnd env jobId) (readLivepeerUploadProgress env jobId) past := by
  unfold readLivepeerUploadProgress
  refine learn_founded (fun _ _ => rfl) (fun _ => trivial) hpast (fun _ _ h => ⟨h, trivial⟩) fun i => ?_
  have hjob := hpast.learn (.job jobId i.block (env.chain.job i.block jobId)) trivial
  cases hfound : env.chain.job i.block jobId with
  | none =>
    rw [hfound] at hjob
    exact ⟨hjob, .missing i.block List.mem_cons_self⟩
  | some job =>
    rw [hfound] at hjob
    dsimp only
    split
    · next hcreator => exact ⟨hjob, .foreign i.block job List.mem_cons_self hcreator⟩
    · refine learn_founded (fun _ _ => rfl) (fun _ => trivial) hjob (fun _ _ h => ⟨h, trivial⟩)
        fun j => ?_
      have hpublication := hjob.learn
        (.publication jobId j.block (env.chain.published j.block jobId)) trivial
      cases hdeadline : require (((job.createdAtMs + uploadWindowMs : Nat) : Int) ≤ maxSafeInteger)
          "invalid_livepeer_deadline" with
      | error code => exact ⟨hpublication, trivial⟩
      | ok _ =>
        refine learn_founded (fun _ _ => rfl) (fun _ => trivial) hpublication
          (fun _ _ h => ⟨h, trivial⟩) fun k => ?_
        refine ⟨hpublication.learn _ trivial, ?_⟩
        rintro (hpublished | hexpired | hstatus)
        · change env.chain.published j.block jobId = true at hpublished
          rw [hpublished]
          exact .published j.block (List.mem_cons_of_mem _ List.mem_cons_self)
        · change (!env.chain.published j.block jobId &&
            decide (job.createdAtMs + uploadWindowMs ≤ k.nowMs)) = true at hexpired
          rw [Bool.and_eq_true] at hexpired
          refine .expired i.block k.nowMs job ?_ List.mem_cons_self
            (of_decide_eq_true hexpired.2)
          exact List.mem_cons_of_mem _ (List.mem_cons_of_mem _ List.mem_cons_self)
        · refine .closed i.block job ?_ hstatus
          exact List.mem_cons_of_mem _ (List.mem_cons_of_mem _ List.mem_cons_self)

/-- A clear for a job that the call has found settled. -/
theorem clearFor_founded (draft : Option LivepeerUploadDraft)
    (hpast : Grounded env.accountId past) (hsettled : Settled env.accountId jobId past) :
    Founded env n (GroundedEnd env) (clearFor jobId draft) past := by
  unfold clearFor
  split
  · refine ⟨hpast, fun i s b t hs hb => ?_⟩
    cases hb
    change s.own n = past at hs
    have hcleared : Grounded env.accountId (.cleared jobId :: past) := by
      apply hpast.cons
      rintro other heq
      cases heq
      exact hsettled
    change Grounded env.accountId (UploadStorage.own (UploadStorage.learn _ n _) n) ∧
      Grounded env.accountId (UploadStorage.own (UploadStorage.learn _ n _) n) ∧
      Grounded env.accountId (UploadStorage.own (UploadStorage.learn _ n _) n)
    rw [own_learn]
    change Grounded env.accountId (.cleared jobId :: s.own n) ∧
      Grounded env.accountId (.cleared jobId :: s.own n) ∧
      Grounded env.accountId (.cleared jobId :: s.own n)
    rw [hs]
    exact ⟨hcleared, hcleared, hcleared⟩
  · exact hpast

theorem readPendingLivepeerUpload_founded {draft : Option LivepeerUploadDraft}
    (hpast : Grounded env.accountId past) :
    Founded env n (GroundedEnd env) (readPendingLivepeerUpload env jobId draft) past := by
  unfold readPendingLivepeerUpload Founded
  rw [numbered, Handler.lift_bind]
  refine ⟨hpast, fun i s b t hs hb => ?_⟩
  change s.own n = past at hs
  change (if i.available = true ∧ jobId ∈ s.abandonedJobs then
    some (true, s.learn n (.abandoned jobId)) else some (false, s)) = some (b, t) at hb
  have hfound : b = true ∧ t = s.learn n (.abandoned jobId) ∨ b = false ∧ t = s := by
    split at hb
    · obtain ⟨rfl, rfl⟩ := Prod.mk.inj (Option.some.inj hb)
      exact .inl ⟨rfl, rfl⟩
    · obtain ⟨rfl, rfl⟩ := Prod.mk.inj (Option.some.inj hb)
      exact .inr ⟨rfl, rfl⟩
  rcases hfound with ⟨rfl, rfl⟩ | ⟨rfl, rfl⟩
  · -- the job stands on the list
    change Grounded env.accountId ((s.learn n (.abandoned jobId)).own n) ∧
      Founded env n (GroundedEnd env) _ ((s.learn n (.abandoned jobId)).own n) ∧
      Grounded env.accountId ((s.learn n (.abandoned jobId)).own n)
    rw [own_learn, hs]
    have hlearnt := hpast.learn (.abandoned jobId) trivial
    refine ⟨hlearnt, ?_, hlearnt⟩
    have hclear := clearFor_founded (n := n)
      (draft.filter fun draft => decide (draft.jobId = jobId)) hlearnt
      (.abandoned List.mem_cons_self)
    refine founded_bind hclear (fun _ past hend => ?_) fun _ _ hend => hend
    exact hend
  · change Grounded env.accountId (t.own n) ∧ Founded env n (GroundedEnd env) _ (t.own n) ∧
      Grounded env.accountId (t.own n)
    rw [hs]
    refine ⟨hpast, ?_, hpast⟩
    refine founded_bind (readLivepeerUploadProgress_founded hpast) (fun progress later hend => ?_)
      fun _ _ hend => hend.1
    obtain ⟨hlater, hsettles⟩ := hend
    cases progress with
    | none =>
      refine founded_bind (clearFor_founded _ hlater hsettles) (fun _ _ hend => ?_)
        fun _ _ hend => hend
      exact hend
    | some progress =>
      dsimp only
      split
      · next hclosed =>
          refine founded_bind (clearFor_founded _ hlater (hsettles hclosed)) (fun _ _ hend => ?_)
            fun _ _ hend => hend
          exact hend
      · exact hlater

theorem findPendingLivepeerUpload_founded (hpast : Grounded env.accountId past) :
    Founded env n (GroundedEnd env) (findPendingLivepeerUpload env) past := by
  unfold findPendingLivepeerUpload
  refine quiet_bind (Handler.Uses.perform rfl) hpast fun stored past hpast => ?_
  have hjob : (localJob (stored.filter isPaidUploadDraft)).Uses fun op => op.clears = none := by
    cases stored.filter isPaidUploadDraft with
    | some draft => trivial
    | none => exact Handler.Uses.perform rfl
  refine quiet_bind hjob hpast fun localJobId past hpast => ?_
  have hlocal : Founded env n (GroundedEnd env)
      (readLocalUpload env (stored.filter isPaidUploadDraft) localJobId) past := by
    cases localJobId with
    | some jobId => exact readPendingLivepeerUpload_founded hpast
    | none => exact hpast
  refine founded_bind hlocal (fun found past hpast => ?_) fun _ _ hend => hend
  cases found with
  | some found => exact hpast
  | none =>
    refine quiet_bind (Handler.Uses.perform rfl) hpast fun bridgeJobId past hpast => ?_
    cases bridgeJobId.filter fun jobId => decide (some jobId ≠ localJobId) with
    | none => exact hpast
    | some jobId =>
      refine founded_bind (readPendingLivepeerUpload_founded hpast) (fun pending past hpast => ?_)
        fun _ _ hend => hend
      split
      · refine quiet_bind (Handler.Uses.perform rfl) hpast fun _ past hpast => ?_
        exact hpast
      · exact hpast

theorem readLivepeerUploadDraft_quiet (file : SourceFile) :
    (readLivepeerUploadDraft file).Uses fun op => op.clears = none := by
  unfold readLivepeerUploadDraft
  refine Handler.Uses.bind (Handler.Uses.perform rfl) fun stored => ?_
  split
  · trivial
  · refine Handler.Uses.bind (Handler.Uses.perform rfl) fun fingerprint => ?_
    trivial

theorem matchPendingLivepeerUpload_founded (file : SourceFile)
    (hpast : Grounded env.accountId past) :
    Founded env n (GroundedEnd env) (matchPendingLivepeerUpload env file) past := by
  unfold matchPendingLivepeerUpload
  refine founded_bind (findPendingLivepeerUpload_founded hpast) (fun pending past hpast => ?_)
    fun _ _ hend => hend
  cases pending.filter fun pending => matchesPending pending file with
  | none => exact hpast
  | some found =>
    refine quiet_bind (Handler.Uses.perform rfl) hpast fun stored past hpast => ?_
    split
    · refine quiet_bind (readLivepeerUploadDraft_quiet file) hpast fun draft past hpast => ?_
      exact hpast
    · -- the record is rebuilt: a write clears nothing
      apply quiet_founded _ hpast
      refine Handler.Uses.bind (Handler.Uses.perform rfl) fun fingerprint => ?_
      refine Handler.Uses.bind (Handler.Uses.perform rfl) fun written => ?_
      refine Handler.Uses.bind (Handler.Uses.ofExcept _) fun _ => ?_
      refine Handler.Uses.bind (readLivepeerUploadDraft_quiet file) fun draft => ?_
      trivial

theorem synchronous_founded {op : StorageOp (Result Unit)} (hop : op.clears = none)
    (hpast : Grounded env.accountId past) :
    Founded env n (GroundedEnd env) (synchronous op) past := by
  apply quiet_founded _ hpast
  refine Handler.Uses.bind (Handler.Uses.perform hop) fun written => ?_
  refine Handler.Uses.bind (Handler.Uses.ofExcept _) fun _ => ?_
  trivial

theorem handle_founded (call : UploadCall) (hpast : Grounded env.accountId past) :
    Founded env n (GroundedEnd env) (handle env call) past := by
  cases call with
  | write draft => exact synchronous_founded rfl hpast
  | setFlag jobId flag value => exact synchronous_founded rfl hpast
  | advance jobId stage => exact synchronous_founded rfl hpast
  | abandon jobId => exact synchronous_founded rfl hpast
  | find =>
    refine founded_bind (findPendingLivepeerUpload_founded hpast) (fun _ _ hend => ?_)
      fun _ _ hend => hend
    exact hend
  | matchFile file =>
    refine founded_bind (matchPendingLivepeerUpload_founded file hpast) (fun _ _ hend => ?_)
      fun _ _ hend => hend
    exact hend

end Grounds

/-! ## Runs -/

section Runs

abbrev UploadConfig : Type 1 := Config UploadStorage NumberedOp String UploadAnswer UploadCall
abbrev UploadEvent : Type := Event StorageInput UploadCall Empty
abbrev UploadStep : Type 1 := Transition UploadConfig UploadEvent

/-- The storage as the tabs find it, before any of them has begun an operation. -/
def fresh (draft : DraftRecord) (abandonedJobs : List String) (lastJob : Option String) :
    UploadStorage :=
  ⟨draft, abandonedJobs, lastJob, 0, fun _ => []⟩

/-- A paid draft of the job is stored before, and no draft of the job after. -/
def RemovesPaid (s t : UploadStorage) (jobId : String) : Prop :=
  ∃ draft, s.draft.read = some draft ∧ isPaidUploadDraft draft = true ∧ draft.jobId = jobId ∧
    t.draft.read.map (·.jobId) ≠ some jobId

/-- A paid draft is removed only by an operation that has found its own job settled. -/
def SettledFirst (accountId : String) (x : UploadStep) : Prop :=
  ∀ jobId, RemovesPaid x.pre.shared x.post.shared jobId →
    ∃ (call : UploadCall) (β : Type) (op : NumberedOp β) (i : StorageInput),
      x.pre.Executes x.label call op i ∧ Settled accountId jobId (x.post.shared.own op.number)

/-- A draft of the job and the source is stored. -/
def Holds (jobId source : String) (s : UploadStorage) : Prop :=
  ∃ draft, s.draft.read = some draft ∧ draft.jobId = jobId ∧
    draft.sourceFingerprintSha256 = source

/-- The stage of the draft, where one is stored for the job and the source both times, is kept or
moved on. -/
def StageKept (jobId source : String) (s t : UploadStorage) : Prop :=
  ∀ old new, s.draft.read = some old → t.draft.read = some new →
    old.jobId = jobId → new.jobId = jobId → old.sourceFingerprintSha256 = source →
    new.sourceFingerprintSha256 = source → old.stage.order ≤ new.stage.order

/-- What a lookup clears is no other job's paid draft. -/
def ClearsOwn (x : UploadStep) : Prop :=
  ∀ (call : UploadCall) (β : Type) (op : NumberedOp β) (i : StorageInput) (jobId : String),
    x.pre.Executes x.label call op i → op.op.clears = some jobId →
    ∀ draft, x.pre.shared.draft.read = some draft → isPaidUploadDraft draft = true →
      draft.jobId = jobId

variable {env : UploadEnv} {s t : UploadStorage} {c d : UploadConfig} {e : UploadEvent}

theorem Changes.stageKept {β : Type} {op : NumberedOp β} {jobId source : String}
    (h : Changes op s t) : StageKept jobId source s t := by
  rintro old new hold hnew holdJob hnewJob holdSource hnewSource
  cases h with
  | still hsame =>
    rw [hsame, hold] at hnew
    cases hnew
    exact le_rfl
  | written other hwritten =>
    exact hwritten.stage old new hold hnew (holdJob.trans hnewJob.symm)
      (holdSource.trans hnewSource.symm)
  | cleared _ _ hmissing _ =>
    rw [hmissing] at hnew
    cases hnew
  | abandoned _ _ hmissing _ =>
    rw [hmissing] at hnew
    cases hnew

theorem step_stageKept {jobId source : String} (h : (uploadSystem env).next c e = some d) :
    StageKept jobId source c.shared d.shared := by
  rcases System.next_shared h with hsame | ⟨w, -⟩ | ⟨call, β, op, i, b, -, hexec⟩
  · rw [hsame]
    rintro old new hold hnew - - - -
    rw [hold] at hnew
    cases hnew
    exact le_rfl
  · exact nomatch w
  · exact (exec_step hexec).record.stageKept

/-- As long as a draft of the job and the source stays stored its stage does not move back. -/
theorem stage_kept {tr : List UploadStep} {jobId source : String}
    (h : Trace (ExecStep (uploadSystem env).next) c tr d)
    (hholds : ∀ x ∈ tr, Holds jobId source x.pre.shared ∧ Holds jobId source x.post.shared) :
    StageKept jobId source c.shared d.shared := by
  induction h with
  | nil =>
    rintro old new hold hnew - - - -
    rw [hold] at hnew
    cases hnew
    exact le_rfl
  | @snoc tr mid l t htr hstep ih =>
    have hbefore := ih fun x hx => hholds x (List.mem_append_left _ hx)
    have hlast := (hholds ⟨mid, l, t⟩ (by simp)).1
    obtain ⟨between, hbetween, hjob, hsource⟩ := hlast
    rintro old new hold hnew holdJob hnewJob holdSource hnewSource
    have hfirst := hbefore old between hold hbetween holdJob hjob holdSource hsource
    have hsecond := step_stageKept hstep between new hbetween hnew hjob hnewJob hsource hnewSource
    exact hfirst.trans hsecond

/-- In every run the clears of every call are founded. -/
theorem run_grounded {draft : DraftRecord} {abandonedJobs : List String} {lastJob : Option String}
    {tr : List UploadStep}
    (h : Trace (ExecStep (uploadSystem env).next) ⟨fresh draft abandonedJobs lastJob, []⟩ tr c)
    (n : Nat) : Grounded env.accountId (c.shared.own n) := by
  have hrest (call : UploadCall) (number : Nat) :
      (uploadNumbering env).Alone (Grounded env.accountId) number Numbering.Anyhow
        ((uploadNumbering env).rest call number) [] :=
    (handle_founded call Grounded.nil).mono fun _ _ _ => trivial
  have hsound := (uploadNumbering env).run hrest (fun _ => Grounded.nil) (fun _ _ => rfl) h
  exact hsound.good n

/-- A step that clears nothing of another job removes a paid draft only after its job was found
settled. -/
theorem step_settledFirst {x : UploadStep} (hclears : ClearsOwn x)
    (hgrounded : ∀ n, Grounded env.accountId (x.post.shared.own n))
    (h : (uploadSystem env).next x.pre x.label = some x.post) :
    SettledFirst env.accountId x := by
  rintro jobId ⟨draft, hdraft, hpaid, hjob, hgone⟩
  rcases System.next_shared h with hsame | ⟨w, -⟩ | ⟨call, β, op, i, b, hexecutes, hexec⟩
  · rw [hsame, hdraft, Option.map_some, hjob] at hgone
    exact absurd rfl hgone
  · exact nomatch w
  · refine ⟨call, β, op, i, hexecutes, ?_⟩
    cases (exec_step hexec).record with
    | still hstill =>
      rw [hstill, hdraft, Option.map_some, hjob] at hgone
      exact absurd rfl hgone
    | written other hwritten =>
      -- the write is of this job, so a draft of it is stored
      have hsame := hwritten.blocked draft hdraft hpaid
      rw [hwritten.own, ← hsame, hjob] at hgone
      exact absurd rfl hgone
    | cleared other hop hmissing hown =>
      have hsame := hclears call β op i other hexecutes hop draft hdraft hpaid
      rw [hjob] at hsame
      subst hsame
      have hsettled := hgrounded op.number [] jobId _ hown
      rw [hown]
      exact hsettled.cons
    | abandoned other hown _ hother =>
      rw [hdraft, Option.map_some, hjob] at hother
      obtain rfl := Option.some.inj hother
      exact .abandoned hown

/-- In every run of any number of tabs in which no lookup clears another job's paid draft, a paid
draft is removed only by an operation that has found its own job settled; and as long as a draft of one
job and source stays stored its stage does not move back. -/
theorem paid_draft_kept {draft : DraftRecord} {abandonedJobs : List String}
    {lastJob : Option String} {tr : List UploadStep}
    (h : Trace (ExecStep (uploadSystem env).next) ⟨fresh draft abandonedJobs lastJob, []⟩ tr c)
    (hclears : ∀ x ∈ tr, ClearsOwn x) :
    (∀ x ∈ tr, SettledFirst env.accountId x) ∧
    ∀ older during newer, tr = older ++ during ++ newer →
      ∀ first last, Trace (ExecStep (uploadSystem env).next) first during last →
      ∀ jobId source,
        (∀ x ∈ during, Holds jobId source x.pre.shared ∧ Holds jobId source x.post.shared) →
        StageKept jobId source first.shared last.shared := by
  constructor
  · intro x hx
    obtain ⟨older, newer, rfl⟩ := List.append_of_mem hx
    obtain ⟨hpast, hstep, -⟩ := h.at_mem
    have hpost : Trace (ExecStep (uploadSystem env).next) _ (older ++ [⟨x.pre, x.label, x.post⟩])
      x.post := hpast.snoc hstep
    exact step_settledFirst (hclears x hx) (fun n => run_grounded hpost n) hstep
  · rintro older during newer - first last hduring jobId source hholds
    exact stage_kept hduring hholds

def draftEnv : UploadEnv := ⟨"creator.testnet", ⟨fun _ _ => none, fun _ _ => false⟩, fun _ => ""⟩

def draftInput : StorageInput := ⟨true, 0, 0, none⟩

/-- A draft whose payment was attempted. -/
def attemptedDraft (jobId : String) : LivepeerUploadDraft where
  stage := .paymentPending
  paymentAttempted := some true
  keyReplacementPending := none
  keyReplacementFingerprint := none
  jobId := jobId
  title := "A film"
  price := "2.000000"
  sourceBytes := 1000
  sourceName := "film.mp4"
  sourceLastModified := 0
  sourceFingerprintSha256 := String.ofList (List.replicate 64 'a')

/-- The storage holds the paid draft of job `lp-1`. -/
def attemptedStorage : UploadStorage :=
  fresh (.stored ⟨attemptedDraft "lp-1", by decide +kernel⟩) [] (some "lp-1")

/-- A lookup has found that `lp-1` is not on the chain, and is about to clear. -/
def missingRun : List UploadEvent := .start .find :: List.replicate 4 (.run 0 draftInput)

/-- What is stored, and what is cleared, is the draft of one job. -/
def concerns (jobId : String) (x : UploadStep) : Bool :=
  (x.pre.shared.draft.read.all fun draft => decide (draft.jobId = jobId)) &&
    (x.pre.operation x.label).all fun op => op.2.op.clears.all fun other => decide (other = jobId)

theorem ClearsOwn.of_concerns {jobId : String} {x : UploadStep} (h : concerns jobId x = true) :
    ClearsOwn x := by
  rw [concerns, Bool.and_eq_true] at h
  rintro call β op i other hexecutes hclears draft hdraft -
  have hstored := h.1
  have hcleared := h.2
  rw [hdraft, Option.all_some] at hstored
  rw [hexecutes.operation, Option.all_some, hclears, Option.all_some] at hcleared
  exact (of_decide_eq_true hstored).trans (of_decide_eq_true hcleared).symm

theorem missingRun_end :
    (execTrace (uploadSystem draftEnv).next ⟨attemptedStorage, []⟩
      (missingRun ++ [.run 0 draftInput])).map
      (fun r => (r.2.shared.draft.read, r.1.all (concerns "lp-1"))) = some (none, true) := by
  decide +kernel

/-- Where the job of the stored draft is not on the chain, the lookup that found so removes it. -/
theorem paid_draft_kept_missing : ∃ tr c,
    Trace (ExecStep (uploadSystem draftEnv).next) ⟨attemptedStorage, []⟩ tr c ∧
      c.shared.draft.read = none ∧ ∀ x ∈ tr, SettledFirst draftEnv.accountId x := by
  obtain ⟨⟨tr, c⟩, hrun, hend⟩ := Option.map_eq_some_iff.mp missingRun_end
  obtain ⟨hread, hconcerns⟩ := Prod.mk.inj hend
  have htrace := trace_of_execTrace _ hrun
  rw [List.all_eq_true] at hconcerns
  refine ⟨tr, c, htrace, hread, ?_⟩
  exact (paid_draft_kept htrace fun x hx => ClearsOwn.of_concerns (hconcerns x hx)).1

/-- The same, with a draft of `lp-2` that another tab stores and pays for meanwhile, after it gave
`lp-1` up. -/
def overtakenRun : List UploadEvent :=
  .start .find :: List.replicate 3 (.run 0 draftInput) ++
    .start (.abandon "lp-1") :: List.replicate 2 (.run 1 draftInput) ++
    .start (.write (attemptedDraft "lp-2")) :: List.replicate 2 (.run 2 draftInput) ++
    [.run 0 draftInput]

theorem overtakenRun_end :
    (execTrace (uploadSystem draftEnv).next ⟨attemptedStorage, []⟩ overtakenRun).map
      (fun r => (r.2.shared.draft.read,
        (r.2.operation (.run 0 draftInput : UploadEvent)).map fun op => op.2.number,
        ((uploadSystem draftEnv).next r.2 (.run 0 draftInput)).map fun c =>
          (c.shared.draft.read, c.shared.own 0))) =
    some (some (attemptedDraft "lp-2"), some 0,
      some (none, [.cleared "lp-1", .job "lp-1" 0 none])) := by
  decide +kernel

/-- The lookup of `lp-1` has found nothing of `lp-2`. -/
theorem not_settled_other :
    ¬ Settled draftEnv.accountId "lp-2" [.cleared "lp-1", .job "lp-1" 0 none] := by
  intro h
  cases h with
  | abandoned h => simp at h
  | missing block h => simp at h
  | foreign block job h => simp at h
  | closed block job h => simp at h
  | published block h => simp at h
  | expired block nowMs job h => simp at h

/-- The paid draft of `lp-2` is cleared by a lookup that has found no more than that `lp-1` is not on
the chain. -/
theorem paid_draft_lost : ∃ tr c,
    Trace (ExecStep (uploadSystem draftEnv).next) ⟨attemptedStorage, []⟩ tr c ∧
      ∃ x ∈ tr, ¬ SettledFirst draftEnv.accountId x := by
  obtain ⟨⟨tr, c⟩, hrun, hend⟩ := Option.map_eq_some_iff.mp overtakenRun_end
  obtain ⟨hread, hrest⟩ := Prod.mk.inj hend
  obtain ⟨hoperation, hlast⟩ := Prod.mk.inj hrest
  obtain ⟨d, hnext, hcleared⟩ := Option.map_eq_some_iff.mp hlast
  obtain ⟨hgone, hown⟩ := Prod.mk.inj hcleared
  have htrace := (trace_of_execTrace _ hrun).snoc hnext
  refine ⟨_, d, htrace, ⟨c, .run 0 draftInput, d⟩, by simp, fun hsettled => ?_⟩
  have hremoves : RemovesPaid c.shared d.shared "lp-2" := by
    refine ⟨attemptedDraft "lp-2", hread, rfl, rfl, ?_⟩
    rw [hgone]
    exact nofun
  obtain ⟨call, β, op, i, hexecutes, hfound⟩ := hsettled "lp-2" hremoves
  obtain ⟨found, hfoundOp, hnumber⟩ := Option.map_eq_some_iff.mp hoperation
  rw [hexecutes.operation] at hfoundOp
  obtain rfl := Option.some.inj hfoundOp
  change op.number = 0 at hnumber
  rw [hnumber, hown] at hfound
  exact not_settled_other hfound

end Runs

end Youtick.Web.Uploads
