import Youtick.Bridge.JobRequests

/-!
# Bridge: steps of the job object

What one operation of any request does to the stored record: `JobStep`. A record is either updated
in a transaction, or written back from a copy that was stored at some earlier time. `jobDiscipline`
makes this the guarantee of every request, over whatever is demanded of a write (`allows`) and of
the answer of a verification (`accepts`); the modules that settle laws of whole runs choose the two.
-/

set_option autoImplicit false

namespace Youtick.Bridge

open Youtick.Lib

/-! ## States -/

theorem JobState.Follows.early {a b : JobState} (h : a.Follows b) (hb : b.isEarly = true) :
    a.isEarly = true := by
  revert h hb
  cases a <;> cases b <;> decide

theorem JobState.isEarly_of_isOpen {a : JobState} (h : a.isOpen = true) : a.isEarly = true := by
  simp [isEarly, h]

theorem JobState.not_isEarly_of_isActive {a : JobState} (h : a.isActive = true) :
    a.isEarly = false := by
  revert h
  cases a <;> decide

theorem JobState.not_isEarly_of_isEnded {a : JobState} (h : a.isEnded = true) :
    a.isEarly = false := by
  revert h
  cases a <;> decide

/-! ## Records -/

namespace JobRecord

/-- What holds of every stored record: a job without an upload has no asset, no checkpoint and no
archive, and a verified job has its publication. -/
structure WellFormed (record : JobRecord) : Prop where
  late : record.assetId.isSome ∨ record.providerVerification.isSome ∨
    record.terminalArchive.isSome → record.state.isEarly = false
  published : record.state = .readyVerified → record.publication.isSome

/-- Two copies of a record agree in what a run is judged by. -/
structure Agrees (a b : JobRecord) : Prop where
  identity : a.identity = b.identity
  state : a.state = b.state
  publication : a.publication = b.publication

theorem Agrees.refl (a : JobRecord) : a.Agrees a := ⟨rfl, rfl, rfl⟩

theorem Agrees.trans {a b c : JobRecord} (h : a.Agrees b) (h' : b.Agrees c) : a.Agrees c :=
  ⟨h.identity.trans h'.identity, h.state.trans h'.state, h.publication.trans h'.publication⟩

/-- What a verification compares includes what a run is judged by. -/
theorem Agrees.of_forVerification {a b : JobRecord} (h : a.forVerification = b.forVerification) :
    a.Agrees b := by
  have hidentity := congrArg JobRecord.identity h
  have hstate := congrArg JobRecord.state h
  have hpublication := congrArg JobRecord.publication h
  exact ⟨hidentity, hstate, hpublication⟩

/-- How a written record differs from the copy it was made from. -/
structure MadeFrom (accepts : JobRecord → VerifiedAsset → Prop) (written read : JobRecord) :
    Prop where
  identity : written.identity = read.identity
  follows : read.state.Follows written.state
  early : written.state.isEarly = true → read.state.isOpen = true
  begun : written.state ≠ .authorized
  cancelled : written.state = .cancelled → read.state = .cancelled
  publication : ∀ publication ∈ read.publication, written.publication = some publication ∨
    (written.state = .readyVerified ∧
      ∃ asset, accepts read asset ∧ written.publication = some (read.publicationOf asset))

theorem wellFormed_of_late {record : JobRecord} (hstate : record.state.isEarly = false)
    (hpublished : record.state = .readyVerified → record.publication.isSome) :
    record.WellFormed := ⟨fun _ => hstate, hpublished⟩

/-- What `transitionJob` leaves as it was. -/
theorem transition_spec {record next : JobRecord} {state : JobState} {nowMs : Nat}
    (h : record.transition state nowMs = .ok next) :
    next.state = state ∧ record.state.Follows state ∧ next.identity = record.identity ∧
      next.publication = record.publication ∧ next.assetId = record.assetId ∧
      next.providerVerification = record.providerVerification ∧
      (state.isEnded = false → next.terminalArchive = record.terminalArchive) := by
  unfold transition at h
  split at h
  · next hsame =>
      cases h
      exact ⟨hsame, .inl hsame.symm, rfl, rfl, rfl, rfl, fun _ => rfl⟩
  · split at h
    · next hedge =>
        cases h
        refine ⟨rfl, .inr hedge, rfl, rfl, rfl, rfl, fun hended => ?_⟩
        simp [hended]
    · cases h

/-- A record that a transition leads to, and that nothing else is changed of. -/
theorem MadeFrom.of_transition {accepts : JobRecord → VerifiedAsset → Prop}
    {read base next written : JobRecord} {state : JobState} {nowMs : Nat}
    (h : base.transition state nowMs = .ok next) (hbase : base.Agrees read)
    (hwritten : written.Agrees next) (hlate : state.isEarly = false)
    (hnot : state ≠ .cancelled) : written.MadeFrom accepts read := by
  obtain ⟨hstate, hfollows, hidentity, hpublication, -⟩ := transition_spec h
  have hto : written.state = state := hwritten.state.trans hstate
  constructor
  · rw [hwritten.identity, hidentity, hbase.identity]
  · rw [hto, ← hbase.state]
    exact hfollows
  · intro hearly
    rw [hto, hlate] at hearly
    cases hearly
  · intro hbegun
    rw [hto] at hbegun
    rw [hbegun] at hlate
    cases hlate
  · intro hcancelled
    exact absurd (hto.symm.trans hcancelled) hnot
  · intro publication hp
    refine .inl ?_
    rw [hwritten.publication, hpublication, hbase.publication]
    exact hp

/-- A copy with other details of a job whose upload was created. -/
theorem MadeFrom.of_agrees {accepts : JobRecord → VerifiedAsset → Prop} {read written : JobRecord}
    (h : written.Agrees read) (hlate : read.state.isEarly = false) :
    written.MadeFrom accepts read := by
  constructor
  · exact h.identity
  · exact .inl h.state
  · intro hearly
    rw [h.state, hlate] at hearly
    cases hearly
  · intro hbegun
    rw [← h.state, hbegun] at hlate
    cases hlate
  · intro hcancelled
    exact h.state.symm.trans hcancelled
  · intro publication hp
    exact .inl (h.publication.trans hp)

theorem WellFormed.of_agrees {a b : JobRecord} (hb : b.WellFormed) (h : a.Agrees b)
    (hlate : b.state.isEarly = false) : a.WellFormed := by
  refine wellFormed_of_late (h.state ▸ hlate) fun hstate => ?_
  rw [h.publication]
  exact hb.published (h.state.symm.trans hstate)

/-- Before the upload is created there is nothing to keep. -/
theorem WellFormed.of_transition_early {record next : JobRecord} {state : JobState} {nowMs : Nat}
    (h : record.WellFormed) (hnext : record.transition state nowMs = .ok next)
    (hearly : state.isEarly = true) : next.WellFormed := by
  obtain ⟨hstate, hfollows, -, -, hasset, hcheckpoint, harchive⟩ := transition_spec hnext
  have hended : state.isEnded = false := by
    revert hearly
    cases state <;> decide
  constructor
  · intro hlate
    rw [hasset, hcheckpoint, harchive hended] at hlate
    have := h.late hlate
    rw [hfollows.early hearly] at this
    cases this
  · intro hready
    rw [hstate] at hready
    rw [hready] at hearly
    cases hearly

theorem trackStreamProgress_agrees (record : JobRecord) (progress : Option (String × ℚ))
    (nowMs : Nat) : (record.trackStreamProgress progress nowMs).Agrees record := by
  unfold trackStreamProgress
  split
  · exact .refl record
  · split
    · exact .refl record
    · split
      · exact .refl record
      · exact ⟨rfl, rfl, rfl⟩

end JobRecord

/-! ## Markers -/

/-- What is left of a map after its expired records are deleted was there before. -/
theorem get_purgeExpired {α : Type} {records : LookupMap String α} {expired : α → Bool}
    {key : String} {value : α} (h : (purgeExpired records expired).get key = some value) :
    records.get key = some value := by
  unfold purgeExpired at h
  have hfold : ∀ (keys : List String) (kept : LookupMap String α),
      (keys.foldl (fun kept key =>
        if (records.get key).any expired then kept.remove key else kept) kept).get key =
          some value → kept.get key = some value := by
    intro keys
    induction keys with
    | nil => exact fun kept h => h
    | cons other rest ih =>
      intro kept h
      have h := ih _ h
      dsimp only at h
      split at h
      · by_cases hother : key = other
        · subst hother
          rw [LookupMap.get_remove_self] at h
          cases h
        · rwa [LookupMap.get_remove_of_ne _ hother] at h
      · exact h
  exact hfold _ _ h

/-! ## Steps -/

/-- The record is a copy of what was stored at some time, and of what is stored when nothing else
runs. -/
structure Held (env : JobEnv) (s : JobObject) (record : JobRecord) : Prop where
  stored : .stored record ∈ s.journal
  fresh : env.serialized = true → ∃ current ∈ s.job, current.Agrees record

/-- How one operation changes the stored record and the journal. -/
inductive JobStep (env : JobEnv) (accepts : JobRecord → VerifiedAsset → Prop)
    (allows : JobRecord → JobRecord → JobObject → Prop) (s t : JobObject) : Prop where
  | quiet (job : t.job = s.job) (journal : t.journal = s.journal)
  | asked (identity : JobIdentity) (job : t.job = s.job)
      (journal : t.journal = s.journal ++ [.createUpload identity])
  | created (record : JobRecord) (absent : s.job = none) (state : record.state = .authorized)
      (wellFormed : record.WellFormed) (job : t.job = some record)
      (journal : t.journal = s.journal ++ [.stored record])
  | wrote (read written : JobRecord) (held : Held env s read) (made : written.MadeFrom accepts read)
      (allowed : allows read written s) (wellFormed : written.WellFormed)
      (job : t.job = some written) (journal : t.journal = s.journal ++ [.stored written])
  | updated (current written : JobRecord) (get : s.job = some current)
      (identity : written.identity = current.identity)
      (publication : written.publication = current.publication)
      (state : (written.state = current.state ∧ current.state.isEarly = false) ∨
        (current.state.isOpen = true ∧ written.state = .cancelled))
      (wellFormed : written.WellFormed)
      (job : t.job = some written) (journal : t.journal = s.journal ++ [.stored written])

/-- What holds of the object at any time. -/
structure JobSound (s : JobObject) : Prop where
  kept : ∀ record ∈ s.job, .stored record ∈ s.journal
  absent : s.job = none → ∀ record, .stored record ∉ s.journal
  wellFormed : ∀ record, .stored record ∈ s.journal → record.WellFormed
  same : ∀ a b, .stored a ∈ s.journal → .stored b ∈ s.journal → a.identity = b.identity
  verified : ∀ digest marker, s.markers.get digest = some marker → marker.state = .verified →
    ∃ record, .stored record ∈ s.journal ∧ record.state = .readyVerified

/-- What others may have done while a request waited. -/
structure Later (env : JobEnv) (s t : JobObject) : Prop where
  still : env.serialized = true → t = s
  grows : ∃ facts, t.journal = s.journal ++ facts

section Steps

variable {env : JobEnv} {accepts : JobRecord → VerifiedAsset → Prop}
  {allows : JobRecord → JobRecord → JobObject → Prop} {s t u : JobObject}

theorem Later.refl (s : JobObject) : Later env s s := ⟨fun _ => rfl, [], (List.append_nil _).symm⟩

theorem Later.trans (h : Later env s t) (h' : Later env t u) : Later env s u := by
  obtain ⟨facts, hfacts⟩ := h.grows
  obtain ⟨facts', hfacts'⟩ := h'.grows
  refine ⟨fun hs => (h'.still hs).trans (h.still hs), facts ++ facts', ?_⟩
  rw [hfacts', hfacts, List.append_assoc]

theorem Later.stored (h : Later env s t) {record : JobRecord} (hr : .stored record ∈ s.journal) :
    .stored record ∈ t.journal := by
  obtain ⟨facts, hfacts⟩ := h.grows
  rw [hfacts]
  exact List.mem_append_left _ hr

theorem Held.later {record : JobRecord} (h : Held env s record) (hst : Later env s t) :
    Held env t record := by
  refine ⟨hst.stored h.stored, fun hs => ?_⟩
  rw [hst.still hs]
  exact h.fresh hs

/-- A step stores one record or none. -/
theorem JobStep.shape (h : JobStep env accepts allows s t) :
    (t.job = s.job ∧ ∃ facts, t.journal = s.journal ++ facts ∧
      ∀ record, .stored record ∉ facts) ∨
    ∃ written, t.job = some written ∧ t.journal = s.journal ++ [.stored written] ∧
      written.WellFormed := by
  cases h with
  | quiet job journal =>
    exact .inl ⟨job, [], by rw [journal, List.append_nil], fun _ => List.not_mem_nil⟩
  | asked identity job journal =>
    refine .inl ⟨job, _, journal, fun record hr => ?_⟩
    rw [List.mem_singleton] at hr
    cases hr
  | created record absent state wellFormed job journal =>
    exact .inr ⟨record, job, journal, wellFormed⟩
  | wrote read written held made allowed wellFormed job journal =>
    exact .inr ⟨written, job, journal, wellFormed⟩
  | updated current written get identity publication state wellFormed job journal =>
    exact .inr ⟨written, job, journal, wellFormed⟩

theorem JobStep.grows (h : JobStep env accepts allows s t) :
    ∃ facts, t.journal = s.journal ++ facts := by
  rcases h.shape with ⟨-, facts, hfacts, -⟩ | ⟨written, -, hjournal, -⟩
  · exact ⟨facts, hfacts⟩
  · exact ⟨_, hjournal⟩

theorem JobStep.stored (h : JobStep env accepts allows s t) {record : JobRecord}
    (hr : .stored record ∈ s.journal) : .stored record ∈ t.journal := by
  obtain ⟨facts, hfacts⟩ := h.grows
  rw [hfacts]
  exact List.mem_append_left _ hr

/-- What is stored after a step was stored before, or is the record now. -/
theorem JobStep.stored_cases (h : JobStep env accepts allows s t) {record : JobRecord}
    (hr : .stored record ∈ t.journal) :
    .stored record ∈ s.journal ∨ (t.job = some record ∧ record.WellFormed) := by
  rcases h.shape with ⟨-, facts, hfacts, hnone⟩ | ⟨written, hjob, hjournal, hwf⟩
  · rw [hfacts, List.mem_append] at hr
    rcases hr with hr | hr
    · exact .inl hr
    · exact absurd hr (hnone record)
  · rw [hjournal, List.mem_append, List.mem_singleton] at hr
    rcases hr with hr | hr
    · exact .inl hr
    · cases hr
      exact .inr ⟨hjob, hwf⟩

/-- The job of the object never changes what it is. -/
theorem JobStep.identity (hs : JobSound s) (h : JobStep env accepts allows s t)
    {before after : JobRecord} (hbefore : .stored before ∈ s.journal)
    (hafter : t.job = some after) : after.identity = before.identity := by
  have hkept : t.job = s.job → after.identity = before.identity := by
    intro hjob
    exact hs.same _ _ (hs.kept after (hjob ▸ hafter)) hbefore
  cases h with
  | quiet job journal => exact hkept job
  | asked identity job journal => exact hkept job
  | created record absent state wellFormed job journal =>
    exact absurd hbefore (hs.absent absent before)
  | wrote read written held made allowed wellFormed job journal =>
    rw [job] at hafter
    cases hafter
    exact made.identity.trans (hs.same _ _ held.stored hbefore)
  | updated current written get identity publication state wellFormed job journal =>
    rw [job] at hafter
    cases hafter
    exact identity.trans (hs.same _ _ (hs.kept current get) hbefore)

/-- A step keeps the object sound when it leaves its markers sound. -/
theorem JobSound.step (hs : JobSound s) (h : JobStep env accepts allows s t)
    (hmarkers : ∀ digest marker, t.markers.get digest = some marker → marker.state = .verified →
      ∃ record, .stored record ∈ s.journal ∧ record.state = .readyVerified) : JobSound t := by
  constructor
  · intro record hr
    rcases h.shape with ⟨hjob, -⟩ | ⟨written, hjob, hjournal, -⟩
    · exact h.stored (hs.kept record (hjob ▸ hr))
    · rw [hjob] at hr
      cases hr
      simp [hjournal]
  · intro hnone record hr
    rcases h.shape with ⟨hjob, -⟩ | ⟨written, hjob, -⟩
    · rcases h.stored_cases hr with hr | ⟨hjob', -⟩
      · exact hs.absent (hjob ▸ hnone) record hr
      · rw [hnone] at hjob'
        cases hjob'
    · rw [hnone] at hjob
      cases hjob
  · intro record hr
    rcases h.stored_cases hr with hr | ⟨-, hwf⟩
    · exact hs.wellFormed record hr
    · exact hwf
  · intro a b ha hb
    rcases h.stored_cases ha with ha | ⟨ha, -⟩ <;> rcases h.stored_cases hb with hb | ⟨hb, -⟩
    · exact hs.same a b ha hb
    · exact (h.identity hs ha hb).symm
    · exact h.identity hs hb ha
    · rw [ha] at hb
      cases hb
      rfl
  · intro digest marker hget hstate
    obtain ⟨record, hr, hverified⟩ := hmarkers digest marker hget hstate
    exact ⟨record, h.stored hr, hverified⟩

/-- A step that leaves the markers alone. -/
theorem JobSound.step_same (hs : JobSound s) (h : JobStep env accepts allows s t)
    (hmarkers : t.markers = s.markers) : JobSound t :=
  hs.step h fun digest marker hget hstate => hs.verified digest marker (hmarkers ▸ hget) hstate

theorem jobSound_empty : JobSound .empty := by
  constructor
  · intro record hr
    cases hr
  · intro _ record hr
    cases hr
  · intro record hr
    cases hr
  · intro a b ha
    cases ha
  · intro digest marker hget
    cases hget

end Steps

/-! ## The discipline -/

/-- What is demanded of an operation: of a write in `s`, and of the answer of a verification. -/
def JobOp.Meets (accepts : JobRecord → VerifiedAsset → Prop)
    (allows : JobRecord → JobRecord → JobObject → Prop) : {β : Type} → JobOp β → JobObject → Prop
  | _, .put read written, s => allows read written s
  | _, .storeVerification job (.verified asset), _ => accepts job asset
  | _, _, _ => True

/-- Requests rely on the object being left alone when they wait for each other, and on the journal
growing when they do not. -/
def jobDiscipline (env : JobEnv) (accepts : JobRecord → VerifiedAsset → Prop)
    (allows : JobRecord → JobRecord → JobObject → Prop) : Discipline (jobSystem env) where
  inv := JobSound
  meets := JobOp.Meets accepts allows
  rely := fun _ => Later env
  guar := fun _ => JobStep env accepts allows
  rely_refl := fun _ => Later.refl
  rely_trans := fun _ _ _ _ => Later.trans
  guar_rely := by
    rintro r r' s t hsolo hs hstep
    refine ⟨fun hserialized => ?_, hstep.grows⟩
    have hqueued : ∀ request, JobRequest.queued env request = true := by
      intro request
      cases request <;> first | rfl | exact hserialized
    have h : (JobRequest.queued env r && JobRequest.queued env r') = false := hsolo
    rw [hqueued, hqueued] at h
    cases h
  world := fun e => nomatch e

/-- The operation asks the outside, or touches what is not the job's: the record and the journal
stay as they are. -/
def JobOp.Quiet {β : Type} (op : JobOp β) : Prop :=
  ∀ i t b u, JobOp.exec β op i t = some (b, u) → u = t

theorem JobOp.quiet_of_answer {α : Type} {op : JobOp (Result α)}
    (h : ∀ i t, ∃ b, JobOp.exec _ op i t = some (b, t)) : op.Quiet := by
  intro i t b u hx
  obtain ⟨b', hb⟩ := h i t
  rw [hb] at hx
  cases hx
  rfl

end Youtick.Bridge
