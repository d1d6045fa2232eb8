import Youtick.Bridge.Reconcile

/-!
# Bridge: what a reconcile record remembers

The record holds three things about the history of its job: the drift last seen, the streak of a
recovery, and the status. `Remembers` says what each of them stands for, and every step keeps it.

A drift block is left only through two healthy looks far enough apart. A suspension is queued only
after one drift was seen twice, as long as no drift is reported under its old code while the job
recovers from it: the record then still blocks under that code, and the healthy looks in between do
not break the streak.
-/

set_option autoImplicit false

namespace Youtick.Bridge.Reconcile

open Youtick.Lib

/-! ## Entries -/

namespace Entry

def isHealthy : Entry → Bool
  | .observed .healthy _ => true
  | _ => false

def isDrift : Entry → Bool
  | .observed (.drift _) _ => true
  | _ => false

def isUnknown : Entry → Bool
  | .observed .providerUnknown _ => true
  | .observed .nearUnknown _ => true
  | _ => false

def isSuspension : Entry → Bool
  | .suspensionQueued _ _ => true
  | _ => false

/-- An entry a recovery outlasts. -/
def Quiet (entry : Entry) : Prop := entry.isDrift = false ∧ entry.isUnknown = false

end Entry

/-- Two healthy looks, a confirmation time apart, with neither a drift nor an unknown between
them. -/
def Recovered (history : List Entry) : Prop :=
  ∃ newer second between first older,
    history = newer ++ .observed .healthy second :: (between ++ .observed .healthy first :: older) ∧
      first + confirmationMs ≤ second ∧ ∀ entry ∈ between, entry.Quiet

/-- The drift of a suspension queued on top of `older` was seen before, a confirmation time ago,
and no look was healthy since. -/
def RepeatedDrift (code : String) (atMs : Nat) (older : List Entry) : Prop :=
  ∃ between first earlier,
    older = .observed (.drift code) atMs ::
        (between ++ .observed (.drift code) first :: earlier) ∧
      first + confirmationMs ≤ atMs ∧ ∀ entry ∈ between, entry.isHealthy = false

theorem Recovered.cons {history : List Entry} (h : Recovered history) (entry : Entry) :
    Recovered (entry :: history) := by
  obtain ⟨newer, second, between, first, older, rfl, hspan, hquiet⟩ := h
  exact ⟨entry :: newer, second, between, first, older, rfl, hspan, hquiet⟩

/-! ## What the record stands for -/

/-- A healthy look at this time, and nothing loud since. -/
def RecoversSince (atMs : Nat) (history : List Entry) : Prop :=
  Since (· = Entry.observed .healthy atMs) Entry.Quiet history

/-- This drift, first seen at its time, and no healthy look since. -/
def DriftsSince (drift : Drift) (history : List Entry) : Prop :=
  Since (· = Entry.observed (.drift drift.code) drift.firstObservedAtMs)
    (fun entry => entry.isHealthy = false) history

/-- What a record with this status, drift and streak remembers of a history. -/
structure Remembers (status : Status) (lastDrift : Option Drift)
    (recovery : Option RecoveryStreak) (suspended : Bool) (history : List Entry) : Prop where
  drifted : ∀ entry ∈ history, entry.isDrift = true → lastDrift.isSome = true
  streak : ∀ streak, recovery = some streak →
    1 ≤ streak.observations ∧ RecoversSince streak.firstObservedAtMs history
  blocked : status = .driftBlocked → recovery = none → ∀ drift, lastDrift = some drift →
    DriftsSince drift history
  recovered : status = .healthy → ∀ newer entry older, history = newer ++ entry :: older →
    entry.isDrift = true → Recovered newer
  repeated : ∀ newer code atMs older,
    history = newer ++ .suspensionQueued code atMs :: older → RepeatedDrift code atMs older
  once : history.countP Entry.isSuspension ≤ 1 ∧
    (suspended = false → history.countP Entry.isSuspension = 0)

namespace Remembers

variable {status : Status} {lastDrift : Option Drift} {recovery : Option RecoveryStreak}
variable {suspended : Bool} {history : List Entry}

/-- A suspension in a history with one more entry, which is not one, was there before. -/
theorem repeated_cons {entry : Entry} (h : ∀ newer code atMs older,
      history = newer ++ .suspensionQueued code atMs :: older → RepeatedDrift code atMs older)
    (hentry : entry.isSuspension = false) (newer : List Entry) (code : String) (atMs : Nat)
    (older : List Entry) (heq : entry :: history = newer ++ .suspensionQueued code atMs :: older) :
    RepeatedDrift code atMs older := by
  cases newer with
  | nil =>
    obtain ⟨rfl, -⟩ := List.cons.inj heq
    simp [Entry.isSuspension] at hentry
  | cons x newer =>
    obtain ⟨-, heq⟩ := List.cons.inj heq
    exact h newer code atMs older heq

theorem once_cons {entry : Entry} (h : history.countP Entry.isSuspension ≤ 1 ∧
      (suspended = false → history.countP Entry.isSuspension = 0))
    (hentry : entry.isSuspension = false) :
    (entry :: history).countP Entry.isSuspension ≤ 1 ∧
      (suspended = false → (entry :: history).countP Entry.isSuspension = 0) := by
  simpa [hentry] using h

/-- A look that finds nothing out: the streak is forgotten. -/
theorem unknown (h : Remembers status lastDrift recovery suspended history) {next : Status}
    {entry : Entry} (hnext : next ≠ .healthy) (hnext' : next ≠ .driftBlocked)
    (hdrift : entry.isDrift = false) (hentry : entry.isSuspension = false) :
    Remembers next lastDrift none suspended (entry :: history) := by
  constructor
  · intro x hx hxdrift
    rcases List.mem_cons.mp hx with rfl | hx
    · simp [hdrift] at hxdrift
    · exact h.drifted x hx hxdrift
  · rintro streak ⟨⟩
  · intro hblocked
    exact absurd hblocked hnext'
  · intro hhealthy
    exact absurd hhealthy hnext
  · exact repeated_cons h.repeated hentry
  · exact once_cons h.once hentry

/-- A look that is still verifying: the streak goes on. -/
theorem verifying (h : Remembers status lastDrift recovery suspended history) {entry : Entry}
    (hquiet : entry.Quiet) (hentry : entry.isSuspension = false) :
    Remembers .providerUnknown lastDrift recovery suspended (entry :: history) := by
  constructor
  · intro x hx hxdrift
    rcases List.mem_cons.mp hx with rfl | hx
    · simp [hquiet.1] at hxdrift
    · exact h.drifted x hx hxdrift
  · intro streak hstreak
    obtain ⟨hobservations, hsince⟩ := h.streak streak hstreak
    exact ⟨hobservations, hsince.cons hquiet⟩
  · rintro ⟨⟩
  · rintro ⟨⟩
  · exact repeated_cons h.repeated hentry
  · exact once_cons h.once hentry

/-- A drift under a new code, or after the record stopped blocking. -/
theorem fresh (h : Remembers status lastDrift recovery suspended history) (code : String)
    (nowMs : Nat) :
    Remembers .driftBlocked (some ⟨code, nowMs, nowMs, 1⟩) none suspended
      (.observed (.drift code) nowMs :: history) := by
  constructor
  · intro x hx hxdrift
    rfl
  · rintro streak ⟨⟩
  · rintro - - drift ⟨⟩
    exact Since.here rfl
  · rintro ⟨⟩
  · exact repeated_cons h.repeated rfl
  · exact once_cons h.once rfl

/-- The same drift again, while the record blocks under it and is not in recovery. -/
theorem again {drift : Drift} (h : Remembers .driftBlocked (some drift) none suspended history)
    (nowMs lastMs observations : Nat) :
    Remembers .driftBlocked (some ⟨drift.code, drift.firstObservedAtMs, lastMs, observations⟩) none
      suspended (.observed (.drift drift.code) nowMs :: history) := by
  constructor
  · intro x hx hxdrift
    rfl
  · rintro streak ⟨⟩
  · rintro - - - ⟨⟩
    exact (h.blocked rfl rfl drift rfl).cons rfl
  · rintro ⟨⟩
  · exact repeated_cons h.repeated rfl
  · exact once_cons h.once rfl

/-- A first suspension, queued on top of a drift that was seen before. -/
theorem queue {entry : Entry} {code : String} {atMs : Nat}
    (h : Remembers .driftBlocked lastDrift none false (entry :: history))
    (hlast : lastDrift.isSome = true)
    (hrepeated : RepeatedDrift code atMs (entry :: history)) :
    Remembers .driftBlocked lastDrift none true
      (.suspensionQueued code atMs :: entry :: history) := by
  constructor
  · intro x _ _
    exact hlast
  · rintro streak ⟨⟩
  · intro _ _ drift hdrift
    exact (h.blocked rfl rfl drift hdrift).cons rfl
  · rintro ⟨⟩
  · intro newer code' atMs' older heq
    cases newer with
    | nil =>
      obtain ⟨hhead, rfl⟩ := List.cons.inj heq
      obtain ⟨rfl, rfl⟩ := Entry.suspensionQueued.inj hhead
      exact hrepeated
    | cons x newer =>
      obtain ⟨-, heq⟩ := List.cons.inj heq
      exact h.repeated newer code' atMs' older heq
  · have hcount := h.once.2 rfl
    constructor
    · rw [List.countP_cons, hcount]
      simp [Entry.isSuspension]
    · rintro ⟨⟩

/-- A healthy look that does not end the recovery yet. -/
theorem recover (h : Remembers status lastDrift recovery suspended history) (nowMs : Nat) :
    Remembers .driftBlocked lastDrift
      (some ⟨(recovery.getD ⟨nowMs, 0⟩).firstObservedAtMs,
        (recovery.getD ⟨nowMs, 0⟩).observations + 1⟩)
      suspended (.observed .healthy nowMs :: history) := by
  have hquiet : (Entry.observed .healthy nowMs).Quiet := ⟨rfl, rfl⟩
  constructor
  · intro x hx hxdrift
    rcases List.mem_cons.mp hx with rfl | hx
    · simp [Entry.isDrift] at hxdrift
    · exact h.drifted x hx hxdrift
  · rintro streak ⟨⟩
    refine ⟨Nat.le_add_left 1 _, ?_⟩
    cases recovery with
    | none => exact Since.here rfl
    | some streak => exact (h.streak streak rfl).2.cons hquiet
  · rintro - ⟨⟩
  · rintro ⟨⟩
  · exact repeated_cons h.repeated rfl
  · exact once_cons h.once rfl

/-- A healthy look on a job that need not recover, or the second one of a recovery. -/
theorem heal (h : Remembers status lastDrift recovery suspended history) (nowMs : Nat)
    (hdone : (lastDrift.isSome = true → status = .healthy) ∨
      ∃ streak, recovery = some streak ∧ streak.firstObservedAtMs + confirmationMs ≤ nowMs) :
    Remembers .healthy lastDrift none suspended (.observed .healthy nowMs :: history) := by
  constructor
  · intro x hx hxdrift
    rcases List.mem_cons.mp hx with rfl | hx
    · simp [Entry.isDrift] at hxdrift
    · exact h.drifted x hx hxdrift
  · rintro streak ⟨⟩
  · rintro ⟨⟩
  · rintro - newer entry older heq hentry
    cases newer with
    | nil =>
      obtain ⟨rfl, -⟩ := List.cons.inj heq
      simp [Entry.isDrift] at hentry
    | cons x newer =>
      obtain ⟨rfl, rfl⟩ := List.cons.inj heq
      rcases hdone with hhealthy | ⟨streak, hstreak, hspan⟩
      · -- the record was healthy with this drift in its history already
        have hlast := h.drifted entry (by simp) hentry
        exact (h.recovered (hhealthy hlast) newer entry older rfl hentry).cons _
      · -- the first look of the streak is newer than the drift
        have hsince : RecoversSince streak.firstObservedAtMs newer := by
          apply Since.within (h.streak streak hstreak).2
          · rintro rfl
            simp [Entry.isDrift] at hentry
          · rintro ⟨hquiet, -⟩
            simp [hquiet] at hentry
        obtain ⟨between, first, rest, rfl, rfl, hbetween⟩ := hsince
        exact ⟨[], nowMs, between, streak.firstObservedAtMs, rest, rfl, hspan, hbetween⟩
  · exact repeated_cons h.repeated rfl
  · exact once_cons h.once rfl

end Remembers

/-! ## One step -/

variable {env : JobEnv} {object : PublishedJob}

/-- What the record of an object remembers of its history. -/
def PublishedJob.Sound (object : PublishedJob) : Prop :=
  Remembers (statusOf object.reconcile) (object.reconcile.bind Record.lastDrift)
    (object.reconcile.bind Record.recovery) object.suspension.isSome object.history

/-- The record blocks under this code while the job recovers from it. -/
def PublishedJob.RecoversFrom (object : PublishedJob) (code : String) : Prop :=
  statusOf object.reconcile = .driftBlocked ∧ (object.reconcile.bind Record.recovery).isSome ∧
    ∃ drift, object.reconcile.bind Record.lastDrift = some drift ∧ drift.code = code

theorem repeatedDrift_eq_some {previous : Option Record} {code : String} {drift : Drift}
    (h : repeatedDrift previous code = some drift) :
    statusOf previous = .driftBlocked ∧ previous.bind Record.lastDrift = some drift ∧
      drift.code = code := by
  unfold repeatedDrift at h
  split at h
  · rename_i hstatus
    obtain ⟨hdrift, hcode⟩ := Option.filter_eq_some_iff.mp h
    exact ⟨hstatus, hdrift, by simpa using hcode⟩
  · cases h

/-- A drift that counts as seen twice was in the record. -/
theorem repeated_of_confirmed {previous : Option Record} {code : String} {nowMs : Nat}
    (h : (driftSeen previous code nowMs).confirmed nowMs = true) :
    ∃ drift, repeatedDrift previous code = some drift ∧
      drift.firstObservedAtMs + confirmationMs ≤ nowMs := by
  cases hrepeated : repeatedDrift previous code with
  | none => simp [driftSeen, hrepeated, Drift.confirmed] at h
  | some drift =>
    refine ⟨drift, rfl, ?_⟩
    simp [driftSeen, hrepeated, Drift.confirmed] at h
    exact h.2

@[simp] theorem processSalesSuspension_reconcile (suspended : Bool) :
    (object.processSalesSuspension env suspended).reconcile = object.reconcile := by
  unfold PublishedJob.processSalesSuspension
  split <;> rfl

@[simp] theorem processSalesSuspension_history (suspended : Bool) :
    (object.processSalesSuspension env suspended).history = object.history := by
  unfold PublishedJob.processSalesSuspension
  split <;> rfl

@[simp] theorem processSalesSuspension_suspension (suspended : Bool) :
    (object.processSalesSuspension env suspended).suspension.isSome = object.suspension.isSome := by
  unfold PublishedJob.processSalesSuspension
  split <;> simp

namespace PublishedJob.Sound

theorem verify (h : object.Sound) (answers : Answers) : (object.verify env answers).Sound := by
  simpa [PublishedJob.Sound, PublishedJob.verify] using h

/-- Seeing a drift, before a suspension is thought of. -/
theorem seen (h : object.Sound) {code : String} (hcode : ¬ object.RecoversFrom code)
    (nowMs : Nat) :
    Remembers .driftBlocked (some (driftSeen object.reconcile code nowMs)) none
      object.suspension.isSome (.observed (.drift code) nowMs :: object.history) := by
  cases hrepeated : repeatedDrift object.reconcile code with
  | none =>
    simp only [driftSeen, hrepeated]
    exact Remembers.fresh h code nowMs
  | some drift =>
    obtain ⟨hstatus, hdrift, rfl⟩ := repeatedDrift_eq_some hrepeated
    have hrecovery : object.reconcile.bind Record.recovery = none := by
      by_contra hsome
      exact hcode ⟨hstatus, Option.isSome_iff_ne_none.mpr hsome, drift, hdrift, rfl⟩
    unfold PublishedJob.Sound at h
    rw [hstatus, hdrift, hrecovery] at h
    simp only [driftSeen, hrepeated]
    exact Remembers.again h nowMs nowMs _

/-- A drift that counts as seen twice was seen before, with nothing healthy since. -/
theorem repeatedDrift (h : object.Sound) {code : String} (hcode : ¬ object.RecoversFrom code)
    {nowMs : Nat} (hconfirmed : (driftSeen object.reconcile code nowMs).confirmed nowMs = true) :
    RepeatedDrift code nowMs (.observed (.drift code) nowMs :: object.history) := by
  obtain ⟨drift, hrepeated, hspan⟩ := repeated_of_confirmed hconfirmed
  obtain ⟨hstatus, hdrift, rfl⟩ := repeatedDrift_eq_some hrepeated
  have hrecovery : object.reconcile.bind Record.recovery = none := by
    by_contra hsome
    exact hcode ⟨hstatus, Option.isSome_iff_ne_none.mpr hsome, drift, hdrift, rfl⟩
  obtain ⟨between, entry, earlier, heq, rfl, hbetween⟩ := h.blocked hstatus hrecovery drift hdrift
  exact ⟨between, drift.firstObservedAtMs, earlier, by rw [heq], hspan, hbetween⟩

/-- The drift, with the suspension it may queue. -/
theorem queueDrift (h : object.Sound) {code : String} (hcode : ¬ object.RecoversFrom code)
    (nowMs : Nat) :
    Remembers .driftBlocked (some (driftSeen object.reconcile code nowMs)) none
      (object.queueDrift env code nowMs).suspension.isSome
      (object.queueDrift env code nowMs).history := by
  have hseen := h.seen hcode nowMs
  unfold PublishedJob.queueDrift
  split
  · rename_i hqueues
    have hconfirmed : (driftSeen object.reconcile code nowMs).confirmed nowMs = true := by
      simp only [PublishedJob.queues, Bool.and_eq_true] at hqueues
      exact hqueues.1.1
    unfold PublishedJob.enqueueSalesSuspension
    cases hsuspension : object.suspension with
    | some record =>
      rw [hsuspension] at hseen
      simpa [PublishedJob.observe, hsuspension] using hseen
    | none =>
      rw [hsuspension] at hseen
      simpa [PublishedJob.observe, hsuspension] using
        hseen.queue rfl (h.repeatedDrift hcode hconfirmed)
  · exact hseen

theorem persistDrift (h : object.Sound) {code : String} (hcode : ¬ object.RecoversFrom code)
    (suspended : Bool) (nowMs : Nat) :
    (object.persistDrift env code suspended nowMs).Sound := by
  have hqueued : Remembers _ _ _ (object.queueDrift env code nowMs).suspension.isSome _ :=
    h.queueDrift hcode nowMs
  unfold PublishedJob.Sound PublishedJob.persistDrift
  split
  · simpa [PublishedJob.store, statusOf, driftRecord] using hqueued
  · simpa [PublishedJob.store, statusOf, driftRecord] using hqueued

/-- A drift cut short has queued a suspension for the drift the record holds, or left nothing. -/
theorem interruptDrift (h : object.Sound) {code : String} (hcode : ¬ object.RecoversFrom code)
    (nowMs : Nat) : (object.interruptDrift env code nowMs).Sound := by
  unfold PublishedJob.interruptDrift
  split
  · rename_i hqueues
    obtain ⟨hqueues, hsuspension⟩ := hqueues
    have hconfirmed : (driftSeen object.reconcile code nowMs).confirmed nowMs = true := by
      simp only [PublishedJob.queues, Bool.and_eq_true] at hqueues
      exact hqueues.1.1
    have hrepeated := h.repeatedDrift hcode hconfirmed
    obtain ⟨drift, hsame, -⟩ := repeated_of_confirmed hconfirmed
    obtain ⟨hstatus, hdrift, rfl⟩ := repeatedDrift_eq_some hsame
    have hrecovery : object.reconcile.bind Record.recovery = none := by
      by_contra hsome
      exact hcode ⟨hstatus, Option.isSome_iff_ne_none.mpr hsome, drift, hdrift, rfl⟩
    have hblocked : Remembers .driftBlocked (some drift) none false object.history := by
      unfold PublishedJob.Sound at h
      rwa [hstatus, hdrift, hrecovery, hsuspension] at h
    -- the record itself is still the old one
    have hagain : Remembers .driftBlocked (some drift) none false
        (.observed (.drift drift.code) nowMs :: object.history) :=
      Remembers.again hblocked nowMs drift.lastObservedAtMs drift.observations
    have hqueued := hagain.queue rfl hrepeated
    unfold PublishedJob.Sound PublishedJob.queueDrift
    rw [if_pos hqueues]
    simpa [PublishedJob.enqueueSalesSuspension, PublishedJob.observe, hsuspension, hstatus, hdrift,
      hrecovery] using hqueued
  · exact h

theorem persistHealthy (h : object.Sound) (nowMs : Nat) :
    ((object.observe .healthy nowMs).store (healthyRecord object.reconcile nowMs)).Sound := by
  unfold PublishedJob.Sound healthyRecord
  split
  · simpa [PublishedJob.store, PublishedJob.observe, statusOf, nextRecovery] using
      Remembers.recover h nowMs
  · rename_i hdone
    have hhealed : ((object.reconcile.bind Record.lastDrift).isSome = true →
          statusOf object.reconcile = .healthy) ∨
        ∃ streak, object.reconcile.bind Record.recovery = some streak ∧
          streak.firstObservedAtMs + confirmationMs ≤ nowMs := by
      by_cases hrecovering : recovering object.reconcile = true
      · right
        have hlong := not_or.mp fun hshort => hdone ⟨hrecovering, hshort⟩
        cases hrecovery : object.reconcile.bind Record.recovery with
        | none => simp [nextRecovery, hrecovery] at hlong
        | some streak =>
          refine ⟨streak, rfl, ?_⟩
          simpa [nextRecovery, hrecovery] using hlong.2
      · left
        intro hlast
        by_contra hother
        exact hrecovering (by simp [recovering, hlast, hother])
    simpa [PublishedJob.store, PublishedJob.observe, statusOf] using
      Remembers.heal h nowMs hhealed

theorem persistUnknown (h : object.Sound) {found : Observation} {status : Status}
    (hstatus : status = .providerUnknown ∨ status = .nearUnknown)
    (hfound : (Entry.observed found 0).isDrift = false) (nowMs : Nat) :
    ((object.observe found nowMs).store (unknownRecord object.reconcile status nowMs)).Sound := by
  have hhealthy : status ≠ .healthy := by
    rintro rfl
    simp at hstatus
  have hblocked : status ≠ .driftBlocked := by
    rintro rfl
    simp at hstatus
  have hdrift : (Entry.observed found nowMs).isDrift = false := by
    cases found <;> simp_all [Entry.isDrift]
  exact Remembers.unknown h hhealthy hblocked hdrift rfl

/-- Whatever an alarm finds. -/
theorem persist (h : object.Sound) {found : Observation}
    (hfound : ∀ code, found = .drift code → ¬ object.RecoversFrom code) (suspended : Bool)
    (nowMs : Nat) : (object.persist env found suspended nowMs).Sound := by
  cases found with
  | healthy => exact h.persistHealthy nowMs
  | drift code => exact h.persistDrift (hfound code rfl) suspended nowMs
  | providerUnknown => exact h.persistUnknown (.inl rfl) rfl nowMs
  | nearUnknown => exact h.persistUnknown (.inr rfl) rfl nowMs
  | verifying checkpoint retryAfterMs => exact Remembers.verifying h ⟨rfl, rfl⟩ rfl

theorem interrupt (h : object.Sound) {found : Observation}
    (hfound : ∀ code, found = .drift code → ¬ object.RecoversFrom code) (nowMs : Nat) :
    (object.interrupt env found nowMs).Sound := by
  cases found with
  | drift code => exact h.interruptDrift (hfound code rfl) nowMs
  | healthy => exact h
  | providerUnknown => exact h
  | nearUnknown => exact h
  | verifying checkpoint retryAfterMs => exact h

end PublishedJob.Sound

/-! ## Runs -/

/-- What this label observes of the job, if it looks at it. -/
def Label.found (env : JobEnv) (object : PublishedJob) : Label → Option Observation
  | .alarm answers _ => some (observation env object.job answers)
  | .interrupted answers _ => some (observation env object.job answers)
  | _ => none

/-- No drift is reported under a code the job is just recovering from. -/
def Label.Separate (env : JobEnv) (object : PublishedJob) (label : Label) : Prop :=
  ∀ code, label.found env object = some (.drift code) → ¬ object.RecoversFrom code

theorem PublishedJob.Sound.issuePlaybackToken (h : object.Sound) (request : PlaybackRequest)
    (answers : PlaybackAnswers) (nowMs : Nat) :
    (issuePlaybackToken env object request answers nowMs).2.Sound := by
  unfold Reconcile.issuePlaybackToken
  split
  · exact h
  · split
    · exact h
    · exact h

theorem PublishedJob.Sound.step (h : object.Sound) {label : Label}
    (hlabel : label.Separate env object) : (exec env object label).Sound := by
  cases label with
  | alarm answers nowMs =>
    apply (h.verify answers).persist
    intro code hcode hrecovers
    exact hlabel code (congrArg some hcode) (by simpa [PublishedJob.RecoversFrom,
      PublishedJob.verify] using hrecovers)
  | interrupted answers nowMs =>
    apply (h.verify answers).interrupt
    intro code hcode hrecovers
    exact hlabel code (congrArg some hcode) (by simpa [PublishedJob.RecoversFrom,
      PublishedJob.verify] using hrecovers)
  | scheduled nowMs =>
    unfold PublishedJob.Sound at h ⊢
    cases hreconcile : object.reconcile with
    | none => simpa [exec, PublishedJob.store, scheduledRecord, hreconcile, statusOf] using h
    | some record => simpa [exec, PublishedJob.store, scheduledRecord, hreconcile] using h
  | uploadVerified =>
    unfold PublishedJob.Sound at h ⊢
    cases hreconcile : object.reconcile with
    | none => simpa [exec, uploadVerifiedRecord, hreconcile, statusOf] using h
    | some record => simpa [exec, uploadVerifiedRecord, hreconcile, statusOf] using h
  | playback request answers nowMs => exact h.issuePlaybackToken request answers nowMs

/-- A published job nothing was observed of yet: its record, if there is one, is the upload's. -/
structure PublishedJob.Unobserved (object : PublishedJob) : Prop where
  history : object.history = []
  lastDrift : object.reconcile.bind Record.lastDrift = none
  recovery : object.reconcile.bind Record.recovery = none
  suspension : object.suspension = none

theorem PublishedJob.Unobserved.sound (h : object.Unobserved) : object.Sound := by
  unfold PublishedJob.Sound
  rw [h.history, h.lastDrift, h.recovery, h.suspension]
  constructor
  · simp
  · rintro streak ⟨⟩
  · rintro - - drift ⟨⟩
  · intro _ newer entry older heq
    simp at heq
  · intro newer code atMs older heq
    simp at heq
  · simp

theorem sound_of_trace {start final : PublishedJob} {tr : List (Transition PublishedJob Label)}
    (hstart : start.Unobserved) (h : Trace (Step env) start tr final)
    (hseparate : ∀ x ∈ tr, x.label.Separate env x.pre) : final.Sound := by
  refine (h.invariant_along hstart.sound ?_).1
  intro x hx hpre hstep
  have hpost : exec env x.pre x.label = x.post := Option.some.inj hstep
  rw [← hpost]
  exact hpre.step (hseparate x hx)

/-- A record that is not healthy lets nobody play. -/
theorem playback_denied (hstatus : statusOf object.reconcile ≠ .healthy)
    (request : PlaybackRequest) (answers : PlaybackAnswers) (nowMs : Nat) :
    issuePlaybackToken env object request answers nowMs = (.error "playback_denied", object) := by
  have hplayable : object.playable request = false := by
    cases hreconcile : object.reconcile with
    | none => simp [PublishedJob.playable, hreconcile]
    | some record =>
      have hrecord : record.status ≠ .healthy := by simpa [hreconcile, statusOf] using hstatus
      simp [PublishedJob.playable, hreconcile, hrecord]
  simp [issuePlaybackToken, hplayable]

/-- What the looks at a published job come to. -/
structure Hysteresis (env : JobEnv) (object : PublishedJob) : Prop where
  /-- After a drift the status is healthy again only once the job recovered. -/
  recovered : ∀ newer drift older, object.history = newer ++ drift :: older →
    drift.isDrift = true → statusOf object.reconcile = .healthy → Recovered newer
  /-- A suspension is queued only for a drift that was seen before. -/
  repeated : ∀ newer code atMs older,
    object.history = newer ++ .suspensionQueued code atMs :: older → RepeatedDrift code atMs older
  once : object.history.countP Entry.isSuspension ≤ 1
  /-- A job that is not healthy is not played. -/
  denied : statusOf object.reconcile ≠ .healthy → ∀ request answers nowMs,
    issuePlaybackToken env object request answers nowMs = (.error "playback_denied", object)

/-- Every run that reports no drift under a code the job is just recovering from. -/
theorem reconcile_hysteresis {start final : PublishedJob}
    {tr : List (Transition PublishedJob Label)} (hstart : start.Unobserved)
    (h : Trace (Step env) start tr final)
    (hseparate : ∀ x ∈ tr, x.label.Separate env x.pre) : Hysteresis env final := by
  have hsound := sound_of_trace hstart h hseparate
  constructor
  · intro newer drift older heq hdrift hstatus
    exact hsound.recovered hstatus newer drift older heq hdrift
  · exact hsound.repeated
  · exact hsound.once.1
  · exact playback_denied

/-! ## Two runs -/

/-- A deployment, a job on its chain, and what an alarm can find of it. -/
def reconcileEnv : JobEnv where
  publicTestnet := true
  publicBetaPacket := false
  marketV2 := true
  bridgeEnabled := true
  newUploadsEnabled := true
  providerMutationsEnabled := true
  archiveEnabled := false
  validConfig := fun _ => true
  operatorJobAllowed := fun _ _ => true
  archivable := fun _ => false
  streamStuckTimeoutMs := none
  sha256 := id

def reconcileAsset : VerifiedAsset := ⟨"asset-hash", "playback", "project-hash", "9", none, "5", none, none⟩

def reconcileIdentity : JobIdentity :=
  ⟨"testnet", "market", "job", 1, "alice", "9", none, "video", "paid", "config"⟩

def publishedRecord : JobRecord where
  identity := reconcileIdentity
  state := .onchainPublished
  createdAtMs := 1
  stateChangedAtMs := some 5
  terminalAtMs := none
  provider := none
  apiTokenName := none
  leaseId := none
  leaseExpiresAtMs := none
  assetId := some "asset"
  playbackId := some "playback"
  projectId := some "project"
  tusEndpoint := none
  publication := some ⟨"job", 1, "alice", "9", "paid", "config", "asset-hash", "playback",
    "project-hash", "9", none, "5"⟩
  providerVerification := none
  sourceBytesEvidence := none
  streamProgress := none
  finalizeRetry := none
  providerCreate := none
  terminalArchive := none
  absoluteDeadlineAtMs := none
  providerDelete := none

def publishedJob : PublishedJob := ⟨publishedRecord, .empty, none, none, []⟩

theorem publishedJob_unobserved : publishedJob.Unobserved := ⟨rfl, rfl, rfl, rfl⟩

/-- The provider serves the video without a token. -/
def exposedAnswers : Answers where
  verification := .error "provider_playback_exposed"
  publication := .ok none
  suspendedBefore := false
  suspendedAfter := false

def healthyAnswers : Answers where
  verification := .ok (.inl reconcileAsset)
  publication := .ok (publishedRecord.publication.map fun submission =>
    ⟨submission, "ACTIVE", "ACTIVE"⟩)
  suspendedBefore := false
  suspendedAfter := false

/-- A drift seen twice suspends the sales; two healthy looks lift the block. -/
def recoveredRun : List Label :=
  [ .alarm exposedAnswers 1000, .alarm exposedAnswers 61000, .alarm healthyAnswers 121000,
    .alarm healthyAnswers 181000 ]

/-- A healthy look stands between the two drifts. -/
def relapsedRun : List Label :=
  [.alarm exposedAnswers 1000, .alarm healthyAnswers 61000, .alarm exposedAnswers 121000]

def Observation.code : Observation → Option String
  | .drift code => some code
  | _ => none

instance (code : String) : Decidable (object.RecoversFrom code) :=
  inferInstanceAs (Decidable (_ ∧ _ ∧ ∃ drift, _ = some drift ∧ _))

instance (label : Label) : Decidable (label.Separate env object) :=
  decidable_of_iff
    (∀ code ∈ (label.found env object).bind Observation.code, ¬ object.RecoversFrom code) <| by
    unfold Label.Separate
    constructor
    · intro h code hcode
      exact h code (by simp [hcode, Observation.code])
    · intro h code hcode
      obtain ⟨found, hfound, hdrift⟩ := Option.bind_eq_some_iff.mp (Option.mem_def.mp hcode)
      cases found <;> simp_all [Observation.code]

theorem recoveredRun_states :
    (execTrace (fun object label => some (exec reconcileEnv object label)) publishedJob
        recoveredRun).map (fun r =>
          (r.1.all fun x => decide (x.label.Separate reconcileEnv x.pre), statusOf r.2.reconcile,
            r.2.history.countP Entry.isSuspension))
      = some (true, .healthy, 1) := by
  decide +kernel

theorem reconcile_hysteresis_recovered : ∃ tr final,
    Trace (Step reconcileEnv) publishedJob tr final ∧ statusOf final.reconcile = .healthy ∧
      final.history.countP Entry.isSuspension = 1 ∧ Hysteresis reconcileEnv final := by
  obtain ⟨⟨tr, final⟩, hrun, hfacts⟩ := Option.map_eq_some_iff.mp recoveredRun_states
  obtain ⟨hseparate, hstatus, hcount⟩ : _ ∧ _ ∧ _ := by simpa using hfacts
  have htrace : Trace (Step reconcileEnv) publishedJob tr final := trace_of_execTrace _ hrun
  have hhysteresis : Hysteresis reconcileEnv final := by
    apply reconcile_hysteresis publishedJob_unobserved htrace
    intro x hx
    exact hseparate x hx
  exact ⟨tr, final, htrace, hstatus, hcount, hhysteresis⟩

theorem relapsedRun_history :
    (execTrace (fun object label => some (exec reconcileEnv object label)) publishedJob
        relapsedRun).map (fun r => r.2.history)
      = some [ .suspensionQueued "provider_playback_exposed" 121000,
          .observed (.drift "provider_playback_exposed") 121000, .observed .healthy 61000,
          .observed (.drift "provider_playback_exposed") 1000 ] := by
  decide +kernel

/-- A drift that comes back while the job recovers from it suspends the sales, though the job was
seen healthy in between. -/
theorem suspended_after_healthy : ∃ tr final,
    Trace (Step reconcileEnv) publishedJob tr final ∧ ¬ Hysteresis reconcileEnv final := by
  obtain ⟨⟨tr, final⟩, hrun, hhistory⟩ := Option.map_eq_some_iff.mp relapsedRun_history
  refine ⟨tr, final, trace_of_execTrace _ hrun, fun hhysteresis => ?_⟩
  obtain ⟨between, first, earlier, heq, -, hbetween⟩ := hhysteresis.repeated [] _ _ _ hhistory
  obtain ⟨-, heq⟩ := List.cons.inj heq
  cases between with
  | nil =>
    obtain ⟨hhead, -⟩ := List.cons.inj heq
    cases hhead
  | cons entry between =>
    obtain ⟨rfl, -⟩ := List.cons.inj heq
    have hhealthy := hbetween (.observed .healthy 61000) (by simp)
    cases hhealthy

end Youtick.Bridge.Reconcile
