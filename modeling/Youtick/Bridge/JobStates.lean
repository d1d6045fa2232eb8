import Youtick.Bridge.JobRuns
import Youtick.Bridge.JobUploads

/-!
# Bridge: the states of a job

The records that were stored, in their order, are the history of a job. Each record of a lawful
history follows from the one before it by an edge of `JOB_STATE_TRANSITIONS`, and leaves alone what
the job is and what was published. Handlers write back copies they read earlier, so a history is
lawful when every copy is still what is stored.
-/

set_option autoImplicit false

namespace Youtick.Bridge

open Youtick.Lib

/-! ## Histories -/

def JobFact.record? : JobFact → Option JobRecord
  | .stored record => some record
  | .createUpload _ => none

/-- The records that were stored. -/
def JobObject.history (s : JobObject) : List JobRecord := s.journal.filterMap JobFact.record?

/-- What never changes from one record to any later one. -/
structure Lasting (before after : JobRecord) : Prop where
  identity : after.identity = before.identity
  final : before.state.transitions = [] → after.state = before.state
  publication : ∀ publication ∈ before.publication, after.publication = some publication

/-- What one record may follow on another. -/
structure LawfulChange (before after : JobRecord) : Prop extends Lasting before after where
  follows : before.state.Follows after.state

/-- A lawful history. -/
structure LawfulHistory (history : List JobRecord) : Prop where
  follows : history.IsChain fun before after => before.state.Follows after.state
  lasting : history.Pairwise Lasting
  verified : ∀ record ∈ history, record.state = .readyVerified → record.publication.isSome

/-! ## Changes -/

theorem JobState.Follows.final {a b : JobState} (h : a.Follows b) (ha : a.transitions = []) :
    b = a := by
  rcases h with h | h
  · exact h
  · rw [ha] at h
    exact absurd h List.not_mem_nil

theorem JobState.follows_cancelled {a : JobState} (h : a.isOpen = true) :
    a.Follows .cancelled := by
  revert h
  cases a <;> decide

theorem Lasting.trans {a b c : JobRecord} (h : Lasting a b) (h' : Lasting b c) : Lasting a c where
  identity := h'.identity.trans h.identity
  final := by
    intro ha
    have hb := h.final ha
    exact (h'.final (hb ▸ ha)).trans hb
  publication := fun publication hp => h'.publication publication (h.publication publication hp)

theorem LawfulChange.of_agrees {a b : JobRecord} (h : b.Agrees a) : LawfulChange a b where
  identity := h.identity
  final := fun _ => h.state
  publication := fun _ hp => h.publication.trans hp
  follows := .inl h.state

/-- The history of lawful changes is lawful. -/
theorem lawfulHistory_of_chain {history : List JobRecord} (h : history.IsChain LawfulChange)
    (hverified : ∀ record ∈ history, record.state = .readyVerified → record.publication.isSome) :
    LawfulHistory history where
  follows := h.imp fun _ _ hchange => hchange.follows
  lasting := by
    have : Trans Lasting Lasting Lasting := ⟨Lasting.trans⟩
    exact List.isChain_iff_pairwise.mp (h.imp fun _ _ hchange => hchange.toLasting)
  verified := hverified

/-! ## Fresh writes -/

/-- The copy that was changed is still what is stored, unless requests wait for each other. -/
def WriteFresh (env : JobEnv) (read _ : JobRecord) (s : JobObject) : Prop :=
  env.serialized = true ∨
    ∃ current ∈ s.job, current.state = read.state ∧ current.publication = read.publication

/-- A job that can still become verified and has a publication is verified again as the same. -/
def SameAnswer (job : JobRecord) (asset : VerifiedAsset) : Prop :=
  job.state.Follows .readyVerified → ∀ publication ∈ job.publication,
    job.publicationOf asset = publication

section Steps

variable {env : JobEnv} {s t : JobObject}

/-- A record made from a copy that is still what is stored. -/
theorem LawfulChange.of_wrote {read written current : JobRecord} (hagrees : current.Agrees read)
    (made : written.MadeFrom SameAnswer read) : LawfulChange current written where
  identity := made.identity.trans hagrees.identity.symm
  final := by
    intro hcurrent
    rw [hagrees.state] at hcurrent ⊢
    exact made.follows.final hcurrent
  publication := by
    intro publication hp
    rw [hagrees.publication] at hp
    rcases made.publication publication hp with hkept | ⟨hverified, asset, hsame, hwritten⟩
    · exact hkept
    · rw [hwritten, hsame (hverified ▸ made.follows) publication hp]
  follows := by
    rw [hagrees.state]
    exact made.follows

/-- A step stores at most one record, and that a lawful change of the stored one. -/
theorem JobStep.change (hs : JobSound s) (hst : JobStep env SameAnswer (WriteFresh env) s t) :
    (t.job = s.job ∧ t.history = s.history) ∨
      ∃ written, t.job = some written ∧ t.history = s.history ++ [written] ∧
        written.WellFormed ∧ ((s.job = none ∧ written.state = .authorized) ∨
          ∃ current ∈ s.job, LawfulChange current written) := by
  have hstored : ∀ written, t.journal = s.journal ++ [.stored written] →
      t.history = s.history ++ [written] := by
    intro written hjournal
    unfold JobObject.history
    rw [hjournal, List.filterMap_append]
    rfl
  cases hst with
  | quiet job journal =>
    refine .inl ⟨job, ?_⟩
    unfold JobObject.history
    rw [journal]
  | asked identity job journal =>
    refine .inl ⟨job, ?_⟩
    unfold JobObject.history
    rw [journal, List.filterMap_append]
    exact List.append_nil _
  | created record absent state wellFormed job journal =>
    exact .inr ⟨record, job, hstored record journal, wellFormed, .inl ⟨absent, state⟩⟩
  | wrote read written held made allowed wellFormed job journal =>
    refine .inr ⟨written, job, hstored written journal, wellFormed, .inr ?_⟩
    rcases allowed with hserialized | ⟨current, hcurrent, hstate, hpublication⟩
    · obtain ⟨current, hcurrent, hagrees⟩ := held.fresh hserialized
      exact ⟨current, hcurrent, .of_wrote hagrees made⟩
    · have hidentity := hs.same _ _ (hs.kept current hcurrent) held.stored
      exact ⟨current, hcurrent, .of_wrote ⟨hidentity, hstate, hpublication⟩ made⟩
  | updated current written get identity publication state wellFormed job journal =>
    refine .inr ⟨written, job, hstored written journal, wellFormed, .inr ⟨current, get, ?_⟩⟩
    rcases state with ⟨hsame, -⟩ | ⟨hopen, hcancelled⟩
    · exact .of_agrees ⟨identity, hsame, publication⟩
    · have hfollows := JobState.follows_cancelled hopen
      refine ⟨⟨identity, fun hfinal => ?_, fun _ hp => publication.trans hp⟩, ?_⟩
      · exact hcancelled.trans (hfollows.final hfinal)
      · rw [hcancelled]
        exact hfollows

/-- The history is a chain of lawful changes that ends in the stored record. -/
structure Chained (s : JobObject) : Prop where
  chain : s.history.IsChain LawfulChange
  last : s.history.getLast? = s.job
  verified : ∀ record ∈ s.history, record.state = .readyVerified → record.publication.isSome

theorem chained_empty : Chained .empty where
  chain := .nil
  last := rfl
  verified := fun _ hr => absurd hr List.not_mem_nil

theorem Chained.step (h : Chained s) (hs : JobSound s)
    (hst : JobStep env SameAnswer (WriteFresh env) s t) : Chained t := by
  rcases hst.change hs with ⟨hjob, hhistory⟩ | ⟨written, hjob, hhistory, hwf, hchange⟩
  · constructor
    · rw [hhistory]
      exact h.chain
    · rw [hhistory, hjob]
      exact h.last
    · rw [hhistory]
      exact h.verified
  · constructor
    · rw [hhistory]
      refine List.isChain_append.mpr ⟨h.chain, .singleton _, fun current hcurrent next hnext => ?_⟩
      obtain rfl : written = next := by simpa using hnext
      rw [h.last] at hcurrent
      rcases hchange with ⟨hnone, -⟩ | ⟨stored, hstored, hlawful⟩
      · rw [hnone] at hcurrent
        cases hcurrent
      · obtain rfl : stored = current := Option.mem_unique hstored hcurrent
        exact hlawful
    · rw [hhistory, hjob, List.getLast?_append_cons]
      rfl
    · intro record hr
      rw [hhistory, List.mem_append, List.mem_singleton] at hr
      rcases hr with hr | rfl
      · exact h.verified record hr
      · exact hwf.published

end Steps

/-! ## Every run -/

section Runs

variable (env : JobEnv) (tr : List (Transition (Config JobObject JobOp String JobAnswer JobRequest)
  (Event JobInput JobRequest Empty)))

/-- The run's writes all change what is stored. -/
def FreshWrites : Prop :=
  ∀ x ∈ tr, ∀ (r : JobRequest) (read written : JobRecord) (i : JobInput),
    x.pre.Executes x.label r (.put read written) i → WriteFresh env read written x.pre.shared

/-- The run's repeated verifications all find the same. -/
def SameAnswers : Prop :=
  ∀ x ∈ tr, ∀ (r : JobRequest) (job : JobRecord) (asset : VerifiedAsset) (i : JobInput),
    x.pre.Executes x.label r (.storeVerification job (.verified asset)) i → SameAnswer job asset

variable {env tr}

/-- In every run whose writes change what is stored and whose repeated verifications find the same,
the history of the job is lawful. -/
theorem job_history_lawful {c : Config JobObject JobOp String JobAnswer JobRequest}
    (h : Trace (ExecStep (jobSystem env).next) ⟨.empty, []⟩ tr c) (hfresh : FreshWrites env tr)
    (hsame : SameAnswers tr) : LawfulHistory c.shared.history := by
  obtain ⟨-, hsteps⟩ := Job.job_run _ h hfresh hsame
  have hrun := h.invariant_along (I := fun d => Chained d.shared) chained_empty
    fun x hx hpre _ => ?_
  · exact lawfulHistory_of_chain hrun.1.chain hrun.1.verified
  · obtain ⟨hs, hstep⟩ := hsteps x hx
    rcases hstep with hkept | hstep
    · rw [hkept]
      exact hpre
    · exact hpre.step hs hstep

end Runs

/-! ### Histories that are not lawful -/

/-- The intent of `cancelledRun` stores its lease over the cancelled job. -/
theorem cancelledRun_states :
    (execTrace (jobSystem (uploadEnv false)).next ⟨.empty, []⟩ cancelledRun).map
        (fun r => r.2.shared.history.map JobRecord.state)
      = some [.authorized, .cancelled, .leased, .providerCreatePending] := by
  rfl

def readyEvent (digest : String) : ProviderEvent where
  provider := .studio
  kind := .ready
  assetId := "asset"
  phase := "ready"
  failureCode := none
  streamProgress := none
  digest := digest

/-- The provider answers that the asset is ready since `readyAtMs`; the finalization fails. -/
def readyInput (readyAtMs : String) : JobInput :=
  { uploadInput with
    verification :=
      .ok (.verified ⟨"hash", "playback", "project", "9", none, readyAtMs, none, none⟩)
    finalize := .error "provider_unavailable" }

/-- The events of a webhook that is handled alone. -/
def deliver (digest readyAtMs : String) (steps : Nat) : List (Event JobInput JobRequest Empty) :=
  .start (.webhook ⟨none, fun _ => .ok (some (readyEvent digest))⟩) ::
    List.replicate steps (.run 0 (readyInput readyAtMs)) ++ [.stop 0]

/-- An upload is created, and a ready event verifies it. -/
def verifiedRun : List (Event JobInput JobRequest Empty) :=
  .start (.intent uploadIntent) :: List.replicate 17 (.run 0 uploadInput) ++
    .stop 0 :: deliver "a" "5" 14

/-- Another ready event comes before the publication is finalized. -/
def verifiedAgainRun : List (Event JobInput JobRequest Empty) := verifiedRun ++ deliver "b" "6" 8

theorem verifiedAgainRun_publications :
    (execTrace (jobSystem (uploadEnv true)).next ⟨.empty, []⟩ verifiedAgainRun).map
        (fun r => r.2.shared.history.map fun record =>
          record.publication.map FinalizePublication.readyAtMs)
      = some [none, none, none, none, some "5", some "6"] := by
  rfl

/-- A stale copy undoes a cancellation where requests do not wait for each other; and where they do,
a second ready event replaces the publication of a verified job. -/
theorem job_history_unlawful :
    (∃ tr c, Trace (ExecStep (jobSystem (uploadEnv false)).next) ⟨.empty, []⟩ tr c ∧
      ¬ LawfulHistory c.shared.history) ∧
    ∃ tr c, Trace (ExecStep (jobSystem (uploadEnv true)).next) ⟨.empty, []⟩ tr c ∧
      ¬ LawfulHistory c.shared.history := by
  constructor
  · obtain ⟨⟨tr, c⟩, hrun, hstates⟩ := Option.map_eq_some_iff.mp cancelledRun_states
    refine ⟨tr, c, trace_of_execTrace _ hrun, fun hlawful => ?_⟩
    have hchain := (List.isChain_map (R := JobState.Follows) JobRecord.state).mpr hlawful.follows
    rw [hstates] at hchain
    revert hchain
    decide
  · obtain ⟨⟨tr, c⟩, hrun, htimes⟩ := Option.map_eq_some_iff.mp verifiedAgainRun_publications
    refine ⟨tr, c, trace_of_execTrace _ hrun, fun hlawful => ?_⟩
    have hpairs : (c.shared.history.map fun record =>
        record.publication.map FinalizePublication.readyAtMs).Pairwise
          fun before after => before = none ∨ after = before := by
      refine List.pairwise_map.mpr (hlawful.lasting.imp fun {a b} hlasting => ?_)
      cases ha : a.publication with
      | none => exact .inl rfl
      | some publication => exact .inr (by rw [hlasting.publication publication ha])
    rw [htimes] at hpairs
    revert hpairs
    decide

/-- The operation stores the verification of a job that has a publication. -/
def JobOp.verifiesAgain : (β : Type) → JobOp β → Bool
  | _, .storeVerification job (.verified _) => job.publication.isSome
  | _, _ => false

theorem verifiedRun_once :
    (execTrace (jobSystem (uploadEnv true)).next ⟨.empty, []⟩ verifiedRun).map
        (fun r => (r.2.shared.history.map JobRecord.state,
          r.1.all fun x => (x.pre.operation x.label).all fun op => !JobOp.verifiesAgain _ op.2))
      = some ([.authorized, .leased, .providerCreatePending, .uploadReady, .readyVerified],
          true) := by
  rfl

theorem job_history_lawful_verified : ∃ tr c,
    Trace (ExecStep (jobSystem (uploadEnv true)).next) ⟨.empty, []⟩ tr c ∧
      c.shared.history.map JobRecord.state =
        [.authorized, .leased, .providerCreatePending, .uploadReady, .readyVerified] ∧
      LawfulHistory c.shared.history := by
  obtain ⟨⟨tr, c⟩, hrun, hchecked⟩ := Option.map_eq_some_iff.mp verifiedRun_once
  obtain ⟨hstates, hops⟩ := Prod.mk.inj hchecked
  have htrace := trace_of_execTrace _ hrun
  refine ⟨tr, c, htrace, hstates, job_history_lawful htrace ?_ ?_⟩
  · intro x hx r read written i hexec
    exact .inl rfl
  · intro x hx r job asset i hexec _ publication hp
    have hop := List.all_eq_true.mp hops x hx
    rw [hexec.operation] at hop
    change (!job.publication.isSome) = true at hop
    rw [hp] at hop
    cases hop

end Youtick.Bridge
