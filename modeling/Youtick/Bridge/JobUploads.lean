import Youtick.Lib.Obligations
import Youtick.Bridge.JobRuns
import Youtick.Bridge.JobUses

/-!
# Bridge: one upload is created

A request marks the record as `PROVIDER_CREATE_PENDING` before it asks the provider for an upload:
every request for an upload is paid for by a mark of the same request. The marks are counted in the
journal. A record is marked only over a job that is still open, and then the job is open no more,
so a second mark needs a write from a stale copy.
-/

set_option autoImplicit false

namespace Youtick.Bridge

open Youtick.Lib

/-! ## Marks -/

/-- The record is stored as `PROVIDER_CREATE_PENDING`. -/
def JobFact.marks : JobFact → Bool
  | .stored record => record.state == .providerCreatePending
  | .createUpload _ => false

/-- The provider is asked for an upload. -/
def JobFact.creates : JobFact → Bool
  | .stored _ => false
  | .createUpload _ => true

/-- The record is stored as `CANCELLED`. -/
def JobFact.cancels : JobFact → Bool
  | .stored record => record.state == .cancelled
  | .createUpload _ => false

/-- How often the record was marked. -/
def JobObject.marked (s : JobObject) : Nat := s.journal.countP JobFact.marks

/-- How often the provider was asked for an upload. -/
def JobObject.created (s : JobObject) : Nat := s.journal.countP JobFact.creates

def JobOp.marks : (β : Type) → JobOp β → Bool
  | _, .put _ written => written.state == .providerCreatePending
  | _, _ => false

def JobOp.creates : (β : Type) → JobOp β → Bool
  | _, .createUpload _ => true
  | _, _ => false

/-- At most one upload is asked for, and none after the job was cancelled. -/
structure CreatedOnce (s : JobObject) : Prop where
  once : s.created ≤ 1
  notCancelled : s.journal.Pairwise fun a b => a.cancels = true → b.creates = false

/-! ## Credits -/

/-- A program that earns the credit of every upload it asks for. -/
def Paid {τ : Type} (p : JobHandler τ) : Prop := p.Funded JobOp.marks JobOp.creates 0

theorem closed_paid : Closed Paid where
  plain := by
    intro τ p hp
    refine Handler.funded_of_uses (hp.mono fun op hop => ?_)
    cases op <;> first | rfl | exact hop.elim
  bind := fun hp hf => hp.bind hf
  rescue := fun hp hh => hp.rescue hh

theorem paid_verifyEvent {env : JobEnv} (event : ProviderEvent) (existing : JobRecord) :
    Paid (verifyEvent env event existing) := by
  unfold verifyEvent
  refine closed_paid.bind ⟨fun hs => (nomatch hs), fun _ => trivial, trivial⟩ fun seen => ?_
  split
  · refine closed_paid.plain (.bind plain_readJob fun record => ?_)
    split
    · exact plain_done
    · exact plain_finishEvent
  · refine closed_paid.plain (.bind (.rescue plain_verifyClaimed fun _ => plain_abandonClaim)
      fun ended => ?_)
    split
    · exact plain_done
    · exact plain_finishEvent

theorem funded_transitionJob {α : Type} {record : JobRecord} {state : JobState} {n : Nat}
    {f : JobRecord → JobHandler α}
    (hf : ∀ next, next.state = state → (f next).Funded JobOp.marks JobOp.creates n) :
    (transitionJob record state >>= f).Funded JobOp.marks JobOp.creates n := by
  unfold transitionJob
  refine ⟨fun hs => (nomatch hs), fun nowMs => ?_, trivial⟩
  cases h : record.transition state nowMs with
  | error code =>
    simp only [Handler.bind, h]
    trivial
  | ok next =>
    simp only [Handler.bind, h]
    exact hf next (JobRecord.transition_spec h).1

/-- The record is marked, and then one upload asked for. -/
theorem paid_createUpload {env : JobEnv} (leased : JobRecord) : Paid (createUpload env leased) := by
  unfold createUpload
  refine closed_paid.bind (closed_paid.plain plain_dateNow) fun nowMs => ?_
  refine funded_transitionJob fun pending hpending => ?_
  refine Handler.Funded.perform_earn ?_ rfl fun _ => ?_
  · change (pending.state == JobState.providerCreatePending) = true
    simp [hpending]
  refine Handler.Funded.bind (.rescue (.bind ?_ fun _ => trivial) fun _ => trivial) fun created => ?_
  · refine Handler.Funded.perform_spend fun answer => ?_
    cases answer <;> trivial
  · split
    · exact closed_paid.plain plain_failCreate
    · exact closed_paid.plain plain_openUpload

/-! ## Transactions -/

/-- The markers stay, and at most one record was stored. -/
def Touches (s t : JobObject) : Prop :=
  t.markers = s.markers ∧
    (t.journal = s.journal ∨ ∃ record, t.journal = s.journal ++ [.stored record])

section Transactions

variable (s : JobObject)

theorem touches_reserve (newUploads : Bool) (intent : UploadIntent) (candidate : JobRecord) :
    Touches s (s.reserve newUploads intent candidate).2 := by
  unfold JobObject.reserve
  repeat' split
  all_goals first
    | exact ⟨rfl, .inl rfl⟩
    | exact ⟨rfl, .inr ⟨_, rfl⟩⟩

theorem touches_openHeartbeat (heartbeat : UploadHeartbeat) (nowMs : Nat) :
    Touches s (s.openHeartbeat heartbeat nowMs).2 := by
  unfold JobObject.openHeartbeat
  repeat' split
  all_goals exact ⟨rfl, .inl rfl⟩

theorem touches_cancel (cancellation : UploadCancellation) (nowMs : Nat) :
    Touches s (s.cancel cancellation nowMs).2 := by
  unfold JobObject.cancel
  repeat' split
  all_goals first
    | exact ⟨rfl, .inl rfl⟩
    | exact ⟨rfl, .inr ⟨_, rfl⟩⟩

theorem touches_storeVerification (job : JobRecord) (verification : Verification) (nowMs : Nat) :
    Touches s (s.storeVerification job verification nowMs).2 := by
  unfold JobObject.storeVerification
  repeat' split
  all_goals first
    | exact ⟨rfl, .inl rfl⟩
    | exact ⟨rfl, .inr ⟨_, rfl⟩⟩

theorem touches_dropCheckpoint : Touches s s.dropCheckpoint := by
  unfold JobObject.dropCheckpoint
  repeat' split
  all_goals first
    | exact ⟨rfl, .inl rfl⟩
    | exact ⟨rfl, .inr ⟨_, rfl⟩⟩

end Transactions

/-- The operation writes a marker, a record or the journal by itself, not in a transaction. -/
def JobOp.Direct : {β : Type} → JobOp β → Prop
  | _, .createUpload _ => True
  | _, .put _ _ => True
  | _, .claimMarker _ => True
  | _, .settleMarker _ => True
  | _, .deleteMarker _ => True
  | _, .purgeMarkers => True
  | _, _ => False

/-- Every other operation touches. -/
theorem exec_touches {β : Type} {op : JobOp β} {i : JobInput} {s t : JobObject} {b : β}
    (h : JobOp.exec β op i s = some (b, t)) (hop : ¬ op.Direct) : Touches s t := by
  have after : ∀ {out : β × JobObject}, JobOp.exec β op i s = some out → out.2 = t := by
    intro out hout
    rw [h] at hout
    cases hout
    rfl
  cases op
  case reserve newUploads intent candidate =>
    exact after rfl ▸ touches_reserve s newUploads intent candidate
  case openHeartbeat heartbeat => exact after rfl ▸ touches_openHeartbeat s heartbeat i.nowMs
  case cancel cancellation => exact after rfl ▸ touches_cancel s cancellation i.nowMs
  case storeVerification job verification =>
    exact after rfl ▸ touches_storeVerification s job verification i.nowMs
  case dropCheckpoint => exact after rfl ▸ touches_dropCheckpoint s
  all_goals first
    | exact absurd trivial hop
    | cases h
      exact ⟨rfl, .inl rfl⟩

/-! ## Counting -/

/-- What an operation adds to the journal. -/
def Adds {β : Type} (op : JobOp β) (s t : JobObject) : Prop :=
  ∃ facts, t.journal = s.journal ++ facts ∧ (JobOp.marks _ op).toNat ≤ facts.countP JobFact.marks ∧
    facts.countP JobFact.creates ≤ (JobOp.creates _ op).toNat

theorem adds_nothing {β : Type} {op : JobOp β} {s t : JobObject} (h : t.journal = s.journal)
    (hmarks : JobOp.marks _ op = false) : Adds op s t :=
  ⟨[], by rw [h, List.append_nil], by simp [hmarks], Nat.zero_le _⟩

theorem adds_stored {β : Type} {op : JobOp β} {s t : JobObject} {record : JobRecord}
    (h : t.journal = s.journal ++ [.stored record])
    (hmarks : JobOp.marks _ op = true → record.state = .providerCreatePending) : Adds op s t := by
  refine ⟨_, h, ?_, Nat.zero_le _⟩
  cases hm : JobOp.marks _ op with
  | false => exact Nat.zero_le _
  | true => simp [JobFact.marks, hmarks hm]

theorem exec_adds {β : Type} {op : JobOp β} {i : JobInput} {s t : JobObject} {b : β}
    (h : JobOp.exec β op i s = some (b, t)) : Adds op s t := by
  by_cases hdirect : op.Direct
  · cases op
    case createUpload record =>
      cases h
      exact ⟨_, rfl, Nat.zero_le _, Nat.le_refl _⟩
    case put read written =>
      cases h
      exact adds_stored rfl fun hm => eq_of_beq hm
    case claimMarker digest =>
      simp only [JobOp.exec, JobObject.claimMarker, Option.some.injEq] at h
      split at h
      all_goals
        cases h
        exact adds_nothing rfl rfl
    case settleMarker digest =>
      cases h
      exact adds_nothing rfl rfl
    case deleteMarker digest =>
      cases h
      exact adds_nothing rfl rfl
    case purgeMarkers =>
      cases h
      exact adds_nothing rfl rfl
    all_goals exact hdirect.elim
  · have hmarks : JobOp.marks _ op = false := by
      cases op <;> first | rfl | exact absurd trivial hdirect
    rcases (exec_touches h hdirect).2 with hjournal | ⟨record, hjournal⟩
    · exact adds_nothing hjournal hmarks
    · refine adds_stored hjournal fun hm => ?_
      rw [hmarks] at hm
      cases hm

theorem job_counts (env : JobEnv) :
    (jobSystem env).Counts JobOp.marks JobOp.creates JobObject.marked JobObject.created where
  exec := by
    intro β op i s t b h
    obtain ⟨facts, hfacts, hmarks, hcreates⟩ := exec_adds h
    unfold JobObject.marked JobObject.created
    rw [hfacts, List.countP_append, List.countP_append]
    omega
  world := fun e => by cases e

/-! ## Marks are made once -/

/-- A write of an early state finds the stored job still open, unless requests wait for each
other. -/
def OpenWrite (env : JobEnv) (_ written : JobRecord) (s : JobObject) : Prop :=
  env.serialized = true ∨
    (written.state.isEarly = true → ∃ current ∈ s.job, current.state.isOpen = true)

/-- A job that was marked or cancelled is open no more; it is marked once, and not marked when it
was cancelled. -/
structure MarkedOnce (s : JobObject) : Prop where
  closed : ∀ fact ∈ s.journal, (fact.marks || fact.cancels) = true →
    ∀ current ∈ s.job, current.state.isOpen = false
  once : s.marked ≤ 1
  apart : 0 < s.marked → ∀ fact ∈ s.journal, fact.cancels = false

theorem markedOnce_empty : MarkedOnce .empty where
  closed := fun _ hfact => absurd hfact List.not_mem_nil
  once := Nat.zero_le 1
  apart := fun h => absurd h (Nat.lt_irrefl 0)

section Marks

variable {env : JobEnv} {accepts : JobRecord → VerifiedAsset → Prop} {s t : JobObject}
  {written : JobRecord}

/-- An open job was neither marked nor cancelled. -/
theorem MarkedOnce.fresh (h : MarkedOnce s) {current : JobRecord} (hcurrent : current ∈ s.job)
    (hopen : current.state.isOpen = true) {fact : JobFact} (hfact : fact ∈ s.journal) :
    fact.marks = false ∧ fact.cancels = false := by
  have hneither : (fact.marks || fact.cancels) = false := by
    by_contra hsome
    rw [Bool.not_eq_false] at hsome
    have hclosed := h.closed fact hfact hsome current hcurrent
    rw [hopen] at hclosed
    cases hclosed
  simpa [Bool.or_eq_false_iff] using hneither

/-- One more record over a job that was neither marked nor cancelled. -/
theorem MarkedOnce.first (hfresh : ∀ fact ∈ s.journal, fact.marks = false ∧ fact.cancels = false)
    (hjob : t.job = some written) (hjournal : t.journal = s.journal ++ [.stored written]) :
    MarkedOnce t := by
  have hmarked : s.marked = 0 := List.countP_eq_zero.mpr fun fact hfact => by
    simp [(hfresh fact hfact).1]
  have hcount : t.marked = [JobFact.stored written].countP JobFact.marks := by
    change t.journal.countP JobFact.marks = _
    rw [hjournal, List.countP_append]
    exact (congrArg (· + _) hmarked).trans (Nat.zero_add _)
  constructor
  · intro fact hfact hsome current hcurrent
    rw [hjob] at hcurrent
    cases hcurrent
    rw [hjournal, List.mem_append, List.mem_singleton] at hfact
    rcases hfact with hfact | rfl
    · simp [hfresh fact hfact] at hsome
    · simp only [JobFact.marks, JobFact.cancels, Bool.or_eq_true, beq_iff_eq] at hsome
      rcases hsome with hstate | hstate <;> rw [hstate] <;> rfl
  · rw [hcount]
    exact List.countP_le_length
  · intro hpos fact hfact
    rw [hjournal, List.mem_append, List.mem_singleton] at hfact
    rcases hfact with hfact | rfl
    · exact (hfresh fact hfact).2
    · have hmarks : (JobFact.stored written).marks = true := by
        by_contra hother
        rw [hcount, List.countP_singleton, if_neg hother] at hpos
        exact absurd hpos (Nat.lt_irrefl 0)
      change (written.state == JobState.cancelled) = false
      rw [eq_of_beq hmarks]
      rfl

/-- One more record that is neither open nor a mark, and cancelled only when the job was. -/
theorem MarkedOnce.more (h : MarkedOnce s) (hlate : written.state.isEarly = false)
    (hcancelled : written.state = .cancelled → ∃ fact ∈ s.journal, fact.cancels = true)
    (hjob : t.job = some written) (hjournal : t.journal = s.journal ++ [.stored written]) :
    MarkedOnce t := by
  have hopen : written.state.isOpen = false := by
    by_contra hopen
    rw [JobState.isEarly_of_isOpen (by simpa using hopen)] at hlate
    cases hlate
  have hmark : (JobFact.stored written).marks = false := by
    change (written.state == JobState.providerCreatePending) = false
    by_contra hmark
    rw [Bool.not_eq_false] at hmark
    rw [eq_of_beq hmark] at hlate
    cases hlate
  have hcount : t.marked = s.marked := by
    change t.journal.countP JobFact.marks = s.journal.countP JobFact.marks
    rw [hjournal, List.countP_append, List.countP_singleton, hmark]
    rfl
  constructor
  · intro fact _ _ current hcurrent
    rw [hjob] at hcurrent
    cases hcurrent
    exact hopen
  · rw [hcount]
    exact h.once
  · intro hpos fact hfact
    rw [hcount] at hpos
    rw [hjournal, List.mem_append, List.mem_singleton] at hfact
    rcases hfact with hfact | rfl
    · exact h.apart hpos fact hfact
    · change (written.state == JobState.cancelled) = false
      by_contra hcancel
      obtain ⟨fact, hfact, hcancels⟩ := hcancelled (eq_of_beq (by simpa using hcancel))
      rw [h.apart hpos fact hfact] at hcancels
      cases hcancels

/-- A step of a request keeps the marks. -/
theorem MarkedOnce.step (h : MarkedOnce s) (hs : JobSound s)
    (hst : JobStep env accepts (OpenWrite env) s t) : MarkedOnce t := by
  cases hst with
  | quiet job journal =>
    constructor
    · rw [job, journal]
      exact h.closed
    · unfold JobObject.marked
      rw [journal]
      exact h.once
    · unfold JobObject.marked
      rw [journal]
      exact h.apart
  | asked identity job journal =>
    have hcount : t.marked = s.marked := by
      change t.journal.countP JobFact.marks = s.journal.countP JobFact.marks
      rw [journal, List.countP_append]
      rfl
    have hold : ∀ fact ∈ t.journal, (fact.marks || fact.cancels) = true → fact ∈ s.journal := by
      intro fact hfact hsome
      rw [journal, List.mem_append, List.mem_singleton] at hfact
      rcases hfact with hfact | rfl
      · exact hfact
      · cases hsome
    constructor
    · intro fact hfact hsome
      rw [job]
      exact h.closed fact (hold fact hfact hsome) hsome
    · rw [hcount]
      exact h.once
    · intro hpos fact hfact
      rw [hcount] at hpos
      by_contra hcancels
      have hcancels : fact.cancels = true := by simpa using hcancels
      have hbefore := hold fact hfact (by simp [hcancels])
      rw [h.apart hpos fact hbefore] at hcancels
      cases hcancels
  | created record absent state wellFormed job journal =>
    refine MarkedOnce.first (fun fact hfact => ?_) job journal
    cases fact with
    | stored old => exact absurd hfact (hs.absent absent old)
    | createUpload identity => exact ⟨rfl, rfl⟩
  | wrote read written held made allowed wellFormed job journal =>
    by_cases hearly : written.state.isEarly = true
    · -- the copy was of an open job, and the stored job is the copy or was looked at
      have hopen : ∃ current ∈ s.job, current.state.isOpen = true := by
        rcases allowed with hserialized | hallowed
        · obtain ⟨current, hcurrent, hagrees⟩ := held.fresh hserialized
          exact ⟨current, hcurrent, hagrees.state ▸ made.early hearly⟩
        · exact hallowed hearly
      obtain ⟨current, hcurrent, hopen⟩ := hopen
      exact MarkedOnce.first (fun fact hfact => h.fresh hcurrent hopen hfact) job journal
    · refine h.more (by simpa using hearly) (fun hcancelled => ?_) job journal
      refine ⟨.stored read, held.stored, ?_⟩
      change (read.state == JobState.cancelled) = true
      rw [made.cancelled hcancelled]
      rfl
  | updated current written get identity publication state wellFormed job journal =>
    rcases state with ⟨hsame, hlate⟩ | ⟨hopen, -⟩
    · refine h.more (hsame ▸ hlate) (fun hcancelled => ?_) job journal
      refine ⟨.stored current, hs.kept current get, ?_⟩
      change (current.state == JobState.cancelled) = true
      rw [← hsame, hcancelled]
      rfl
    · exact MarkedOnce.first (fun fact hfact => h.fresh get hopen hfact) job journal

end Marks

/-! ## Every run -/

theorem createdOnce_empty : CreatedOnce .empty where
  once := Nat.zero_le 1
  notCancelled := List.Pairwise.nil

/-- A step asks for an upload only when a mark was made and no cancellation stored. -/
theorem CreatedOnce.step {env : JobEnv} {accepts : JobRecord → VerifiedAsset → Prop}
    {s t : JobObject} (h : CreatedOnce s) (hmarked : MarkedOnce s) (hafter : MarkedOnce t)
    (hpaid : t.created ≤ t.marked) (hst : JobStep env accepts (OpenWrite env) s t) :
    CreatedOnce t := by
  refine ⟨hpaid.trans hafter.once, ?_⟩
  have hstored : ∀ written, t.journal = s.journal ++ [.stored written] →
      t.journal.Pairwise fun a b => a.cancels = true → b.creates = false := by
    intro written hjournal
    rw [hjournal, List.pairwise_append]
    refine ⟨h.notCancelled, List.pairwise_singleton _ _, fun a _ b hb _ => ?_⟩
    rw [List.mem_singleton] at hb
    subst hb
    rfl
  cases hst with
  | quiet job journal =>
    rw [journal]
    exact h.notCancelled
  | asked identity job journal =>
    have hpos : 0 < s.marked := by
      have hone : t.created = s.created + 1 := by
        unfold JobObject.created
        rw [journal, List.countP_append]
        rfl
      have hsame : t.marked = s.marked := by
        unfold JobObject.marked
        rw [journal, List.countP_append]
        rfl
      omega
    rw [journal, List.pairwise_append]
    refine ⟨h.notCancelled, List.pairwise_singleton _ _, fun a ha b _ hcancels => ?_⟩
    rw [hmarked.apart hpos a ha] at hcancels
    cases hcancels
  | created record absent state wellFormed job journal => exact hstored _ journal
  | wrote read written held made allowed wellFormed job journal => exact hstored _ journal
  | updated current written get identity publication state wellFormed job journal =>
    exact hstored _ journal

/-- The run's writes of early states all found an open job. -/
def OpenWrites (env : JobEnv)
    (tr : List (Transition (Config JobObject JobOp String JobAnswer JobRequest)
      (Event JobInput JobRequest Empty))) : Prop :=
  ∀ x ∈ tr, ∀ (r : JobRequest) (read written : JobRecord) (i : JobInput),
    x.pre.Executes x.label r (.put read written) i → OpenWrite env read written x.pre.shared

/-- In every run whose writes of early states find an open job, at most one upload is asked for,
and none after the job was cancelled. -/
theorem upload_created_once {env : JobEnv}
    {tr : List (Transition (Config JobObject JobOp String JobAnswer JobRequest)
      (Event JobInput JobRequest Empty))}
    {c : Config JobObject JobOp String JobAnswer JobRequest}
    (h : Trace (ExecStep (jobSystem env).next) ⟨.empty, []⟩ tr c) (hopen : OpenWrites env tr) :
    CreatedOnce c.shared := by
  have hpaid : ∀ r, ((jobSystem env).handle r).Funded JobOp.marks JobOp.creates 0 :=
    fun r => closed_paid.request paid_verifyEvent paid_createUpload r
  have hidle : System.Backed JobOp.marks JobOp.creates JobObject.marked JobObject.created
      (⟨.empty, []⟩ : Config JobObject JobOp String JobAnswer JobRequest) :=
    System.backed_idle (Nat.le_refl _)
  obtain ⟨-, hbacked⟩ := System.Backed.run (job_counts env) hpaid hidle h
  obtain ⟨-, hsteps⟩ := Job.job_run (fun _ _ => True) h hopen
    fun _ _ _ _ _ _ _ => trivial
  have hrun := h.invariant_along (I := fun d => MarkedOnce d.shared ∧ CreatedOnce d.shared)
    ⟨markedOnce_empty, createdOnce_empty⟩ fun x hx hpre hnext => ?_
  · exact hrun.1.2
  · obtain ⟨hs, hstep⟩ := hsteps x hx
    rcases hstep with hsame | hstep
    · rw [hsame]
      exact hpre
    · have hafter := hpre.1.step hs hstep
      obtain ⟨credits, -, hsum⟩ := (hbacked x hx).step (job_counts env) hpaid hnext
      exact ⟨hafter, hpre.2.step hpre.1 hafter (by omega) hstep⟩

/-! ### A cancelled job that is uploaded -/

/-- A deployment with uploads: the public testnet, or one whose requests do not wait. -/
def uploadEnv (publicTestnet : Bool) : JobEnv where
  publicTestnet := publicTestnet
  publicBetaPacket := false
  marketV2 := true
  bridgeEnabled := true
  newUploadsEnabled := true
  providerMutationsEnabled := true
  archiveEnabled := false
  validConfig := fun _ => true
  operatorJobAllowed := fun _ _ => true
  archivable := fun _ => false
  streamStuckTimeoutMs := none
  sha256 := id

def uploadIdentity : JobIdentity where
  network := "testnet"
  contractId := "market"
  jobId := "job"
  generation := 1
  creator := "alice"
  expectedSourceBytes := "9"
  sourceFingerprintSha256 := none
  sourceType := "video"
  profileId := "paid"
  profileConfigSha256 := "config"

def uploadIntent : UploadIntent where
  identity := uploadIdentity
  provider := none
  apiTokenName := none
  absoluteDeadlineAtMs := none
  deviceNonce := "1"
  expiresAtMs := 9
  recovery := none

def uploadCancellation : UploadCancellation := ⟨"job", 1, "alice", "2", 9⟩

/-- Whatever is asked succeeds. -/
def uploadInput : JobInput where
  nowMs := 1
  preflight := .ok ()
  lease := .ok ⟨"lease", 9⟩
  marked := .ok ()
  created := .ok ⟨"asset", "playback", "project", "tus"⟩
  deleted := .ok .deleted
  tusLength := .ok "9"
  asset := .ok ⟨true, "asset", "ready"⟩
  video := .error "provider_unavailable"
  verification := .error "provider_unavailable"
  finalize := .ok ⟨200, true⟩
  published := .ok true
  archive := .ok "archive"
  reconcile := none

/-- An intent comes as far as asking the admission object for a lease. -/
def openedRun : List (Event JobInput JobRequest Empty) :=
  .start (.intent uploadIntent) :: List.replicate 5 (.run 0 uploadInput)

/-- While the lease is awaited a cancellation is handled to its end; then the intent goes on. -/
def cancelledRun : List (Event JobInput JobRequest Empty) :=
  openedRun ++ .start (.cancellation uploadCancellation) :: List.replicate 5 (.run 1 uploadInput) ++
    .stop 1 :: List.replicate 7 (.run 0 uploadInput)

theorem cancelledRun_journal :
    (execTrace (jobSystem (uploadEnv false)).next ⟨.empty, []⟩ cancelledRun).map
        (fun r => (r.2.shared.journal.map JobFact.cancels, r.2.shared.journal.map JobFact.creates))
      = some ([false, true, false, false, false], [false, false, false, false, true]) := by
  rfl

/-- Where the requests of an object do not wait for each other, the intent writes its copy back over
the cancelled job and asks for the upload. -/
theorem cancelled_job_uploaded : ∃ tr c,
    Trace (ExecStep (jobSystem (uploadEnv false)).next) ⟨.empty, []⟩ tr c ∧
      ¬ CreatedOnce c.shared := by
  obtain ⟨⟨tr, c⟩, hrun, hfacts⟩ := Option.map_eq_some_iff.mp cancelledRun_journal
  refine ⟨tr, c, trace_of_execTrace _ hrun, fun honce => ?_⟩
  obtain ⟨hcancels, hcreates⟩ := Prod.mk.inj hfacts
  have hordered := List.pairwise_iff_getElem.mp honce.notCancelled
  have hlength : c.shared.journal.length = 5 := by
    simpa using congrArg List.length hcancels
  have hcancelled : (c.shared.journal.map JobFact.cancels)[1]? = some true := by rw [hcancels]; rfl
  have hcreated : (c.shared.journal.map JobFact.creates)[4]? = some true := by rw [hcreates]; rfl
  rw [List.getElem?_map, List.getElem?_eq_getElem (by omega)] at hcancelled hcreated
  have hnone := hordered 1 4 (by omega) (by omega) (by decide) (Option.some.inj hcancelled)
  exact Bool.false_ne_true (hnone.symm.trans (Option.some.inj hcreated))

/-- The same intent where requests wait for each other, left alone. -/
def aloneRun : List (Event JobInput JobRequest Empty) :=
  .start (.intent uploadIntent) :: List.replicate 12 (.run 0 uploadInput)

theorem aloneRun_created :
    (execTrace (jobSystem (uploadEnv true)).next ⟨.empty, []⟩ aloneRun).map
      (fun r => r.2.shared.created) = some 1 := by
  rfl

theorem upload_created_once_alone : ∃ tr c,
    Trace (ExecStep (jobSystem (uploadEnv true)).next) ⟨.empty, []⟩ tr c ∧
      c.shared.created = 1 ∧ CreatedOnce c.shared := by
  obtain ⟨⟨tr, c⟩, hrun, hcreated⟩ := Option.map_eq_some_iff.mp aloneRun_created
  have htrace := trace_of_execTrace _ hrun
  refine ⟨tr, c, htrace, hcreated, upload_created_once htrace ?_⟩
  intro x hx r read written i hexec
  exact .inl rfl

end Youtick.Bridge
