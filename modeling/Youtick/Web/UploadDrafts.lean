import Youtick.Bridge.StreamRouting
import Youtick.Lib.Requests
import Youtick.PaymentService.Formats

/-!
# Web: the recovery record of a paid upload

`lib/livepeer-upload.ts` keeps one draft for each account in the storage that all tabs share, with the
list of the jobs the creator gave up and a bookmark of the last one. The functions that write the draft
are synchronous; a lookup awaits the chain between reading the draft and clearing it. Every storage
function is one operation, and any number of tabs interleave theirs.
-/

set_option autoImplicit false

namespace Youtick.Web.Uploads

open Youtick.Lib
open Youtick.Bridge (isJobId)
open Youtick.PaymentService (isAccountChar isAccountSeparator isHexText)

/-! ## Drafts -/

/-- `UploadRecoveryStage` -/
inductive UploadRecoveryStage where
  | paymentPending
  | authorized
  | uploadReady
  | uploading
  | providerProcessing
  deriving DecidableEq

/-- `LIVEPEER_RECOVERY_STAGE_ORDER` -/
def UploadRecoveryStage.order : UploadRecoveryStage → Nat
  | .paymentPending => 0
  | .authorized => 1
  | .uploadReady => 2
  | .uploading => 3
  | .providerProcessing => 4

/-- `LivepeerUploadDraft`; the schema is fixed. -/
structure LivepeerUploadDraft where
  stage : UploadRecoveryStage
  paymentAttempted : Option Bool
  keyReplacementPending : Option Bool
  keyReplacementFingerprint : Option String
  jobId : String
  title : String
  price : String
  sourceBytes : Int
  sourceName : String
  sourceLastModified : Int
  sourceFingerprintSha256 : String
  deriving DecidableEq

/-- `MEDIA_UPLOAD_POLICY.paidSourceMaxBytes` of the V1 release -/
def paidSourceMaxBytes : Int := 5000000000

/-- `Number.MAX_SAFE_INTEGER` -/
def maxSafeInteger : Int := 9007199254740991

/-- The length of a string as JavaScript counts it. -/
def utf16Length (text : String) : Nat :=
  (text.toList.map fun c => if c.toNat < 65536 then 1 else 2).sum

/-- `isLivepeerUploadDraft` -/
def isLivepeerUploadDraft (draft : LivepeerUploadDraft) : Bool :=
  (draft.keyReplacementFingerprint.all fun text => isHexText 64 text) &&
    isJobId draft.jobId &&
    decide (draft.title.utf8ByteSize ≤ 200) &&
    decide (utf16Length draft.price ≤ 32) &&
    decide (0 < draft.sourceBytes ∧ draft.sourceBytes ≤ paidSourceMaxBytes) &&
    decide (0 < utf16Length draft.sourceName ∧ utf16Length draft.sourceName ≤ 1024) &&
    decide (0 ≤ draft.sourceLastModified ∧ draft.sourceLastModified ≤ maxSafeInteger) &&
    isHexText 64 draft.sourceFingerprintSha256

/-- A draft as it is read from the storage. -/
structure StoredDraft where
  draft : LivepeerUploadDraft
  valid : isLivepeerUploadDraft draft = true

/-- What lies under the key of the draft. -/
inductive DraftRecord where
  | missing
  | unreadable
  | stored (draft : StoredDraft)

/-- `readStoredUploadDraft` of a storage that answers. -/
def DraftRecord.read : DraftRecord → Option LivepeerUploadDraft
  | .stored draft => some draft.draft
  | _ => none

/-- `requireStoredUploadDraft` -/
def DraftRecord.require (jobId : String) : DraftRecord → Result LivepeerUploadDraft
  | .missing => .error "livepeer_draft_missing"
  | .unreadable => .error "livepeer_draft_invalid"
  | .stored draft =>
    if draft.draft.jobId ≠ jobId then .error "livepeer_draft_job_mismatch" else .ok draft.draft

/-- `isPaidUploadDraft` -/
def isPaidUploadDraft (draft : LivepeerUploadDraft) : Bool :=
  (draft.paymentAttempted.getD false || draft.keyReplacementPending.getD false) ||
    decide (draft.stage ≠ .paymentPending)

/-- `[a-z0-9._-]` -/
def isCreatorChar (c : Char) : Bool := isAccountChar c || isAccountSeparator c

/-- `ACCOUNT_ID_PATTERN` -/
def isCreatorId (text : String) : Bool :=
  decide (2 ≤ text.toList.length) && decide (text.toList.length ≤ 64) &&
    text.toList.all isCreatorChar && text.toList.head?.any isAccountChar &&
    text.toList.getLast?.any isAccountChar

/-- `validateJobSessionIdentity` -/
def validateJobSessionIdentity (accountId jobId : String) : Result PUnit.{1} :=
  Lib.require (isCreatorId accountId = true ∧ isJobId jobId = true) "invalid_livepeer_session"

/-- What of the stored draft a new one of the same job and source goes on from. -/
def LivepeerUploadDraft.continued (previous : Option LivepeerUploadDraft)
    (draft : LivepeerUploadDraft) : Option LivepeerUploadDraft :=
  previous.filter fun previous => decide (previous.jobId = draft.jobId) &&
    decide (previous.sourceFingerprintSha256 = draft.sourceFingerprintSha256)

/-- The object that `writeLivepeerUploadDraft` encodes. -/
def LivepeerUploadDraft.encoded (existing : Option LivepeerUploadDraft)
    (draft : LivepeerUploadDraft) : LivepeerUploadDraft :=
  { draft with
    stage := match existing with
      | some existing => if existing.stage.order > draft.stage.order then existing.stage
          else draft.stage
      | none => draft.stage
    paymentAttempted :=
      if draft.paymentAttempted.or (existing.bind (·.paymentAttempted)) = some true then some true
      else none
    keyReplacementPending :=
      if draft.keyReplacementPending.or (existing.bind (·.keyReplacementPending)) = some true then
        some true
      else none
    keyReplacementFingerprint :=
      if draft.keyReplacementPending.or (existing.bind (·.keyReplacementPending)) = some true then
        draft.keyReplacementFingerprint.or (existing.bind (·.keyReplacementFingerprint))
      else none }

/-- What is encoded is read back as a draft. -/
theorem encoded_valid {existing : Option LivepeerUploadDraft} {draft : LivepeerUploadDraft}
    (hexisting : ∀ e, existing = some e → isLivepeerUploadDraft e = true)
    (hdraft : isLivepeerUploadDraft draft = true) :
    isLivepeerUploadDraft (draft.encoded existing) = true := by
  unfold isLivepeerUploadDraft at hdraft ⊢
  simp only [Bool.and_eq_true] at hdraft ⊢
  obtain ⟨⟨⟨⟨⟨⟨⟨hkey, hjob⟩, htitle⟩, hprice⟩, hbytes⟩, hname⟩, hmodified⟩, hsource⟩ := hdraft
  refine ⟨⟨⟨⟨⟨⟨⟨?_, hjob⟩, htitle⟩, hprice⟩, hbytes⟩, hname⟩, hmodified⟩, hsource⟩
  -- the fingerprint of the replaced key comes from either draft
  unfold LivepeerUploadDraft.encoded
  dsimp only
  split
  · cases hown : draft.keyReplacementFingerprint with
    | some text =>
      rw [hown] at hkey
      exact hkey
    | none =>
      cases hfound : existing with
      | none => rfl
      | some e =>
        have hvalid := hexisting e hfound
        unfold isLivepeerUploadDraft at hvalid
        simp only [Bool.and_eq_true] at hvalid
        exact hvalid.1.1.1.1.1.1.1
  · rfl

theorem continued_eq_some {previous : Option LivepeerUploadDraft} {draft e : LivepeerUploadDraft}
    (h : LivepeerUploadDraft.continued previous draft = some e) :
    previous = some e ∧ e.jobId = draft.jobId ∧
      e.sourceFingerprintSha256 = draft.sourceFingerprintSha256 := by
  obtain ⟨hprevious, hsame⟩ := Option.filter_eq_some_iff.mp h
  rw [Bool.and_eq_true] at hsame
  exact ⟨hprevious, of_decide_eq_true hsame.1, of_decide_eq_true hsame.2⟩

theorem DraftRecord.read_valid {record : DraftRecord} {draft : LivepeerUploadDraft}
    (h : record.read = some draft) : isLivepeerUploadDraft draft = true := by
  cases record with
  | missing | unreadable => cases h
  | stored found =>
    cases h
    exact found.valid

/-- A paid draft of another job is not replaced. -/
def blocksWrite (draft : LivepeerUploadDraft) (previous : LivepeerUploadDraft) : Bool :=
  decide (previous.jobId ≠ draft.jobId) && isPaidUploadDraft previous

/-- `writeLivepeerUploadDraft` in a storage that answers: the record it leaves. -/
def DraftRecord.write (accountId : String) (draft : LivepeerUploadDraft) (record : DraftRecord) :
    Result DraftRecord := do
  validateJobSessionIdentity accountId draft.jobId
  if hvalid : isLivepeerUploadDraft draft = true then do
    Lib.require (record.read.any (blocksWrite draft) = false) "livepeer_pending_upload_exists"
    return .stored ⟨draft.encoded (LivepeerUploadDraft.continued record.read draft),
      encoded_valid (fun _ he => DraftRecord.read_valid (continued_eq_some he).1) hvalid⟩
  else .error "invalid_livepeer_draft"

inductive UploadDraftFlag where
  | paymentAttempted
  | keyReplacementPending
  deriving DecidableEq

/-- `{ ...draft, [flag]: value }` -/
def LivepeerUploadDraft.setFlag (draft : LivepeerUploadDraft) (value : Bool) :
    UploadDraftFlag → LivepeerUploadDraft
  | .paymentAttempted => { draft with paymentAttempted := some value }
  | .keyReplacementPending => { draft with keyReplacementPending := some value }

/-! ## Jobs on the chain -/

inductive JobStatus where
  | authorized
  | published
  deriving DecidableEq

/-- `LivepeerMediaJob` of the V1 release, with the parts a lookup reads. -/
structure LivepeerMediaJob where
  creatorId : String
  status : JobStatus
  createdAtMs : Nat
  expectedSourceBytes : Nat
  title : String
  priceUsdc : String
  deriving DecidableEq

/-- What the market contract holds at each final block. -/
structure Chain where
  job : Nat → String → Option LivepeerMediaJob
  published : Nat → String → Bool

/-- How long an upload may take. -/
def uploadWindowMs : Nat := 86400000

/-- `MAX_ABANDONED_LIVEPEER_JOBS` -/
def maxAbandonedJobs : Nat := 20

/-- What one operation has learnt of a job, and what it cleared for one. -/
inductive Finding where
  | abandoned (jobId : String)
  | job (jobId : String) (block : Nat) (job : Option LivepeerMediaJob)
  | publication (jobId : String) (block : Nat) (published : Bool)
  | clock (nowMs : Nat)
  | cleared (jobId : String)
  deriving DecidableEq

/-- The operation found the job abandoned, missing, foreign, no longer authorized, published or
expired. -/
inductive Settled (accountId jobId : String) (past : List Finding) : Prop where
  | abandoned (h : .abandoned jobId ∈ past)
  | missing (block : Nat) (h : .job jobId block none ∈ past)
  | foreign (block : Nat) (job : LivepeerMediaJob) (h : .job jobId block (some job) ∈ past)
      (hcreator : job.creatorId ≠ accountId)
  | closed (block : Nat) (job : LivepeerMediaJob) (h : .job jobId block (some job) ∈ past)
      (hstatus : job.status ≠ .authorized)
  | published (block : Nat) (h : .publication jobId block true ∈ past)
  | expired (block nowMs : Nat) (job : LivepeerMediaJob)
      (h : .job jobId block (some job) ∈ past) (hclock : .clock nowMs ∈ past)
      (hdeadline : job.createdAtMs + uploadWindowMs ≤ nowMs)

/-! ## Operations -/

/-- A file the creator selects. -/
structure SourceFile where
  size : Int
  name : String
  lastModified : Int
  content : Bytes

/-- The storage of the account, and what each operation has learnt, newest first. -/
structure UploadStorage where
  draft : DraftRecord
  abandonedJobs : List String
  lastJob : Option String
  requests : Nat
  own : Nat → List Finding

inductive StorageOp : Type → Type
  /-- An operation begins; the answer is its number. -/
  | accept : StorageOp Nat
  | readStoredUploadDraft : StorageOp (Option LivepeerUploadDraft)
  | readRememberedJob : StorageOp (Option String)
  | isAbandoned (jobId : String) : StorageOp Bool
  /-- `clearLivepeerUploadDraft`, by a lookup of this job -/
  | clear (jobId : String) : StorageOp Unit
  | readMediaJob (jobId : String) : StorageOp (Option LivepeerMediaJob)
  | readPublication (jobId : String) : StorageOp Bool
  | now : StorageOp Nat
  /-- `readBridgePendingUploadJob` -/
  | readBridgePendingJob : StorageOp (Option String)
  | remember (jobId : String) : StorageOp Unit
  | fingerprint (file : SourceFile) : StorageOp String
  | write (draft : LivepeerUploadDraft) : StorageOp (Result Unit)
  | setFlag (jobId : String) (flag : UploadDraftFlag) (value : Bool) : StorageOp (Result Unit)
  | advance (jobId : String) (stage : UploadRecoveryStage) : StorageOp (Result Unit)
  | abandon (jobId : String) : StorageOp (Result Unit)

structure NumberedOp (β : Type) where
  number : Nat
  op : StorageOp β

/-- What the storage, the chain, the clock and the Bridge give an operation. -/
structure StorageInput where
  available : Bool
  block : Nat
  nowMs : Nat
  bridgeJob : Option String

/-- The creator, the chain and the fingerprint of a file. -/
structure UploadEnv where
  accountId : String
  chain : Chain
  fingerprint : SourceFile → String

namespace UploadStorage

/-- Takes down what operation `n` has learnt. -/
def learn (s : UploadStorage) (n : Nat) (finding : Finding) : UploadStorage :=
  { s with own := Function.update s.own n (finding :: s.own n) }

/-- `rememberLivepeerUploadJob`; a storage that fails is ignored. -/
def rememberJob (s : UploadStorage) (available : Bool) (jobId : String) : UploadStorage :=
  if available then { s with lastJob := some jobId } else s

/-- `forgetLivepeerUploadJob` -/
def forgetJob (s : UploadStorage) (jobId : String) : UploadStorage :=
  if s.lastJob = some jobId then { s with lastJob := none } else s

/-- `writeLivepeerUploadDraft` -/
def writeDraft (s : UploadStorage) (accountId : String) (draft : LivepeerUploadDraft) :
    Result UploadStorage := do
  let record ← s.draft.write accountId draft
  return { s with draft := record }

/-- `setUploadDraftFlag` -/
def setUploadDraftFlag (s : UploadStorage) (accountId jobId : String) (available : Bool)
    (flag : UploadDraftFlag) (value : Bool) : Result UploadStorage := do
  let draft ← s.draft.require jobId
  let written ← s.writeDraft accountId (draft.setFlag value flag)
  return if flag = .paymentAttempted ∧ value = true then written.rememberJob available jobId
    else written

/-- `advanceLivepeerUploadDraftStage` -/
def advanceDraftStage (s : UploadStorage) (accountId jobId : String) (available : Bool)
    (stage : UploadRecoveryStage) : Result UploadStorage := do
  validateJobSessionIdentity accountId jobId
  match s.draft.read with
  | none => return s
  | some draft =>
    if draft.jobId ≠ jobId ∨ stage.order ≤ draft.stage.order then return s
    else do
      let written ← s.writeDraft accountId { draft with stage := stage }
      return if stage ≠ .paymentPending then written.rememberJob available jobId else written

/-- The clean-up at the end of `abandonLivepeerUploadJob`; a storage that fails is ignored. -/
def forgetDraft (s : UploadStorage) (available : Bool) (jobId : String) : UploadStorage :=
  if available then
    (if s.draft.read.map (·.jobId) = some jobId then { s with draft := .missing } else s).forgetJob
      jobId
  else s

/-- `abandonLivepeerUploadJob` -/
def abandonJob (s : UploadStorage) (accountId jobId : String) (available : Bool) :
    Result UploadStorage := do
  validateJobSessionIdentity accountId jobId
  let jobs := (jobId :: s.abandonedJobs.filter (· ≠ jobId)).take maxAbandonedJobs
  return { s with abandonedJobs := jobs }.forgetDraft available jobId

/-- Goes on from what a function that may throw has written. -/
def settle (s : UploadStorage) (written : Result UploadStorage) : Result Unit × UploadStorage :=
  match written with
  | .ok t => (.ok (), t)
  | .error code => (.error code, s)

end UploadStorage

section Execution

variable (env : UploadEnv)

/-- One operation. Where the storage is not available a read finds nothing; a function that throws
then is an operation that throws before it took effect. -/
def exec (β : Type) (op : NumberedOp β) (i : StorageInput) (s : UploadStorage) :
    Option (β × UploadStorage) :=
  match op.op with
  | .accept => some (s.requests, { s with requests := s.requests + 1 })
  | .readStoredUploadDraft => some (if i.available then s.draft.read else none, s)
  | .readRememberedJob =>
    some (if i.available then s.lastJob.filter fun jobId =>
      isCreatorId env.accountId && isJobId jobId else none, s)
  | .isAbandoned jobId =>
    if i.available ∧ jobId ∈ s.abandonedJobs then some (true, s.learn op.number (.abandoned jobId))
    else some (false, s)
  | .clear jobId => some ((), { s with draft := .missing }.learn op.number (.cleared jobId))
  | .readMediaJob jobId =>
    some (env.chain.job i.block jobId,
      s.learn op.number (.job jobId i.block (env.chain.job i.block jobId)))
  | .readPublication jobId =>
    some (env.chain.published i.block jobId,
      s.learn op.number (.publication jobId i.block (env.chain.published i.block jobId)))
  | .now => some (i.nowMs, s.learn op.number (.clock i.nowMs))
  | .readBridgePendingJob => some (i.bridgeJob.filter fun jobId =>
    isCreatorId env.accountId && isJobId jobId, s)
  | .remember jobId => some ((), s.rememberJob i.available jobId)
  | .fingerprint file => some (env.fingerprint file, s)
  | .write draft => some (s.settle (s.writeDraft env.accountId draft))
  | .setFlag jobId flag value =>
    some (s.settle (s.setUploadDraftFlag env.accountId jobId i.available flag value))
  | .advance jobId stage =>
    some (s.settle (s.advanceDraftStage env.accountId jobId i.available stage))
  | .abandon jobId =>
    some (s.settle ((s.abandonJob env.accountId jobId i.available).map fun t =>
      t.learn op.number (.abandoned jobId)))

end Execution

/-! ## Lookups -/

abbrev StorageHandler (α : Type) : Type 1 := Handler StorageOp String α

/-- `PendingLivepeerUpload` -/
structure PendingLivepeerUpload where
  jobId : String
  title : String
  priceUsdc : String
  sourceBytes : Int
  sourceName : Option String
  deadlineAtMs : Nat

/-- What `readLivepeerUploadProgress` returns. -/
structure UploadProgress where
  job : LivepeerMediaJob
  published : Bool
  expired : Bool
  deadlineAtMs : Nat

def unavailable : String := "livepeer_draft_read_failed"

section Programs

variable (env : UploadEnv)

/-- `readLivepeerUploadProgress`; the two errors that a lookup catches are the results `none`. -/
def readLivepeerUploadProgress (jobId : String) : StorageHandler (Option UploadProgress) := do
  let job ← Handler.perform unavailable (.readMediaJob jobId)
  match job with
  | none => return none
  | some job =>
    if job.creatorId ≠ env.accountId then return none
    else do
      let published ← Handler.perform unavailable (.readPublication jobId)
      let deadlineAtMs := job.createdAtMs + uploadWindowMs
      Handler.ofExcept (require ((deadlineAtMs : Int) ≤ maxSafeInteger)
        "invalid_livepeer_deadline")
      let nowMs ← Handler.perform unavailable .now
      return some ⟨job, published, !published && decide (deadlineAtMs ≤ nowMs), deadlineAtMs⟩

/-- `if (draft) clearLivepeerUploadDraft(accountId)` -/
def clearFor (jobId : String) (draft : Option LivepeerUploadDraft) : StorageHandler Unit :=
  if draft.isSome then Handler.perform unavailable (.clear jobId) else return ()

/-- `readPendingLivepeerUpload` -/
def readPendingLivepeerUpload (jobId : String) (draft : Option LivepeerUploadDraft) :
    StorageHandler (Option PendingLivepeerUpload) := do
  let abandoned ← Handler.perform unavailable (.isAbandoned jobId)
  if abandoned = true then do
    clearFor jobId (draft.filter fun draft => decide (draft.jobId = jobId))
    return none
  else do
    let progress ← readLivepeerUploadProgress env jobId
    match progress with
    | none => do
        clearFor jobId draft
        return none
    | some progress =>
      if progress.published = true ∨ progress.expired = true ∨
          progress.job.status ≠ .authorized then do
        clearFor jobId draft
        return none
      else
        return some ⟨jobId, progress.job.title, progress.job.priceUsdc,
          progress.job.expectedSourceBytes,
          (draft.filter fun draft => decide (draft.jobId = jobId)).map (·.sourceName),
          progress.deadlineAtMs⟩

/-- `draft?.jobId ?? readRememberedLivepeerUploadJob(accountId)` -/
def localJob : Option LivepeerUploadDraft → StorageHandler (Option String)
  | some draft => return some draft.jobId
  | none => Handler.perform unavailable .readRememberedJob

/-- The lookup of the job that is known here, if there is one. -/
def readLocalUpload (draft : Option LivepeerUploadDraft) :
    Option String → StorageHandler (Option PendingLivepeerUpload)
  | some jobId => readPendingLivepeerUpload env jobId draft
  | none => return none

/-- `findPendingLivepeerUpload` -/
def findPendingLivepeerUpload : StorageHandler (Option PendingLivepeerUpload) := do
  let stored ← Handler.perform unavailable .readStoredUploadDraft
  let localJobId ← localJob (stored.filter isPaidUploadDraft)
  let found ← readLocalUpload env (stored.filter isPaidUploadDraft) localJobId
  match found with
  | some found => return some found
  | none => do
      let bridgeJobId ← Handler.perform unavailable .readBridgePendingJob
      match bridgeJobId.filter fun jobId => decide (some jobId ≠ localJobId) with
      | none => return none
      | some jobId => do
          let pending ← readPendingLivepeerUpload env jobId none
          if pending.isSome then do
            Handler.perform unavailable (.remember jobId)
            return pending
          else return none

/-- `readLivepeerUploadDraft` -/
def readLivepeerUploadDraft (file : SourceFile) : StorageHandler (Option LivepeerUploadDraft) := do
  let stored ← Handler.perform unavailable .readStoredUploadDraft
  match stored.filter fun draft => decide (draft.sourceBytes = file.size) &&
      decide (draft.sourceName = file.name) &&
      decide (draft.sourceLastModified = file.lastModified) with
  | none => return none
  | some draft => do
      let fingerprint ← Handler.perform unavailable (.fingerprint file)
      return if draft.sourceFingerprintSha256 = fingerprint then some draft else none

/-- `padStart(6, '0')` -/
def padStart (text : String) : String := String.ofList (text.toList.leftpad 6 '0')

/-- `formatPriceUsdc` -/
def formatPriceUsdc (micro : String) : String :=
  decimal (digitsValue micro.toList / 1000000) ++ "." ++
    padStart (decimal (digitsValue micro.toList % 1000000))

/-- The selected file can be that of the pending job. -/
def matchesPending (pending : PendingLivepeerUpload) (file : SourceFile) : Bool :=
  decide (file.size = pending.sourceBytes) && decide (pending.title ≠ "") &&
    PaymentService.isDigits pending.priceUsdc.toList

/-- `matchPendingLivepeerUpload` -/
def matchPendingLivepeerUpload (file : SourceFile) :
    StorageHandler (Option LivepeerUploadDraft × Option PendingLivepeerUpload) := do
  let pending ← findPendingLivepeerUpload env
  match pending.filter fun pending => matchesPending pending file with
  | none => return (none, pending)
  | some found => do
      let stored ← Handler.perform unavailable .readStoredUploadDraft
      if stored.map (·.jobId) = some found.jobId then do
        let draft ← readLivepeerUploadDraft file
        return (draft, pending)
      else do
        let fingerprint ← Handler.perform unavailable (.fingerprint file)
        let written ← Handler.perform unavailable (.write
          { stage := .authorized
            paymentAttempted := some true
            keyReplacementPending := none
            keyReplacementFingerprint := none
            jobId := found.jobId
            title := found.title
            price := formatPriceUsdc found.priceUsdc
            sourceBytes := file.size
            sourceName := file.name
            sourceLastModified := file.lastModified
            sourceFingerprintSha256 := fingerprint })
        Handler.ofExcept written
        let draft ← readLivepeerUploadDraft file
        return (draft, pending)

/-- One call of the module. -/
inductive UploadCall where
  | write (draft : LivepeerUploadDraft)
  | setFlag (jobId : String) (flag : UploadDraftFlag) (value : Bool)
  | advance (jobId : String) (stage : UploadRecoveryStage)
  | abandon (jobId : String)
  | find
  | matchFile (file : SourceFile)

inductive UploadAnswer where
  | unit
  | found (pending : Option PendingLivepeerUpload)
  | matched (draft : Option LivepeerUploadDraft) (pending : Option PendingLivepeerUpload)

/-- A synchronous function: one operation. -/
def synchronous (op : StorageOp (Result Unit)) : StorageHandler UploadAnswer := do
  let written ← Handler.perform "livepeer_draft_write_failed" op
  Handler.ofExcept written
  return .unit

def handle : UploadCall → StorageHandler UploadAnswer
  | .write draft => synchronous (.write draft)
  | .setFlag jobId flag value => synchronous (.setFlag jobId flag value)
  | .advance jobId stage => synchronous (.advance jobId stage)
  | .abandon jobId => synchronous (.abandon jobId)
  | .find => do
      let pending ← findPendingLivepeerUpload env
      return .found pending
  | .matchFile file => do
      let (draft, pending) ← matchPendingLivepeerUpload env file
      return .matched draft pending

end Programs

/-- Program `p` under the number of its call. -/
def numbered {α : Type} (n : Nat) (p : StorageHandler α) : Handler NumberedOp String α :=
  p.lift fun op => ⟨n, op⟩

/-- The calls of all tabs over the one storage; nothing else writes it. -/
def uploadSystem (env : UploadEnv) :
    System UploadStorage StorageInput NumberedOp String UploadAnswer UploadCall Empty where
  exec := exec env
  handle := fun call => .act ⟨0, .accept⟩ (fun n => numbered n (handle env call)) (.raise unavailable)
  solo := fun _ => false
  environment := fun e _ => nomatch e

end Youtick.Web.Uploads
