import Youtick.Bridge.Operator

/-!
# Bridge: operator requests

`processOperatorOutbox` and the requests around it, the alarm that archives confirmed records, and
the object as a system in which one of them runs at a time.
-/

set_option autoImplicit false

namespace Youtick.Bridge

open Youtick.Lib

abbrev OperatorHandler (α : Type) : Type 1 := Handler OperatorOp String α

/-- The configuration a request runs under. -/
structure OperatorEnv where
  validConfig : Bool
  validArchiveConfig : Bool
  publicTestnet : Bool
  marketV2 : Bool
  mutationsEnabled : Bool
  archiveEnabled : Bool

inductive OperatorCall where
  | finalize
  | suspendSales
  | markWatched
  | releaseExpired

/-- A parsed request: its call, its idempotency key and payload hash, and the arguments of the
contract call. -/
structure OperatorRequest where
  env : OperatorEnv
  call : OperatorCall
  idempotencyKey : String
  payloadSha256 : String
  args : String
  allowed : Bool

/-- What runs on the object. -/
inductive OperatorTask where
  | request (request : OperatorRequest)
  | alarm (env : OperatorEnv)

/-- The contract method of a call. -/
def OperatorRequest.method (request : OperatorRequest) : OutboxMethod :=
  match request.call with
  | .finalize =>
    if request.env.marketV2 then .finalizePublication else .finalizeLivepeerPublication
  | .suspendSales => if request.env.marketV2 then .suspendSales else .suspendLivepeerSales
  | .markWatched => .markWatched
  | .releaseExpired => .releaseExpired

def storageError : String := "internal_error"

def networkError : String := "near_finalize_pending"

def finalizeFailed : String := "near_finalize_failed"

/-! ## `processOperatorOutbox` -/

section Process

variable (signer : OperatorSigner) (request : OperatorRequest)

/-- `isConfirmed()`: is the effect in the final state? -/
def isConfirmed : OperatorHandler Bool :=
  Handler.perform networkError (.effectCheck request.idempotencyKey)

/-- `persistConfirmedOperatorRecord` -/
def persistConfirmed (record : OperatorRecord) : OperatorHandler OperatorRecord := do
  let nowMs ← Handler.perform storageError .now
  let confirmed := record.confirm nowMs
  if confirmed.method.isEphemeral then
    Handler.perform storageError (.deleteRecord request.idempotencyKey .confirmed)
    return confirmed
  else
    Handler.perform storageError (.putRecord request.idempotencyKey confirmed)
    if request.env.archiveEnabled ∧ ∃ archive ∈ confirmed.archive, archive.status ≠ .committed then
      Handler.perform storageError .startScan
      return confirmed
    else return confirmed

/-- The effect is there: the record is confirmed and the call succeeds. -/
def succeed (record : OperatorRecord) : OperatorHandler OutboxAnswer := do
  let confirmed ← persistConfirmed request record
  return ⟨true, confirmed.txHash, 200⟩

/-- `pollOperatorFinality`, `rounds` more times. -/
def pollOperatorFinality (hash : String) : Nat → OperatorHandler Bool
  | 0 => .done false
  | rounds + 1 => do
      let status ← (Handler.perform networkError (.queryTransaction hash)).rescue
        fun _ => .done .unknown
      let confirmed ← (isConfirmed request).rescue fun _ => .done false
      if confirmed then return true
      else if status.Unlandable then .raise finalizeFailed
      else pollOperatorFinality hash rounds

/-- Read-only reconciliation of a transaction that was sent on the public testnet. -/
def reconcileBroadcast (record : OperatorRecord) (hash : String) : OperatorHandler OutboxAnswer := do
  let confirmed ← pollOperatorFinality request hash 3
  if confirmed then succeed request record
  else return ⟨false, record.txHash, 202⟩

/-- The record with a nonce: the one it has, or the next. -/
def reserve (record : OperatorRecord) : OperatorHandler OperatorRecord :=
  if record.nonce.isSome ∧ record.blockHash.isSome then .done record
  else do
    let accessKey ← Handler.perform networkError .readAccessKey
    match ← Handler.perform storageError (.reserveNonce request.idempotencyKey accessKey) with
    | .error code => .raise code
    | .ok reserved => return reserved

/-- The record with a signed transaction: the one it has, or a new one that is stored first. -/
def signRecord (record : OperatorRecord) : OperatorHandler OperatorRecord :=
  if record.signedTxBase64.isSome then .done record
  else do
    let reserved ← reserve request record
    match reserved.nonce, reserved.blockHash with
    | some nonce, some blockHash =>
      let signed := signer.sign ⟨request.method, request.args, nonce, blockHash⟩
      let record := { reserved with
        state := .signed
        signedTxBase64 := some signed.base64
        txHash := some signed.hash }
      Handler.perform storageError (.putRecord request.idempotencyKey record)
      return record
    | _, _ => .raise storageError

/-- On the public testnet a record is marked before its transaction is sent. -/
def markBroadcast (record : OperatorRecord) : OperatorHandler OperatorRecord :=
  if request.env.publicTestnet then do
    let record := { record with state := .broadcast }
    Handler.perform storageError (.putRecord request.idempotencyKey record)
    return record
  else .done record

/-- What follows from the answer of a send whose effect is not there yet. -/
def settleBroadcast (record : OperatorRecord) (outcome : TxOutcome) :
    OperatorHandler OutboxAnswer :=
  if request.env.publicTestnet then
    if outcome.Unlandable then .raise finalizeFailed
    else
      match record.txHash with
      | some hash => reconcileBroadcast request record hash
      | none => .raise storageError
  else if outcome = .failed then .raise finalizeFailed
  else if outcome = .invalidNonce then do
    Handler.perform storageError (.putRecord request.idempotencyKey record.clearSigned)
    return ⟨false, record.txHash, 202⟩
  else return ⟨false, record.txHash, 202⟩

/-- Sign when there is no signed transaction, send, and record what came of it. -/
def submit (record : OperatorRecord) : OperatorHandler OutboxAnswer :=
  if request.env.mutationsEnabled = false then .raise "operator_mutations_disabled"
  else do
    let signed ← signRecord signer request record
    let marked ← markBroadcast request signed
    match marked.signedTxBase64 with
    | none => .raise storageError
    | some base64 =>
      let outcome ← (Handler.perform networkError (.sendTransaction base64)).rescue
        fun _ => .done .unknown
      let sent := { marked with state := .broadcast }
      Handler.perform storageError (.putRecord request.idempotencyKey sent)
      let confirmed ← isConfirmed request
      if confirmed then succeed request sent
      else settleBroadcast request sent outcome

/-- A transaction that was sent before is looked up; a spent nonce drops it. -/
def recoverBroadcast (record : OperatorRecord) (hash : String) : OperatorHandler OutboxAnswer := do
  let status ← Handler.perform networkError (.queryTransaction hash)
  let confirmed ← isConfirmed request
  if confirmed then succeed request record
  else if status = .failed then .raise finalizeFailed
  else if status = .invalidNonce then do
    Handler.perform storageError (.putRecord request.idempotencyKey record.clearSigned)
    submit signer request record.clearSigned
  else submit signer request record

/-- What is done with an opened record whose effect is not there yet. -/
def advanceRecord (record : OperatorRecord) : OperatorHandler OutboxAnswer :=
  match record.txHash with
  | none => submit signer request record
  | some hash =>
    if record.state ≠ .broadcast then submit signer request record
    else if request.env.publicTestnet then reconcileBroadcast request record hash
    else recoverBroadcast signer request record hash

/-- `processOperatorOutbox` -/
def processOperatorOutbox : OperatorHandler OutboxAnswer :=
  if request.env.validConfig = false then .raise "runtime_not_configured"
  else do
    match ← Handler.perform storageError
        (.openRecord request.idempotencyKey request.payloadSha256 request.method) with
    | .error code => .raise code
    | .ok (record, true) => return ⟨true, record.txHash, 200⟩
    | .ok (record, false) =>
      let confirmed ← isConfirmed request
      if confirmed then succeed request record
      else advanceRecord signer request record

/-! ## Requests -/

/-- `processFinalizeOutbox` and `processSuspendSalesOutbox`: on the public testnet the upload policy
and the job are read again first. -/
def processGuarded : OperatorHandler OutboxAnswer :=
  if request.allowed = false then .raise "operator_unauthorized"
  else if request.env.publicTestnet then do
    Handler.perform networkError .preflight
    processOperatorOutbox signer request
  else processOperatorOutbox signer request

/-- The ticket statuses under which a play may go on. -/
def watchableStatuses : List String := ["purchased", "watched", "watched_in_escrow", "released"]

/-- After a failed transaction of `mark_watched`: a ticket that is still purchased drops its record,
so that the next play signs a fresh transaction. -/
def watchFailure : OperatorHandler OutboxAnswer := do
  let status ← Handler.perform networkError .ticketStatus
  if ¬ watchableStatuses.contains (status.getD "") then .raise "playback_denied"
  else if status = some "purchased" then do
    Handler.perform storageError (.deleteRecord request.idempotencyKey .failed)
    .raise "playback_pending"
  else .raise finalizeFailed

/-- After a failed transaction of `release_expired` the next run signs a fresh one. -/
def releaseFailure : OperatorHandler OutboxAnswer := do
  Handler.perform storageError (.deleteRecord request.idempotencyKey .failed)
  .raise finalizeFailed

/-- `processMarkWatchedOutbox` and `processReleaseExpiredOutbox`: a ticket that is settled already
has no record. -/
def processSettlement (onFailure : OperatorHandler OutboxAnswer) : OperatorHandler OutboxAnswer :=
  if request.env.marketV2 = false then .raise "operator_unauthorized"
  else do
    let settled ← isConfirmed request
    if settled then return ⟨true, none, 200⟩
    else (processOperatorOutbox signer request).rescue fun error =>
      if error = finalizeFailed then onFailure else .raise error

def processCall : OperatorHandler OutboxAnswer :=
  match request.call with
  | .finalize => processGuarded signer request
  | .suspendSales => processGuarded signer request
  | .markWatched => processSettlement signer request (watchFailure request)
  | .releaseExpired => processSettlement signer request (releaseFailure request)

/-- `fetch`: the body is read, the call processed, and its result or error code sent back. -/
def handleRequest : OperatorHandler Unit := do
  Handler.perform networkError (.begin (some request.idempotencyKey))
  let result ← (do
      let answer ← processCall signer request
      return .ok answer : OperatorHandler (Result OutboxAnswer)).rescue fun code => .done (.error code)
  Handler.perform networkError (.respond request.idempotencyKey result)

end Process

/-! ## The alarm -/

def reconcileBackoffMs : List Nat := [60000, 120000, 240000, 480000, 900000]

def outboxRetentionMs : Nat := 90 * 24 * 60 * 60 * 1000

def archiveScanBatch : Nat := 32

section Alarm

variable (env : OperatorEnv)

/-- The archive row is written, then the record is marked. -/
def archiveRecord (key : String) (record : OperatorRecord) (archive : RecordArchive)
    (attempts : Nat) : OperatorHandler (Option Nat) :=
  if env.validArchiveConfig = false ∨ record.method.isEphemeral then
    .raise "operator_archive_unavailable"
  else do
    let archiveSha256 ← Handler.perform "operator_archive_unavailable" .commitArchive
    let nowMs ← Handler.perform storageError .now
    Handler.perform storageError (.putRecord key { record with
      archive := some { archive with
        status := .committed
        attempts := attempts
        archiveSha256 := some archiveSha256
        committedAtMs := some nowMs
        cleanupEligibleAtMs := record.confirmedAtMs.map (· + outboxRetentionMs) } })
    return none

/-- `advanceOperatorArchive`: when to retry, or nothing when the record is archived. -/
def advanceOperatorArchive (key : String) (record : OperatorRecord) (archive : RecordArchive) :
    OperatorHandler (Option Nat) :=
  let attempts := min (archive.attempts + 1) reconcileBackoffMs.length
  (archiveRecord env key record archive attempts).rescue fun _ => do
    let nowMs ← Handler.perform storageError .now
    let nextAttemptAtMs := nowMs + (reconcileBackoffMs[attempts - 1]?).getD 0
    Handler.perform storageError (.putRecord key { record with
      archive := some { archive with
        status := .retry
        attempts := attempts
        nextAttemptAtMs := nextAttemptAtMs } })
    return some nextAttemptAtMs

/-- The smaller of a time that may be absent and another one. -/
def earlier (a : Option Nat) (b : Nat) : Option Nat := some (min (a.getD b) b)

/-- One batch of the archive scan: the first record that is due is archived. -/
def scanBatch (nowMs : Nat) (earliest : Option Nat) (last : Option String) (full : Bool) :
    List (String × OperatorRecord) → OperatorHandler Unit
  | [] =>
    if full then
      Handler.perform storageError (.putScan (some ⟨last, earliest⟩))
    else if earliest.isSome then
      Handler.perform storageError (.putScan (some ⟨none, earliest⟩))
    else Handler.perform storageError (.putScan none)
  | (key, record) :: rest =>
    match record.archive with
    | none => scanBatch nowMs earliest last full rest
    | some archive =>
      if record.state ≠ .confirmed ∨ archive.status = .committed then
        scanBatch nowMs earliest last full rest
      else if nowMs < archive.nextAttemptAtMs then
        scanBatch nowMs (earlier earliest archive.nextAttemptAtMs) last full rest
      else do
        let retryAtMs ← advanceOperatorArchive env key record archive
        let earliest := match retryAtMs with
          | none => earliest
          | some retryAtMs => earlier earliest retryAtMs
        Handler.perform storageError (.putScan (some ⟨some key, earliest⟩))

/-- `advanceOperatorArchiveScan` -/
def advanceOperatorArchiveScan : OperatorHandler Unit := do
  Handler.perform storageError (.begin none)
  if env.archiveEnabled = false then return ()
  else
    match ← Handler.perform storageError .readScan with
    | none => return ()
    | some scan =>
      let nowMs ← Handler.perform storageError .now
      if scan.after = none ∧ ∃ earliest ∈ scan.earliestRetryAtMs, nowMs < earliest then return ()
      else
        let records ← Handler.perform storageError (.listRecords scan.after archiveScanBatch)
        if records.isEmpty then
          Handler.perform storageError (.putScan
            (scan.earliestRetryAtMs.map fun earliest => ⟨none, some earliest⟩))
        else
          scanBatch env nowMs (if scan.after = none then none else scan.earliestRetryAtMs)
            (records.getLast?.map Prod.fst) (records.length == archiveScanBatch) records

end Alarm

/-! ## The object as a system -/

/-- What changes without the tasks: the status route starts an archive scan. -/
inductive OperatorWorld where
  | startScan

def operatorSystem (signer : OperatorSigner) :
    System OperatorObject OperatorInput OperatorOp String Unit OperatorTask OperatorWorld where
  exec := OperatorOp.exec
  handle := fun task =>
    match task with
    | .request request => handleRequest signer request
    | .alarm env => advanceOperatorArchiveScan env
  solo := fun _ => true
  environment := fun _ object => some { object with scan := some (object.scan.getD ⟨none, none⟩) }

end Youtick.Bridge
