import Youtick.Lib.Handlers
import Youtick.Lib.LookupMap
import Youtick.Lib.Panic
import Youtick.Lib.Text
import Mathlib.Data.String.Basic

/-!
# Bridge: the operator outbox

The operator object signs and sends the contract calls of the bridge: finalizations, sales
suspensions, and the settlements of tickets. Every call has a record under its idempotency key, and
the records share one nonce counter. Requests and alarms of the object run one at a time
(`operatorTail`); between any two operations a request may be cut off and its object restarted.

What an operation that asks the network answers (an access key, the outcome of a transaction, the
effect in the final state) is the operation's input. The journal records what has been done, in
order; no program reads it.
-/

set_option autoImplicit false

namespace Youtick.Bridge

open Youtick.Lib

/-! ## Records -/

inductive OutboxMethod where
  | finalizeLivepeerPublication
  | suspendLivepeerSales
  | finalizePublication
  | suspendSales
  | markWatched
  | releaseExpired
  deriving DecidableEq

namespace OutboxMethod

/-- `LEGACY_METHOD_ALIASES`: the new name of a method that was renamed. -/
def renamed : OutboxMethod → Option OutboxMethod
  | finalizeLivepeerPublication => some finalizePublication
  | suspendLivepeerSales => some suspendSales
  | _ => none

/-- `EPHEMERAL_OUTBOX_METHODS`: confirmed records of these are deleted. -/
def isEphemeral : OutboxMethod → Bool
  | markWatched => true
  | releaseExpired => true
  | _ => false

end OutboxMethod

inductive RecordState where
  | pending
  | reserved
  | signed
  | broadcast
  | confirmed
  deriving DecidableEq

inductive ArchiveStatus where
  | pending
  | retry
  | committed
  deriving DecidableEq

structure RecordArchive where
  status : ArchiveStatus
  attempts : Nat
  createdAtMs : Nat
  nextAttemptAtMs : Nat
  archiveSha256 : Option String
  committedAtMs : Option Nat
  cleanupEligibleAtMs : Option Nat
  deriving DecidableEq

/-- A record of the outbox, stored under its idempotency key. -/
structure OperatorRecord where
  state : RecordState
  method : OutboxMethod
  payloadSha256 : String
  createdAtMs : Nat
  nonce : Option Nat
  blockHash : Option String
  signedTxBase64 : Option String
  txHash : Option String
  confirmedAtMs : Option Nat
  archive : Option RecordArchive

namespace OperatorRecord

def create (method : OutboxMethod) (payloadSha256 : String) (nowMs : Nat) : OperatorRecord where
  state := .pending
  method := method
  payloadSha256 := payloadSha256
  createdAtMs := nowMs
  nonce := none
  blockHash := none
  signedTxBase64 := none
  txHash := none
  confirmedAtMs := none
  archive := none

/-- `clearSignedTransaction` -/
def clearSigned (record : OperatorRecord) : OperatorRecord :=
  { record with
    state := .pending
    nonce := none
    blockHash := none
    signedTxBase64 := none
    txHash := none }

/-- `normalizeOperatorRecord` -/
def normalize (record : OperatorRecord) (method : OutboxMethod) : OperatorRecord :=
  { record with method := method }

/-- `confirmOperatorRecord` -/
def confirm (record : OperatorRecord) (nowMs : Nat) : OperatorRecord :=
  let confirmedAtMs := record.confirmedAtMs.getD nowMs
  { record with
    state := .confirmed
    nonce := none
    blockHash := none
    signedTxBase64 := none
    confirmedAtMs := some confirmedAtMs
    archive := some (record.archive.getD {
      status := .pending
      attempts := 0
      createdAtMs := confirmedAtMs
      nextAttemptAtMs := confirmedAtMs
      archiveSha256 := none
      committedAtMs := none
      cleanupEligibleAtMs := none }) }

/-- The record holds this signed transaction. -/
def Holds (record : OperatorRecord) (base64 hash : String) : Prop :=
  record.signedTxBase64 = some base64 ∧ record.txHash = some hash

instance (record : OperatorRecord) (base64 hash : String) :
    Decidable (record.Holds base64 hash) := by
  unfold Holds
  infer_instance

end OperatorRecord

/-! ## Transactions -/

/-- A function call of the operator account. -/
structure Transaction where
  method : OutboxMethod
  args : String
  nonce : Nat
  blockHash : String

structure SignedTransaction where
  base64 : String
  hash : String

/-- The operator key: Ed25519 signatures are deterministic. -/
structure OperatorSigner where
  sign : Transaction → SignedTransaction

/-- What a node answers about a transaction. -/
inductive TxAnswer where
  | error (json : String)
  | failure
  | success

inductive TxOutcome where
  | sent
  | invalidNonce
  | failed
  | unknown
  deriving DecidableEq

/-- `/pattern/i.test(text)` for a pattern without special characters. -/
def containsIgnoringCase (text pattern : String) : Bool :=
  (text.toList.map Char.toLower).tails.any (pattern.toList.map Char.toLower).isPrefixOf

/-- `classifyNearError` -/
def classifyNearError (json : String) : TxOutcome :=
  if containsIgnoringCase json "InvalidNonce" || containsIgnoringCase json "EXPIRED_TRANSACTION" then
    .invalidNonce
  else if containsIgnoringCase json "UNKNOWN_TRANSACTION" ||
      containsIgnoringCase json "TIMEOUT_ERROR" || containsIgnoringCase json "timeout" then .unknown
  else .failed

def TxAnswer.outcome : TxAnswer → TxOutcome
  | .error json => classifyNearError json
  | .failure => .failed
  | .success => .sent

/-- The transaction can no longer land: it failed for good, or its nonce or block is spent. -/
def TxOutcome.Unlandable (outcome : TxOutcome) : Prop :=
  outcome = .failed ∨ outcome = .invalidNonce

instance (outcome : TxOutcome) : Decidable outcome.Unlandable := by
  unfold TxOutcome.Unlandable
  infer_instance

structure AccessKey where
  nonce : Nat
  blockHash : String

/-! ## The object -/

/-- Why a record is deleted: its effect is in the final state, or its transaction failed. -/
inductive Removal where
  | confirmed
  | failed

/-- What a finished call reports. -/
structure OutboxAnswer where
  confirmed : Bool
  txHash : Option String
  status : Nat

/-- One line of the journal. -/
inductive OutboxFact where
  | began (key : Option String)
  | opened (key payloadSha256 : String) (method : OutboxMethod) (before : Option OperatorRecord)
  | rekeyed (key : String)
  | reserved (key : String) (nonce : Nat)
  | put (key : String) (record : OperatorRecord)
  | removed (key : String) (why : Removal)
  | sent (base64 : String) (outcome : TxOutcome)
  | queried (hash : String) (outcome : TxOutcome)
  | effect (key : String) (holds : Bool)
  | answered (key : String) (result : Result OutboxAnswer)

structure ArchiveScan where
  after : Option String
  earliestRetryAtMs : Option Nat

structure OperatorObject where
  records : LookupMap String OperatorRecord
  lastNonce : Option Nat
  scan : Option ArchiveScan
  journal : List OutboxFact

def OperatorObject.empty : OperatorObject := ⟨.empty, none, none, []⟩

def OperatorObject.log (object : OperatorObject) (facts : List OutboxFact) : OperatorObject :=
  { object with journal := object.journal ++ facts }

/-- What the outside gives an operation. -/
structure OperatorInput where
  nowMs : Nat
  accessKey : AccessKey
  txAnswer : TxAnswer
  holds : Bool
  ticketStatus : Option String
  archiveSha256 : String

inductive OperatorOp : Type → Type
  | now : OperatorOp Nat
  | begin (key : Option String) : OperatorOp Unit
  | preflight : OperatorOp Unit
  | openRecord (key payloadSha256 : String) (method : OutboxMethod) :
      OperatorOp (Result (OperatorRecord × Bool))
  | effectCheck (key : String) : OperatorOp Bool
  | ticketStatus : OperatorOp (Option String)
  | queryTransaction (hash : String) : OperatorOp TxOutcome
  | readAccessKey : OperatorOp AccessKey
  | reserveNonce (key : String) (accessKey : AccessKey) : OperatorOp (Result OperatorRecord)
  | sendTransaction (base64 : String) : OperatorOp TxOutcome
  | putRecord (key : String) (record : OperatorRecord) : OperatorOp Unit
  | deleteRecord (key : String) (why : Removal) : OperatorOp Unit
  | startScan : OperatorOp Unit
  | readScan : OperatorOp (Option ArchiveScan)
  | putScan (scan : Option ArchiveScan) : OperatorOp Unit
  | listRecords (after : Option String) (limit : Nat) : OperatorOp (List (String × OperatorRecord))
  | commitArchive : OperatorOp String
  | respond (key : String) (result : Result OutboxAnswer) : OperatorOp Unit

/-- What the first transaction of a request makes of the stored record: the record it goes on with
and whether it is a confirmed one under an old name, or a refusal. -/
def openExisting (existing : OperatorRecord) (payloadSha256 : String) (method : OutboxMethod) :
    Result (OperatorRecord × Bool) :=
  if existing.payloadSha256 ≠ payloadSha256 then .error "outbox_conflict"
  else if existing.method ≠ method then
    if existing.method.renamed ≠ some method then .error "outbox_conflict"
    else if existing.state = .confirmed then .ok (existing, true)
    else if method ≠ .suspendSales then .error "outbox_conflict"
    else .ok (existing.clearSigned.normalize method, false)
  else .ok (existing.normalize method, false)

/-- `state.storage.transaction` at the start of a request. -/
def OperatorObject.openRecord (object : OperatorObject) (key payloadSha256 : String)
    (method : OutboxMethod) (nowMs : Nat) : Result (OperatorRecord × Bool) × OperatorObject :=
  match object.records.get key with
  | none =>
    let created := OperatorRecord.create method payloadSha256 nowMs
    (.ok (created, false), { object.log [.opened key payloadSha256 method none] with
      records := object.records.insert key created })
  | some existing =>
    let opened := object.log [.opened key payloadSha256 method (some existing)]
    match openExisting existing payloadSha256 method with
    | .error code => (.error code, opened)
    | .ok (record, true) => (.ok (record, true), opened)
    | .ok (record, false) =>
      let stored := { opened with records := object.records.insert key record }
      (.ok (record, false),
        if existing.method = method then stored else stored.log [.rekeyed key])

/-- The transaction that reserves the next nonce for a record without one. -/
def OperatorObject.reserveNonce (object : OperatorObject) (key : String) (accessKey : AccessKey) :
    Result OperatorRecord × OperatorObject :=
  match object.records.get key with
  | none => (.error "near_finalize_pending", object)
  | some current =>
    if current.nonce.isSome ∧ current.blockHash.isSome then (.ok current, object)
    else
      let nonce := max (object.lastNonce.getD 0) accessKey.nonce + 1
      let reserved := { current with
        state := .reserved
        nonce := some nonce
        blockHash := some accessKey.blockHash }
      (.ok reserved, { object.log [.reserved key nonce] with
        records := object.records.insert key reserved
        lastNonce := some nonce })

/-- `state.storage.list`: at most `limit` records after a key, in the order of the keys. -/
def OperatorObject.listRecords (object : OperatorObject) (after : Option String)
    (limit : Nat) : List (String × OperatorRecord) :=
  (keysInOrder (object.records.keys.filter fun key => ∀ last ∈ after, last < key)).filterMap
    (fun key => (object.records.get key).map fun record => (key, record)) |>.take limit

def OperatorOp.exec : (β : Type) → OperatorOp β → OperatorInput → OperatorObject →
    Option (β × OperatorObject)
  | _, .now, i, s => some (i.nowMs, s)
  | _, .begin key, _, s => some ((), s.log [.began key])
  | _, .preflight, _, s => some ((), s)
  | _, .openRecord key payloadSha256 method, i, s =>
    some (s.openRecord key payloadSha256 method i.nowMs)
  | _, .effectCheck key, i, s => some (i.holds, s.log [.effect key i.holds])
  | _, .ticketStatus, i, s => some (i.ticketStatus, s)
  | _, .queryTransaction hash, i, s =>
    some (i.txAnswer.outcome, s.log [.queried hash i.txAnswer.outcome])
  | _, .readAccessKey, i, s => some (i.accessKey, s)
  | _, .reserveNonce key accessKey, _, s => some (s.reserveNonce key accessKey)
  | _, .sendTransaction base64, i, s =>
    some (i.txAnswer.outcome, s.log [.sent base64 i.txAnswer.outcome])
  | _, .putRecord key record, _, s =>
    some ((), { s.log [.put key record] with records := s.records.insert key record })
  | _, .deleteRecord key why, _, s =>
    some ((), { s.log [.removed key why] with records := s.records.remove key })
  | _, .startScan, _, s => some ((), { s with scan := some (s.scan.getD ⟨none, none⟩) })
  | _, .readScan, _, s => some (s.scan, s)
  | _, .putScan scan, _, s => some ((), { s with scan := scan })
  | _, .listRecords after limit, _, s => some (s.listRecords after limit, s)
  | _, .commitArchive, i, s => some (i.archiveSha256, s)
  | _, .respond key result, _, s => some ((), s.log [.answered key result])

end Youtick.Bridge
