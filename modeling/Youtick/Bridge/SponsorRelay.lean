import Youtick.Bridge.Operator
import Youtick.Lib.Text

/-!
# Bridge: the sponsored upload relay

A creator signs a delegate action that pays for an upload; the relayer account wraps it into a
transaction of its own, signs and sends it. The relay of a job has a record under the job's id, and
the records share one nonce counter. Requests and alarms of the object run one at a time
(`operatorTail`); between any two operations one may be cut off and its object restarted.

The chain is what the network has received, which of it can no longer land, the nonces of the
creators' keys and the jobs. A delegate action is executed only with a nonce above its key's, so
that a transaction may land without executing it. What an operation that asks the network answers is its
input; an outcome that is final closes the transaction. The journal records what has been done; no
program reads it.
-/

set_option autoImplicit false

namespace Youtick.Bridge.SponsorRelay

open Youtick.Lib

/-! ## The signed delegate -/

/-- `SponsoredPaidJobRequest` -/
structure PaidJobRequest where
  creatorId : String
  jobId : String
  title : String
  priceUsdc : String
  expectedSourceBytes : String
  profileId : String
  profileConfigSha256 : String
  uploadPublicKey : String
  uploadKeyExpiresAtMs : String
  deriving DecidableEq

/-- `SponsoredUploadQuote` -/
structure UploadQuote where
  domain : String
  version : String
  network : String
  contractId : String
  creatorId : String
  jobId : String
  requestSha256 : String
  expectedSourceBytes : String
  uploadFeeUsdc : String
  sponsorFeeUsdc : String
  totalFeeUsdc : String
  delegateReceiverId : String
  delegateMethod : String
  delegateGas : String
  delegateDepositYocto : String
  issuedAtMs : String
  quoteBlockHeight : String
  maxDelegateBlockHeight : String
  expiresAtMs : String
  quoteKeyVersion : Nat
  quoteId : String
  deriving DecidableEq

/-- `ParsedSponsoredDelegate`; the delegate action itself stands in `signedDelegateBase64`. -/
structure SponsoredDelegate where
  signedDelegateBase64 : String
  signedDelegateSha256 : String
  publicKey : String
  nonce : Nat
  maxBlockHeight : Nat
  request : PaidJobRequest
  quote : UploadQuote
  hasPlaybackSession : Bool
  deriving DecidableEq

/-- `BigInt` of a string of digits. -/
def bigInt (text : String) : Nat := digitsValue text.toList

/-- `CREATOR_FEE_QUOTE_LIFETIME_MS` -/
def quoteLifetimeMs : Nat := 120000

/-- `SPONSORED_UPLOAD_SIGNING_HEADROOM_BLOCKS` -/
def signingHeadroomBlocks : Nat := 200

def freshnessCode : String := "invalid_sponsored_upload_relay_freshness"
def accessKeyCode : String := "invalid_sponsored_upload_relay_access_key"

/-- `sponsoredQuoteIsFresh` -/
def quoteIsFresh (input : SponsoredDelegate) (nowMs : Nat) : Bool :=
  let issuedAt := bigInt input.quote.issuedAtMs
  let expiresAt := bigInt input.quote.expiresAtMs
  decide (nowMs < bigInt input.request.uploadKeyExpiresAtMs ∧ issuedAt ≤ nowMs ∧
    nowMs - issuedAt ≤ quoteLifetimeMs ∧ nowMs < expiresAt ∧ issuedAt < expiresAt ∧
    expiresAt - issuedAt ≤ quoteLifetimeMs)

/-- `requireSponsoredQuoteFresh` -/
def requireQuoteFresh (input : SponsoredDelegate) (nowMs height : Nat) : Result PUnit.{1} :=
  require (quoteIsFresh input nowMs = true ∧ bigInt input.quote.quoteBlockHeight ≤ height ∧
    height ≤ bigInt input.quote.maxDelegateBlockHeight ∧ height < input.maxBlockHeight)
    freshnessCode

/-! ## Records -/

/-- The relayer's transaction around a creator's delegate action. Ed25519 signatures are
deterministic, so it stands for its encoding and for its hash as well. -/
structure RelayTransaction where
  creator : String
  nonce : Nat
  blockHash : String
  delegate : SponsoredDelegate
  deriving DecidableEq

inductive RelayState where
  | pending
  | reserved
  | signed
  | broadcast
  deriving DecidableEq

/-- `SponsorRelayRecord`; `signedTx` is `signedTxBase64` and `txHash`. -/
structure SponsorRelayRecord where
  state : RelayState
  jobId : String
  creator : String
  payloadSha256 : String
  signedDelegateBase64 : String
  createdAtMs : Nat
  nonce : Option Nat
  blockHash : Option String
  signedTx : Option RelayTransaction

/-- The record of a relay that begins. -/
def SponsorRelayRecord.create (input : SponsoredDelegate) (nowMs : Nat) : SponsorRelayRecord where
  state := .pending
  jobId := input.request.jobId
  creator := input.request.creatorId
  payloadSha256 := input.signedDelegateSha256
  signedDelegateBase64 := input.signedDelegateBase64
  createdAtMs := nowMs
  nonce := none
  blockHash := none
  signedTx := none

/-- `clearSponsorRelayTransaction` -/
def SponsorRelayRecord.clear (record : SponsorRelayRecord) : SponsorRelayRecord :=
  { record with
    state := .pending
    nonce := none
    blockHash := none
    signedTx := none }

/-- The record is about another delegate action. -/
def SponsorRelayRecord.Conflicts (record : SponsorRelayRecord) (input : SponsoredDelegate) : Prop :=
  record.payloadSha256 ≠ input.signedDelegateSha256 ∨ record.creator ≠ input.request.creatorId

instance (record : SponsorRelayRecord) (input : SponsoredDelegate) :
    Decidable (record.Conflicts input) := by
  unfold SponsorRelayRecord.Conflicts
  infer_instance

/-! ## The chain -/

/-- The fields of a job view that the relay compares. -/
structure JobView where
  jobId : String
  creatorId : String
  title : String
  priceUsdc : String
  expectedSourceBytes : String
  profileId : String
  profileConfigSha256 : String
  uploadPublicKey : String
  uploadKeyExpiresAtMs : String
  status : String
  feeAsset : String
  feeAmount : String
  feeUsdMicro : String
  feeQuoteHash : String

/-- `requireExactSponsoredJob` -/
def requireExactSponsoredJob (job : JobView) (input : SponsoredDelegate) : Result PUnit.{1} :=
  require (job.jobId = input.request.jobId ∧ job.creatorId = input.request.creatorId ∧
    job.title = input.request.title ∧ job.priceUsdc = input.request.priceUsdc ∧
    job.expectedSourceBytes = input.request.expectedSourceBytes ∧
    job.profileId = input.request.profileId ∧
    job.profileConfigSha256 = input.request.profileConfigSha256 ∧
    job.uploadPublicKey = input.request.uploadPublicKey ∧
    job.uploadKeyExpiresAtMs = input.request.uploadKeyExpiresAtMs ∧
    job.status = "Authorized" ∧ job.feeAsset = "USDC" ∧
    job.feeAmount = input.quote.totalFeeUsdc ∧ job.feeUsdMicro = input.quote.totalFeeUsdc ∧
    job.feeQuoteHash = input.quote.quoteId) "sponsor_job_conflict"

/-- How a transaction lands: its delegate action is refused, or executed, and then its transfer may
have made the job. -/
inductive Landing where
  | refused
  | executed (job : Option JobView)

structure RelayChain where
  received : List RelayTransaction
  /-- Landed, or refused for good. -/
  closed : List RelayTransaction
  /-- The nonces of the creators' keys. -/
  nonces : LookupMap (String × String) Nat
  jobs : LookupMap String JobView
  /-- The delegate actions that were executed, in order. -/
  executed : List SponsoredDelegate

namespace RelayChain

def keyNonce (chain : RelayChain) (creator publicKey : String) : Nat :=
  (chain.nonces.get (creator, publicKey)).getD 0

def receive (chain : RelayChain) (tx : RelayTransaction) : RelayChain :=
  { chain with received := chain.received ++ [tx] }

def close (chain : RelayChain) (tx : RelayTransaction) : RelayChain :=
  { chain with closed := chain.closed ++ [tx] }

/-- Jobs are never taken back; the transfer for a job that exists is returned. -/
def makeJob (chain : RelayChain) (jobId : String) (job : Option JobView) : RelayChain :=
  match job, chain.jobs.get jobId with
  | some job, none => { chain with jobs := chain.jobs.insert jobId job }
  | _, _ => chain

/-- A delegate action needs a nonce above its key's. -/
def execute (chain : RelayChain) (delegate : SponsoredDelegate) (job : Option JobView) :
    Option RelayChain :=
  if chain.keyNonce delegate.request.creatorId delegate.publicKey < delegate.nonce then
    some ({ chain with
      nonces := chain.nonces.insert (delegate.request.creatorId, delegate.publicKey) delegate.nonce
      executed := chain.executed ++ [delegate] }.makeJob delegate.request.jobId job)
  else none

/-- The transaction can still land. -/
def CanLand (chain : RelayChain) (tx : RelayTransaction) : Prop :=
  tx ∈ chain.received ∧ tx ∉ chain.closed

instance (chain : RelayChain) (tx : RelayTransaction) : Decidable (chain.CanLand tx) := by
  unfold CanLand
  infer_instance

def land (chain : RelayChain) (tx : RelayTransaction) (landing : Landing) : Option RelayChain :=
  if chain.CanLand tx then
    match landing with
    | .refused => some (chain.close tx)
    | .executed job => (chain.execute tx.delegate job).map fun chain => chain.close tx
  else none

/-- What a node can answer about a transaction: it was sent if it has landed, and a failure, an
invalid nonce or an expired block is final. -/
def answer (chain : RelayChain) (tx : RelayTransaction) : TxOutcome → Option RelayChain
  | .unknown => some chain
  | .sent => if tx ∈ chain.closed then some chain else none
  | .failed => some (chain.close tx)
  | .invalidNonce => some (chain.close tx)

/-- A node receives the transaction; it may have landed before the node answers. -/
def arrive (chain : RelayChain) (tx : RelayTransaction) : Option Landing → Option RelayChain
  | none => some (chain.receive tx)
  | some landing => (chain.receive tx).land tx landing

end RelayChain

/-! ## The object and its operations -/

/-- One line of the journal. -/
inductive RelayFact where
  | reserved (jobId : String) (nonce : Nat)
  | signed (jobId : String) (tx : RelayTransaction)
  | sent (jobId : String) (tx : RelayTransaction)
  | released (jobId : String)
  deriving DecidableEq

structure RelayObject where
  records : LookupMap String SponsorRelayRecord
  lastNonce : Option Nat
  chain : RelayChain
  journal : List RelayFact

def RelayObject.log (object : RelayObject) (fact : RelayFact) : RelayObject :=
  { object with journal := object.journal ++ [fact] }

inductive Permission where
  | fullAccess
  | functionCall (receiverId : String) (methods : List String)
  deriving DecidableEq

structure CreatorKey where
  nonce : Nat
  permission : Permission

structure RelayEnv where
  usdcContractId : String
  mutationsEnabled : Bool

/-- `requireCreatorDelegatePermission` -/
def requireDelegatePermission (env : RelayEnv) : Permission → Result PUnit.{1}
  | .fullAccess => return ⟨⟩
  | .functionCall receiverId methods =>
    require (receiverId = env.usdcContractId ∧ "ft_transfer_call" ∈ methods) accessKeyCode

/-- What the outside gives an operation. -/
structure RelayInput where
  nowMs : Nat
  height : Nat
  job : Option JobView
  creatorKey : CreatorKey
  relayerKey : AccessKey
  balance : Nat
  refusal : Option String
  txAnswer : TxAnswer
  /-- A transaction that is sent may land before the node answers. -/
  landing : Option Landing

inductive RelayOp : Type → Type
  | now : RelayOp Nat
  | readJob (jobId : String) : RelayOp (Option JobView)
  | getRecord (jobId : String) : RelayOp (Option SponsorRelayRecord)
  | firstRecord : RelayOp (Option SponsorRelayRecord)
  | putRecord (jobId : String) (record : SponsorRelayRecord) : RelayOp Unit
  | deleteRecord (jobId : String) : RelayOp Unit
  | rememberPaidJob (creator jobId : String) : RelayOp Unit
  | queryTransaction (tx : RelayTransaction) : RelayOp TxOutcome
  | sendTransaction (jobId : String) (tx : RelayTransaction) : RelayOp TxOutcome
  | readFinalBlock : RelayOp Nat
  | readCreatorKey (creator publicKey : String) : RelayOp CreatorKey
  | readRelayerKey : RelayOp AccessKey
  | readUsdcBalance (creator : String) : RelayOp Nat
  | rateLimit (creator : String) : RelayOp (Result PUnit.{1})
  | reserveAdmission (request : PaidJobRequest) : RelayOp (Result PUnit.{1})
  | releaseAdmission (jobId : String) : RelayOp Unit
  | openRecord (input : SponsoredDelegate) : RelayOp (Result SponsorRelayRecord)
  | reserveNonce (jobId : String) (accessKey : AccessKey) : RelayOp (Result SponsorRelayRecord)
  | sign (jobId : String) (tx : RelayTransaction) : RelayOp Unit

/-- The transaction that opens a record, or takes the one that is there. -/
def RelayObject.openRecord (object : RelayObject) (input : SponsoredDelegate) (nowMs : Nat) :
    Result SponsorRelayRecord × RelayObject :=
  match object.records.get input.request.jobId with
  | some existing =>
    if existing.Conflicts input then (.error "sponsor_relay_conflict", object)
    else (.ok existing, object)
  | none =>
    let created := SponsorRelayRecord.create input nowMs
    (.ok created, { object with records := object.records.insert input.request.jobId created })

/-- The transaction that reserves the next nonce for a record without one. -/
def RelayObject.reserveNonce (object : RelayObject) (jobId : String) (accessKey : AccessKey) :
    Result SponsorRelayRecord × RelayObject :=
  match object.records.get jobId with
  | none => (.error "sponsor_relay_pending", object)
  | some current =>
    if current.nonce.isSome ∧ current.blockHash.isSome then (.ok current, object)
    else
      let nonce := max (object.lastNonce.getD 0) accessKey.nonce + 1
      let reserved := { current with
        state := .reserved
        nonce := some nonce
        blockHash := some accessKey.blockHash }
      (.ok reserved, { object.log (.reserved jobId nonce) with
        records := object.records.insert jobId reserved
        lastNonce := some nonce })

/-- The record with the first key. -/
def RelayObject.firstRecord (object : RelayObject) : Option SponsorRelayRecord :=
  (keysInOrder object.records.keys).head?.bind object.records.get

def refuse (refusal : Option String) : Result PUnit.{1} :=
  match refusal with
  | none => return ⟨⟩
  | some code => .error code

def RelayOp.exec : (β : Type) → RelayOp β → RelayInput → RelayObject → Option (β × RelayObject)
  | _, .now, i, s => some (i.nowMs, s)
  -- a final view may be older than the chain; jobs stay
  | _, .readJob jobId, i, s =>
    if i.job = none ∨ (s.chain.jobs.get jobId).isSome then some (i.job, s) else none
  | _, .getRecord jobId, _, s => some (s.records.get jobId, s)
  | _, .firstRecord, _, s => some (s.firstRecord, s)
  | _, .putRecord jobId record, _, s =>
    some ((), { s with records := s.records.insert jobId record })
  | _, .deleteRecord jobId, _, s => some ((), { s with records := s.records.remove jobId })
  | _, .rememberPaidJob _ _, _, s => some ((), s)
  | _, .queryTransaction tx, i, s =>
    (s.chain.answer tx i.txAnswer.outcome).map fun chain =>
      (i.txAnswer.outcome, { s with chain := chain })
  | _, .sendTransaction jobId tx, i, s =>
    ((s.chain.arrive tx i.landing).bind fun chain => chain.answer tx i.txAnswer.outcome).map
      fun chain => (i.txAnswer.outcome, { s.log (.sent jobId tx) with chain := chain })
  | _, .readFinalBlock, i, s => some (i.height, s)
  | _, .readCreatorKey _ _, i, s => some (i.creatorKey, s)
  | _, .readRelayerKey, i, s => some (i.relayerKey, s)
  | _, .readUsdcBalance _, i, s => some (i.balance, s)
  | _, .rateLimit _, i, s => some (refuse i.refusal, s)
  | _, .reserveAdmission _, i, s => some (refuse i.refusal, s)
  | _, .releaseAdmission jobId, _, s => some ((), s.log (.released jobId))
  | _, .openRecord input, i, s => some (s.openRecord input i.nowMs)
  | _, .reserveNonce jobId accessKey, _, s => some (s.reserveNonce jobId accessKey)
  | _, .sign jobId tx, _, s => some ((), s.log (.signed jobId tx))

/-! ## The handler -/

abbrev RelayHandler (α : Type) : Type 1 := Handler RelayOp String α

/-- What a finished relay reports. -/
structure RelayAnswer where
  relayed : Bool
  tx : Option RelayTransaction
  status : Nat

def storageError : String := "internal_error"

/-- The job is on chain: the record has done its work. -/
def settleWithJob (input : SponsoredDelegate) (job : JobView) (tx : Option RelayTransaction) :
    RelayHandler RelayAnswer := do
  Handler.ofExcept (requireExactSponsoredJob job input)
  Handler.perform storageError (.deleteRecord input.request.jobId)
  (Handler.perform storageError
    (.rememberPaidJob input.request.creatorId input.request.jobId)).rescue fun _ => .done ()
  return ⟨true, tx, 200⟩

/-- The reservation and the record are given up. -/
def releaseAndDelete (input : SponsoredDelegate) : RelayHandler Unit := do
  Handler.perform "admission_closed" (.releaseAdmission input.request.jobId)
  Handler.perform storageError (.deleteRecord input.request.jobId)

/-- A record that was broadcast: an answer, or the record to go on with. -/
def reconcileRelay (input : SponsoredDelegate) (record : SponsorRelayRecord)
    (tx : RelayTransaction) : RelayHandler (RelayAnswer ⊕ SponsorRelayRecord) := do
  let observed ← Handler.perform "near_finalize_pending" (.queryTransaction tx)
  let job ← Handler.perform "near_job_query_failed" (.readJob input.request.jobId)
  match job with
  | some job => do
      let answer ← settleWithJob input job (some tx)
      return .inl answer
  | none =>
    if observed = .failed ∨ observed = .sent then do
      releaseAndDelete input
      .raise "sponsor_relay_failed"
    else if observed = .unknown then return .inl ⟨false, some tx, 202⟩
    else do
      Handler.perform storageError (.putRecord input.request.jobId record.clear)
      return .inr record.clear

/-- The record with a nonce and a block. -/
def reserveRelay (input : SponsoredDelegate) (record : SponsorRelayRecord)
    (relayerKey : AccessKey) : RelayHandler SponsorRelayRecord :=
  if record.nonce.isSome ∧ record.blockHash.isSome then return record
  else do
    let reserved ← Handler.perform storageError (.reserveNonce input.request.jobId relayerKey)
    Handler.ofExcept reserved

/-- The record with its signed transaction. -/
def signRelay (input : SponsoredDelegate) (record : SponsorRelayRecord) (relayerKey : AccessKey) :
    RelayHandler (SponsorRelayRecord × RelayTransaction) :=
  match record.signedTx with
  | some tx => return (record, tx)
  | none => do
      let record ← reserveRelay input record relayerKey
      match record.nonce, record.blockHash with
      | some nonce, some blockHash => do
          let tx : RelayTransaction := ⟨input.request.creatorId, nonce, blockHash, input⟩
          Handler.perform storageError (.sign input.request.jobId tx)
          let signed := { record with
            state := .signed
            signedTx := some tx }
          Handler.perform storageError (.putRecord input.request.jobId signed)
          return (signed, tx)
      | _, _ => .raise storageError

/-- From the signed transaction to the answer: it is sent, and the record says so afterwards. -/
def sendRelay (input : SponsoredDelegate) (record : SponsorRelayRecord) (tx : RelayTransaction) :
    RelayHandler RelayAnswer := do
  let height ← Handler.perform "near_finalize_pending" .readFinalBlock
  let nowMs ← Handler.perform storageError .now
  Handler.ofExcept (requireQuoteFresh input nowMs height)
  let outcome ← (Handler.perform "near_finalize_pending"
    (.sendTransaction input.request.jobId tx)).rescue fun _ => .done .unknown
  let record := { record with state := .broadcast }
  Handler.perform storageError (.putRecord input.request.jobId record)
  let job ← Handler.perform "near_job_query_failed" (.readJob input.request.jobId)
  match job with
  | some job => settleWithJob input job (some tx)
  | none =>
    if outcome = .failed ∨ outcome = .sent then do
      releaseAndDelete input
      .raise "sponsor_relay_failed"
    else if outcome = .invalidNonce then do
      Handler.perform storageError (.putRecord input.request.jobId record.clear)
      return ⟨false, some tx, 202⟩
    else return ⟨false, some tx, 202⟩

/-- A fresh quote: the checks of the accounts, the reservation, and the transaction. -/
def startRelay (env : RelayEnv) (input : SponsoredDelegate) : RelayHandler RelayAnswer := do
  let height ← Handler.perform "near_finalize_pending" .readFinalBlock
  let creatorKey ← Handler.perform "near_finalize_pending"
    (.readCreatorKey input.request.creatorId input.publicKey)
  let relayerKey ← Handler.perform "runtime_not_configured" .readRelayerKey
  let balance ← Handler.perform "near_finalize_pending" (.readUsdcBalance input.request.creatorId)
  let nowMs ← Handler.perform storageError .now
  Handler.ofExcept (requireQuoteFresh input nowMs height)
  Handler.ofExcept (require (input.nonce = creatorKey.nonce + 1 ∧ height < input.maxBlockHeight ∧
    input.maxBlockHeight ≤ bigInt input.quote.maxDelegateBlockHeight + signingHeadroomBlocks)
    accessKeyCode)
  Handler.ofExcept (requireDelegatePermission env creatorKey.permission)
  Handler.ofExcept (require (input.hasPlaybackSession = true →
    creatorKey.permission = .fullAccess) accessKeyCode)
  let limited ← Handler.perform storageError (.rateLimit input.request.creatorId)
  Handler.ofExcept limited
  Handler.ofExcept (require (bigInt input.quote.totalFeeUsdc ≤ balance)
    "sponsor_balance_insufficient")
  let admitted ← Handler.perform storageError (.reserveAdmission input.request)
  Handler.ofExcept admitted
  let opened ← Handler.perform storageError (.openRecord input)
  let record ← Handler.ofExcept opened
  let (record, tx) ← signRelay input record relayerKey
  sendRelay input record tx

/-- The record is given up when its quote is no longer fresh. -/
def relayOrGiveUp (env : RelayEnv) (input : SponsoredDelegate)
    (stored : Option SponsorRelayRecord) : RelayHandler RelayAnswer := do
  let nowMs ← Handler.perform storageError .now
  if quoteIsFresh input nowMs = true then startRelay env input
  else if stored.isSome then do
    releaseAndDelete input
    .raise freshnessCode
  else .raise freshnessCode

/-- `relaySponsoredUpload` of a parsed body. -/
def relayDelegate (env : RelayEnv) (input : SponsoredDelegate) : RelayHandler RelayAnswer := do
  let existing ← Handler.perform "near_job_query_failed" (.readJob input.request.jobId)
  match existing with
  | some job => settleWithJob input job none
  | none => do
      let stored ← Handler.perform storageError (.getRecord input.request.jobId)
      match stored with
      | none => relayOrGiveUp env input none
      | some record =>
        if record.Conflicts input then .raise "sponsor_relay_conflict"
        else
          match record.state, record.signedTx with
          | .broadcast, some tx => do
              match ← reconcileRelay input record tx with
              | .inl answer => return answer
              | .inr record => relayOrGiveUp env input (some record)
          | _, _ => relayOrGiveUp env input (some record)

/-- A request with its body, or an alarm. -/
inductive RelayTask where
  | request (signedDelegateBase64 : String)
  | alarm

section System

variable (parse : String → Result SponsoredDelegate) (env : RelayEnv)

/-- `relaySponsoredUpload`; `parse` is `parseSponsoredUploadRelayRequest`. -/
def relaySponsoredUpload (signedDelegateBase64 : String) : RelayHandler RelayAnswer := do
  let input ← Handler.ofExcept (parse signedDelegateBase64)
  relayDelegate env input

/-- `advanceSponsorRelayAlarm`: the first record is relayed again. -/
def advanceSponsorRelayAlarm : RelayHandler Unit := do
  let first ← Handler.perform storageError .firstRecord
  match first with
  | none => return ()
  | some record =>
    if env.mutationsEnabled then
      (relaySponsoredUpload parse env record.signedDelegateBase64 >>= fun _ =>
        .done ()).rescue fun _ => .done ()
    else return ()

/-- What changes on the chain without the relay. -/
inductive ChainChange where
  | lands (tx : RelayTransaction) (landing : Landing)
  /-- Another relayer has the delegate action executed. -/
  | executes (delegate : SponsoredDelegate) (job : Option JobView)
  | usesKey (creator publicKey : String) (nonce : Nat)
  | setsJob (jobId : String) (job : JobView)

def RelayChain.change (chain : RelayChain) : ChainChange → Option RelayChain
  | .lands tx landing => chain.land tx landing
  | .executes delegate job => chain.execute delegate job
  | .usesKey creator publicKey nonce =>
    some { chain with
      nonces := chain.nonces.insert (creator, publicKey)
        (max (chain.keyNonce creator publicKey) nonce) }
  | .setsJob jobId job => some { chain with jobs := chain.jobs.insert jobId job }

def relaySystem :
    System RelayObject RelayInput RelayOp String Unit RelayTask ChainChange where
  exec := RelayOp.exec
  handle := fun task =>
    match task with
    | .request body => relaySponsoredUpload parse env body >>= fun _ => .done ()
    | .alarm => advanceSponsorRelayAlarm parse env
  solo := fun _ => true
  environment := fun change object =>
    (object.chain.change change).map fun chain => { object with chain := chain }

end System

/-- The object before its first relay, with whatever keys and jobs the chain has. -/
def start (nonces : LookupMap (String × String) Nat) (jobs : LookupMap String JobView) :
    RelayObject := ⟨.empty, none, ⟨[], [], nonces, jobs, []⟩, []⟩

end Youtick.Bridge.SponsorRelay
