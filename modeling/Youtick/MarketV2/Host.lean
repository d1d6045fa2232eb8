import Youtick.MarketV2.Types

/-!
# Market V2: the host and the outcome of a call

What the contract reads from outside its storage. `Host` holds the account the contract is deployed
on and the functions it calls that are not in the repository: the host's SHA-256 and Ed25519
verification, base58 and base64, and the serde and Borsh readers of its message types. They are
parameters of the model. `Context` is what changes from call to call: the caller, the clock, the
attached deposit, the account balance, and the results of the promises a callback waited for.

`storageUsage` is a function of the storage, because the host meters every write at once and
`issue_card_ticket` reads it on both sides of its writes.

A call that does not panic gives an `Outcome`: the storage after it, its return value, the events it
logged and the promises it scheduled.
-/

set_option autoImplicit false

namespace Youtick.MarketV2

open Youtick.Lib

/-! ## Events -/

/-- A JSON value. Wide integers are logged as decimal strings, `u64` and `u32` as numbers. -/
inductive Json where
  | null
  | bool (b : Bool)
  | num (n : Nat)
  | str (s : String)
  | arr (items : List Json)
  | obj (fields : List (String × Json))

namespace Json

def dec (n : Nat) : Json := .str (decimal n)

def optStr : Option String → Json
  | none => .null
  | some s => .str s

def optDec : Option Nat → Json
  | none => .null
  | some n => .dec n

end Json

/-- A logged event: the envelope version, the event name and its data object. -/
structure Event where
  version : String
  event : String
  data : List (String × Json)

/-! ## Promises -/

/-- The callback a transfer is followed by, with its arguments. -/
inductive Callback where
  | onTicketRefund (ticketId : String) (receiverId : AccountId) (amount : Nat)
      (restoreStatus : Option TicketStatus)
  | onCreatorWithdraw (creatorId : AccountId) (amount : Nat) (withdrawalId : String)
  | onPlatformWithdraw (amount : Nat)
  | onTaxWithdraw (amount : Nat)
  | onPlatformNearWithdraw (amount : Nat)
  deriving DecidableEq

/-- A scheduled receipt. `deployContract` is the batch that deploys `code` and then runs `migrate`;
`checked` is the pending record the scheduling call compared the code with, kept for statements
about it (the receipt itself carries only the code). -/
inductive Promise where
  | ftTransfer (receiverId : AccountId) (amount : Nat) (memo : String) (callback : Callback)
  | transfer (receiverId : AccountId) (amount : Nat) (callback : Option Callback)
  | deployContract (code : Bytes) (checked : PendingCodeUpgrade)
  deriving DecidableEq

inductive PromiseResult where
  | successful
  | failed
  deriving DecidableEq

/-! ## The environment of a call -/

inductive CurveType where
  | ed25519
  | secp256k1
  deriving DecidableEq

structure Host where
  currentAccountId : AccountId
  sha256 : Bytes → Bytes
  ed25519Verify : (signature message publicKey : Bytes) → Bool
  bs58Encode : Bytes → String
  bs58Decode : String → Option Bytes
  base64Encode : Bytes → String
  base64Decode : String → Option Bytes
  publicKeyCurve : String → Option CurveType
  actionProbeOfJson : String → Option (Option String)
  purchaseMessageOfJson : String → Option PurchaseMessageV2
  transferMessageOfJson : String → Option TransferMessage
  paidJobRequestToJson : PaidJobRequest → Bytes
  compactUploadOfBorsh : Bytes → Option CompactUpload

structure Context where
  predecessorAccountId : AccountId
  signerAccountId : AccountId
  signerAccountPk : String
  signerCurveType : CurveType
  blockTimestampMs : Nat
  blockHeight : Nat
  attachedDeposit : Nat
  input : Option Bytes
  accountBalance : Nat
  storageByteCost : Nat
  storageUsage : Contract → Nat
  promiseResults : List PromiseResult

/-- Everything a call can read besides the storage. -/
structure Env extends Host, Context

/-- The result of a call that did not panic. -/
structure Outcome (α : Type) where
  state : Contract
  value : α
  events : List Event := []
  promises : List Promise := []

/-- Forget the return value. -/
def Outcome.void {α : Type} (o : Outcome α) : Outcome Unit :=
  { state := o.state, value := (), events := o.events, promises := o.promises }

/-! ## Logging -/

/-- `emit_market_event`: the 1.0.0 envelope, with the call's own fields added to the data. -/
def emitMarketEvent (env : Env) (event idempotencyKey : String) (data : List (String × Json)) :
    Event where
  version := "1.0.0"
  event := event
  data := data ++
    [("contract_id", .str env.currentAccountId),
     ("predecessor_account_id", .str env.predecessorAccountId),
     ("block_height", .dec env.blockHeight),
     ("block_timestamp_ms", .dec env.blockTimestampMs),
     ("idempotency_key", .str idempotencyKey)]

def emitGovernanceEvent (env : Env) (event : String) (data : List (String × Json)) : Event :=
  emitMarketEvent env event
    ("governance:" ++ event ++ ":" ++ env.predecessorAccountId ++ ":" ++
      decimal env.blockTimestampMs) data

/-- `emit_market_v2_event`: the 2.0.0 envelope. -/
def emitMarketV2Event (event : String) (data : List (String × Json)) : Event where
  version := "2.0.0"
  event := event
  data := data

/-! ## Names in events and errors -/

def feeAssetName : FeeAsset → String
  | .usdc => "USDC"
  | .near => "NEAR"

def PublicationAvailability.name : PublicationAvailability → String
  | .active => "ACTIVE"
  | .salesSuspended => "SALES_SUSPENDED"
  | .takedown => "TAKEDOWN"

def GovernanceRole.name : GovernanceRole → String
  | .admin => "ADMIN"
  | .guardian => "GUARDIAN"
  | .platform => "PLATFORM"
  | .takedownAuthority => "TAKEDOWN_AUTHORITY"
  | .paymentOperator => "PAYMENT_OPERATOR"

/-! ## Network and hashes -/

def networkId (env : Env) : Result String :=
  if endsWith env.currentAccountId ".testnet" then .ok "testnet"
  else if endsWith env.currentAccountId ".near" then .ok "mainnet"
  else .error "Unsupported NEAR network"

def usdcContractId (env : Env) : Result AccountId :=
  if endsWith env.currentAccountId ".testnet" then .ok testnetUsdc
  else if endsWith env.currentAccountId ".near" then .ok mainnetUsdc
  else .error "Unsupported NEAR network"

def hexSha256 (host : Host) (value : Bytes) : String := hex (host.sha256 value)

def divCeil (numerator denominator : Nat) : Nat :=
  numerator / denominator + if numerator % denominator ≠ 0 then 1 else 0

/-- A deployment on mainnet: the account ends in `.near`. -/
def Host.IsMainnet (host : Host) : Prop :=
  endsWith host.currentAccountId ".testnet" = false ∧ endsWith host.currentAccountId ".near" = true

theorem networkId_of_isMainnet {env : Env} (h : env.toHost.IsMainnet) :
    networkId env = .ok "mainnet" := by
  simp [networkId, h.1, h.2]

end Youtick.MarketV2
