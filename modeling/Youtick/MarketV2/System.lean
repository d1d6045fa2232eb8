import Youtick.Lib.Outbox
import Youtick.Lib.Trace
import Youtick.MarketV2.Governance
import Youtick.MarketV2.Transfer
import Youtick.MarketV2.Withdrawals

/-!
# Market V2: the contract among its receipts

`Call` lists the contract's methods with their arguments, and `Call.run` executes one. A `World` is
the contract's storage, the receipts it has scheduled and that have not come back, and the latest
block time. Its steps are a call by anyone, the landing of a scheduled transfer with either result,
the callback of a landed transfer, and the batch of a code upgrade. They interleave in any order, at
times that do not decrease; a call or callback that panics leaves the storage as it was.
-/

set_option autoImplicit false

namespace Youtick.MarketV2

open Youtick.Lib

/-! ## Calls -/

inductive Call where
  | freezeBridge
  | requestBridgeUnfreeze
  | cancelBridgeUnfreeze
  | unfreezeBridge
  | pauseNewPurchases
  | requestNewPurchasesUnpause
  | cancelNewPurchasesUnpause
  | unpauseNewPurchases
  | startPublicTestnetBeta
  | closePublicTestnetBeta
  | proposeBridge (nextBridgeAccountId : AccountId)
  | cancelBridgeRotation
  | executeBridgeRotation
  | proposeRoleRotation (role : GovernanceRole) (nextAccountId : AccountId)
  | cancelRoleRotation (role : GovernanceRole)
  | executeRoleRotation (role : GovernanceRole)
  | proposeCodeUpgrade (codeSha256 : String)
  | cancelCodeUpgrade
  | executeCodeUpgrade
  | migrate
  | createPaidJob (request : PaidJobRequest)
  | createPaidJobNear (request : PaidJobRequest) (quote : CreatorFeeQuote) (quoteSignature : Bytes)
  | replaceUploadKey (jobId newPublicKey : String) (expiresAtMs : Nat)
  | rotateQuotePublicKey (version : Nat) (publicKey : Bytes)
  | restartPaidJob (jobId : String) (expectedSourceBytes : Nat)
      (profileId profileConfigSha256 : String)
  | setPublicUploadFullHd (enabled : Bool)
  | activatePlaybackDevice (publicationId : String) (playbackSession : PlaybackSessionAuthorization)
  | finalizePublication (submission : PublicationSubmission)
  | suspendSales (publicationId : String)
  | takedownPublication (publicationId reasonCode incidentId evidenceSha256 : String)
      (effectiveAtMs : Nat)
  | ftOnTransfer (senderId : AccountId) (amount : Nat) (msg : String)
  | withdrawCreatorBalance
  | withdrawPlatformBalance
  | withdrawTaxBalance
  | withdrawPlatformNear (amount : Nat)
  | markWatched (ticketId : String)
  | refundTicket (ticketId : String) (refundTo : AccountId) (expiresAtMs signature : String)
  | releaseExpired (ticketIds : List String)
  | addDevice (ticketId sessionPublicKey certificateSha256 deviceEpoch expiresAtMs
      signature : String)
  | revokeDevice (ticketId sessionPublicKey deviceEpoch expiresAtMs signature : String)
  | platformRevokeDevice (ticketId sessionPublicKey : String)
  | issueCardTicket (ticketPublicKey publicationId : String) (device : SignedTicketDevice)
      (paymentReferenceHmac grossMinor currency : String)
  | voidCardTicket (ticketId reason : String)
  | revokeVatKey (keyVersion : Nat)
  | callback (callback : Callback)

/-- The methods marked `#[payable]`; every other method refuses an attached deposit. -/
def Call.payable : Call → Bool
  | .createPaidJobNear .. | .activatePlaybackDevice .. => true
  | _ => false

/-- A callback method with its arguments. -/
def runCallback (env : Env) (s : Contract) : Callback → Result (Outcome Bool)
  | .onTicketRefund ticketId receiverId amount restoreStatus =>
    onTicketRefund env s ticketId receiverId amount restoreStatus
  | .onCreatorWithdraw creatorId amount withdrawalId =>
    onCreatorWithdraw env s creatorId amount withdrawalId
  | .onPlatformWithdraw amount => onPlatformWithdraw env s amount
  | .onTaxWithdraw amount => onTaxWithdraw env s amount
  | .onPlatformNearWithdraw amount => onPlatformNearWithdraw env s amount

/-- The method body, with the return value forgotten. -/
def callBody (env : Env) (s : Contract) : Call → Result (Outcome Unit)
  | .freezeBridge => freezeBridge env s
  | .requestBridgeUnfreeze => return (← requestBridgeUnfreeze env s).void
  | .cancelBridgeUnfreeze => cancelBridgeUnfreeze env s
  | .unfreezeBridge => unfreezeBridge env s
  | .pauseNewPurchases => pauseNewPurchases env s
  | .requestNewPurchasesUnpause => return (← requestNewPurchasesUnpause env s).void
  | .cancelNewPurchasesUnpause => cancelNewPurchasesUnpause env s
  | .unpauseNewPurchases => unpauseNewPurchases env s
  | .startPublicTestnetBeta => return (← startPublicTestnetBeta env s).void
  | .closePublicTestnetBeta => return (← closePublicTestnetBeta env s).void
  | .proposeBridge next => proposeBridge env s next
  | .cancelBridgeRotation => cancelBridgeRotation env s
  | .executeBridgeRotation => executeBridgeRotation env s
  | .proposeRoleRotation role next => return (← proposeRoleRotation env s role next).void
  | .cancelRoleRotation role => cancelRoleRotation env s role
  | .executeRoleRotation role => executeRoleRotation env s role
  | .proposeCodeUpgrade codeSha256 => return (← proposeCodeUpgrade env s codeSha256).void
  | .cancelCodeUpgrade => cancelCodeUpgrade env s
  | .executeCodeUpgrade => executeCodeUpgrade env s
  | .migrate => migrate env s
  | .createPaidJob request => return (← createPaidJob env s request).void
  | .createPaidJobNear request quote signature =>
    return (← createPaidJobNear env s request quote signature).void
  | .replaceUploadKey jobId newPublicKey expiresAtMs =>
    return (← replaceUploadKey env s jobId newPublicKey expiresAtMs).void
  | .rotateQuotePublicKey version publicKey => rotateQuotePublicKey env s version publicKey
  | .restartPaidJob jobId expectedSourceBytes profileId profileConfigSha256 =>
    return (← restartPaidJob env s jobId expectedSourceBytes profileId profileConfigSha256).void
  | .setPublicUploadFullHd enabled => return (← setPublicUploadFullHd env s enabled).void
  | .activatePlaybackDevice publicationId session =>
    activatePlaybackDevice env s publicationId session
  | .finalizePublication submission => return (← finalizePublication env s submission).void
  | .suspendSales publicationId => return (← suspendSales env s publicationId).void
  | .takedownPublication publicationId reasonCode incidentId evidenceSha256 effectiveAtMs =>
    return (← takedownPublication env s publicationId reasonCode incidentId evidenceSha256
      effectiveAtMs).void
  | .ftOnTransfer senderId amount msg => return (← ftOnTransfer env s senderId amount msg).void
  | .withdrawCreatorBalance => withdrawCreatorBalance env s
  | .withdrawPlatformBalance => withdrawPlatformBalance env s
  | .withdrawTaxBalance => withdrawTaxBalance env s
  | .withdrawPlatformNear amount => withdrawPlatformNear env s amount
  | .markWatched ticketId => return (← markWatched env s ticketId).void
  | .refundTicket ticketId refundTo expiresAtMs signature =>
    refundTicket env s ticketId refundTo expiresAtMs signature
  | .releaseExpired ticketIds => return (← releaseExpired env s ticketIds).void
  | .addDevice ticketId key certificate epoch expiresAtMs signature =>
    return (← addDevice env s ticketId key certificate epoch expiresAtMs signature).void
  | .revokeDevice ticketId key epoch expiresAtMs signature =>
    revokeDevice env s ticketId key epoch expiresAtMs signature
  | .platformRevokeDevice ticketId key => platformRevokeDevice env s ticketId key
  | .issueCardTicket ticketPublicKey publicationId device reference grossMinor currency =>
    return (← issueCardTicket env s ticketPublicKey publicationId device reference grossMinor
      currency).void
  | .voidCardTicket ticketId reason => voidCardTicket env s ticketId reason
  | .revokeVatKey keyVersion => revokeVatKey env s keyVersion
  | .callback callback => return (← runCallback env s callback).void

/-- A method call: the deposit guard, then the body. -/
def Call.run (env : Env) (s : Contract) (call : Call) : Result (Outcome Unit) := do
  require (call.payable = true ∨ env.attachedDeposit = 0) "Method doesn't accept deposit"
  callBody env s call

/-! ## Worlds -/

/-- The callback that follows a receipt's transfer. -/
def Promise.callback : Promise → Option Callback
  | .ftTransfer _ _ _ callback => some callback
  | .transfer _ _ callback => callback
  | .deployContract _ _ => none

/-- A receipt that moves tokens and lands with a result. -/
def Promise.isTransfer : Promise → Bool
  | .deployContract _ _ => false
  | _ => true

structure World where
  contract : Contract
  pending : Outbox Promise
  now : Nat

inductive Label where
  /-- A method called by any account; it may panic. -/
  | call (ctx : Context) (call : Call)
  /-- The transfer of the receipt at `i` succeeds or fails. -/
  | land (i : Nat) (ok : Bool)
  /-- The callback of the landed receipt at `i`. -/
  | callback (ctx : Context) (i : Nat)
  /-- The code upgrade batch at `i`: deploy, then `migrate`; it reverts when `migrate` fails. -/
  | batch (ctx : Context) (i : Nat)

/-- Promise results are only ever delivered to the contract's own callbacks by its own receipts. -/
def Context.IsExternal (ctx : Context) (host : Host) : Prop :=
  ctx.predecessorAccountId = host.currentAccountId → ctx.promiseResults = []

instance (ctx : Context) (host : Host) : Decidable (ctx.IsExternal host) :=
  inferInstanceAs (Decidable (_ → _))

/-- The context of a receipt the contract sent to itself. -/
def Context.own (ctx : Context) (host : Host) (promiseResults : List PromiseResult) : Context :=
  { ctx with
    predecessorAccountId := host.currentAccountId
    attachedDeposit := 0
    promiseResults := promiseResults }

def promiseResult (ok : Bool) : PromiseResult := if ok then .successful else .failed

/-- Execute a call on the storage, with `rest` the receipts still out; a panic reverts it. -/
def World.receive (w : World) (host : Host) (ctx : Context) (call : Call) (rest : Outbox Promise) :
    World :=
  match call.run ⟨host, ctx⟩ w.contract with
  | .ok o =>
    { contract := o.state, pending := rest.send o.promises, now := ctx.blockTimestampMs }
  | .error _ => { contract := w.contract, pending := rest, now := ctx.blockTimestampMs }

/-- One step of the world; `none` when the label is not enabled. -/
def World.exec (host : Host) (w : World) : Label → Option World
  | .call ctx call =>
    if ctx.IsExternal host ∧ w.now ≤ ctx.blockTimestampMs then
      some (w.receive host ctx call w.pending)
    else none
  | .land i ok =>
    match w.pending[i]? with
    | some ⟨promise, none⟩ =>
      if promise.isTransfer then
        if promise.callback.isSome then
          some { w with pending := w.pending.land i promise ok }
        else some { w with pending := w.pending.eraseIdx i }
      else none
    | _ => none
  | .callback ctx i =>
    match w.pending[i]? with
    | some ⟨promise, some ok⟩ =>
      match promise.callback with
      | some callback =>
        if w.now ≤ ctx.blockTimestampMs then
          some (w.receive host (ctx.own host [promiseResult ok]) (.callback callback)
            (w.pending.eraseIdx i))
        else none
      | none => none
    | _ => none
  | .batch ctx i =>
    match w.pending[i]? with
    | some ⟨.deployContract _ _, none⟩ =>
      if w.now ≤ ctx.blockTimestampMs then
        some (w.receive host (ctx.own host []) .migrate (w.pending.eraseIdx i))
      else none
    | _ => none

/-- The step relation of the worlds of one deployment. -/
abbrev worldStep (host : Host) : World → Label → World → Prop := ExecStep (World.exec host)

/-- A world right after one of the two initialisers. -/
inductive Initial (host : Host) : World → Prop where
  | new {env : Env} {config : MarketInitConfig} {c : Contract} (henv : env.toHost = host)
      (h : new env config = .ok c) : Initial host ⟨c, [], env.blockTimestampMs⟩
  | newPublicTestnet {env : Env} {config : MarketInitConfig} {c : Contract}
      (henv : env.toHost = host) (h : newPublicTestnet env config = .ok c) :
      Initial host ⟨c, [], env.blockTimestampMs⟩

/-! ## A deployment

The test vectors of `protocol/youtick-market-v2/golden-vectors.json` as a deployment: its keys, its
signatures and what they sign. Outside the vectors the host functions return nothing.
-/

namespace Vectors

def contractId : AccountId := "market-v2.youtick.testnet"
def publicationId : String := "job-001"
def creatorId : AccountId := "creator.testnet"
def buyerId : AccountId := "6f0c8e1d2a3b4c5d6e7f80919293a4b5c6d7e8f90a1b2c3d4e5f60718293a4b5"
def ticketId : String := "09d2a1c8be8d75c64be0e57fdff81b47038fa2a999c76832c4fd04ec5a7df9e3"
def cardTicketId : String := "3ed17b27af13f30599198b508eff45e7656ea57ff8995fee360c28f3492ee093"
def paymentReference : String := "10120d6bbc05f99b0bf02988ebae00794db91b648f97e52e7e12a1a8c6868b2b"
/-- The SHA-256 of the card ticket's key. -/
def cardTicketIdBytes : Bytes :=
  [62, 209, 123, 39, 175, 19, 243, 5, 153, 25, 139, 80, 142, 255, 69, 231, 101, 110, 165,
   127, 248, 153, 95, 238, 54, 12, 40, 243, 73, 46, 224, 147]
/-- The SHA-256 of the ticket key. -/
def ticketIdBytes : Bytes :=
  [9, 210, 161, 200, 190, 141, 117, 198, 75, 224, 229, 127, 223, 248, 27, 71, 3, 143, 162, 169,
   153, 199, 104, 50, 196, 253, 4, 236, 90, 125, 249, 227]

def certificate : String := "5e84431a684cf60e628e8612bb111ad53288a237c0523a9193922e3d600f1f88"
def issuedAtMs : Nat := 1791360000000
def expiresAtMs : String := "1791360600000"

/-- A key of the vectors: its base58 text and its bytes. -/
structure Key where
  base58 : String
  bytes : Bytes

def Key.text (key : Key) : String := "ed25519:" ++ key.base58

def ticketKey : Key where
  base58 := "zHUk7HeksDWkiWQyxcJEGW5dKCtVg1G1RZ1B3rMG5e7"
  bytes :=
    [14, 172, 188, 252, 105, 194, 140, 91, 89, 58, 198, 63, 76, 239, 141, 69, 192, 155, 157,
     245, 5, 11, 139, 155, 51, 1, 92, 174, 8, 17, 243, 176]

def cardKey : Key where
  base58 := "41SBTarHKX6kmsbkxFUZGSWWVQMSZtvNpK3iqvFRbWZN"
  bytes :=
    [44, 175, 136, 65, 193, 2, 130, 26, 218, 192, 120, 222, 252, 160, 183, 220, 58, 6, 155,
     233, 16, 9, 120, 201, 24, 65, 236, 14, 14, 98, 150, 57]

def vatKey : Key where
  base58 := "9dbrbJu3qJtAJ5z3eyX1rQ4jDMzdhpVQMaP71VyfLUr1"
  bytes :=
    [128, 61, 208, 179, 169, 168, 220, 171, 172, 149, 195, 106, 162, 241, 83, 85, 23, 198, 55,
     130, 85, 157, 14, 52, 37, 191, 128, 133, 121, 124, 207, 62]

def firstSession : Key where
  base58 := "2fApc9eqPFt4CZdCTqMV4e81HvvqoyaZzCFLXpr7CrE9"
  bytes :=
    [24, 162, 220, 177, 32, 216, 13, 236, 17, 181, 145, 167, 129, 62, 2, 130, 180, 64, 232, 36,
     56, 187, 143, 182, 54, 46, 195, 109, 161, 96, 204, 86]

def secondSession : Key where
  base58 := "HThEz8tn3BGzcaKCWf1UY7f7i5sigQBLPiqewabeXxr3"
  bytes :=
    [244, 145, 151, 183, 62, 222, 110, 140, 16, 56, 247, 122, 8, 115, 188, 115, 200, 22, 203,
     15, 197, 255, 174, 139, 237, 1, 248, 203, 141, 172, 191, 88]

def keys : List Key := [ticketKey, cardKey, vatKey, firstSession, secondSession]

/-- A signature of the vectors: its base64 text and bytes, the key, and the lines after the domain,
network and contract. -/
structure Signature where
  base64 : String
  bytes : Bytes
  key : Key
  domain : String
  lines : List String

def Signature.message (signature : Signature) : Bytes :=
  utf8 (joinLines ([signature.domain, "testnet", contractId] ++ signature.lines))

def purchaseSignature : Signature where
  base64 :=
    "WBcXrE47T8Pd6n8nkfYujOgmnbcmxohZ/IU25GIp+HqWw5NaiLrYxC7p6WGVUDkUTEZ2s5QJ6qKQO9dIgwecDA=="
  bytes :=
    [88, 23, 23, 172, 78, 59, 79, 195, 221, 234, 127, 39, 145, 246, 46, 140, 232, 38, 157, 183,
     38, 198, 136, 89, 252, 133, 54, 228, 98, 41, 248, 122, 150, 195, 147, 90, 136, 186, 216,
     196, 46, 233, 233, 97, 149, 80, 57, 20, 76, 70, 118, 179, 148, 9, 234, 162, 144, 59, 215,
     72, 131, 7, 156, 12]
  key := ticketKey
  domain := ticketSignatureDomain
  lines := ["purchase_device", ticketId, expiresAtMs, publicationId, firstSession.text, certificate]

def cardSignature : Signature where
  base64 :=
    "xcO8s/FJew09hpuSD/qFSpDq7nBdth2NFKZWNvehLmE6kMZwVRPBXU5bhfEzu8ZJvfMqtiU7X4wq6BPY9A2yBw=="
  bytes :=
    [197, 195, 188, 179, 241, 73, 123, 13, 61, 134, 155, 146, 15, 250, 133, 74, 144, 234,
     238, 112, 93, 182, 29, 141, 20, 166, 86, 54, 247, 161, 46, 97, 58, 144, 198, 112, 85,
     19, 193, 93, 78, 91, 133, 241, 51, 187, 198, 73, 189, 243, 42, 182, 37, 59, 95, 140, 42,
     232, 19, 216, 244, 13, 178, 7]
  key := cardKey
  domain := ticketSignatureDomain
  lines := ["card_purchase", cardTicketId, expiresAtMs, publicationId, firstSession.text,
    certificate, paymentReference, "500", "USD"]

def addDeviceSignature : Signature where
  base64 :=
    "zVny5VUPiUMhTJQ5lFrLcSCDmapOmmX0CRRHWnm0T2E5BzDTtenW2Cd7a6PnEpNvy4hVd9Ki8ndQ/sUJBUfyCQ=="
  bytes :=
    [205, 89, 242, 229, 85, 15, 137, 67, 33, 76, 148, 57, 148, 90, 203, 113, 32, 131, 153, 170,
     78, 154, 101, 244, 9, 20, 71, 90, 121, 180, 79, 97, 57, 7, 48, 211, 181, 233, 214, 216, 39,
     123, 107, 163, 231, 18, 147, 111, 203, 136, 85, 119, 210, 162, 242, 119, 80, 254, 197, 9,
     5, 71, 242, 9]
  key := ticketKey
  domain := ticketSignatureDomain
  lines := ["add_device", ticketId, expiresAtMs, secondSession.text, certificate, "0"]

def revokeDeviceSignature : Signature where
  base64 :=
    "s2/P62VLeB45TZTj4w+6wc4tfnzDJTSUebwqBsSR+xDWNwOs183gUZOkG896xVddqn2g07iiQkN7qiD3obIdAg=="
  bytes :=
    [179, 111, 207, 235, 101, 75, 120, 30, 57, 77, 148, 227, 227, 15, 186, 193, 206, 45, 126,
     124, 195, 37, 52, 148, 121, 188, 42, 6, 196, 145, 251, 16, 214, 55, 3, 172, 215, 205, 224,
     81, 147, 164, 27, 207, 122, 197, 87, 93, 170, 125, 160, 211, 184, 162, 66, 67, 123, 170,
     32, 247, 161, 178, 29, 2]
  key := ticketKey
  domain := ticketSignatureDomain
  lines := ["revoke_device", ticketId, expiresAtMs, secondSession.text, "0"]

def refundSignature : Signature where
  base64 :=
    "yUfoM4nu54pft92VVgZOhqhh2o8a1Uv9Cb8ZB9oF8gZmyDbIoC/63w/k2dXxhzdobNyU8bNCf7vkxk3EQoJiAw=="
  bytes :=
    [201, 71, 232, 51, 137, 238, 231, 138, 95, 183, 221, 149, 86, 6, 78, 134, 168, 97, 218, 143,
     26, 213, 75, 253, 9, 191, 25, 7, 218, 5, 242, 6, 102, 200, 54, 200, 160, 47, 250, 223, 15,
     228, 217, 213, 241, 135, 55, 104, 108, 220, 148, 241, 179, 66, 127, 187, 228, 198, 77, 196,
     66, 130, 98, 3]
  key := ticketKey
  domain := ticketSignatureDomain
  lines := ["refund_ticket", ticketId, expiresAtMs, buyerId]

def vatSignature : Signature where
  base64 :=
    "3R3/iWByOrdhGEEQ46hfcl56JmKEa5t3YYURQmM4DggRVxUA9USV6MzCXWtg/aBeLTDbZ+PlO4fU0GdAYyLSBw=="
  bytes :=
    [221, 29, 255, 137, 96, 114, 58, 183, 97, 24, 65, 16, 227, 168, 95, 114, 94, 122, 38, 98,
     132, 107, 155, 119, 97, 133, 17, 66, 99, 56, 14, 8, 17, 87, 21, 0, 245, 68, 149, 232, 204,
     194, 93, 107, 96, 253, 160, 94, 45, 48, 219, 103, 227, 229, 59, 135, 212, 208, 103, 64, 99,
     34, 210, 7]
  key := vatKey
  domain := vatDomain
  lines := [ticketId, publicationId, "5000000", "833334", expiresAtMs, "1"]

def signatures : List Signature :=
  [purchaseSignature, cardSignature, addDeviceSignature, revokeDeviceSignature, refundSignature,
    vatSignature]

def purchase : PurchaseMessageV2 where
  action := buyTicketV2Action
  publicationId := publicationId
  ticketPublicKey := ticketKey.text
  device := {
    sessionPublicKey := firstSession.text
    certificateSha256 := certificate
    expiresAtMs := expiresAtMs
    signature := purchaseSignature.base64 }
  vat := {
    vatUsdcMicro := "833334"
    expiresAtMs := expiresAtMs
    keyVersion := "1"
    signature := vatSignature.base64 }

def jobMessage : TransferMessage where
  action := some "create_paid_job"
  publicationId := none
  jobId := some publicationId
  title := some "Opening night"
  priceUsdc := some 5000000
  expectedSourceBytes := some 734003200
  profileId := some profile
  profileConfigSha256 := some legacyUploadProfileHash
  uploadPublicKey := some firstSession.text
  uploadKeyExpiresAtMs := some (issuedAtMs + dayMs)
  sponsorQuote := none
  sponsorQuoteSignature := none
  playbackSession := none

/-- The host of a deployment that knows the vectors; `purchase` and `job` stand for the JSON texts
of the two transfer messages. -/
def hostOf (accountId : AccountId) : Host where
  currentAccountId := accountId
  sha256 bytes :=
    if bytes = ticketKey.bytes then ticketIdBytes
    else if bytes = cardKey.bytes then cardTicketIdBytes
    else if bytes = utf8 "A" then
      [85, 154, 234, 208, 130, 100, 213, 121, 93, 57, 9, 113, 140, 221, 5, 171, 212, 149, 114,
       232, 79, 229, 85, 144, 238, 243, 26, 136, 160, 143, 223, 253]
    else if bytes = utf8 "B" then
      [223, 126, 112, 229, 2, 21, 68, 244, 131, 75, 190, 230, 74, 158, 55, 137, 254, 188, 75,
       232, 20, 112, 223, 98, 156, 173, 109, 219, 3, 50, 10, 92]
    else []
  ed25519Verify signature message publicKey := signatures.any fun s =>
    decide (s.bytes = signature ∧ s.message = message ∧ s.key.bytes = publicKey)
  bs58Encode bytes := ((keys.find? fun key => key.bytes = bytes).map (·.base58)).getD ""
  bs58Decode text := (keys.find? fun key => key.base58 = text).map (·.bytes)
  base64Encode bytes := ((signatures.find? fun s => s.bytes = bytes).map (·.base64)).getD ""
  base64Decode text := (signatures.find? fun s => s.base64 = text).map (·.bytes)
  publicKeyCurve text := (keys.find? fun key => key.text = text).map fun _ => .ed25519
  actionProbeOfJson text :=
    if text = "purchase" then some (some buyTicketV2Action)
    else if text = "job" then some jobMessage.action
    else none
  purchaseMessageOfJson text := if text = "purchase" then some purchase else none
  transferMessageOfJson text := if text = "job" then some jobMessage else none
  paidJobRequestToJson _ := []
  compactUploadOfBorsh _ := none

def host : Host := hostOf contractId
def mainnetHost : Host := hostOf "market-v2.youtick.near"

/-- A call by `predecessor` at `now`, with ample storage reserve. -/
def context (predecessor : AccountId) (now : Nat) : Context where
  predecessorAccountId := predecessor
  signerAccountId := predecessor
  signerAccountPk := firstSession.text
  signerCurveType := .ed25519
  blockTimestampMs := now
  blockHeight := 1
  attachedDeposit := 0
  input := none
  accountBalance := 10 ^ 25
  storageByteCost := 10 ^ 19
  storageUsage := fun _ => 100000
  promiseResults := []

def config : MarketInitConfig where
  platformAccountId := "platform.testnet"
  bridgeAccountId := "bridge.testnet"
  takedownAuthorityId := "takedown.testnet"
  adminAccountId := "admin.testnet"
  guardianAccountId := "guardian.testnet"
  quotePublicKey := vatKey.bytes
  quoteKeyVersion := 1
  nearOperationalReserve := 10 ^ 24
  taxAccountId := "tax.testnet"
  vatPublicKey := vatKey.text
  vatKeyVersion := 1
  paymentOperatorId := "operator.testnet"

def submission : PublicationSubmission where
  jobId := publicationId
  generation := 1
  creatorId := creatorId
  expectedSourceBytes := 734003200
  profileId := profile
  profileConfigSha256 := legacyUploadProfileHash
  assetIdHash := certificate
  playbackId := "playback-001"
  projectIdHash := certificate
  verifiedSourceBytes := 734003200
  providerSourceFingerprint := none
  readyAtMs := issuedAtMs
  availability := .active

/-- A job is paid for and published, and its first ticket is sold. -/
def sale : List Label :=
  [.call (context testnetUsdc issuedAtMs) (.ftOnTransfer creatorId 500000 "job"),
   .call (context config.bridgeAccountId issuedAtMs) (.finalizePublication submission),
   .call (context testnetUsdc issuedAtMs) (.ftOnTransfer buyerId 5000000 "purchase")]

/-- The payment operator issues a card ticket, and then tries to use its reference again. -/
def cardIssue : List Label :=
  let issue : Label := .call (context config.paymentOperatorId issuedAtMs) (.issueCardTicket
    cardKey.text publicationId ⟨firstSession.text, certificate, expiresAtMs, cardSignature.base64⟩
    paymentReference "500" "USD")
  [issue, issue]

/-- The ticket gets a second device and loses it again. -/
def deviceChange : List Label :=
  [.call (context buyerId issuedAtMs) (.addDevice ticketId secondSession.text certificate "0"
     expiresAtMs addDeviceSignature.base64),
   .call (context buyerId issuedAtMs) (.revokeDevice ticketId secondSession.text "0" expiresAtMs
     revokeDeviceSignature.base64)]

/-- The ticket is refunded, and the refund lands. -/
def refund : List Label :=
  [.call (context config.paymentOperatorId issuedAtMs) (.refundTicket ticketId buyerId expiresAtMs
     refundSignature.base64),
   .land 0 true,
   .callback (context contractId issuedAtMs) 0]

/-! ## Runs of the deployment -/

/-- The storage `new` leaves. -/
def initialised (host : Host) : Result Contract := new ⟨host, context "" issuedAtMs⟩ config

section Run

variable {σ ℓ : Type} {host : Host} {exec : σ → ℓ → Option σ} {start : Contract → σ}

/-- Run the labels from the state a fresh contract starts in. -/
def run (host : Host) (exec : σ → ℓ → Option σ) (start : Contract → σ) (labels : List ℓ) :
    Option (List (Transition σ ℓ) × σ) :=
  match initialised host with
  | .ok c => execTrace exec (start c) labels
  | .error _ => none

theorem trace_of_run {labels : List ℓ} {α : Type} {f : List (Transition σ ℓ) × σ → α} {a : α}
    (h : (run host exec start labels).map f = some a) :
    ∃ c tr s, initialised host = .ok c ∧ Trace (ExecStep exec) (start c) tr s ∧ f (tr, s) = a := by
  obtain ⟨⟨tr, s⟩, hrun, hf⟩ := Option.map_eq_some_iff.mp h
  simp only [run] at hrun
  split at hrun
  · next c hc => exact ⟨c, tr, s, hc, trace_of_execTrace _ hrun, hf⟩
  · exact absurd hrun (by simp)

end Run

/-- A world run from a fresh contract. -/
def worldRun (host : Host) (labels : List Label) :
    Option (List (Transition World Label) × World) :=
  run host (World.exec host) (fun c => ⟨c, [], issuedAtMs⟩) labels

theorem trace_of_worldRun {host : Host} {labels : List Label} {α : Type}
    {f : List (Transition World Label) × World → α} {a : α}
    (h : (worldRun host labels).map f = some a) :
    ∃ w₀ tr w, Initial host w₀ ∧ Trace (worldStep host) w₀ tr w ∧ f (tr, w) = a := by
  obtain ⟨c, tr, w, hc, htr, hf⟩ := trace_of_run h
  exact ⟨_, tr, w, .new rfl hc, htr, hf⟩

end Vectors

end Youtick.MarketV2
