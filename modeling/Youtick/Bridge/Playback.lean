import Youtick.Bridge.OperatorRequests
import Youtick.Relayer.Agreement

/-!
# Bridge: playback tokens of tickets

`issueTicketPlaybackToken`: a device signs a request, the final views of its ticket and of the
ticket's publication decide, and a ticket that is still purchased is first marked watched through the
operator object. Requests run interleaved with each other, with the Market and with everything else
the operator object does. A final view is answered from any of the states the Market has been in;
the answer's block is the position of that state. The journal records what each request has read and
the tokens that were issued; no program reads it.
-/

set_option autoImplicit false

namespace Youtick.Bridge.Playback

open Youtick.Lib
open Youtick.MarketV2 (Host World Label)
open Youtick.PaymentService (isHexText isPositiveDecimal isSignature number maxTimeMs statusName
  availabilityName)
open Youtick.Relayer (JsValue JsString Platform TicketView DeviceView ticketView property
  stringProperty matching isSessionKey)

/-! ## Requests -/

structure PlaybackRequest where
  network : String
  contractId : String
  ticketId : String
  sessionPublicKey : String
  origin : String
  deviceNonce : String
  expiresAtMs : String
  deriving DecidableEq

structure PlaybackBinding where
  network : String
  contractId : String
  origins : List String
  nowMs : Nat

def playbackDomain : String := "youtick.market-v2.playback.v1"

/-- `MAX_REQUEST_AHEAD_MS` -/
def maxRequestAheadMs : Nat := 5 * 60 * 1000

def requestKeys : List String :=
  ["network", "contract_id", "ticket_id", "session_public_key", "origin", "device_nonce",
    "expires_at_ms"]

def invalidRequest : String := "invalid_playback_v3_request"

/-- `exactKeys` of an object: these properties and no other, in any order. -/
def exactKeys (value : JsValue) (keys : List String) (code : String) :
    Result (List (JsString × JsValue)) := do
  let fields ← expect value.fields? code
  require ((fields.map Prod.fst).Perm (keys.map .ofString)) code
  return fields

/-- `parsePlaybackV3Body`: the request and its signature. -/
def parsePlaybackBody (value : JsValue) (binding : PlaybackBinding) :
    Result (PlaybackRequest × String) := do
  let body ← exactKeys value ["request", "signature"] invalidRequest
  let request ← expect (property body "request") invalidRequest
  let fields ← exactKeys request requestKeys invalidRequest
  let network ← expect (stringProperty fields "network") invalidRequest
  let contractId ← expect (stringProperty fields "contract_id") invalidRequest
  let ticketId ← expect (stringProperty fields "ticket_id") invalidRequest
  let sessionPublicKey ← expect (stringProperty fields "session_public_key") invalidRequest
  let origin ← expect (stringProperty fields "origin") invalidRequest
  let deviceNonce ← expect (stringProperty fields "device_nonce") invalidRequest
  let expiresAtMs ← expect (stringProperty fields "expires_at_ms") invalidRequest
  let ticketId ← matching ticketId (isHexText 64) invalidRequest
  let sessionPublicKey ← matching sessionPublicKey isSessionKey invalidRequest
  let deviceNonce ← matching deviceNonce (isHexText 32) invalidRequest
  let expiresAtMs ← matching expiresAtMs (isPositiveDecimal 19) invalidRequest
  let signature ← expect (stringProperty body "signature") invalidRequest
  let signature ← matching signature isSignature invalidRequest
  require (network = .ofString binding.network ∧ contractId = .ofString binding.contractId)
    "deployment_binding_mismatch"
  let origin ← expect (binding.origins.find? fun allowed => decide (origin = .ofString allowed))
    "origin_denied"
  let expires := number expiresAtMs
  require (¬ expires ≤ binding.nowMs) "control_request_expired"
  require (¬ expires > binding.nowMs + maxRequestAheadMs) invalidRequest
  return (⟨binding.network, binding.contractId, ticketId, sessionPublicKey, origin, deviceNonce,
    expiresAtMs⟩, signature)

/-- `canonicalPlaybackV3Message` -/
def canonicalMessage (request : PlaybackRequest) : String :=
  joinLines [playbackDomain, request.network, request.contractId, request.ticketId,
    request.sessionPublicKey, request.origin, request.deviceNonce, request.expiresAtMs]

/-! ## Signatures -/

def base58Alphabet : List Char :=
  "123456789ABCDEFGHJKLMNPQRSTUVWXYZabcdefghijkmnopqrstuvwxyz".toList

/-- One more digit of a number whose bytes stand in the list, the lowest first. -/
def base58Carry (carry : Nat) : List Nat → List Nat
  | [] => Nat.digits 256 carry
  | byte :: rest => (carry + byte * 58) % 256 :: base58Carry ((carry + byte * 58) / 256) rest

/-- `base58Decode` -/
def base58Decode (value : String) : Option Bytes := do
  let encoded := ((stripPrefix value "ed25519:").getD value).toList
  let digits ← encoded.mapM fun c => base58Alphabet.idxOf? c
  let bytes := digits.foldl (fun bytes digit => base58Carry digit bytes) [0]
  let zeros := (encoded.takeWhile fun c => c == '1').length
  return ((bytes ++ List.replicate zeros 0).reverse).map UInt8.ofNat

/-- `verifyEd25519Signature` -/
def verifyEd25519Signature (platform : Platform) (publicKey encodedSignature message : String) :
    Result PUnit.{1} := do
  let signature ← expect (Base64.forgivingDecode encodedSignature) "playback_denied"
  let key ← expect (base58Decode publicKey) "playback_denied"
  require (signature.length = 64 ∧ key.length = 32) "playback_denied"
  require (platform.verify signature (utf8 message) key = true) "playback_denied"

/-! ## The decision -/

/-- The fields of a publication view that playback reads. -/
structure PublicationView where
  publicationId : String
  availability : String
  playbackId : String
  profileConfigSha256 : String

def publicationView (publication : MarketV2.Publication) : PublicationView where
  publicationId := publication.publicationId
  availability := availabilityName publication.availability
  playbackId := publication.playbackId
  profileConfigSha256 := publication.profileConfigSha256

/-- `PLAYABLE_STATUSES` -/
def playableStatuses : List String := ["purchased", "watched", "watched_in_escrow", "released"]

/-- `PLAYABLE_AVAILABILITY` -/
def playableAvailability : List String := ["ACTIVE", "SALES_SUSPENDED"]

inductive DecisionKind where
  /-- The ticket is still purchased: `mark_watched` must be final before a token. -/
  | watch
  | play

structure Decision where
  kind : DecisionKind
  playbackId : String
  deviceExpiresAtMs : Nat

/-- The expiry of the device with this key; none counts as expired. -/
def deviceExpiry (ticket : TicketView) (sessionPublicKey : String) : Nat :=
  match ticket.devices.find? fun device => decide (device.sessionPublicKey = sessionPublicKey) with
  | some device =>
    if isPositiveDecimal 19 device.expiresAtMs then number device.expiresAtMs else 0
  | none => 0

/-- `decideTicketPlayback` -/
def decideTicketPlayback (ticket : Option TicketView) (publication : Option PublicationView)
    (request : PlaybackRequest) (nowMs : Nat) : Result Decision := do
  let ticket ← expect ticket "playback_denied"
  let publication ← expect publication "playback_denied"
  require (ticket.ticketId = request.ticketId ∧ ticket.status ∈ playableStatuses ∧
    publication.publicationId = ticket.publicationId ∧
    publication.availability ∈ playableAvailability) "playback_denied"
  let deviceExpiresAtMs := deviceExpiry ticket request.sessionPublicKey
  require (¬ deviceExpiresAtMs ≤ nowMs) "playback_denied"
  return {
    kind := if ticket.status = "purchased" then .watch else .play
    playbackId := publication.playbackId
    deviceExpiresAtMs := deviceExpiresAtMs }

/-! ## The handler -/

/-- A signed token: what it opens, and its times. -/
structure Token where
  playbackId : String
  issuedAtMs : Nat
  expiresAtSeconds : Nat
  deriving DecidableEq

inductive RequestOp : Type → Type
  /-- A request arrives; the answer is its number. -/
  | accept : RequestOp Nat
  | now : RequestOp Nat
  /-- The final view of a ticket, and its block. -/
  | getTicket (ticketId : String) : RequestOp (Option TicketView × Nat)
  /-- The view of a publication at a block. -/
  | getPublication (publicationId : String) (block : Nat) : RequestOp (Option PublicationView)
  /-- The media provider's policy, from the cache or asked again. -/
  | providerPolicy (playbackId profileConfigSha256 : String) : RequestOp (Result PUnit.{1})
  /-- The token is sent back. -/
  | issue (request : PlaybackRequest) (signature : String) (token : Token) : RequestOp Unit

/-- An operation of a request, or of the operator object while it marks the request's ticket. -/
inductive PlaybackOp (β : Type) : Type where
  | own (op : RequestOp β)
  | operator (ticketId : String) (op : OperatorOp β)

/-- An operation with the number of its request. -/
structure NumberedOp (β : Type) where
  number : Nat
  op : PlaybackOp β

abbrev PlaybackHandler (α : Type) : Type 1 := Handler PlaybackOp String α

structure PlaybackEnv where
  network : String
  contractId : String
  origins : List String
  operator : OperatorEnv

def unavailable : String := "playback_authorization_unavailable"

/-- `PLAYBACK_V2_TTL_SECONDS` -/
def playbackTtlSeconds : Nat := 180

/-- `['watched', 'watched_in_escrow', 'released'].includes(status || '')` -/
def isSettled (status : Option String) : Bool :=
  ["watched", "watched_in_escrow", "released"].contains (status.getD "")

section Issue

variable (platform : Platform) (signer : OperatorSigner) (env : PlaybackEnv)

/-- The operator's call for a ticket; its payload is the JSON of the contract call. -/
def watchRequest (ticketId : String) : OperatorRequest :=
  let args := "\x7b\"ticket_id\":\"" ++ ticketId ++ "\"\x7d"
  ⟨env.operator, .markWatched, ticketId ++ ":mark-watched",
    Relayer.sha256Hex platform (utf8 args), args, true⟩

/-- `forwardMarkWatched`: the operator object processes the call and answers. -/
def forwardMarkWatched (ticketId : String) : PlaybackHandler (Result OutboxAnswer) :=
  let request := watchRequest platform env ticketId
  if env.operator.validConfig = false then .raise "runtime_not_configured"
  else do
    Handler.perform "internal_error" (.operator ticketId (.begin (some request.idempotencyKey)))
    let result ← ((do
        let answer ← processCall signer request
        return .ok answer : OperatorHandler (Result OutboxAnswer)).rescue
          fun code => .done (.error code)).lift (.operator ticketId)
    Handler.perform "internal_error"
      (.operator ticketId (.respond request.idempotencyKey result))
    return result

/-- Only a refusal is reported as such. -/
def requireWatched (ticketId : String) : PlaybackHandler PUnit.{1} := do
  match ← forwardMarkWatched platform signer env ticketId with
  | .ok answer => if answer.status = 200 then return ⟨⟩ else .raise "playback_pending"
  | .error code => .raise (if code = "playback_denied" then code else "playback_pending")

/-- From the decision to the token. -/
def signToken (request : PlaybackRequest) (signature profileConfigSha256 : String)
    (decision : Decision) : PlaybackHandler Unit := do
  let policy ← Handler.perform "provider_unavailable"
    (.own (.providerPolicy decision.playbackId profileConfigSha256))
  Handler.ofExcept policy
  let nowMs ← Handler.perform "internal_error" (.own .now)
  let remaining := (decision.deviceExpiresAtMs - nowMs) / 1000
  if remaining < 1 then .raise "playback_denied"
  else
    let ttlSeconds := min playbackTtlSeconds remaining
    Handler.perform "runtime_not_configured" (.own (.issue request signature
      ⟨decision.playbackId, nowMs, nowMs / 1000 + ttlSeconds⟩))

/-- The publication of a ticket, at the block of the ticket's view. -/
def readPublication (ticket : Option TicketView) (block : Nat) :
    PlaybackHandler (Option PublicationView) :=
  match ticket with
  | none => .done none
  | some ticket =>
    Handler.perform unavailable (.own (.getPublication ticket.publicationId block))

/-- `issueTicketPlaybackToken` -/
def issueTicketPlaybackToken (body : JsValue) : PlaybackHandler Unit := do
  let nowMs ← Handler.perform "internal_error" (.own .now)
  let (request, signature) ← Handler.ofExcept
    (parsePlaybackBody body ⟨env.network, env.contractId, env.origins, nowMs⟩)
  Handler.ofExcept (verifyEd25519Signature platform request.sessionPublicKey signature
    (canonicalMessage request))
  let (ticket, block) ← Handler.perform unavailable (.own (.getTicket request.ticketId))
  let publication ← readPublication ticket block
  let nowMs ← Handler.perform "internal_error" (.own .now)
  let decision ← Handler.ofExcept (decideTicketPlayback ticket publication request nowMs)
  let profile := (publication.map PublicationView.profileConfigSha256).getD ""
  match decision.kind with
  | .play => signToken request signature profile decision
  | .watch => do
      requireWatched platform signer env request.ticketId
      signToken request signature profile decision

end Issue

/-! ## The system -/

/-- One line of the journal. -/
inductive Fact where
  | sawTicket (number : Nat) (ticketId : String) (block : Nat)
  | sawPublication (number : Nat) (publicationId : String) (block : Nat)
  | sawStatus (number : Nat) (ticketId : String) (block : Nat)
  | issued (number : Nat) (request : PlaybackRequest) (signature : String) (token : Token)
  deriving DecidableEq

/-- The Market with the states it has been in, the newest last, beside the operator object. -/
structure PlaybackWorld where
  market : World
  past : List World
  operator : OperatorObject
  requests : Nat
  journal : List Fact

def PlaybackWorld.log (w : PlaybackWorld) (facts : List Fact) : PlaybackWorld :=
  { w with journal := w.journal ++ facts }

/-- What the outside gives an operation: a clock, a final block, the provider's answer, and what the
network answers the operator. -/
structure PlaybackInput where
  nowMs : Nat
  block : Nat
  policy : Result PUnit.{1}
  operator : OperatorInput

/-- What the final view of a ticket's status says. -/
def finalTicketStatus (market : World) (ticketId : String) : Option String :=
  (market.ticket ticketId).map fun ticket => statusName ticket.status

/-- The operator reads the status of the ticket in this operation. -/
def readsStatus {β : Type} : OperatorOp β → Bool
  | .effectCheck _ => true
  | .ticketStatus => true
  | _ => false

/-- An operation of the operator object; its views of the ticket are answered from a final block. -/
def operatorExec {β : Type} (number : Nat) (ticketId : String) (op : OperatorOp β)
    (i : PlaybackInput) (w : PlaybackWorld) : Option (β × PlaybackWorld) :=
  w.past[i.block]?.bind fun market =>
    let status := finalTicketStatus market ticketId
    (OperatorOp.exec β op { i.operator with
      holds := isSettled status
      ticketStatus := status } w.operator).map fun out =>
        (out.1, { w.log (if readsStatus op then [.sawStatus number ticketId i.block] else []) with
          operator := out.2 })

def requestExec (number : Nat) (i : PlaybackInput) (w : PlaybackWorld) :
    (β : Type) → RequestOp β → Option (β × PlaybackWorld)
  | _, .accept => some (w.requests, { w with requests := w.requests + 1 })
  | _, .now => if i.nowMs ≤ maxTimeMs then some (i.nowMs, w) else none
  | _, .getTicket ticketId =>
    w.past[i.block]?.map fun market =>
      (((market.ticket ticketId).map ticketView, i.block),
        w.log [.sawTicket number ticketId i.block])
  | _, .getPublication publicationId block =>
    w.past[block]?.map fun market =>
      ((market.contract.publications.get publicationId).map publicationView,
        w.log [.sawPublication number publicationId block])
  | _, .providerPolicy _ _ => some (i.policy, w)
  | _, .issue request signature token =>
    some ((), w.log [.issued number request signature token])

def exec (β : Type) (op : NumberedOp β) (i : PlaybackInput) (w : PlaybackWorld) :
    Option (β × PlaybackWorld) :=
  match op.op with
  | .own own => requestExec op.number i w β own
  | .operator ticketId operator => operatorExec op.number ticketId operator i w

/-- What changes without the requests: the Market takes a step, and the operator object does other
work. -/
inductive PlaybackChange where
  | market (label : Label)
  | operator (object : OperatorObject)

/-- A request: its configuration and its body. -/
structure Incoming where
  env : PlaybackEnv
  body : JsValue

def playbackSystem (host : Host) (platform : Platform) (signer : OperatorSigner) :
    System PlaybackWorld PlaybackInput NumberedOp String Unit Incoming PlaybackChange where
  exec := exec
  handle := fun request => do
    let number ← Handler.perform "internal_error" ⟨0, .own .accept⟩
    (issueTicketPlaybackToken platform signer request.env request.body).lift fun op => ⟨number, op⟩
  solo := fun _ => false
  environment := fun change w =>
    match change with
    | .market label =>
      (w.market.exec host label).map fun next =>
        { w with
          market := next
          past := w.past ++ [next] }
    | .operator object => some { w with operator := object }

/-- The Market right after its deployment, before the first request. -/
def start (market : World) : PlaybackWorld := ⟨market, [market], .empty, 0, []⟩

end Youtick.Bridge.Playback
