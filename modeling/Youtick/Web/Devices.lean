import Youtick.Relayer.DeviceCheck
import Youtick.Web.Messages

/-!
# Web: linking a device

`lib/v2/devices.ts`: what a browser can do with a ticket, and `linkDevice`. A run reads the ticket,
signs `add_device` for the epoch it read, asks the relayer, and reads the ticket again until the
chain lists the device. What stands between two awaits is one function here: `onRead` from
the answered read of an attempt to the signature, `onRelayed` from an answer of the relayer to the
next request, `onConfirmRead` from a later read to the result.

`sign` is the ticket's key, which never leaves the browser; only `onRead` signs.
-/

set_option autoImplicit false

namespace Youtick.Web

open Youtick.Lib
open Youtick.PaymentService (number isHexText)
open Youtick.Relayer (TicketView DeviceView AddDeviceArgs)

/-! ## The plan -/

/-- `MAX_TICKET_DEVICES` -/
def maxTicketDevices : Nat := 3

/-- `RENEW_WITHIN_MS` -/
def renewWithinMs : Nat := 7 * 24 * 60 * 60 * 1000

/-- What this device can do with a ticket now. -/
inductive DevicePlan where
  | watch (expiresAtMs : Nat)
  | renew (expiresAtMs : Nat)
  | link (evicts : Option DeviceView)

/-- The devices that have not expired by this clock. -/
def activeDevices (ticket : TicketView) (nowMs : Nat) : List DeviceView :=
  ticket.devices.filter fun device => decide (number device.expiresAtMs > nowMs)

def devicePlan (ticket : TicketView) (sessionPublicKey : String) (nowMs : Nat) : DevicePlan :=
  let active := activeDevices ticket nowMs
  match active.find? fun device => device.sessionPublicKey == sessionPublicKey with
  | some own =>
    let expiresAtMs := number own.expiresAtMs
    if expiresAtMs > nowMs + renewWithinMs then .watch expiresAtMs else .renew expiresAtMs
  | none => .link (if active.length ≥ maxTicketDevices then active.head? else none)

/-! ## The signature -/

/-- `Number.isSafeInteger` of a natural number. -/
def isSafeInteger (n : Nat) : Bool := decide (n < 2 ^ 53)

/-- `signatureExpiry`, with its default life of ten minutes. -/
def signatureExpiry (nowMs : Nat) : Result String := do
  require (isSafeInteger nowMs = true ∧ 0 < nowMs) invalidTicketMessage
  return decimal (nowMs + min (10 * 60 * 1000) (3600000 - 5 * 60 * 1000))

structure LinkInput where
  binding : MarketBinding
  ticketId : String
  sign : String → String
  sessionPublicKey : String
  certificateSha256 : String
  allowEvict : Option String

def buildAddDeviceArgs (codec : Codec) (input : LinkInput) (deviceEpoch expiresAtMs : String) :
    Result AddDeviceArgs := do
  let message ← ticketMessage codec input.binding .addDevice input.ticketId expiresAtMs
    [("session_public_key", input.sessionPublicKey),
     ("certificate_sha256", input.certificateSha256), ("device_epoch", deviceEpoch)]
  return {
    ticketId := input.ticketId
    sessionPublicKey := input.sessionPublicKey
    certificateSha256 := input.certificateSha256
    deviceEpoch := deviceEpoch
    expiresAtMs := expiresAtMs
    signature := input.sign message }

/-! ## A run -/

/-- An answer of the relayer; the fields of its body that are texts. -/
structure Relayed where
  status : Nat
  deviceRequestId : Option String
  state : Option String
  error : Option String

inductive Phase where
  /-- The ticket is read for the signature of this attempt. -/
  | reading (attempt : Nat)
  /-- The relayer was asked to submit. -/
  | relaying (attempt : Nat)
  /-- The relayer is asked what became of the request. -/
  | polling (attempt : Nat) (requestId : Option String) (poll : Nat)
  /-- The ticket is read until it lists the device. -/
  | confirming (listed : Bool) (left : Nat)
  | returned (ticket : TicketView)
  | failed (code : String)

/-- `STATUS_RETRIES` -/
def statusRetries : Nat := 20

/-- The number of `CONFIRM_DELAYS_MS`. -/
def confirmReads : Nat := 5

/-- From the answered read of an attempt: the signed arguments, or the end of the run. -/
def onRead (codec : Codec) (input : LinkInput) (attempt : Nat) (read : Option TicketView)
    (nowMs signMs : Nat) : Result (TicketView ⊕ AddDeviceArgs) :=
  match read with
  | none => .error "ticket_not_found"
  | some ticket =>
    let sign : Result (TicketView ⊕ AddDeviceArgs) := do
      let expiresAtMs ← signatureExpiry signMs
      let args ← buildAddDeviceArgs codec input (decimal ticket.deviceEpoch) expiresAtMs
      return .inr args
    match devicePlan ticket input.sessionPublicKey nowMs with
    -- A retry after a link that already landed needs no new signature.
    | .watch _ => if attempt > 0 then .ok (.inl ticket) else sign
    | .renew _ => sign
    | .link none => sign
    | .link (some evicts) =>
      if some evicts.sessionPublicKey ≠ input.allowEvict then .error "eviction_not_confirmed"
      else sign

/-- `^[a-z_]{1,64}$` -/
def isErrorCode (text : String) : Bool :=
  Nat.ble 1 text.toList.length && Nat.ble text.toList.length 64 &&
    text.toList.all fun c => ('a' ≤ c && c ≤ 'z') || c == '_'

def errorCode (error : Option String) (fallback : String) : String :=
  (error.filter isErrorCode).getD fallback

/-- An answer that is not pending any more. -/
def onSettled (attempt : Nat) (relayed : Relayed) : Phase :=
  if relayed.status = 200 then .confirming (relayed.state == some "listed") confirmReads
  else
    let code := errorCode relayed.error "device_link_failed"
    if code = "device_epoch_stale" ∧ attempt = 0 then .reading (attempt + 1) else .failed code

/-- An answer of the relayer in the loop over its status; `requestId` is the first answer's. -/
def onRelayed (attempt : Nat) (requestId : Option String) (poll : Nat) (answer : Option Relayed) :
    Phase :=
  match answer with
  | none => .failed "relayer_unavailable"
  | some relayed =>
    if relayed.status = 202 then
      if requestId.any (isHexText 64) = false ∨ poll ≥ statusRetries then
        .failed "device_link_pending"
      else .polling attempt requestId (poll + 1)
    else onSettled attempt relayed

/-- From an answered read after the relayer's: does the chain list the device? -/
def onConfirmRead (input : LinkInput) (listed : Bool) (left : Nat) (read : Option TicketView)
    (nowMs : Nat) : Phase :=
  match read with
  | none => .failed "ticket_not_found"
  | some ticket =>
    let again : Phase :=
      if left ≤ 1 then .failed "device_link_not_confirmed" else .confirming listed (left - 1)
    match devicePlan ticket input.sessionPublicKey nowMs with
    | .watch _ => .returned ticket
    | .renew _ => if listed then .returned ticket else again
    | .link _ => again

end Youtick.Web
