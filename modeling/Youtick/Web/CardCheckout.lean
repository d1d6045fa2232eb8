import Youtick.Web.Devices
import Youtick.Web.TicketKeys

/-!
# Web: opening a card order

`openCardOrder` of `lib/v2/card-checkout.ts` asks the payment service for an order under the first
of five ticket keys from `startIndex` that no earlier order holds, and signs the order with that
key. The service is any function of the requests it has received. `openCardOrder_window`: whatever
it answers, the keys offered are those five and an opened order is under one of them.
-/

set_option autoImplicit false

namespace Youtick.Web

open Youtick.Lib
open Youtick.Lib.Fallible (reject settle Advances)
open Youtick.PaymentService (isHexText isDigits)

/-! ## The service's answers -/

inductive CardOrderStatus where
  | created
  | awaitingPayment
  | paid
  | issued
  | voidPending
  | voided
  | cancelled

/-- `STATUSES.includes` -/
def CardOrderStatus.parse : String → Option CardOrderStatus
  | "created" => some .created
  | "awaiting_payment" => some .awaitingPayment
  | "paid" => some .paid
  | "issued" => some .issued
  | "void_pending" => some .voidPending
  | "voided" => some .voided
  | "cancelled" => some .cancelled
  | _ => none

structure CardOrder where
  orderId : String
  status : CardOrderStatus
  ticketId : String
  publicationId : String
  paymentReferenceHmac : String
  grossMinor : String
  currency : String
  needsSignature : Bool

structure CardCheckoutSession where
  provider : String
  environment : String
  publisherId : String
  offerId : String
  jwt : String
  refreshToken : String

/-- The properties of an order's JSON; one of another type is absent. -/
structure CardOrderValue where
  orderId : Option String
  status : Option String
  ticketId : Option String
  publicationId : Option String
  paymentReferenceHmac : Option String
  grossMinor : Option String
  currency : Option String
  needsSignature : Option Bool

structure CheckoutValue where
  provider : Option String
  environment : Option String
  publisherId : Option String
  offerId : Option String
  jwt : Option String
  refreshToken : Option String

/-- An answer of the service: its status and the properties of its body. -/
structure CardAnswer where
  status : Nat
  error : Option String
  order : CardOrderValue
  checkout : Option CheckoutValue

def checkoutUnavailable : String := "checkout_unavailable"

/-- `^[1-9][0-9]{0,15}$` -/
def isGrossMinor (text : String) : Bool :=
  isDigits text.toList && decide (text.toList.length ≤ 16) && !startsWith text "0"

/-- `^[A-Z][0-9]{6,12}(_[A-Z]{2})?$` -/
def isOfferId (text : String) : Bool :=
  match text.toList with
  | [] => false
  | first :: rest =>
    let digits := rest.takeWhile isAsciiDigit
    let tail := rest.dropWhile isAsciiDigit
    isAsciiUppercase first && Nat.ble 6 digits.length && Nat.ble digits.length 12 &&
      match tail with
      | [] => true
      | ['_', a, b] => isAsciiUppercase a && isAsciiUppercase b
      | _ => false

def parseCardOrder (value : CardOrderValue) : Result CardOrder := do
  let orderId ← expect (value.orderId.filter (isHexText 32)) checkoutUnavailable
  let status ← expect (value.status.bind CardOrderStatus.parse) checkoutUnavailable
  let ticketId ← expect (value.ticketId.filter (isHexText 64)) checkoutUnavailable
  let publicationId ← expect value.publicationId checkoutUnavailable
  let paymentReferenceHmac ← expect (value.paymentReferenceHmac.filter (isHexText 64))
    checkoutUnavailable
  let grossMinor ← expect (value.grossMinor.filter isGrossMinor) checkoutUnavailable
  let currency ← expect (value.currency.filter isCurrency) checkoutUnavailable
  let needsSignature ← expect value.needsSignature checkoutUnavailable
  return {
    orderId := orderId
    status := status
    ticketId := ticketId
    publicationId := publicationId
    paymentReferenceHmac := paymentReferenceHmac
    grossMinor := grossMinor
    currency := currency
    needsSignature := needsSignature }

def parseCheckoutSession (value : Option CheckoutValue) (rail : String) :
    Result CardCheckoutSession := do
  let session ← expect value checkoutUnavailable
  require (session.provider = some "cleeng" ∧ session.environment = some rail) checkoutUnavailable
  let publisherId ← expect (session.publisherId.filter fun text =>
    isDigits text.toList && decide (text.toList.length ≤ 20)) checkoutUnavailable
  let offerId ← expect (session.offerId.filter isOfferId) checkoutUnavailable
  let jwt ← expect session.jwt checkoutUnavailable
  let refreshToken ← expect session.refreshToken checkoutUnavailable
  return {
    provider := "cleeng"
    environment := rail
    publisherId := publisherId
    offerId := offerId
    jwt := jwt
    refreshToken := refreshToken }

/-! ## Requests -/

/-- The body of `card_purchase`, signed by the ticket key. -/
structure CardPurchaseDevice where
  sessionPublicKey : String
  certificateSha256 : String
  expiresAtMs : String
  signature : String

inductive CardRequest where
  | create (publicationId ticketPublicKey consentVersion : String)
  | device (orderId : String) (body : CardPurchaseDevice)

/-- The service answers the last of the requests it has received; a failed request, or a body that
is `null`, is an error. -/
abbrev CardService : Type := List CardRequest → Except String CardAnswer

def post (service : CardService) (request : CardRequest) :
    EStateM String (List CardRequest) CardAnswer := do
  modify fun requests => requests ++ [request]
  let requests ← get
  settle (service requests)

structure DeviceBinding where
  sessionPublicKey : String
  certificateSha256 : String

structure OpenCardOrder where
  binding : MarketBinding
  rail : String
  ckdKey : Bytes
  startIndex : Nat
  publicationId : String
  device : DeviceBinding
  consentVersion : String
  nowMs : Nat

structure OpenedCardOrder where
  order : CardOrder
  ticket : TicketKey
  ticketIndex : Nat
  checkout : CardCheckoutSession

/-- `MAX_KEY_ATTEMPTS` -/
def maxKeyAttempts : Nat := 5

def buildCardPurchaseDevice (codec : Codec) (binding : MarketBinding) (ticket : TicketKey)
    (order : CardOrder) (device : DeviceBinding) (expiresAtMs : String) :
    Result CardPurchaseDevice := do
  let message ← ticketMessage codec binding .cardPurchase ticket.ticketId expiresAtMs
    [("publication_id", order.publicationId), ("session_public_key", device.sessionPublicKey),
     ("certificate_sha256", device.certificateSha256),
     ("payment_reference_hmac", order.paymentReferenceHmac), ("gross_minor", order.grossMinor),
     ("currency", order.currency)]
  return {
    sessionPublicKey := device.sessionPublicKey
    certificateSha256 := device.certificateSha256
    expiresAtMs := expiresAtMs
    signature := ticket.sign message }

section Open

variable (codec : Codec) (library : KeyLibrary) (service : CardService) (input : OpenCardOrder)

def signCardOrder (order : CardOrder) (ticket : TicketKey) :
    EStateM String (List CardRequest) CardOrder := do
  reject (ticket.ticketId ≠ order.ticketId) checkoutUnavailable
  let expiresAtMs ← settle (signatureExpiry input.nowMs)
  let device ← settle
    (buildCardPurchaseDevice codec input.binding ticket order input.device expiresAtMs)
  let signed ← post service (.device order.orderId device)
  reject (signed.status ≠ 200) (errorCode signed.error checkoutUnavailable)
  settle (parseCardOrder signed.order)

/-- The loop over the attempts, from an index. -/
def openFrom (root : Bytes) : (attempts : Nat) → (ticketIndex : Nat) →
    EStateM String (List CardRequest) OpenedCardOrder
  | 0, _ => throw "ticket_exists"
  | attempts + 1, ticketIndex => do
      let ticket ← settle (ticketKey library root ticketIndex)
      let created ← post service
        (.create input.publicationId ticket.publicKey input.consentVersion)
      if created.status = 409 ∧
          (created.error = some "ticket_key_used" ∨ created.error = some "ticket_exists") then
        openFrom root attempts (ticketIndex + 1)
      else do
        reject (created.status ≠ 201) (errorCode created.error checkoutUnavailable)
        let checkout ← settle (parseCheckoutSession created.checkout input.rail)
        let parsed ← settle (parseCardOrder created.order)
        let order ← signCardOrder codec service input parsed ticket
        return {
          order := order
          ticket := ticket
          ticketIndex := ticketIndex
          checkout := checkout }

def openCardOrder : EStateM String (List CardRequest) OpenedCardOrder := do
  let root ← settle (deriveRootKey library input.ckdKey)
  openFrom codec library service input root maxKeyAttempts input.startIndex

end Open

/-! ## The keys it offers -/

/-- The request asks for an order under a key with an index in this window. -/
def CardRequest.Offers (library : KeyLibrary) (root : Bytes) (first last : Nat) :
    CardRequest → Prop
  | .create _ ticketPublicKey _ => ∃ index key, first ≤ index ∧ index < last ∧
      ticketKey library root index = .ok key ∧ key.publicKey = ticketPublicKey
  | .device _ _ => True

/-- Only requests for keys in the window were added. -/
def OffersOnly (library : KeyLibrary) (root : Bytes) (first last : Nat)
    (before after : List CardRequest) : Prop :=
  ∃ sent, after = before ++ sent ∧ ∀ request ∈ sent, request.Offers library root first last

section Window

variable {codec : Codec} {library : KeyLibrary} {service : CardService} {input : OpenCardOrder}
  {root : Bytes} {first last : Nat}

theorem OffersOnly.refl (requests : List CardRequest) :
    OffersOnly library root first last requests requests :=
  ⟨[], (List.append_nil requests).symm, fun _ h => absurd h List.not_mem_nil⟩

theorem OffersOnly.trans {a b c : List CardRequest} (hab : OffersOnly library root first last a b)
    (hbc : OffersOnly library root first last b c) : OffersOnly library root first last a c := by
  obtain ⟨sent, rfl, hsent⟩ := hab
  obtain ⟨rest, rfl, hrest⟩ := hbc
  refine ⟨sent ++ rest, List.append_assoc _ _ _, ?_⟩
  intro request hmem
  rcases List.mem_append.mp hmem with hmem | hmem
  · exact hsent request hmem
  · exact hrest request hmem

theorem bind_offers {α β : Type} {m : EStateM String (List CardRequest) α}
    {f : α → EStateM String (List CardRequest) β}
    (hm : Advances (OffersOnly library root first last) m)
    (hf : ∀ a, Advances (OffersOnly library root first last) (f a)) :
    Advances (OffersOnly library root first last) (m >>= f) :=
  Fallible.advances_bind (R := OffersOnly library root first last) OffersOnly.trans hm hf

theorem settle_offers {α : Type} (x : Except String α) :
    Advances (OffersOnly library root first last) (settle x) :=
  Fallible.advances_settle OffersOnly.refl

theorem reject_offers (p : Prop) [Decidable p] (code : String) :
    Advances (OffersOnly library root first last) (reject p code) :=
  Fallible.advances_reject OffersOnly.refl

theorem post_offers {request : CardRequest} (h : request.Offers library root first last) :
    Advances (OffersOnly library root first last) (post service request) := by
  apply bind_offers
  · apply Fallible.advances_modify
    intro requests
    refine ⟨[request], rfl, ?_⟩
    intro sent hsent
    rwa [List.mem_singleton.mp hsent]
  · intro _
    apply bind_offers
    · exact Fallible.advances_get OffersOnly.refl
    · intro requests
      exact settle_offers _

theorem signCardOrder_offers (order : CardOrder) (ticket : TicketKey) :
    Advances (OffersOnly library root first last)
      (signCardOrder codec service input order ticket) := by
  apply bind_offers (reject_offers _ _)
  intro _
  apply bind_offers (settle_offers _)
  intro expiresAtMs
  apply bind_offers (settle_offers _)
  intro device
  apply bind_offers
  · apply post_offers
    exact trivial
  intro signed
  apply bind_offers (reject_offers _ _)
  intro _
  exact settle_offers _

/-- The attempts left are for the keys up to the end of the window. -/
theorem openFrom_offers (attempts ticketIndex : Nat) (hfirst : first ≤ ticketIndex)
    (hlast : ticketIndex + attempts ≤ last) :
    Advances (OffersOnly library root first last)
      (openFrom codec library service input root attempts ticketIndex) := by
  induction attempts generalizing ticketIndex with
  | zero => exact Fallible.advances_throw OffersOnly.refl _
  | succ attempts ih =>
    intro requests
    refine Fallible.after_bind (R := OffersOnly library root first last) OffersOnly.trans
      (settle_offers _ _) ?_
    intro ticket _ hticket
    have hkey := (Fallible.settle_eq_ok.mp hticket).1
    apply bind_offers
    · exact post_offers ⟨ticketIndex, ticket, hfirst, by omega, hkey, rfl⟩
    · intro created
      split
      · exact ih (ticketIndex + 1) (by omega) (by omega)
      · apply bind_offers (reject_offers _ _)
        intro _
        apply bind_offers (settle_offers _)
        intro checkout
        apply bind_offers (settle_offers _)
        intro parsed
        apply bind_offers (signCardOrder_offers parsed ticket)
        intro order
        exact Fallible.advances_pure OffersOnly.refl _

/-- An opened order is under the key of its index, which is in the window. -/
theorem openFrom_eq_ok (attempts ticketIndex : Nat) {requests after : List CardRequest}
    {opened : OpenedCardOrder}
    (h : openFrom codec library service input root attempts ticketIndex requests =
      .ok opened after) :
    ticketIndex ≤ opened.ticketIndex ∧ opened.ticketIndex < ticketIndex + attempts ∧
      ticketKey library root opened.ticketIndex = .ok opened.ticket := by
  induction attempts generalizing ticketIndex requests with
  | zero => exact absurd h Fallible.throw_ne_ok
  | succ attempts ih =>
    obtain ⟨ticket, mid, hticket, h⟩ := Fallible.bind_eq_ok.mp h
    obtain ⟨created, posted, -, h⟩ := Fallible.bind_eq_ok.mp h
    split at h
    · obtain ⟨hge, hlt, hkey⟩ := ih (ticketIndex + 1) h
      exact ⟨by omega, by omega, hkey⟩
    · obtain ⟨_, _, -, h⟩ := Fallible.bind_eq_ok.mp h
      obtain ⟨checkout, _, -, h⟩ := Fallible.bind_eq_ok.mp h
      obtain ⟨parsed, _, -, h⟩ := Fallible.bind_eq_ok.mp h
      obtain ⟨order, _, -, h⟩ := Fallible.bind_eq_ok.mp h
      obtain ⟨rfl, -⟩ := Fallible.pure_eq_ok.mp h
      exact ⟨Nat.le_refl _, by dsimp only; omega, (Fallible.settle_eq_ok.mp hticket).1⟩

/-- Whatever the service answers, the keys offered are among the first `recoveryGap` from
`startIndex`, and so is the key of an order that was opened. -/
theorem openCardOrder_window (hroot : deriveRootKey library input.ckdKey = .ok root)
    (requests : List CardRequest) :
    OffersOnly library root input.startIndex (input.startIndex + recoveryGap) requests
        (Fallible.after (openCardOrder codec library service input) requests) ∧
      ∀ opened after, openCardOrder codec library service input requests = .ok opened after →
        input.startIndex ≤ opened.ticketIndex ∧
          opened.ticketIndex < input.startIndex + recoveryGap ∧
          ticketKey library root opened.ticketIndex = .ok opened.ticket := by
  constructor
  · refine Fallible.after_bind (R := OffersOnly library root input.startIndex _) OffersOnly.trans
      (settle_offers _ _) ?_
    intro derived mid hderived
    obtain rfl := Except.ok.inj (hroot.symm.trans (Fallible.settle_eq_ok.mp hderived).1)
    refine openFrom_offers maxKeyAttempts input.startIndex (Nat.le_refl _) ?_ mid
    exact Nat.add_le_add_left (by decide) _
  · intro opened after h
    obtain ⟨derived, mid, hderived, h⟩ := Fallible.bind_eq_ok.mp h
    obtain rfl := Except.ok.inj (hroot.symm.trans (Fallible.settle_eq_ok.mp hderived).1)
    obtain ⟨hge, hlt, hkey⟩ := openFrom_eq_ok maxKeyAttempts input.startIndex h
    exact ⟨hge, Nat.lt_of_lt_of_le hlt (Nat.add_le_add_left (by decide) _), hkey⟩

end Window

end Youtick.Web
