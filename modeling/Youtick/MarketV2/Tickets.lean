import Youtick.MarketV2.Publications

/-!
# Market V2: tickets

What happens to a ticket after it was sold: the watch mark, the refund and its callback, the release
of expired escrow, the devices, the card tickets, and the VAT keys.
-/

set_option autoImplicit false

namespace Youtick.MarketV2

open Youtick.Lib

/-! ## Shared parts -/

def TicketRail.name : TicketRail → String
  | .crypto => "crypto"
  | .card => "card"

def settledEventData (ticket : Ticket) (includeRail : Bool) : List (String × Json) :=
  [("ticket_id", .str ticket.ticketId),
   ("publication_id", .str ticket.publicationId),
   ("vat_usdc_micro", .dec ticket.vatUsdcMicro),
   ("platform_usdc_micro", .dec ticket.platformUsdcMicro),
   ("creator_usdc_micro", .dec ticket.creatorUsdcMicro)] ++
    if includeRail then [("rail", .str ticket.rail.name)] else []

/-- A crypto ticket whose gross amount is held in escrow. -/
def Ticket.InEscrow (ticket : Ticket) : Prop :=
  ticket.rail = .crypto ∧ (ticket.status = .purchased ∨ ticket.status = .watchedInEscrow)

instance (ticket : Ticket) : Decidable ticket.InEscrow := inferInstanceAs (Decidable (_ ∧ _))

/-- The first device of a new ticket, and any device added later. -/
def newTicketDevice (env : Env) (sessionPublicKey certificateSha256 : String) :
    Result TicketDevice := do
  let expiresAtMs ← checkedAdd 64 env.blockTimestampMs playbackDeviceLifetimeMs "Time overflow"
  return {
    sessionPublicKey := sessionPublicKey
    certificateSha256 := certificateSha256
    authorizedAtMs := env.blockTimestampMs
    expiresAtMs := expiresAtMs }

def deviceRevokedEvent (ticketId sessionPublicKey : String) (deviceEpoch : Nat) : Event :=
  emitMarketV2Event "device_revoked"
    [("ticket_id", .str ticketId),
     ("session_public_key", .str sessionPublicKey),
     ("device_epoch", .dec deviceEpoch)]

/-- `verify_ticket_action`: the ticket key signed the action, its expiry and `fields`. -/
def verifyTicketAction (env : Env) (ticket : Ticket) (action expiresAtMs : String)
    (fields : List String) (signature : String) : Result PUnit.{1} := do
  let _expires ← parseSignatureExpiry expiresAtMs env.blockTimestampMs
  let network ← networkId env
  let message ← signedLines ([ticketSignatureDomain, network, env.currentAccountId, action,
    ticket.ticketId, expiresAtMs] ++ fields)
  let ticketKey ← parseEd25519Key env.toHost ticket.ticketPublicKey
  verifyEd25519 env.toHost signature message ticketKey "Invalid ticket signature"

/-! ## Watching -/

def markWatched (env : Env) (s : Contract) (ticketId : String) : Result (Outcome Bool) := do
  assertBridge env s
  let ticket ← expect (s.tickets.get ticketId) "Ticket not found"
  match ticket.status with
  | .watched | .watchedInEscrow | .released => return { state := s, value := false }
  | .refunded | .voided => .error "Ticket is not playable"
  | .purchased =>
    let publication ← expect (s.publications.get ticket.publicationId) "Publication not found"
    require (publication.availability ≠ .takedown) "Publication is taken down"
    let watched := { ticket with
      status := match ticket.rail with
        | .crypto => .watchedInEscrow
        | .card => .watched }
    return {
      state := { s with tickets := s.tickets.insert ticketId watched }
      value := true
      events := [emitMarketV2Event "ticket_watched"
        (settledEventData watched true ++ [("settled", .bool false)])] }

/-! ## Refunds -/

def refundTicket (env : Env) (s : Contract) (ticketId : String) (refundTo : AccountId)
    (expiresAtMs signature : String) : Result (Outcome Unit) := do
  let ticket ← expect (s.tickets.get ticketId) "Ticket not found"
  let restoreStatus := ticket.status
  require ticket.InEscrow "Only crypto tickets still in escrow can be refunded"
  let now := env.blockTimestampMs
  let taken := takenDown s ticket.publicationId
  require (taken = true ∨ env.predecessorAccountId = s.paymentOperatorId)
    "Only the payment operator can refund before a takedown"
  require (taken = true ∨ newPurchasesPaused s = false) "New purchases are paused"
  checkWhen (taken = false) do
    let closesAtMs ← checkedAdd 64 ticket.purchasedAtMs escrowReleaseMs "Time overflow"
    require (now < closesAtMs) "Refund window has closed"
  let _expires ← parseSignatureExpiryWithin expiresAtMs now maxRefundSignatureTtlMs
  let network ← networkId env
  let message ← signedLines [ticketSignatureDomain, network, env.currentAccountId, "refund_ticket",
    ticketId, expiresAtMs, refundTo]
  let ticketKey ← parseEd25519Key env.toHost ticket.ticketPublicKey
  verifyEd25519 env.toHost signature message ticketKey "Invalid ticket signature"
  let amount := ticket.grossUsdcMicro
  let refunded := { ticket with status := .refunded }
  let escrowBalance ← checkedSub s.escrowBalance amount "Escrow balance underflow"
  -- The token contract is resolved when the transfer is scheduled.
  let _usdc ← usdcContractId env
  return {
    state := { s with
      tickets := s.tickets.insert ticketId refunded
      escrowBalance := escrowBalance }
    value := ()
    promises := [.ftTransfer refundTo amount "ticket refund"
      (.onTicketRefund ticketId refundTo amount (some restoreStatus))] }

def onTicketRefund (env : Env) (s : Contract) (ticketId : String) (_receiverId : AccountId)
    (amount : Nat) (restoreStatus : Option TicketStatus) : Result (Outcome Bool) := do
  assertPrivate env "on_ticket_refund"
  let result ← callbackResult env "Expected one refund result"
  let ticket ← expect (s.tickets.get ticketId) "Ticket not found"
  match result with
  | .successful =>
    return {
      state := { s with tickets := s.tickets.insert ticketId { ticket with devices := [] } }
      value := true
      events := [emitMarketV2Event "ticket_refunded"
        [("ticket_id", .str ticketId),
         ("publication_id", .str ticket.publicationId),
         ("rail", .str "crypto"),
         ("refunded_usdc_micro", .dec amount)]] }
  | .failed =>
    let restored := { ticket with status := restoreStatus.getD .purchased }
    let escrowBalance ← checkedAdd 128 s.escrowBalance amount "Escrow balance overflow"
    return {
      state := { s with
        tickets := s.tickets.insert ticketId restored
        escrowBalance := escrowBalance }
      value := false }

/-! ## Releases -/

def creditCreator (s : Contract) (creatorId : AccountId) (amount : Nat) : Result Contract := do
  let balance ← checkedAdd 128 ((s.creatorBalances.get creatorId).getD 0) amount
    "Creator balance overflow"
  return { s with creatorBalances := s.creatorBalances.insert creatorId balance }

def settleTicket (s : Contract) (ticket : Ticket) : Result Contract := do
  let escrowBalance ← checkedSub s.escrowBalance ticket.grossUsdcMicro "Escrow balance underflow"
  let taxBalance ← checkedAdd 128 s.taxBalance ticket.vatUsdcMicro "Tax balance overflow"
  let platformBalance ← checkedAdd 128 s.platformBalance ticket.platformUsdcMicro
    "Platform balance overflow"
  creditCreator
    { s with
      escrowBalance := escrowBalance
      taxBalance := taxBalance
      platformBalance := platformBalance }
    ticket.creatorId ticket.creatorUsdcMicro

/-- One pass of the loop of `release_expired`: `none` when the ticket is skipped. -/
def releaseOne (env : Env) (s : Contract) (ticketId : String) :
    Result (Option (Contract × Event)) :=
  match s.tickets.get ticketId with
  | none => .ok none
  | some ticket => do
      let due ← checkedAdd 64 ticket.purchasedAtMs escrowReleaseMs "Time overflow"
      if ¬ ticket.InEscrow ∨ env.blockTimestampMs < due ∨
          takenDown s ticket.publicationId = true then
        return none
      else
        let released := { ticket with status := .released }
        let settled ← settleTicket { s with tickets := s.tickets.insert ticketId released } released
        return some (settled, emitMarketV2Event "ticket_released" (settledEventData released false))

/-- The loop of `release_expired`: the state, the number released and the events so far. -/
def releaseLoop (env : Env) : Contract → List String → Result (Contract × Nat × List Event)
  | s, [] => .ok (s, 0, [])
  | s, ticketId :: rest => do
      match ← releaseOne env s ticketId with
      | none => releaseLoop env s rest
      | some (s', event) => do
          let (last, released, events) ← releaseLoop env s' rest
          return (last, released + 1, event :: events)

def releaseExpired (env : Env) (s : Contract) (ticketIds : List String) :
    Result (Outcome Nat) := do
  require (ticketIds ≠ [] ∧ ticketIds.length ≤ maxReleaseBatch) "Release 1-25 tickets per call"
  let (state, released, events) ← releaseLoop env s ticketIds
  checkWhen (released > 0) (assertRunway env state publicTestnetBetaEmergencyRunwayBytes)
  return { state := state, value := released, events := events }

/-! ## Devices -/

/-- Tickets that may hold devices: not refunded or voided, publication not taken down. -/
def playableTicket (s : Contract) (ticketId : String) : Result Ticket := do
  let ticket ← expect (s.tickets.get ticketId) "Ticket not found"
  require (ticket.status = .purchased ∨ ticket.status = .watched ∨
      ticket.status = .watchedInEscrow ∨ ticket.status = .released)
    "Ticket is not playable"
  let publication ← expect (s.publications.get ticket.publicationId) "Publication not found"
  require (publication.availability ≠ .takedown) "Publication is taken down"
  return ticket

/-- The signed epoch must be the ticket's current one. -/
def assertDeviceEpoch (ticket : Ticket) (deviceEpoch : String) : Result PUnit.{1} := do
  let epoch ← parseCanonicalDecimal "device_epoch" deviceEpoch (maxOf 32)
  require (epoch = ticket.deviceEpoch) "Stale device epoch"

/-- The ticket with the oldest of three devices dropped and the epoch advanced for it. -/
def evictOldest (ticketId : String) (ticket : Ticket) : Result (Ticket × List Event) :=
  match ticket.devices with
  | evicted :: rest =>
    if ticket.devices.length = maxTicketDevices then do
      let deviceEpoch ← checkedAdd 32 ticket.deviceEpoch 1 "Device epoch overflow"
      return ({ ticket with devices := rest, deviceEpoch := deviceEpoch },
        [deviceRevokedEvent ticketId evicted.sessionPublicKey deviceEpoch])
    else
      return (ticket, [])
  | [] => return (ticket, [])

def addDevice (env : Env) (s : Contract)
    (ticketId sessionPublicKey certificateSha256 deviceEpoch expiresAtMs signature : String) :
    Result (Outcome TicketDevice) := do
  let ticket ← playableTicket s ticketId
  let _sessionKey ← parseEd25519Key env.toHost sessionPublicKey
  assertSha256 "certificate_sha256" certificateSha256
  verifyTicketAction env ticket "add_device" expiresAtMs
    [sessionPublicKey, certificateSha256, deviceEpoch] signature
  assertDeviceEpoch ticket deviceEpoch
  let kept := { ticket with
    devices := ticket.devices.filter fun device =>
      decide (device.expiresAtMs > env.blockTimestampMs) &&
        decide (device.sessionPublicKey ≠ sessionPublicKey) }
  let (evicted, evictions) ← evictOldest ticketId kept
  let device ← newTicketDevice env sessionPublicKey certificateSha256
  let added := { evicted with devices := evicted.devices ++ [device] }
  let state := { s with tickets := s.tickets.insert ticketId added }
  assertRunway env state publicTestnetBetaEmergencyRunwayBytes
  return {
    state := state
    value := device
    events := evictions ++ [emitMarketV2Event "device_added"
      [("ticket_id", .str ticketId),
       ("session_public_key", .str device.sessionPublicKey),
       ("device_epoch", .dec added.deviceEpoch),
       ("expires_at_ms", .dec device.expiresAtMs)]] }

def revokeTicketDevice (s : Contract) (ticket : Ticket) (sessionPublicKey : String) :
    Result (Outcome Unit) := do
  let deviceEpoch ← checkedAdd 32 ticket.deviceEpoch 1 "Device epoch overflow"
  let revoked := { ticket with
    devices := ticket.devices.filter fun device =>
      decide (device.sessionPublicKey ≠ sessionPublicKey)
    deviceEpoch := deviceEpoch }
  return {
    -- Stored under the ticket's own id.
    state := { s with tickets := s.tickets.insert ticket.ticketId revoked }
    value := ()
    events := [deviceRevokedEvent ticket.ticketId sessionPublicKey deviceEpoch] }

def revokeDevice (env : Env) (s : Contract)
    (ticketId sessionPublicKey deviceEpoch expiresAtMs signature : String) :
    Result (Outcome Unit) := do
  let ticket ← expect (s.tickets.get ticketId) "Ticket not found"
  let _sessionKey ← parseEd25519Key env.toHost sessionPublicKey
  verifyTicketAction env ticket "revoke_device" expiresAtMs [sessionPublicKey, deviceEpoch]
    signature
  assertDeviceEpoch ticket deviceEpoch
  revokeTicketDevice s ticket sessionPublicKey

def platformRevokeDevice (env : Env) (s : Contract) (ticketId sessionPublicKey : String) :
    Result (Outcome Unit) := do
  require (env.predecessorAccountId = s.platformAccountId)
    "Only the platform account can revoke devices"
  let ticket ← expect (s.tickets.get ticketId) "Ticket not found"
  let _sessionKey ← parseEd25519Key env.toHost sessionPublicKey
  revokeTicketDevice s ticket sessionPublicKey

/-! ## Card tickets -/

def assertCurrency (currency : String) : Result PUnit.{1} :=
  require (currency.utf8ByteSize = 3 ∧ currency.toList.all isAsciiUppercase = true)
    "currency must be an ISO 4217 code"

/-- The ticket `issue_card_ticket` stores; it holds no USDC. -/
def cardTicket (env : Env) (ticketId ticketPublicKey publicationId : String) (creatorId : AccountId)
    (device : TicketDevice) (card : CardTicketData) : Ticket where
  ticketId := ticketId
  ticketPublicKey := ticketPublicKey
  publicationId := publicationId
  creatorId := creatorId
  rail := .card
  status := .purchased
  grossUsdcMicro := 0
  vatUsdcMicro := 0
  platformUsdcMicro := 0
  creatorUsdcMicro := 0
  vatKeyVersion := 0
  purchasedAtMs := env.blockTimestampMs
  deviceEpoch := 0
  devices := [device]
  card := some card

def issueCardTicket (env : Env) (s : Contract) (ticketPublicKey publicationId : String)
    (device : SignedTicketDevice) (paymentReferenceHmac grossMinor currency : String) :
    Result (Outcome Ticket) := do
  require (env.predecessorAccountId = s.paymentOperatorId)
    "Only the payment operator can issue card tickets"
  require (env.attachedDeposit = 0) "issue_card_ticket takes no deposit"
  require (newPurchasesPaused s = false) "New purchases are paused"
  require (s.publicTestnetBeta = none ∨ (activePublicTestnetBeta env s).isSome = true)
    "Public beta is not active"
  assertIdentifier "publication_id" publicationId
  let ticketKey ← parseEd25519Key env.toHost ticketPublicKey
  let ticketId := hexSha256 env.toHost ticketKey
  let _sessionKey ← parseEd25519Key env.toHost device.sessionPublicKey
  assertSha256 "certificate_sha256" device.certificateSha256
  assertSha256 "payment_reference_hmac" paymentReferenceHmac
  let grossMinorValue ← parseCanonicalDecimal "gross_minor" grossMinor (maxOf 64)
  require (grossMinorValue > 0) "gross_minor must be positive"
  assertCurrency currency
  let _expires ← parseSignatureExpiry device.expiresAtMs env.blockTimestampMs
  let publication ← expect (s.publications.get publicationId) "Publication not found"
  require (publication.availability = .active) "Publication is not on sale"
  require (s.tickets.get ticketId = none) "Ticket already exists"
  require (paymentReferenceHmac ∉ s.cardReferences) "Payment reference already used"
  let network ← networkId env
  let message ← signedLines [ticketSignatureDomain, network, env.currentAccountId, "card_purchase",
    ticketId, device.expiresAtMs, publicationId, device.sessionPublicKey, device.certificateSha256,
    paymentReferenceHmac, grossMinor, currency]
  verifyEd25519 env.toHost device.signature message ticketKey "Invalid ticket signature"
  -- Measured before the writes: afterwards the headroom already reflects the new bytes.
  let status ← storageReserveStatus env s
  let firstDevice ← newTicketDevice env device.sessionPublicKey device.certificateSha256
  let ticket := cardTicket env ticketId ticketPublicKey publicationId publication.creatorId
    firstDevice {
      paymentReferenceHmac := paymentReferenceHmac
      grossMinor := grossMinorValue
      currency := currency }
  let state := { s with
    tickets := s.tickets.insert ticketId ticket
    cardReferences := insert paymentReferenceHmac s.cardReferences }
  let storageCost := saturatingMul 128 env.storageByteCost
    (env.storageUsage state - env.storageUsage s)
  require (storageCost ≤ status.reserveHeadroomYocto)
    ("Card ticket storage exceeds the operational reserve headroom (" ++ decimal storageCost ++
      " > " ++ decimal status.reserveHeadroomYocto ++ " yoctoNEAR)")
  return {
    state := state
    value := ticket
    events := [emitMarketV2Event "card_ticket_issued"
      [("ticket_id", .str ticketId),
       ("publication_id", .str publicationId),
       ("creator_id", .str publication.creatorId),
       ("rail", .str "card"),
       ("gross_minor", .str grossMinor),
       ("currency", .str currency),
       ("payment_reference_hmac", .str paymentReferenceHmac),
       ("status", .str "purchased")]] }

def voidCardTicket (env : Env) (s : Contract) (ticketId reason : String) :
    Result (Outcome Unit) := do
  require (env.predecessorAccountId = s.paymentOperatorId)
    "Only the payment operator can void card tickets"
  require (newPurchasesPaused s = false) "New purchases are paused"
  require (reason = "refund" ∨ reason = "chargeback") "reason must be refund or chargeback"
  let ticket ← expect (s.tickets.get ticketId) "Ticket not found"
  require (ticket.rail = .card) "Only card tickets can be voided"
  require (ticket.status = .purchased ∨ ticket.status = .watched) "Ticket is already voided"
  let voided := { ticket with status := .voided, devices := [] }
  return {
    state := { s with tickets := s.tickets.insert ticketId voided }
    value := ()
    events := [emitMarketV2Event "card_ticket_voided"
      [("ticket_id", .str ticketId),
       ("publication_id", .str voided.publicationId),
       ("reason", .str reason)]] }

/-! ## VAT keys -/

def revokeVatKey (env : Env) (s : Contract) (keyVersion : Nat) : Result (Outcome Unit) := do
  assertAdminOrGuardian env s
  require ((s.vatKeys.get keyVersion).isSome = true) "Unknown VAT key version"
  return {
    state := { s with vatKeys := s.vatKeys.remove keyVersion }
    value := ()
    events := [emitGovernanceEvent env "vat_key_revoked" [("key_version", .num keyVersion)]] }

end Youtick.MarketV2
