import Youtick.MarketV2.Uploads
import Youtick.MarketV2.Withdrawals
import Youtick.MarketV2.System

/-!
# Market v2: the storage reserve

What the account's NEAR balance covers: the stake for its storage and the operational reserve. A card
ticket is written before its cost is known and taken back when the headroom measured before does not
cover it; a NEAR withdrawal is paid from the same headroom.

`Meter` is the host's storage meter, as the sum of what the account's entries take up. What an entry
takes up is any function of its key and its value; the entry of the contract's state depends on what
it holds in a form of variable length, because numbers are written with a fixed width.

`issueCardTicketUnreverted` is `issue_card_ticket` on a host that keeps the writes of a call that
panics, as the source's unit tests have it. On chain a panic reverts them
(`World.receive_of_error`).
-/

set_option autoImplicit false

namespace Youtick.MarketV2

open Youtick.Lib

/-! ## The storage meter -/

/-- The parts of the contract's state entry that have no fixed length. -/
structure StateShape where
  platformAccountId : AccountId
  adminAccountId : AccountId
  guardianAccountId : AccountId
  activeBridgeAccountId : AccountId
  pendingBridgeAccountId : Option AccountId
  bridgeRotationProposed : Bool
  takedownAuthorityId : AccountId
  quotePublicKey : Bytes
  taxAccountId : AccountId
  paymentOperatorId : AccountId

def Contract.stateShape (s : Contract) : StateShape where
  platformAccountId := s.platformAccountId
  adminAccountId := s.adminAccountId
  guardianAccountId := s.guardianAccountId
  activeBridgeAccountId := s.activeBridgeAccountId
  pendingBridgeAccountId := s.pendingBridgeAccountId
  bridgeRotationProposed := s.bridgeRotationProposedAtMs.isSome
  takedownAuthorityId := s.takedownAuthorityId
  quotePublicKey := s.quotePublicKey
  taxAccountId := s.taxAccountId
  paymentOperatorId := s.paymentOperatorId

/-- What each stored entry takes up, and what the account takes up besides its entries. The state
entry is never empty. -/
structure Meter where
  account : Nat
  state : StateShape → Nat
  state_pos : ∀ shape, 0 < state shape
  mediaJob : String → MediaJob → Nat
  publication : String → Publication → Nat
  assetBinding : String → String → Nat
  playbackBinding : String → String → Nat
  takedown : String → TakedownRecord → Nat
  publicationId : Nat → String → Nat
  ticket : String → Ticket → Nat
  vatKey : Nat → Bytes → Nat
  cardReference : String → Nat
  creatorBalance : AccountId → Nat → Nat
  publicTestnetBeta : PublicTestnetBetaState → Nat
  publicTestnetBetaJob : String → PublicTestnetBetaJob → Nat
  publicTestnetBetaDay : String → String → Nat
  publicUploadPolicy : PublicUploadPolicy → Nat
  publicUploadCreator : AccountId → PublicUploadCreator → Nat
  playbackDevices : AccountId → List PlaybackDevice → Nat
  roleRotation : GovernanceRole → PendingRoleRotation → Nat
  newPurchasesPaused : Bytes → Nat
  bridgeUnfreezeRequest : Nat → Nat
  newPurchasesUnpauseRequest : Nat → Nat
  codeUpgrade : PendingCodeUpgrade → Nat

namespace Meter

/-- What an entry that may be missing takes up. -/
def entry {α : Type} (size : α → Nat) (stored : Option α) : Nat := (stored.map size).getD 0

/-- The collections of the contract. -/
def collections (m : Meter) (s : Contract) : Nat :=
  s.mediaJobs.total m.mediaJob + s.publications.total m.publication +
    s.assetBindings.total m.assetBinding + s.playbackBindings.total m.playbackBinding +
    s.takedowns.total m.takedown + s.publicationIds.total m.publicationId +
    s.tickets.total m.ticket + s.vatKeys.total m.vatKey +
    (∑ reference ∈ s.cardReferences, m.cardReference reference) +
    s.creatorBalances.total m.creatorBalance

/-- The records kept under keys of their own. -/
def rawEntries (m : Meter) (s : Contract) : Nat :=
  entry m.publicTestnetBeta s.publicTestnetBeta +
    s.publicTestnetBetaJobs.total m.publicTestnetBetaJob +
    s.publicTestnetBetaDays.total m.publicTestnetBetaDay +
    entry m.publicUploadPolicy s.publicUploadPolicy +
    s.publicUploadCreators.total m.publicUploadCreator +
    s.playbackDevices.total m.playbackDevices + s.roleRotations.total m.roleRotation +
    entry m.newPurchasesPaused s.newPurchasesPausedRaw +
    entry m.bridgeUnfreezeRequest s.bridgeUnfreezeRequest +
    entry m.newPurchasesUnpauseRequest s.newPurchasesUnpauseRequest +
    entry m.codeUpgrade s.codeUpgrade

/-- The storage the account uses. -/
def usage (m : Meter) (s : Contract) : Nat :=
  m.account + m.state s.stateShape + m.collections s + m.rawEntries s

theorem usage_pos (m : Meter) (s : Contract) : 0 < m.usage s := by
  have hstate := m.state_pos s.stateShape
  unfold usage
  omega

end Meter

/-- A host whose storage meter sums the entries, with a byte cost, and with a balance of the chain's
width. -/
structure Env.Metered (env : Env) (m : Meter) : Prop where
  usage : env.storageUsage = m.usage
  cost_pos : 0 < env.storageByteCost
  balance_le : env.accountBalance ≤ maxOf 128

/-! ## The reserve status -/

/-- The stake for the storage and the operational reserve. -/
def protectedNear (env : Env) (s : Contract) : Nat :=
  env.storageUsage s * env.storageByteCost + s.nearOperationalReserve

/-- The contract reports its reserve as covered. -/
def ReserveCovered (env : Env) (s : Contract) : Prop :=
  ∃ status, storageReserveStatus env s = .ok status ∧ status.reserveCovered = true

section Status

variable {env : Env} {s : Contract}

/-- What a status that was computed says. -/
theorem storageReserveStatus_ok {status : StorageReserveStatus}
    (h : storageReserveStatus env s = .ok status) :
    protectedNear env s ≤ maxOf 128 ∧
      status.reserveHeadroomYocto = env.accountBalance - protectedNear env s ∧
      (status.reserveCovered = true ↔ protectedNear env s ≤ env.accountBalance) := by
  simp only [storageReserveStatus, bind_eq_ok, pure_eq_ok] at h
  obtain ⟨stake, hstake, total, htotal, runway, -, rfl⟩ := h
  obtain ⟨hstakeFits, rfl⟩ := checkedMul_eq_ok.mp hstake
  obtain ⟨htotalFits, rfl⟩ := checkedAdd_eq_ok.mp htotal
  exact ⟨htotalFits, rfl, decide_eq_true_iff⟩

/-- The reserve is reported as covered exactly when the balance covers it. -/
theorem reserveCovered_iff (hcost : 0 < env.storageByteCost)
    (hbalance : env.accountBalance ≤ maxOf 128) :
    ReserveCovered env s ↔ protectedNear env s ≤ env.accountBalance := by
  constructor
  · rintro ⟨status, hstatus, hcovered⟩
    exact (storageReserveStatus_ok hstatus).2.2.mp hcovered
  · intro hcovered
    have hfits : protectedNear env s ≤ maxOf 128 := hcovered.trans hbalance
    have hstake : env.storageUsage s * env.storageByteCost ≤ maxOf 128 := by
      unfold protectedNear at hfits
      omega
    have hdiv (a : Nat) : checkedDiv a env.storageByteCost = .ok (a / env.storageByteCost) :=
      if_neg (by omega)
    have hstatus : ∃ status, storageReserveStatus env s = .ok status := by
      simp only [storageReserveStatus, bind_eq_ok, pure_eq_ok]
      exact ⟨_, _, checkedMul_eq_ok.mpr ⟨hstake, rfl⟩, _, checkedAdd_eq_ok.mpr ⟨hfits, rfl⟩, _,
        hdiv _, rfl⟩
    obtain ⟨status, hstatus⟩ := hstatus
    exact ⟨status, hstatus, (storageReserveStatus_ok hstatus).2.2.mpr hcovered⟩

end Status

/-! ## Card tickets on a host that keeps the writes -/

/-- A call whose writes stay when it panics. -/
abbrev Unreverted (α : Type) : Type := ExceptT String (StateM Contract) α

/-- A check, or anything else that writes nothing. -/
def Unreverted.check {α : Type} (result : Result α) : Unreverted α := ExceptT.mk (pure result)

/-- `issue_card_ticket` with its two writes, and with its own undoing of them. -/
def issueCardTicketUnreverted (env : Env) (ticketPublicKey publicationId : String)
    (device : SignedTicketDevice) (paymentReferenceHmac grossMinor currency : String) :
    Unreverted (Outcome Ticket) := do
  let s ← get
  .check (require (env.predecessorAccountId = s.paymentOperatorId)
    "Only the payment operator can issue card tickets")
  .check (require (env.attachedDeposit = 0) "issue_card_ticket takes no deposit")
  .check (require (newPurchasesPaused s = false) "New purchases are paused")
  .check (require (s.publicTestnetBeta = none ∨ (activePublicTestnetBeta env s).isSome = true)
    "Public beta is not active")
  .check (assertIdentifier "publication_id" publicationId)
  let ticketKey ← .check (parseEd25519Key env.toHost ticketPublicKey)
  let ticketId := hexSha256 env.toHost ticketKey
  let _sessionKey ← .check (parseEd25519Key env.toHost device.sessionPublicKey)
  .check (assertSha256 "certificate_sha256" device.certificateSha256)
  .check (assertSha256 "payment_reference_hmac" paymentReferenceHmac)
  let grossMinorValue ← .check (parseCanonicalDecimal "gross_minor" grossMinor (maxOf 64))
  .check (require (grossMinorValue > 0) "gross_minor must be positive")
  .check (assertCurrency currency)
  let _expires ← .check (parseSignatureExpiry device.expiresAtMs env.blockTimestampMs)
  let publication ← .check (expect (s.publications.get publicationId) "Publication not found")
  .check (require (publication.availability = .active) "Publication is not on sale")
  .check (require (s.tickets.get ticketId = none) "Ticket already exists")
  .check (require (paymentReferenceHmac ∉ s.cardReferences) "Payment reference already used")
  let network ← .check (networkId env)
  let message ← .check (signedLines [ticketSignatureDomain, network, env.currentAccountId,
    "card_purchase", ticketId, device.expiresAtMs, publicationId, device.sessionPublicKey,
    device.certificateSha256, paymentReferenceHmac, grossMinor, currency])
  .check (verifyEd25519 env.toHost device.signature message ticketKey "Invalid ticket signature")
  let status ← .check (storageReserveStatus env s)
  let firstDevice ← .check (newTicketDevice env device.sessionPublicKey device.certificateSha256)
  let ticket := cardTicket env ticketId ticketPublicKey publicationId publication.creatorId
    firstDevice {
      paymentReferenceHmac := paymentReferenceHmac
      grossMinor := grossMinorValue
      currency := currency }
  modify fun s => { s with tickets := s.tickets.insert ticketId ticket }
  modify fun s => { s with cardReferences := insert paymentReferenceHmac s.cardReferences }
  let written ← get
  let storageCost := saturatingMul 128 env.storageByteCost
    (env.storageUsage written - env.storageUsage s)
  if storageCost > status.reserveHeadroomYocto then
    modify fun s => { s with tickets := s.tickets.remove ticketId }
    modify fun s => { s with cardReferences := s.cardReferences.erase paymentReferenceHmac }
    .check (.error ("Card ticket storage exceeds the operational reserve headroom (" ++
      decimal storageCost ++ " > " ++ decimal status.reserveHeadroomYocto ++ " yoctoNEAR)"))
  else
    return {
      state := written
      value := ticket
      events := [emitMarketV2Event "card_ticket_issued"
        [("ticket_id", .str ticketId),
         ("publication_id", .str publicationId),
         ("creator_id", .str publication.creatorId),
         ("rail", .str "card"),
         ("gross_minor", .str grossMinor),
         ("currency", .str currency),
         ("payment_reference_hmac", .str paymentReferenceHmac),
         ("status", .str "purchased")]] }

/-- The call, run with the storage `now`, leaves what it returns, or on a panic the storage `s` it
began with. -/
def Agrees (s now : Contract) (result : Result (Outcome Ticket))
    (kept : Unreverted (Outcome Ticket)) : Prop :=
  kept.run now = (result, match result with
    | .ok o => o.state
    | .error _ => s)

section Unreverted

variable {s : Contract}

/-- A check that passes is followed by the rest; one that fails leaves the storage. -/
theorem Agrees.bind {α : Type} {result : Result α} {rest : α → Result (Outcome Ticket)}
    {keptRest : α → Unreverted (Outcome Ticket)}
    (h : ∀ a, result = .ok a → Agrees s s (rest a) (keptRest a)) :
    Agrees s s (result >>= rest) (.check result >>= keptRest) := by
  cases hresult : result with
  | error message => rfl
  | ok a => exact h a hresult

theorem Agrees.get {now : Contract} {result : Result (Outcome Ticket)}
    {rest : Contract → Unreverted (Outcome Ticket)} (h : Agrees s now result (rest now)) :
    Agrees s now result (get >>= rest) := h

theorem Agrees.write {now : Contract} {result : Result (Outcome Ticket)}
    {write : Contract → Contract} {rest : PUnit → Unreverted (Outcome Ticket)}
    (h : Agrees s (write now) result (rest ⟨⟩)) :
    Agrees s now result (modify write >>= rest) := h

/-- The last check of the call: what was written stays, or it is taken back before the panic. -/
theorem Agrees.charge {now : Contract} {cost headroom : Nat} {message : String} {o : Outcome Ticket}
    {undo undo' : Contract → Contract} (hstate : o.state = now) (hundo : undo' (undo now) = s) :
    Agrees s now
      (do
        require (cost ≤ headroom) message
        return o)
      (if cost > headroom then do
          modify undo
          modify undo'
          .check (.error message)
        else return o) := by
  by_cases hcost : cost ≤ headroom
  · rw [require_pos hcost, if_neg (Nat.not_lt.mpr hcost)]
    change (Except.ok o, now) = (Except.ok o, o.state)
    rw [hstate]
  · rw [require_neg hcost, if_pos (Nat.lt_of_not_le hcost)]
    change (Except.error message, undo' (undo now)) = (Except.error message, s)
    rw [hundo]

/-- The writes of a card ticket are taken back whole. -/
theorem undo_card_ticket {ticketId hmac : String} (ticket : Ticket)
    (hticket : s.tickets.get ticketId = none) (hreference : hmac ∉ s.cardReferences) :
    { s with
      tickets := (s.tickets.insert ticketId ticket).remove ticketId
      cardReferences := (insert hmac s.cardReferences).erase hmac } = s := by
  rw [LookupMap.remove_insert_of_fresh ticket hticket, Finset.erase_insert hreference]

theorem issueCardTicketUnreverted_agrees (env : Env) (s : Contract)
    (ticketPublicKey publicationId : String) (device : SignedTicketDevice)
    (paymentReferenceHmac grossMinor currency : String) :
    Agrees s s
      (issueCardTicket env s ticketPublicKey publicationId device paymentReferenceHmac grossMinor
        currency)
      (issueCardTicketUnreverted env ticketPublicKey publicationId device paymentReferenceHmac
        grossMinor currency) := by
  unfold issueCardTicket issueCardTicketUnreverted
  apply Agrees.get
  refine .bind fun _ _ => .bind fun _ _ => .bind fun _ _ => .bind fun _ _ => .bind fun _ _ => ?_
  refine .bind fun ticketKey _ => .bind fun _ _ => .bind fun _ _ => .bind fun _ _ => ?_
  refine .bind fun grossMinorValue _ => .bind fun _ _ => .bind fun _ _ => .bind fun _ _ => ?_
  refine .bind fun publication _ => .bind fun _ _ => .bind fun _ hticket => ?_
  refine .bind fun _ hreference => .bind fun _ _ => .bind fun _ _ => .bind fun _ _ => ?_
  refine .bind fun status _ => .bind fun firstDevice _ => ?_
  have hundo := undo_card_ticket (cardTicket env (hexSha256 env.toHost ticketKey) ticketPublicKey
    publicationId publication.creatorId firstDevice ⟨paymentReferenceHmac, grossMinorValue, currency⟩)
    (require_eq_ok.mp hticket) (require_eq_ok.mp hreference)
  apply Agrees.write
  apply Agrees.write
  apply Agrees.get
  exact .charge rfl hundo

end Unreverted

/-! ## The reserve over a call -/

section Step

variable {env : Env} {m : Meter} {s : Contract}

/-- What a card ticket costs fits in the headroom measured before it was written. -/
theorem issueCardTicket_charged {ticketPublicKey publicationId hmac grossMinor currency : String}
    {device : SignedTicketDevice} {o : Outcome Ticket}
    (h : issueCardTicket env s ticketPublicKey publicationId device hmac grossMinor currency =
      .ok o) :
    ∃ status, storageReserveStatus env s = .ok status ∧
      saturatingMul 128 env.storageByteCost (env.storageUsage o.state - env.storageUsage s) ≤
        status.reserveHeadroomYocto ∧
      o.state.nearOperationalReserve = s.nearOperationalReserve := by
  simp only [issueCardTicket, bind_eq_ok, require_eq_ok, pure_eq_ok] at h
  obtain ⟨-, -, -, -, -, -, -, -, -, -, _, -, _, -, -, -, -, -, _, -, -, -, -, -, _, -, _, -, -, -, -,
    -, -, -, _, -, _, -, -, -, status, hstatus, _, -, -, hcharge, rfl⟩ := h
  exact ⟨status, hstatus, hcharge, rfl⟩

/-- A saturated cost would be the whole width of a balance, which the stake for what is stored leaves
no room for: within the headroom, the cost is the exact one. -/
theorem covered_of_charged {cost used used' reserve balance : Nat} (hcost : 0 < cost)
    (hused : 0 < used) (hbalance : balance ≤ maxOf 128)
    (hcovered : used * cost + reserve ≤ balance)
    (hcharge : saturatingMul 128 cost (used' - used) ≤ balance - (used * cost + reserve)) :
    used' * cost + reserve ≤ balance := by
  have hstake : 0 < used * cost := Nat.mul_pos hused hcost
  have hexact : cost * (used' - used) ≤ balance - (used * cost + reserve) := by
    unfold saturatingMul at hcharge
    rcases min_le_iff.mp hcharge with hproduct | hsaturated
    · exact hproduct
    · omega
  rcases Nat.le_total used' used with hless | hmore
  · have hle := Nat.mul_le_mul_right cost hless
    omega
  · have hsum : used' * cost = used * cost + cost * (used' - used) := by
      rw [Nat.mul_comm cost, ← Nat.add_mul, Nat.add_sub_cancel' hmore]
    omega

/-- A card ticket leaves a covered reserve covered. -/
theorem issueCardTicket_covered (hmeter : env.Metered m)
    {ticketPublicKey publicationId hmac grossMinor currency : String}
    {device : SignedTicketDevice} {o : Outcome Ticket}
    (h : issueCardTicket env s ticketPublicKey publicationId device hmac grossMinor currency =
      .ok o) (hcovered : ReserveCovered env s) : ReserveCovered env o.state := by
  rw [reserveCovered_iff hmeter.cost_pos hmeter.balance_le] at hcovered ⊢
  obtain ⟨status, hstatus, hcharge, hreserve⟩ := issueCardTicket_charged h
  rw [(storageReserveStatus_ok hstatus).2.1] at hcharge
  have hused : 0 < env.storageUsage s := by
    rw [hmeter.usage]
    exact m.usage_pos s
  unfold protectedNear at hcovered hcharge ⊢
  rw [hreserve]
  exact covered_of_charged hmeter.cost_pos hused hmeter.balance_le hcovered hcharge

/-- The number the withdrawal changes has a fixed width, so the storage stays as large as it is. -/
theorem Meter.usage_platformNearBalance (m : Meter) (s : Contract) (balance : Nat) :
    m.usage { s with platformNearBalance := balance } = m.usage s := rfl

/-- A NEAR withdrawal is paid from the headroom, and takes its amount from the platform's balance. -/
theorem withdrawPlatformNear_covered (hmeter : env.Metered m) {amount : Nat} {o : Outcome Unit}
    (h : withdrawPlatformNear env s amount = .ok o) :
    ReserveCovered { env with accountBalance := env.accountBalance - amount } o.state ∧
      amount ≤ env.accountBalance ∧ o.state.platformNearBalance + amount = s.platformNearBalance ∧
      o.promises =
        [.transfer s.platformAccountId amount (some (.onPlatformNearWithdraw amount))] := by
  simp only [withdrawPlatformNear, bind_eq_ok, require_eq_ok, pure_eq_ok] at h
  obtain ⟨-, -, -, ⟨hamount, hbalance⟩, status, hstatus, -, hliquid, rfl⟩ := h
  rw [(storageReserveStatus_ok hstatus).2.1] at hliquid
  refine ⟨?_, by omega, Nat.sub_add_cancel hbalance, rfl⟩
  have hle : env.accountBalance - amount ≤ maxOf 128 := (Nat.sub_le _ _).trans hmeter.balance_le
  refine (reserveCovered_iff ?_ hle).mpr ?_
  · exact hmeter.cost_pos
  have hsame : env.storageUsage { s with platformNearBalance := s.platformNearBalance - amount } =
      env.storageUsage s := by
    rw [hmeter.usage]
    exact m.usage_platformNearBalance s _
  unfold protectedNear at hliquid ⊢
  dsimp only at hsame ⊢
  rw [hsame]
  omega

/-- The callback of a failed transfer adds the amount, as long as the balance has room for it. -/
theorem onPlatformNearWithdraw_failed {amount : Nat}
    (hown : env.predecessorAccountId = env.currentAccountId)
    (hfailed : env.promiseResults = [.failed])
    (hroom : s.platformNearBalance + amount ≤ maxOf 128) :
    onPlatformNearWithdraw env s amount = .ok {
      state := { s with platformNearBalance := s.platformNearBalance + amount }
      value := false } := by
  have hprivate : assertPrivate env "on_platform_near_withdraw" = .ok ⟨⟩ := require_pos hown
  have hresult : callbackResult env "Expected one withdrawal result" = .ok .failed := by
    rw [callbackResult, hfailed]
  have hadd : checkedAdd 128 s.platformNearBalance amount "Platform NEAR balance overflow" =
      .ok (s.platformNearBalance + amount) := checkedAdd_eq_ok.mpr ⟨hroom, rfl⟩
  unfold onPlatformNearWithdraw
  rw [hprivate, ok_bind, hresult, ok_bind]
  dsimp only
  rw [hadd]
  rfl

end Step

/-- A card ticket is issued within the reserve or not at all, with both its writes taken back; a NEAR
withdrawal leaves the reserve covered, and when its transfer fails the callback puts the amount back
into whatever the balance is by then. -/
theorem storage_reserve_kept (env : Env) (m : Meter) (hmeter : env.Metered m) (s : Contract) :
    (∀ ticketPublicKey publicationId device hmac grossMinor currency,
      (∀ message, issueCardTicket env s ticketPublicKey publicationId device hmac grossMinor
          currency = .error message →
        (issueCardTicketUnreverted env ticketPublicKey publicationId device hmac grossMinor
          currency).run s = (.error message, s)) ∧
      ∀ o, issueCardTicket env s ticketPublicKey publicationId device hmac grossMinor
          currency = .ok o → ReserveCovered env s → ReserveCovered env o.state) ∧
    ∀ amount o, withdrawPlatformNear env s amount = .ok o →
      ReserveCovered { env with accountBalance := env.accountBalance - amount } o.state ∧
        amount ≤ env.accountBalance ∧
        o.state.platformNearBalance + amount = s.platformNearBalance ∧
        o.promises =
          [.transfer s.platformAccountId amount (some (.onPlatformNearWithdraw amount))] ∧
        ∀ env' s', env'.predecessorAccountId = env'.currentAccountId →
          env'.promiseResults = [.failed] → s'.platformNearBalance + amount ≤ maxOf 128 →
          onPlatformNearWithdraw env' s' amount = .ok {
            state := { s' with platformNearBalance := s'.platformNearBalance + amount }
            value := false } := by
  constructor
  · intro ticketPublicKey publicationId device hmac grossMinor currency
    constructor
    · intro message herror
      have hkept := issueCardTicketUnreverted_agrees env s ticketPublicKey publicationId device hmac
        grossMinor currency
      rw [herror] at hkept
      exact hkept
    · intro o hok hcovered
      exact issueCardTicket_covered hmeter hok hcovered
  · intro amount o hok
    obtain ⟨hcovered, hle, hbalance, hpromises⟩ := withdrawPlatformNear_covered hmeter hok
    refine ⟨hcovered, hle, hbalance, hpromises, ?_⟩
    intro env' s' hown hfailed hroom
    exact onPlatformNearWithdraw_failed hown hfailed hroom

/-! ## A withdrawal of the deployment -/

section Vectors

open Youtick.MarketV2.Vectors (host context config issuedAtMs)

/-- A hundred bytes an entry. -/
def flatMeter : Meter where
  account := 100000
  state _ := 100
  state_pos _ := by decide
  mediaJob _ _ := 100
  publication _ _ := 100
  assetBinding _ _ := 100
  playbackBinding _ _ := 100
  takedown _ _ := 100
  publicationId _ _ := 100
  ticket _ _ := 100
  vatKey _ _ := 100
  cardReference _ := 100
  creatorBalance _ _ := 100
  publicTestnetBeta _ := 100
  publicTestnetBetaJob _ _ := 100
  publicTestnetBetaDay _ _ := 100
  publicUploadPolicy _ := 100
  publicUploadCreator _ _ := 100
  playbackDevices _ _ := 100
  roleRotation _ _ := 100
  newPurchasesPaused _ := 100
  bridgeUnfreezeRequest _ := 100
  newPurchasesUnpauseRequest _ := 100
  codeUpgrade _ := 100

/-- The platform's call on a host with that meter. -/
def meteredEnv : Env := {
  host with
  toContext := { context config.platformAccountId issuedAtMs with storageUsage := flatMeter.usage } }

theorem meteredEnv_metered : meteredEnv.Metered flatMeter where
  usage := rfl
  cost_pos := by decide
  balance_le := by decide

/-- The platform withdraws a hundred yoctoNEAR, and the reserve stays covered. -/
theorem storage_reserve_kept_withdrawal : ∃ s o,
    withdrawPlatformNear meteredEnv s 100 = .ok o ∧
      ReserveCovered { meteredEnv with accountBalance := 10 ^ 25 - 100 } o.state := by
  have hresult : ((Vectors.initialised host).bind fun s =>
      withdrawPlatformNear meteredEnv { s with platformNearBalance := 100 } 100).toOption.isSome =
        true := by decide +kernel
  cases hstart : Vectors.initialised host with
  | error message =>
    rw [hstart] at hresult
    cases hresult
  | ok s =>
    rw [hstart] at hresult
    cases hok : withdrawPlatformNear meteredEnv { s with platformNearBalance := 100 } 100 with
    | error message =>
      change (withdrawPlatformNear meteredEnv _ 100).toOption.isSome = true at hresult
      rw [hok] at hresult
      cases hresult
    | ok o =>
      have hkept := (storage_reserve_kept meteredEnv flatMeter meteredEnv_metered
        { s with platformNearBalance := 100 }).2 100 o hok
      exact ⟨_, o, hok, hkept.1⟩

end Vectors

end Youtick.MarketV2
