import Youtick.NftTicket.System

/-!
# The V1 market: what one call can do

`RolesStep` says everything a successful call can write to the roles and `MoneyStep` everything it
can write to the entitlements and the balances, with the guards the call passed and the receipts it
scheduled. Every method is read once (`Call.run_effect`); invariants are proved from the two
relations and never unfold a method.
-/

set_option autoImplicit false

namespace Youtick.NftTicket

open Youtick.Lib
open Youtick.MarketV2 (AccountId Publication MediaJob PaidJobRequest CreatorFeeQuote
  SponsoredUploadQuote TransferMessage PlaybackSessionAuthorization PublicTestnetBetaState
  PendingCodeUpgrade PublicUploadPolicy Host PromiseResult)

/-! ## Money -/

inductive Asset where
  | usdc
  | near
  deriving DecidableEq

/-- The entitlements and every balance that can be withdrawn. -/
structure Money where
  entitlements : LookupMap String Bool
  creatorBalances : LookupMap AccountId Nat
  platformBalance : Nat
  platformNearBalance : Nat

def Contract.money (s : Contract) : Money where
  entitlements := s.entitlements
  creatorBalances := s.creatorBalances
  platformBalance := s.platformBalance
  platformNearBalance := s.platformNearBalance

/-- A balance one party can withdraw. -/
inductive Pot where
  | creator (creatorId : AccountId)
  | platform
  | platformNear

def Pot.asset : Pot → Asset
  | .creator _ | .platform => .usdc
  | .platformNear => .near

namespace Money

def balance (m : Money) : Pot → Nat
  | .creator creatorId => (m.creatorBalances.get creatorId).getD 0
  | .platform => m.platformBalance
  | .platformNear => m.platformNearBalance

def setBalance (m : Money) (amount : Nat) : Pot → Money
  | .creator creatorId => { m with creatorBalances := m.creatorBalances.insert creatorId amount }
  | .platform => { m with platformBalance := amount }
  | .platformNear => { m with platformNearBalance := amount }

def credit (m : Money) (pot : Pot) (amount : Nat) : Money :=
  m.setBalance (m.balance pot + amount) pot

/-- The sale of `publicationId` to `buyer` for `amount`. -/
def sell (m : Money) (buyer creatorId : AccountId) (publicationId : String) (amount : Nat) :
    Money :=
  { (m.credit (.creator creatorId) (amount - amount / 20)).credit .platform (amount / 20) with
    entitlements := m.entitlements.insert (entitlementKey buyer publicationId) true }

end Money

/-- A withdrawal from a pot: the receipt and the callback it is followed by. -/
inductive Pot.Payout : Pot → Nat → Promise → Callback → Prop where
  | creator {creatorId receiverId : AccountId} {withdrawalId memo : String} {amount : Nat} :
      Pot.Payout (.creator creatorId) amount
        (.ftTransfer receiverId amount memo (.onCreatorWithdraw creatorId amount withdrawalId))
        (.onCreatorWithdraw creatorId amount withdrawalId)
  | platform {receiverId : AccountId} {memo : String} {amount : Nat} :
      Pot.Payout .platform amount
        (.ftTransfer receiverId amount memo (.onPlatformWithdraw amount))
        (.onPlatformWithdraw amount)
  | platformNear {receiverId : AccountId} {amount : Nat} :
      Pot.Payout .platformNear amount
        (.transfer receiverId amount (some (.onPlatformNearWithdraw amount)))
        (.onPlatformNearWithdraw amount)

/-- The pot a callback restores, and with how much. -/
def Callback.pot : Callback → Pot
  | .onCreatorWithdraw creatorId _ _ => .creator creatorId
  | .onPlatformWithdraw _ => .platform
  | .onPlatformNearWithdraw _ => .platformNear

def Callback.amount : Callback → Nat
  | .onCreatorWithdraw _ amount _ => amount
  | .onPlatformWithdraw amount => amount
  | .onPlatformNearWithdraw amount => amount

/-- The publication a transfer message buys. -/
def purchased (host : Host) (msg : String) : Option String :=
  if startsWith msg "yt:u1:" then none
  else (host.transferMessageOfJson msg).bind fun message =>
    if message.action = none ∨ message.action = some "buy_ticket" then message.publicationId
    else none

/-! ## The two relations -/

/-- A call that neither takes a NEAR fee nor settles a withdrawal. -/
def Call.isPlain : Call → Bool
  | .createPaidJobNear .. | .callback _ => false
  | _ => true

section Relations

variable (env : Env) (s : Contract)

inductive RolesStep : Call → Roles → Prop where
  | same {c : Call} : RolesStep c s.toRoles
  | proposeBridge {next : AccountId} (hadmin : env.predecessorAccountId = s.adminAccountId)
      (hvalid : assertValidBridgeAccount s next = .ok ⟨⟩) :
      RolesStep (.proposeBridge next) { s.toRoles with
        pendingBridgeAccountId := some next
        bridgeRotationProposedAtMs := some env.blockTimestampMs }
  | cancelBridge : RolesStep .cancelBridgeRotation { s.toRoles with
      pendingBridgeAccountId := none
      bridgeRotationProposedAtMs := none }
  | executeBridge {next : AccountId} (hadmin : env.predecessorAccountId = s.adminAccountId)
      (hpending : s.pendingBridgeAccountId = some next) :
      RolesStep .executeBridgeRotation { s.toRoles with
        pendingBridgeAccountId := none
        activeBridgeAccountId := next
        bridgeRotationProposedAtMs := none }
  | proposeRole {role : GovernanceRole} (pending : PendingRoleRotation)
      (hadmin : env.predecessorAccountId = s.adminAccountId)
      (hvalid : assertValidRoleAssignment s role pending.nextAccountId = .ok ⟨⟩) :
      RolesStep (.proposeRoleRotation role pending.nextAccountId) { s.toRoles with
        roleRotations := s.roleRotations.insert role pending }
  | cancelRole {role : GovernanceRole} : RolesStep (.cancelRoleRotation role) { s.toRoles with
      roleRotations := s.roleRotations.remove role }
  | executeRole {role : GovernanceRole} {pending : PendingRoleRotation}
      (hadmin : env.predecessorAccountId = s.adminAccountId)
      (hpending : s.roleRotations.get role = some pending)
      (hvalid : assertValidRoleAssignment s role pending.nextAccountId = .ok ⟨⟩) :
      RolesStep (.executeRoleRotation role)
        { s.toRoles.setRoleAccountId role pending.nextAccountId with
          roleRotations := s.roleRotations.remove role }

inductive MoneyStep : Call → List Promise → Money → Prop where
  | quiet {c : Call} {ps : List Promise} (hc : c.isPlain = true)
      (hps : ∀ p ∈ ps, p.isTransfer = false) : MoneyStep c ps s.money
  | jobFee {senderId msg : String} {amount : Nat} :
      MoneyStep (.ftOnTransfer senderId amount msg) [] (s.money.credit .platform amount)
  | sold {senderId msg publicationId : String} {amount : Nat} {publication : Publication}
      (hbuys : purchased env.toHost msg = some publicationId)
      (hget : s.publications.get publicationId = some publication)
      (hactive : publication.availability = .active) (hprice : amount = publication.priceUsdc)
      (hfresh : s.entitlements.get (entitlementKey senderId publicationId) = none) :
      MoneyStep (.ftOnTransfer senderId amount msg) []
        (s.money.sell senderId publication.creatorId publicationId amount)
  | nearFee {request : PaidJobRequest} {quote : CreatorFeeQuote} {signature : Bytes} :
      MoneyStep (.createPaidJobNear request quote signature) []
        (s.money.credit .platformNear env.attachedDeposit)
  | nearReplay {request : PaidJobRequest} {quote : CreatorFeeQuote} {signature : Bytes}
      {receiverId : AccountId} :
      MoneyStep (.createPaidJobNear request quote signature)
        [.transfer receiverId env.attachedDeposit none] s.money
  | withdrawn {c : Call} (pot : Pot) {amount left : Nat} {promise : Promise} {callback : Callback}
      (hc : c.isPlain = true) (hleft : left + amount = s.money.balance pot)
      (hpayout : pot.Payout amount promise callback) :
      MoneyStep c [promise] (s.money.setBalance left pot)
  | finished {callback : Callback} (hresult : env.promiseResults = [.successful]) :
      MoneyStep (.callback callback) [] s.money
  | restored {callback : Callback} (hresult : env.promiseResults = [.failed]) :
      MoneyStep (.callback callback) [] (s.money.credit callback.pot callback.amount)

end Relations

/-- Publications stay, each with its creator. -/
def CreatorsKept (s s' : Contract) : Prop :=
  ∀ publicationId publication, s.publications.get publicationId = some publication →
    ∃ after, s'.publications.get publicationId = some after ∧
      after.creatorId = publication.creatorId

/-- What a successful call did. -/
structure Effect (env : Env) (s : Contract) (c : Call) (s' : Contract) (ps : List Promise) :
    Prop where
  roles : RolesStep env s c s'.toRoles
  money : MoneyStep env s c ps s'.money
  creators : CreatorsKept s s'

/-- Neither the roles nor the money are written, and publications stay. -/
structure Kept (s s' : Contract) : Prop where
  roles : s'.toRoles = s.toRoles
  money : s'.money = s.money
  creators : CreatorsKept s s'

section Effect

variable {env : Env} {s s' : Contract} {c : Call} {ps : List Promise}

theorem CreatorsKept.of_eq (h : s'.publications = s.publications) : CreatorsKept s s' := by
  intro publicationId publication hget
  exact ⟨publication, h ▸ hget, rfl⟩

theorem CreatorsKept.trans {t : Contract} (h : CreatorsKept s s') (h' : CreatorsKept s' t) :
    CreatorsKept s t := by
  intro publicationId publication hget
  obtain ⟨middle, hmiddle, hcreator⟩ := h publicationId publication hget
  obtain ⟨after, hafter, hcreator'⟩ := h' publicationId middle hmiddle
  exact ⟨after, hafter, hcreator'.trans hcreator⟩

/-- Writing a publication that is new or that keeps the creator. -/
theorem CreatorsKept.of_insert {publicationId : String} {publication : Publication}
    (h : s'.publications = s.publications.insert publicationId publication)
    (hsame : ∀ before, s.publications.get publicationId = some before →
      publication.creatorId = before.creatorId) : CreatorsKept s s' := by
  intro id before hget
  rw [h, LookupMap.get_insert]
  split
  · next hid => exact ⟨publication, rfl, hsame before (hid ▸ hget)⟩
  · exact ⟨before, hget, rfl⟩

theorem Kept.of_eq (hroles : s'.toRoles = s.toRoles) (hmoney : s'.money = s.money)
    (hpublications : s'.publications = s.publications) : Kept s s' :=
  ⟨hroles, hmoney, .of_eq hpublications⟩

theorem Kept.refl : Kept s s := .of_eq rfl rfl rfl

theorem Kept.trans {t : Contract} (h : Kept s s') (h' : Kept s' t) : Kept s t :=
  ⟨h'.roles.trans h.roles, h'.money.trans h.money, h.creators.trans h'.creators⟩

theorem Effect.ofKept (h : Kept s s') (hc : c.isPlain = true)
    (hps : ∀ p ∈ ps, p.isTransfer = false) : Effect env s c s' ps where
  roles := h.roles ▸ .same
  money := h.money ▸ .quiet hc hps
  creators := h.creators

theorem Effect.ofRoles (h : RolesStep env s c s'.toRoles) (hmoney : s'.money = s.money)
    (hpublications : s'.publications = s.publications) (hc : c.isPlain = true) :
    Effect env s c s' [] where
  roles := h
  money := hmoney ▸ .quiet hc (by simp)
  creators := .of_eq hpublications

theorem Effect.ofMoney (hroles : s'.toRoles = s.toRoles) (hcreators : CreatorsKept s s')
    (h : MoneyStep env s c ps s'.money) : Effect env s c s' ps where
  roles := hroles ▸ .same
  money := h
  creators := hcreators

end Effect

/-! ## Authority checks -/

section Methods

variable {env : Env} {s : Contract}

theorem assertAdmin_ok {r : PUnit.{1}} :
    assertAdmin env s = .ok r ↔ env.predecessorAccountId = s.adminAccountId := by
  simp only [assertAdmin, require_eq_ok]

theorem assertPrivate_ok {method : String} {r : PUnit.{1}} :
    assertPrivate env method = .ok r ↔ env.predecessorAccountId = env.currentAccountId := by
  simp only [assertPrivate, require_eq_ok]

theorem withdrawalResult_ok {result : PromiseResult} (h : withdrawalResult env = .ok result) :
    env.promiseResults = [result] := by
  unfold withdrawalResult at h
  split at h
  · next hresults => rw [hresults, ok_eq_ok.mp h]
  · exact (error_eq_ok.mp h).elim

/-! ## Controls -/

/-- A call that writes neither roles nor money and schedules no transfer. -/
structure Quiet {α : Type} (s : Contract) (o : Outcome α) : Prop where
  kept : Kept s o.state
  promises : ∀ p ∈ o.promises, p.isTransfer = false

theorem ensures_unchanged {α : Type} {value : α} :
    Ensures (Quiet s) (pure { state := s, value := value }) :=
  ensures_pure ⟨.refl, by simp⟩

theorem ensures_kept {α : Type} {s' : Contract} {value : α} (h : Kept s s') :
    Ensures (Quiet s) (pure { state := s', value := value }) :=
  ensures_pure ⟨h, by simp⟩

theorem freezeBridge_quiet : Ensures (Quiet s) (freezeBridge env s) :=
  ensures_bind fun _ _ => ensures_ite (fun _ => ensures_unchanged) fun _ => ensures_kept (.of_eq rfl rfl rfl)

theorem requestBridgeUnfreeze_quiet : Ensures (Quiet s) (requestBridgeUnfreeze env s) := by
  refine ensures_bind fun _ _ => ensures_bind fun _ _ => ?_
  split
  · exact ensures_unchanged
  · exact ensures_bind fun _ _ => ensures_kept (.of_eq rfl rfl rfl)

theorem cancelBridgeUnfreeze_quiet : Ensures (Quiet s) (cancelBridgeUnfreeze env s) :=
  ensures_bind fun _ _ => ensures_ite (fun _ => ensures_unchanged) fun _ => ensures_kept (.of_eq rfl rfl rfl)

theorem unfreezeBridge_quiet : Ensures (Quiet s) (unfreezeBridge env s) := by
  refine ensures_bind fun _ _ => ensures_ite (fun _ => ensures_kept (.of_eq rfl rfl rfl)) fun _ => ?_
  exact ensures_bind fun _ _ => ensures_kept (.of_eq rfl rfl rfl)

theorem pauseNewPurchases_quiet : Ensures (Quiet s) (pauseNewPurchases env s) :=
  ensures_bind fun _ _ => ensures_ite (fun _ => ensures_unchanged) fun _ => ensures_kept (.of_eq rfl rfl rfl)

theorem requestNewPurchasesUnpause_quiet :
    Ensures (Quiet s) (requestNewPurchasesUnpause env s) := by
  refine ensures_bind fun _ _ => ensures_bind fun _ _ => ?_
  split
  · exact ensures_unchanged
  · exact ensures_bind fun _ _ => ensures_kept (.of_eq rfl rfl rfl)

theorem cancelNewPurchasesUnpause_quiet : Ensures (Quiet s) (cancelNewPurchasesUnpause env s) :=
  ensures_bind fun _ _ => ensures_ite (fun _ => ensures_unchanged) fun _ => ensures_kept (.of_eq rfl rfl rfl)

theorem unpauseNewPurchases_quiet : Ensures (Quiet s) (unpauseNewPurchases env s) := by
  refine ensures_bind fun _ _ => ensures_ite (fun _ => ensures_kept (.of_eq rfl rfl rfl)) fun _ => ?_
  exact ensures_bind fun _ _ => ensures_kept (.of_eq rfl rfl rfl)

theorem startPublicTestnetBeta_quiet : Ensures (Quiet s) (startPublicTestnetBeta env s) := by
  intro o h
  simp only [startPublicTestnetBeta, bind_eq_ok, pure_eq_ok] at h
  obtain ⟨-, -, -, -, _, -, -, -, -, -, -, -, -, -, _, -, _, -, rfl⟩ := h
  exact ⟨.of_eq rfl rfl rfl, by simp⟩

theorem closePublicTestnetBeta_quiet : Ensures (Quiet s) (closePublicTestnetBeta env s) := by
  refine ensures_bind fun _ _ => ensures_bind fun _ _ => ?_
  exact ensures_ite (fun _ => ensures_unchanged) fun _ => ensures_kept (.of_eq rfl rfl rfl)

theorem proposeCodeUpgrade_quiet {codeSha256 : String} :
    Ensures (Quiet s) (proposeCodeUpgrade env s codeSha256) := by
  refine ensures_bind fun _ _ => ensures_bind fun _ _ => ?_
  split
  · exact ensures_bind fun _ _ => ensures_unchanged
  · exact ensures_bind fun _ _ => ensures_bind fun _ _ => ensures_kept (.of_eq rfl rfl rfl)

theorem cancelCodeUpgrade_quiet : Ensures (Quiet s) (cancelCodeUpgrade env s) := by
  refine ensures_bind fun _ _ => ?_
  split
  · exact ensures_unchanged
  · exact ensures_kept (.of_eq rfl rfl rfl)

/-- The one receipt that is no transfer. -/
theorem executeCodeUpgrade_quiet : Ensures (Quiet s) (executeCodeUpgrade env s) := by
  refine ensures_bind fun _ _ => ensures_bind fun _ _ => ensures_bind fun _ _ => ?_
  exact ensures_bind fun _ _ => ensures_pure ⟨.refl, by simp [Promise.isTransfer]⟩

theorem migrate_quiet : Ensures (Quiet s) (migrate env s) :=
  ensures_bind fun _ _ => ensures_bind fun _ _ => ensures_bind fun _ _ => ensures_kept (.of_eq rfl rfl rfl)

theorem setPublicUploadFullHd_quiet {enabled : Bool} :
    Ensures (Quiet s) (setPublicUploadFullHd env s enabled) := by
  refine ensures_bind fun _ _ => ensures_bind fun _ _ => ensures_bind fun _ _ => ?_
  refine ensures_bind fun _ _ => ensures_bind fun _ _ => ensures_bind fun _ _ => ?_
  refine ensures_bind fun _ _ => ensures_ite (fun _ => ensures_unchanged) fun _ => ?_
  exact ensures_bind fun _ _ => ensures_kept (.of_eq rfl rfl rfl)

/-! ## Jobs, publications and playback devices -/

theorem createUsdcPaidJob_quiet {request : PaidJobRequest} {fee : Nat} {hash : Option String} :
    Ensures (Quiet s) (createUsdcPaidJob env s request fee hash) := by
  refine ensures_bind fun _ _ => ensures_bind fun _ _ => ensures_bind fun _ _ => ?_
  exact ensures_bind fun _ _ => ensures_bind fun _ _ => ensures_kept (.of_eq rfl rfl rfl)

theorem createPaidJob_quiet {request : PaidJobRequest} :
    Ensures (Quiet s) (createPaidJob env s request) := by
  refine ensures_bind fun _ _ => ensures_bind fun _ _ => ensures_bind fun _ _ => ?_
  exact createUsdcPaidJob_quiet

theorem replaceUploadKey_quiet {jobId newPublicKey : String} {expiresAtMs : Nat} :
    Ensures (Quiet s) (replaceUploadKey env s jobId newPublicKey expiresAtMs) := by
  refine ensures_bind fun _ _ => ensures_bind fun _ _ => ensures_bind fun _ _ => ?_
  refine ensures_bind fun _ _ => ensures_bind fun _ _ => ensures_bind fun _ _ => ?_
  exact ensures_kept (.of_eq rfl rfl rfl)

theorem rotateQuotePublicKey_quiet {version : Nat} {publicKey : Bytes} :
    Ensures (Quiet s) (rotateQuotePublicKey env s version publicKey) := by
  refine ensures_bind fun _ _ => ensures_bind fun _ _ => ensures_bind fun _ _ => ?_
  exact ensures_bind fun _ _ => ensures_kept (.of_eq rfl rfl rfl)

theorem restartPaidJob_quiet {jobId profileId profileConfigSha256 : String}
    {expectedSourceBytes : Nat} :
    Ensures (Quiet s)
      (restartPaidJob env s jobId expectedSourceBytes profileId profileConfigSha256) := by
  refine ensures_bind fun _ _ => ensures_bind fun _ _ => ensures_bind fun _ _ => ?_
  refine ensures_bind fun _ _ => ensures_bind fun _ _ => ensures_bind fun _ _ => ?_
  refine ensures_bind fun _ _ => ensures_bind fun _ _ => ensures_bind fun _ _ => ?_
  exact ensures_kept (.of_eq rfl rfl rfl)

/-- The publication that was read is the one stored. -/
theorem creatorId_of_get {publicationId message : String} {publication : Publication}
    (h : expect (s.publications.get publicationId) message = .ok publication) :
    ∀ before, s.publications.get publicationId = some before →
      publication.creatorId = before.creatorId := by
  intro before hbefore
  rw [expect_eq_ok.mp h] at hbefore
  cases hbefore
  rfl

theorem finalizeLivepeerPublication_quiet {submission : LivepeerPublicationSubmission} :
    Ensures (Quiet s) (finalizeLivepeerPublication env s submission) := by
  refine ensures_bind fun _ _ => ?_
  split
  · exact ensures_bind fun _ _ => ensures_unchanged
  · next hnone =>
      refine ensures_bind fun _ _ => ensures_bind fun _ _ => ensures_bind fun _ _ => ?_
      refine ensures_bind fun _ _ => ensures_bind fun _ _ => ensures_kept ⟨rfl, rfl, ?_⟩
      refine .of_insert rfl fun before hbefore => ?_
      rw [hnone] at hbefore
      cases hbefore

theorem suspendLivepeerSales_quiet {publicationId : String} :
    Ensures (Quiet s) (suspendLivepeerSales env s publicationId) := by
  refine ensures_bind fun _ _ => ensures_bind fun publication hget => ensures_bind fun _ _ => ?_
  refine ensures_bind fun _ _ => ensures_ite (fun _ => ensures_unchanged) fun _ => ?_
  exact ensures_kept ⟨rfl, rfl, .of_insert rfl fun before => creatorId_of_get hget before⟩

theorem takedownLivepeerPublication_quiet
    {publicationId reasonCode incidentId evidenceSha256 : String} {effectiveAtMs : Nat} :
    Ensures (Quiet s) (takedownLivepeerPublication env s publicationId reasonCode incidentId
      evidenceSha256 effectiveAtMs) := by
  refine ensures_bind fun _ _ => ensures_bind fun _ _ => ensures_bind fun _ _ => ?_
  refine ensures_bind fun _ _ => ensures_bind fun _ _ => ensures_bind fun publication hget => ?_
  refine ensures_ite (fun _ => ?_) fun _ => ?_
  · exact ensures_bind fun _ _ => ensures_bind fun _ _ => ensures_unchanged
  · refine ensures_bind fun _ _ => ensures_kept ⟨rfl, rfl, ?_⟩
    exact .of_insert rfl fun before => creatorId_of_get hget before

theorem authorizePlaybackDevice_kept {accountId : AccountId}
    {authorization : Option PlaybackSessionAuthorization} :
    Ensures (Kept s) (authorizePlaybackDevice env s accountId authorization) := by
  cases authorization with
  | none => exact ensures_ok .refl
  | some authorization => exact ensures_bind fun _ _ => ensures_pure (.of_eq rfl rfl rfl)

theorem activatePlaybackDevice_quiet {publicationId : String}
    {session : PlaybackSessionAuthorization} :
    Ensures (Quiet s) (activatePlaybackDevice env s publicationId session) := by
  refine ensures_bind fun _ _ => ensures_bind fun _ _ => ensures_bind fun _ _ => ?_
  refine ensures_bind fun _ _ => ensures_bind fun _ _ => ensures_bind fun _ _ => ?_
  refine ensures_bind fun _ _ => ensures_bind fun _ _ => ?_
  refine ensures_ite (fun _ => ensures_unchanged) fun _ => ?_
  exact ensures_seq authorizePlaybackDevice_kept fun _ hkept =>
    ensures_bind fun _ _ => ensures_kept hkept

/-! ## Rotations -/

theorem proposeBridge_effect {next : AccountId} {o : Outcome Unit}
    (h : proposeBridge env s next = .ok o) :
    Effect env s (.proposeBridge next) o.state o.promises := by
  simp only [proposeBridge, bind_eq_ok, assertAdmin_ok] at h
  obtain ⟨-, hadmin, _, hvalid, h⟩ := h
  split at h
  · cases pure_eq_ok.mp h
    exact .ofRoles .same rfl rfl rfl
  · simp only [bind_eq_ok, pure_eq_ok] at h
    obtain ⟨-, -, _, -, rfl⟩ := h
    exact .ofRoles (.proposeBridge hadmin hvalid) rfl rfl rfl

theorem cancelBridgeRotation_effect {o : Outcome Unit} (h : cancelBridgeRotation env s = .ok o) :
    Effect env s .cancelBridgeRotation o.state o.promises := by
  simp only [cancelBridgeRotation, bind_eq_ok] at h
  obtain ⟨-, -, h⟩ := h
  split at h
  · cases pure_eq_ok.mp h
    exact .ofRoles .same rfl rfl rfl
  · cases pure_eq_ok.mp h
    exact .ofRoles .cancelBridge rfl rfl rfl

theorem executeBridgeRotation_effect {o : Outcome Unit} (h : executeBridgeRotation env s = .ok o) :
    Effect env s .executeBridgeRotation o.state o.promises := by
  simp only [executeBridgeRotation, bind_eq_ok, assertAdmin_ok, expect_eq_ok, pure_eq_ok] at h
  obtain ⟨-, hadmin, _, -, _, -, _, -, next, hpending, rfl⟩ := h
  exact .ofRoles (.executeBridge hadmin hpending) rfl rfl rfl

theorem proposeRoleRotation_effect {role : GovernanceRole} {next : AccountId}
    {o : Outcome PendingRoleRotation} (h : proposeRoleRotation env s role next = .ok o) :
    Effect env s (.proposeRoleRotation role next) o.state o.promises := by
  simp only [proposeRoleRotation, bind_eq_ok, assertAdmin_ok] at h
  obtain ⟨-, hadmin, h⟩ := h
  split at h
  · simp only [bind_eq_ok, pure_eq_ok] at h
    obtain ⟨-, -, rfl⟩ := h
    exact .ofRoles .same rfl rfl rfl
  · simp only [bind_eq_ok, pure_eq_ok] at h
    obtain ⟨_, hvalid, _, -, executableAtMs, -, rfl⟩ := h
    let pending : PendingRoleRotation := {
      role := role
      currentAccountId := s.roleAccountId role
      nextAccountId := next
      proposedAtMs := env.blockTimestampMs
      executableAtMs := executableAtMs }
    exact .ofRoles (.proposeRole pending hadmin hvalid) rfl rfl rfl

theorem cancelRoleRotation_effect {role : GovernanceRole} {o : Outcome Unit}
    (h : cancelRoleRotation env s role = .ok o) :
    Effect env s (.cancelRoleRotation role) o.state o.promises := by
  simp only [cancelRoleRotation, bind_eq_ok] at h
  obtain ⟨-, -, h⟩ := h
  split at h
  · cases pure_eq_ok.mp h
    exact .ofRoles .same rfl rfl rfl
  · cases pure_eq_ok.mp h
    exact .ofRoles .cancelRole rfl rfl rfl

theorem executeRoleRotation_effect {role : GovernanceRole} {o : Outcome Unit}
    (h : executeRoleRotation env s role = .ok o) :
    Effect env s (.executeRoleRotation role) o.state o.promises := by
  simp only [executeRoleRotation, bind_eq_ok, assertAdmin_ok, expect_eq_ok, pure_eq_ok] at h
  obtain ⟨-, hadmin, pending, hpending, -, -, -, -, _, hvalid, rfl⟩ := h
  exact .ofRoles (.executeRole hadmin hpending hvalid) rfl rfl rfl

/-! ## Withdrawals and NEAR fees -/

theorem withdrawCreatorBalance_effect {o : Outcome Unit}
    (h : withdrawCreatorBalance env s = .ok o) :
    Effect env s .withdrawCreatorBalance o.state o.promises := by
  simp only [withdrawCreatorBalance, bind_eq_ok, pure_eq_ok] at h
  obtain ⟨-, -, _, -, rfl⟩ := h
  exact .ofMoney rfl (.of_eq rfl) (.withdrawn (.creator env.predecessorAccountId) rfl (Nat.zero_add _)
    .creator)

theorem withdrawPlatformBalance_effect {o : Outcome Unit}
    (h : withdrawPlatformBalance env s = .ok o) :
    Effect env s .withdrawPlatformBalance o.state o.promises := by
  simp only [withdrawPlatformBalance, bind_eq_ok, pure_eq_ok] at h
  obtain ⟨-, -, -, -, _, -, rfl⟩ := h
  exact .ofMoney rfl (.of_eq rfl) (.withdrawn .platform rfl (Nat.zero_add _) .platform)

theorem withdrawPlatformNear_effect {amount : Nat} {o : Outcome Unit}
    (h : withdrawPlatformNear env s amount = .ok o) :
    Effect env s (.withdrawPlatformNear amount) o.state o.promises := by
  simp only [withdrawPlatformNear, bind_eq_ok, require_eq_ok, pure_eq_ok] at h
  obtain ⟨-, -, -, ⟨-, hle⟩, _, -, -, -, rfl⟩ := h
  exact .ofMoney rfl (.of_eq rfl) (.withdrawn .platformNear rfl (Nat.sub_add_cancel hle) .platformNear)

theorem createPaidJobNear_effect {request : PaidJobRequest} {quote : CreatorFeeQuote}
    {signature : Bytes} {o : Outcome (Option MediaJob)}
    (h : createPaidJobNear env s request quote signature = .ok o) :
    Effect env s (.createPaidJobNear request quote signature) o.state o.promises := by
  simp only [createPaidJobNear, bind_eq_ok] at h
  obtain ⟨-, -, -, -, -, -, -, -, -, -, h⟩ := h
  split at h
  · simp only [bind_eq_ok, pure_eq_ok] at h
    obtain ⟨-, -, rfl⟩ := h
    exact .ofMoney rfl (.of_eq rfl) .nearReplay
  · simp only [bind_eq_ok, checkedAdd_eq_ok, pure_eq_ok] at h
    obtain ⟨-, -, -, -, _, ⟨-, rfl⟩, rfl⟩ := h
    exact .ofMoney rfl (.of_eq rfl) .nearFee

/-! ## Callbacks -/

/-- The three callbacks do one thing each to their own pot. -/
theorem runCallback_effect {callback : Callback} {o : Outcome Bool}
    (h : runCallback env s callback = .ok o) :
    Effect env s (.callback callback) o.state o.promises := by
  cases callback with
  | onCreatorWithdraw creatorId amount withdrawalId =>
    simp only [runCallback, onCreatorWithdraw, bind_eq_ok] at h
    obtain ⟨-, -, result, hresult, h⟩ := h
    cases result with
    | successful =>
      cases pure_eq_ok.mp h
      exact .ofMoney rfl (.of_eq rfl) (.finished (withdrawalResult_ok hresult))
    | failed =>
      simp only [bind_eq_ok, checkedAdd_eq_ok, pure_eq_ok] at h
      obtain ⟨_, ⟨-, rfl⟩, rfl⟩ := h
      exact .ofMoney rfl (.of_eq rfl) (.restored (withdrawalResult_ok hresult))
  | onPlatformWithdraw amount =>
    simp only [runCallback, onPlatformWithdraw, bind_eq_ok] at h
    obtain ⟨-, -, result, hresult, h⟩ := h
    cases result with
    | successful =>
      cases pure_eq_ok.mp h
      exact .ofMoney rfl (.of_eq rfl) (.finished (withdrawalResult_ok hresult))
    | failed =>
      simp only [bind_eq_ok, checkedAdd_eq_ok, pure_eq_ok] at h
      obtain ⟨_, ⟨-, rfl⟩, rfl⟩ := h
      exact .ofMoney rfl (.of_eq rfl) (.restored (withdrawalResult_ok hresult))
  | onPlatformNearWithdraw amount =>
    simp only [runCallback, onPlatformNearWithdraw, bind_eq_ok] at h
    obtain ⟨-, -, result, hresult, h⟩ := h
    cases result with
    | successful =>
      cases pure_eq_ok.mp h
      exact .ofMoney rfl (.of_eq rfl) (.finished (withdrawalResult_ok hresult))
    | failed =>
      simp only [bind_eq_ok, checkedAdd_eq_ok, pure_eq_ok] at h
      obtain ⟨_, ⟨-, rfl⟩, rfl⟩ := h
      exact .ofMoney rfl (.of_eq rfl) (.restored (withdrawalResult_ok hresult))

/-! ## Incoming USDC -/

theorem admitPublicUpload_kept {request : PaidJobRequest} :
    Ensures (Kept s) (admitPublicUpload env s request) := by
  refine ensures_bind fun _ _ => ensures_bind fun _ _ => ensures_bind fun _ _ => ?_
  exact ensures_bind fun _ _ => ensures_bind fun _ _ => ensures_pure (.of_eq rfl rfl rfl)

theorem admitPublicTestnetBetaJob_kept {request : PaidJobRequest} {quote : SponsoredUploadQuote} :
    Ensures (Kept s) (admitPublicTestnetBetaJob env s request quote) := by
  refine ensures_bind fun _ _ => ensures_bind fun _ _ => ensures_bind fun _ _ => ?_
  refine ensures_bind fun _ _ => ensures_bind fun _ _ => ensures_bind fun _ _ => ?_
  refine ensures_bind fun _ _ => ensures_bind fun _ _ => ensures_bind fun _ _ => ?_
  exact ensures_pure (.of_eq rfl rfl rfl)

theorem admitJob_kept {request : PaidJobRequest} {quote : Option SponsoredUploadQuote} :
    Ensures (Kept s) (admitJob env s request quote) := by
  refine ensures_seq (ensures_ite (fun _ => admitPublicUpload_kept) fun _ => ensures_ok .refl)
    fun admitted hkept => ensures_ite (fun _ => ?_) fun _ => ensures_pure hkept
  refine ensures_bind fun sponsor _ => fun s' h => ?_
  exact hkept.trans (admitPublicTestnetBetaJob_kept s' h)

/-- What an incoming payment that goes through does. -/
inductive Received (env : Env) (s : Contract) (senderId : AccountId) (amount : Nat) (msg : String)
    (o : Outcome Nat) : Prop where
  | returned (hvalue : o.value = amount) (hstate : o.state = s)
  | job (hvalue : o.value = 0) (hroles : o.state.toRoles = s.toRoles)
      (hcreators : CreatorsKept s o.state)
      (hbuys : purchased env.toHost msg = none)
      (hmoney : o.state.money = s.money.credit .platform amount)
  | sold {publicationId : String} {publication : Publication} (hvalue : o.value = 0)
      (hroles : o.state.toRoles = s.toRoles) (hcreators : CreatorsKept s o.state)
      (hbuys : purchased env.toHost msg = some publicationId)
      (hget : s.publications.get publicationId = some publication)
      (hactive : publication.availability = .active) (hprice : amount = publication.priceUsdc)
      (hfresh : s.entitlements.get (entitlementKey senderId publicationId) = none)
      (hmoney : o.state.money = s.money.sell senderId publication.creatorId publicationId amount)

theorem acceptPaidJob_received {senderId msg : String} {amount fee : Nat} {request : PaidJobRequest}
    {quote : Option SponsoredUploadQuote} {session : Option PlaybackSessionAuthorization}
    (hbuys : purchased env.toHost msg = none) :
    Ensures (fun o => Received env s senderId amount msg o ∧ o.promises = [])
      (acceptPaidJob env s senderId amount request quote fee session) := by
  refine ensures_seq admitJob_kept fun admitted hadmit => ?_
  refine ensures_seq createUsdcPaidJob_quiet fun created hcreate => ?_
  intro o h
  simp only [bind_eq_ok, checkedAdd_eq_ok, pure_eq_ok] at h
  obtain ⟨_, ⟨-, rfl⟩, state, hdevice, -, -, rfl⟩ := h
  have hkept : Kept s created.state := hadmit.trans hcreate.kept
  have hafter := authorizePlaybackDevice_kept state hdevice
  refine ⟨.job rfl (hafter.roles.trans hkept.roles) (hkept.creators.trans hafter.creators) hbuys
    (hafter.money.trans ?_), rfl⟩
  rw [← hkept.money]
  rfl

theorem payForJob_received {senderId msg : String} {amount : Nat} {message : TransferMessage}
    (hbuys : purchased env.toHost msg = none) :
    Ensures (fun o => Received env s senderId amount msg o ∧ o.promises = [])
      (payForJob env s senderId amount message) := by
  have hreturned : Ensures (fun o => Received env s senderId amount msg o ∧ o.promises = [])
      (pure (returnAll s amount)) := ensures_pure ⟨.returned rfl rfl, rfl⟩
  refine ensures_bind fun _ _ => ensures_bind fun _ _ => ensures_ite (fun _ => hreturned) fun _ => ?_
  refine ensures_ite (fun _ => hreturned) fun _ => ensures_bind fun _ _ => ?_
  split
  · exact ensures_bind fun _ _ => ensures_bind fun _ _ => hreturned
  · exact ensures_ite (fun _ => hreturned) fun _ => acceptPaidJob_received hbuys

theorem sellEntitlement_received {senderId msg publicationId : String} {amount : Nat}
    {publication : Publication} {session : Option PlaybackSessionAuthorization}
    (hbuys : purchased env.toHost msg = some publicationId)
    (hget : s.publications.get publicationId = some publication)
    (hactive : publication.availability = .active) (hprice : amount = publication.priceUsdc)
    (hfresh : s.entitlements.get (entitlementKey senderId publicationId) = none) :
    Ensures (fun o => Received env s senderId amount msg o ∧ o.promises = [])
      (sellEntitlement env s senderId amount publicationId publication session) := by
  intro o h
  simp only [sellEntitlement, bind_eq_ok, checkedAdd_eq_ok, pure_eq_ok] at h
  obtain ⟨_, ⟨-, rfl⟩, _, ⟨-, rfl⟩, state, hdevice, -, -, rfl⟩ := h
  have hafter := authorizePlaybackDevice_kept state hdevice
  exact ⟨.sold rfl hafter.roles hafter.creators hbuys hget hactive hprice hfresh hafter.money,
    rfl⟩

theorem buyTicket_received {senderId msg : String} {amount : Nat} {message : TransferMessage}
    (hbuys : ∀ publicationId, message.action = none ∨ message.action = some "buy_ticket" →
      message.publicationId = some publicationId → purchased env.toHost msg = some publicationId) :
    Ensures (fun o => Received env s senderId amount msg o ∧ o.promises = [])
      (buyTicket env s senderId amount message) := by
  have hreturned : Ensures (fun o => Received env s senderId amount msg o ∧ o.promises = [])
      (pure (returnAll s amount)) := ensures_pure ⟨.returned rfl rfl, rfl⟩
  refine ensures_bind fun _ haction => ensures_ite (fun _ => hreturned) fun _ => ?_
  refine ensures_ite (fun _ => hreturned) fun _ => ?_
  refine ensures_bind fun publicationId hid => ensures_bind fun publication hget => ?_
  refine ensures_ite (fun _ => hreturned) fun hsale => ?_
  simp only [not_or, not_not] at hsale
  obtain ⟨hactive, hprice, hfresh⟩ := hsale
  exact sellEntitlement_received
    (hbuys publicationId (require_eq_ok.mp haction) (expect_eq_ok.mp hid)) (expect_eq_ok.mp hget)
    hactive hprice hfresh

/-- A compact message is a paid job's. -/
theorem decodeCompactUpload_action {msg senderId : String} {message : TransferMessage}
    (h : decodeCompactUpload env msg senderId = .ok message) :
    message.action = some "create_paid_job" := by
  simp only [decodeCompactUpload, bind_eq_ok, pure_eq_ok] at h
  obtain ⟨_, -, -, -, _, -, -, -, _, -, -, -, _, -, _, -, _, -, _, -, _, -, _, -, rfl⟩ := h
  rfl

theorem ftOnTransfer_received {senderId msg : String} {amount : Nat} :
    Ensures (fun o => (∃ usdc, usdcContractId env = .ok usdc ∧ env.predecessorAccountId = usdc) ∧
      Received env s senderId amount msg o ∧ o.promises = [])
      (ftOnTransfer env s senderId amount msg) := by
  refine ensures_bind fun usdc husdc => ensures_bind fun _ hcaller => ?_
  refine ensures_bind fun message hmessage => ensures_bind fun _ _ => ?_
  intro o ho
  refine ⟨⟨usdc, husdc, require_eq_ok.mp hcaller⟩, ?_⟩
  rcases ite_eq_ok.mp ho with ⟨haction, ho⟩ | ⟨hnot, ho⟩
  · refine payForJob_received ?_ o ho
    -- A job's message names its action, and buying has another one.
    rcases ite_eq_ok.mp hmessage with ⟨hcompact, -⟩ | ⟨hjson, hparsed⟩
    · rw [purchased, if_pos hcompact]
    · rw [purchased, if_neg hjson, expect_eq_ok.mp hparsed]
      simp [haction]
  · refine buyTicket_received (fun publicationId haction hid => ?_) o ho
    rcases ite_eq_ok.mp hmessage with ⟨-, hcompact⟩ | ⟨hjson, hparsed⟩
    · exact absurd (decodeCompactUpload_action hcompact) hnot
    · rw [purchased, if_neg hjson, expect_eq_ok.mp hparsed]
      simp [haction, hid]

theorem Received.effect {senderId msg : String} {amount : Nat} {o : Outcome Nat}
    (h : Received env s senderId amount msg o) (hpromises : o.promises = []) :
    Effect env s (.ftOnTransfer senderId amount msg) o.state o.promises := by
  rw [hpromises]
  cases h with
  | returned _ hstate =>
    rw [hstate]
    exact .ofKept .refl rfl (by simp)
  | job _ hroles hcreators _ hmoney =>
    refine .ofMoney hroles hcreators ?_
    rw [hmoney]
    exact .jobFee
  | sold _ hroles hcreators hbuys hget hactive hprice hfresh hmoney =>
    refine .ofMoney hroles hcreators ?_
    rw [hmoney]
    exact .sold hbuys hget hactive hprice hfresh

/-! ## Every call -/

/-- A method whose return value is forgotten. -/
theorem Quiet.effect {α : Type} {x : Result (Outcome α)} {c : Call} {o : Outcome Unit}
    (hx : Ensures (Quiet s) x) (hc : c.isPlain = true)
    (h : (do return (← x).void) = (.ok o : Result (Outcome Unit))) :
    Effect env s c o.state o.promises := by
  obtain ⟨o', ho', h⟩ := bind_eq_ok.mp h
  obtain rfl := pure_eq_ok.mp h
  exact .ofKept (hx o' ho').kept hc (hx o' ho').promises

theorem Quiet.effect_unit {x : Result (Outcome Unit)} {c : Call} {o : Outcome Unit}
    (hx : Ensures (Quiet s) x) (hc : c.isPlain = true) (h : x = .ok o) :
    Effect env s c o.state o.promises :=
  .ofKept (hx o h).kept hc (hx o h).promises

/-- Every successful call is one step of the roles and one of the money. -/
theorem Call.run_effect {c : Call} {o : Outcome Unit} (h : c.run env s = .ok o) :
    Effect env s c o.state o.promises := by
  obtain ⟨-, -, h⟩ := bind_eq_ok.mp h
  cases c with
  | freezeBridge => exact Quiet.effect_unit freezeBridge_quiet rfl h
  | requestBridgeUnfreeze => exact Quiet.effect requestBridgeUnfreeze_quiet rfl h
  | cancelBridgeUnfreeze => exact Quiet.effect_unit cancelBridgeUnfreeze_quiet rfl h
  | unfreezeBridge => exact Quiet.effect_unit unfreezeBridge_quiet rfl h
  | pauseNewPurchases => exact Quiet.effect_unit pauseNewPurchases_quiet rfl h
  | requestNewPurchasesUnpause => exact Quiet.effect requestNewPurchasesUnpause_quiet rfl h
  | cancelNewPurchasesUnpause => exact Quiet.effect_unit cancelNewPurchasesUnpause_quiet rfl h
  | unpauseNewPurchases => exact Quiet.effect_unit unpauseNewPurchases_quiet rfl h
  | startPublicTestnetBeta => exact Quiet.effect startPublicTestnetBeta_quiet rfl h
  | closePublicTestnetBeta => exact Quiet.effect closePublicTestnetBeta_quiet rfl h
  | proposeBridge => exact proposeBridge_effect h
  | cancelBridgeRotation => exact cancelBridgeRotation_effect h
  | executeBridgeRotation => exact executeBridgeRotation_effect h
  | proposeRoleRotation role next =>
    obtain ⟨o', ho', h⟩ := bind_eq_ok.mp h
    obtain rfl := pure_eq_ok.mp h
    exact proposeRoleRotation_effect ho'
  | cancelRoleRotation => exact cancelRoleRotation_effect h
  | executeRoleRotation => exact executeRoleRotation_effect h
  | proposeCodeUpgrade => exact Quiet.effect proposeCodeUpgrade_quiet rfl h
  | cancelCodeUpgrade => exact Quiet.effect_unit cancelCodeUpgrade_quiet rfl h
  | executeCodeUpgrade => exact Quiet.effect_unit executeCodeUpgrade_quiet rfl h
  | migrate => exact Quiet.effect_unit migrate_quiet rfl h
  | setPublicUploadFullHd => exact Quiet.effect setPublicUploadFullHd_quiet rfl h
  | createPaidJob => exact Quiet.effect createPaidJob_quiet rfl h
  | createPaidJobNear request quote signature =>
    obtain ⟨o', ho', h⟩ := bind_eq_ok.mp h
    obtain rfl := pure_eq_ok.mp h
    exact createPaidJobNear_effect ho'
  | replaceUploadKey => exact Quiet.effect replaceUploadKey_quiet rfl h
  | rotateQuotePublicKey => exact Quiet.effect_unit rotateQuotePublicKey_quiet rfl h
  | restartPaidJob => exact Quiet.effect restartPaidJob_quiet rfl h
  | activatePlaybackDevice => exact Quiet.effect_unit activatePlaybackDevice_quiet rfl h
  | finalizeLivepeerPublication => exact Quiet.effect finalizeLivepeerPublication_quiet rfl h
  | suspendLivepeerSales => exact Quiet.effect suspendLivepeerSales_quiet rfl h
  | takedownLivepeerPublication => exact Quiet.effect takedownLivepeerPublication_quiet rfl h
  | ftOnTransfer senderId amount msg =>
    obtain ⟨o', ho', h⟩ := bind_eq_ok.mp h
    obtain rfl := pure_eq_ok.mp h
    obtain ⟨-, hreceived, hpromises⟩ := ftOnTransfer_received o' ho'
    exact hreceived.effect hpromises
  | withdrawCreatorBalance => exact withdrawCreatorBalance_effect h
  | withdrawPlatformBalance => exact withdrawPlatformBalance_effect h
  | withdrawPlatformNear => exact withdrawPlatformNear_effect h
  | callback callback =>
    obtain ⟨o', ho', h⟩ := bind_eq_ok.mp h
    obtain rfl := pure_eq_ok.mp h
    exact runCallback_effect ho'

end Methods

end Youtick.NftTicket
