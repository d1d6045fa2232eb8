import Youtick.MarketV2.UploadLogs

/-!
# Market V2: logs of the ticket, transfer and withdrawal methods

What the methods that touch tickets or balances logged, read off a call that succeeded. Tickets are
spoken of on the other envelope only, so these methods are quiet unless a withdrawal starts. The
last section collects the log of every method in `Call.run_logs`.
-/

set_option autoImplicit false

namespace Youtick.MarketV2

open Youtick.Lib

variable {env : Env} {s : Contract}

/-! ## Watching and refunds -/

theorem markWatched_logs {ticketId : String} {o : Outcome Bool}
    (h : markWatched env s ticketId = .ok o) :
    Logs env s (.markWatched ticketId) o.state.shown o.promises o.events := by
  simp only [markWatched, bind_eq_ok] at h
  obtain ⟨-, -, _, -, h⟩ := h
  split at h
  · cases pure_eq_ok.mp h
    exact .quiet rfl (by simp) (by simp)
  · cases pure_eq_ok.mp h
    exact .quiet rfl (by simp) (by simp)
  · cases pure_eq_ok.mp h
    exact .quiet rfl (by simp) (by simp)
  · exact (error_eq_ok.mp h).elim
  · exact (error_eq_ok.mp h).elim
  · simp only [bind_eq_ok, pure_eq_ok] at h
    obtain ⟨_, -, -, -, rfl⟩ := h
    exact .quiet (s := s) rfl (by simp) (by simp)

theorem refundTicket_logs {ticketId expiresAtMs signature : String} {refundTo : AccountId}
    {o : Outcome Unit} (h : refundTicket env s ticketId refundTo expiresAtMs signature = .ok o) :
    Logs env s (.refundTicket ticketId refundTo expiresAtMs signature) o.state.shown o.promises
      o.events := by
  simp only [refundTicket, bind_eq_ok, pure_eq_ok] at h
  obtain ⟨_, -, -, -, -, -, -, -, -, -, _, -, _, -, _, -, _, -, -, -, _, -, _, -, rfl⟩ := h
  exact .quiet (s := s) rfl (by simp [Promise.withdrawalId, Promise.callback]) (by simp)

theorem onTicketRefund_logs {ticketId : String} {receiverId : AccountId} {amount : Nat}
    {restoreStatus : Option TicketStatus} {o : Outcome Bool}
    (h : onTicketRefund env s ticketId receiverId amount restoreStatus = .ok o) :
    Logs env s (.callback (.onTicketRefund ticketId receiverId amount restoreStatus))
      o.state.shown o.promises o.events := by
  simp only [onTicketRefund, bind_eq_ok] at h
  obtain ⟨-, -, result, -, _, -, h⟩ := h
  cases result with
  | successful =>
    cases pure_eq_ok.mp h
    exact .quiet (s := s) rfl (by simp) (by simp)
  | failed =>
    simp only [bind_eq_ok, pure_eq_ok] at h
    obtain ⟨_, -, rfl⟩ := h
    exact .quiet (s := s) rfl (by simp) (by simp)

/-! ## Releases -/

theorem settleTicket_shown {ticket : Ticket} {s' : Contract} (h : settleTicket s ticket = .ok s') :
    s'.shown = s.shown := by
  obtain ⟨-, rfl⟩ := settleTicket_ok h
  rfl

theorem releaseOne_logs {ticketId : String} {s' : Contract} {event : Event}
    (h : releaseOne env s ticketId = .ok (some (s', event))) :
    s'.shown = s.shown ∧ event.isMarket = false := by
  unfold releaseOne at h
  split at h
  · simp at h
  · obtain ⟨_, -, h⟩ := bind_eq_ok.mp h
    rcases ite_eq_ok.mp h with ⟨-, h⟩ | ⟨-, h⟩
    · simp [pure_eq_ok] at h
    · simp only [bind_eq_ok, pure_eq_ok, Option.some.injEq, Prod.mk.injEq] at h
      obtain ⟨settled, hsettle, rfl, rfl⟩ := h
      exact ⟨(settleTicket_shown hsettle).trans rfl, rfl⟩

theorem releaseLoop_logs {ids : List String} {s' : Contract} {released : Nat}
    {events : List Event} (h : releaseLoop env s ids = .ok (s', released, events)) :
    s'.shown = s.shown ∧ ∀ e ∈ events, e.isMarket = false := by
  induction ids generalizing s released events with
  | nil =>
    simp only [releaseLoop, ok_eq_ok, Prod.mk.injEq] at h
    obtain ⟨rfl, -, rfl⟩ := h
    exact ⟨rfl, by simp⟩
  | cons ticketId rest ih =>
    simp only [releaseLoop, bind_eq_ok] at h
    obtain ⟨result, hone, h⟩ := h
    cases result with
    | none => exact ih h
    | some result =>
      obtain ⟨⟨last, count, events'⟩, hloop, h⟩ := bind_eq_ok.mp h
      simp only [pure_eq_ok, Prod.mk.injEq] at h
      obtain ⟨rfl, -, rfl⟩ := h
      obtain ⟨hmid, hevent⟩ := releaseOne_logs hone
      obtain ⟨hlast, hevents⟩ := ih hloop
      exact ⟨hlast.trans hmid, List.forall_mem_cons.mpr ⟨hevent, hevents⟩⟩

theorem releaseExpired_logs {ticketIds : List String} {o : Outcome Nat}
    (h : releaseExpired env s ticketIds = .ok o) :
    Logs env s (.releaseExpired ticketIds) o.state.shown o.promises o.events := by
  simp only [releaseExpired, bind_eq_ok] at h
  obtain ⟨-, -, ⟨state, released, events⟩, hloop, h⟩ := h
  simp only [pure_eq_ok] at h
  obtain ⟨-, -, rfl⟩ := h
  obtain ⟨hshown, hevents⟩ := releaseLoop_logs hloop
  show Logs env s _ state.shown [] events
  rw [hshown]
  exact .quiet rfl (by simp) hevents

/-! ## Devices -/

theorem evictOldest_logs {k : String} {ticket evicted : Ticket} {events : List Event}
    (h : evictOldest k ticket = .ok (evicted, events)) : ∀ e ∈ events, e.isMarket = false := by
  unfold evictOldest at h
  split at h
  · rcases ite_eq_ok.mp h with ⟨-, h⟩ | ⟨-, h⟩
    · simp only [bind_eq_ok, pure_eq_ok, Prod.mk.injEq] at h
      obtain ⟨_, -, -, rfl⟩ := h
      simp [deviceRevokedEvent]
    · simp only [pure_eq_ok, Prod.mk.injEq] at h
      obtain ⟨-, rfl⟩ := h
      simp
  · simp only [pure_eq_ok, Prod.mk.injEq] at h
    obtain ⟨-, rfl⟩ := h
    simp

theorem addDevice_logs {ticketId key certificate epoch expiresAtMs signature : String}
    {o : Outcome TicketDevice}
    (h : addDevice env s ticketId key certificate epoch expiresAtMs signature = .ok o) :
    Logs env s (.addDevice ticketId key certificate epoch expiresAtMs signature) o.state.shown
      o.promises o.events := by
  simp only [addDevice, bind_eq_ok, pure_eq_ok] at h
  obtain ⟨_, -, _, -, -, -, -, -, _, -, ⟨evicted, events⟩, hevicted, _, -, -, -, rfl⟩ := h
  refine .quiet (s := s) rfl (by simp) ?_
  intro e he
  rcases List.mem_append.mp he with he | he
  · exact evictOldest_logs hevicted e he
  · obtain rfl := List.mem_singleton.mp he
    rfl

theorem revokeTicketDevice_logs {c : Call} {key : String} {ticket : Ticket} {o : Outcome Unit}
    (hquiet : c.announces env s = none) (h : revokeTicketDevice s ticket key = .ok o) :
    Logs env s c o.state.shown o.promises o.events := by
  simp only [revokeTicketDevice, bind_eq_ok, pure_eq_ok] at h
  obtain ⟨_, -, rfl⟩ := h
  exact .quiet (s := s) hquiet (by simp) (by simp [deviceRevokedEvent])

theorem revokeDevice_logs {ticketId key epoch expiresAtMs signature : String} {o : Outcome Unit}
    (h : revokeDevice env s ticketId key epoch expiresAtMs signature = .ok o) :
    Logs env s (.revokeDevice ticketId key epoch expiresAtMs signature) o.state.shown o.promises
      o.events := by
  simp only [revokeDevice, bind_eq_ok] at h
  obtain ⟨ticket, -, _, -, -, -, -, -, h⟩ := h
  exact revokeTicketDevice_logs rfl h

theorem platformRevokeDevice_logs {ticketId key : String} {o : Outcome Unit}
    (h : platformRevokeDevice env s ticketId key = .ok o) :
    Logs env s (.platformRevokeDevice ticketId key) o.state.shown o.promises o.events := by
  simp only [platformRevokeDevice, bind_eq_ok] at h
  obtain ⟨-, -, ticket, -, _, -, h⟩ := h
  exact revokeTicketDevice_logs rfl h

/-! ## Card tickets and VAT keys -/

theorem issueCardTicket_logs
    {ticketPublicKey publicationId paymentReferenceHmac grossMinor currency : String}
    {device : SignedTicketDevice} {o : Outcome Ticket}
    (h : issueCardTicket env s ticketPublicKey publicationId device paymentReferenceHmac grossMinor
      currency = .ok o) :
    Logs env s (.issueCardTicket ticketPublicKey publicationId device paymentReferenceHmac
      grossMinor currency) o.state.shown o.promises o.events := by
  simp only [issueCardTicket, bind_eq_ok, pure_eq_ok] at h
  obtain ⟨-, -, -, -, -, -, -, -, _, -, _, -, _, -, -, -, -, -, _, -, -, -, _, -, _, -, _, -, -, -,
    -, -, -, -, _, -, _, -, -, -, _, -, _, -, -, -, rfl⟩ := h
  exact .quiet (s := s) rfl (by simp) (by simp)

theorem voidCardTicket_logs {ticketId reason : String} {o : Outcome Unit}
    (h : voidCardTicket env s ticketId reason = .ok o) :
    Logs env s (.voidCardTicket ticketId reason) o.state.shown o.promises o.events := by
  simp only [voidCardTicket, bind_eq_ok, pure_eq_ok] at h
  obtain ⟨-, -, -, -, -, -, _, -, -, -, -, -, rfl⟩ := h
  exact .quiet (s := s) rfl (by simp) (by simp)

theorem revokeVatKey_logs {keyVersion : Nat} {o : Outcome Unit}
    (h : revokeVatKey env s keyVersion = .ok o) :
    Logs env s (.revokeVatKey keyVersion) o.state.shown o.promises o.events := by
  simp only [revokeVatKey, bind_eq_ok, pure_eq_ok] at h
  obtain ⟨-, -, -, -, rfl⟩ := h
  exact .governance (s := s) rfl (by simp [Keyless])

/-! ## Incoming USDC -/

theorem buyTicketV2_logs {senderId msg : String} {amount : Nat} {purchase : PurchaseMessageV2}
    {o : Outcome Nat} (h : buyTicketV2 env s amount purchase = .ok o) :
    Logs env s (.ftOnTransfer senderId amount msg) o.state.shown o.promises o.events := by
  simp only [buyTicketV2, bind_eq_ok] at h
  obtain ⟨-, -, _, -, key, -, _, -, -, -, _, -, _, -, vat, -, version, -, h⟩ := h
  rcases ite_eq_ok.mp h with ⟨-, h⟩ | ⟨-, h⟩
  · cases pure_eq_ok.mp h
    exact .quiet rfl (by simp [returnAll]) (by simp [returnAll])
  · obtain ⟨publication, -, h⟩ := bind_eq_ok.mp h
    rcases ite_eq_ok.mp h with ⟨-, h⟩ | ⟨-, h⟩
    · cases pure_eq_ok.mp h
      exact .quiet rfl (by simp [returnAll]) (by simp [returnAll])
    · simp only [bind_eq_ok, pure_eq_ok] at h
      obtain ⟨_, -, _, -, -, -, _, -, -, -, _, -, -, -, _, -, _, -, _, -, -, -, _, -, rfl⟩ := h
      exact .quiet (s := s) rfl (by simp) (by simp)

theorem admitJob_shown {request : PaidJobRequest} {quote : Option SponsoredUploadQuote}
    {s' : Contract} (h : admitJob env s request quote = .ok s') : s'.shown = s.shown := by
  simp only [admitJob, bind_eq_ok] at h
  obtain ⟨mid, hupload, h⟩ := h
  have hmid : mid.shown = s.shown := by
    rcases ite_eq_ok.mp hupload with ⟨-, hupload⟩ | ⟨-, hupload⟩
    · exact admitPublicUpload_shown hupload
    · rw [ok_eq_ok.mp hupload]
  rcases ite_eq_ok.mp h with ⟨-, h⟩ | ⟨-, h⟩
  · obtain ⟨_, -, hbeta⟩ := bind_eq_ok.mp h
    rw [admitPublicTestnetBetaJob_shown hbeta, hmid]
  · rw [← pure_eq_ok.mp h, hmid]

theorem acceptPaidJob_logs {senderId msg : String} {amount fee : Nat} {request : PaidJobRequest}
    {quote : Option SponsoredUploadQuote} {session : Option PlaybackSessionAuthorization}
    {o : Outcome Nat}
    (h : acceptPaidJob env s senderId amount request quote fee session = .ok o) :
    Logs env s (.ftOnTransfer senderId amount msg) o.state.shown o.promises o.events := by
  simp only [acceptPaidJob, bind_eq_ok, pure_eq_ok] at h
  obtain ⟨admitted, hadmit, created, hcreate, _, -, state, hdevice, -, -, rfl⟩ := h
  obtain ⟨hgeneration, hfresh, -, hstate, hevents⟩ := createUsdcPaidJob_logs hcreate
  have hadmitted := admitJob_shown hadmit
  have hjobs : admitted.mediaJobs = s.mediaJobs := congrArg Shown.mediaJobs hadmitted
  have hshown : state.shown =
      { s.shown with mediaJobs := s.mediaJobs.insert created.value.jobId created.value } := by
    rw [authorizePlaybackDevice_shown hdevice, hstate, ← hadmitted, ← hjobs]
    rfl
  show Logs env s _ state.shown [] created.events
  rw [hshown, hevents]
  rw [hjobs] at hfresh
  exact .jobAuthorized created.value rfl hfresh hgeneration

theorem payForJob_logs {senderId msg : String} {amount : Nat} {message : TransferMessage}
    {o : Outcome Nat}
    (h : payForJob env s senderId amount message = .ok o) :
    Logs env s (.ftOnTransfer senderId amount msg) o.state.shown o.promises o.events := by
  simp only [payForJob, bind_eq_ok] at h
  obtain ⟨⟨request, uploadFee⟩, -, h⟩ := h
  dsimp only at h
  obtain ⟨quote, -, h⟩ := h
  rcases ite_eq_ok.mp h with ⟨-, h⟩ | ⟨-, h⟩
  · cases pure_eq_ok.mp h
    exact .quiet rfl (by simp [returnAll]) (by simp [returnAll])
  rcases ite_eq_ok.mp h with ⟨-, h⟩ | ⟨-, h⟩
  · cases pure_eq_ok.mp h
    exact .quiet rfl (by simp [returnAll]) (by simp [returnAll])
  obtain ⟨_, -, h⟩ := bind_eq_ok.mp h
  split at h
  · simp only [bind_eq_ok, pure_eq_ok] at h
    obtain ⟨-, -, -, -, rfl⟩ := h
    exact .quiet rfl (by simp [returnAll]) (by simp [returnAll])
  · rcases ite_eq_ok.mp h with ⟨-, h⟩ | ⟨-, h⟩
    · cases pure_eq_ok.mp h
      exact .quiet rfl (by simp [returnAll]) (by simp [returnAll])
    · exact acceptPaidJob_logs h

theorem ftOnTransfer_logs {senderId msg : String} {amount : Nat} {o : Outcome Nat}
    (h : ftOnTransfer env s senderId amount msg = .ok o) :
    Logs env s (.ftOnTransfer senderId amount msg) o.state.shown o.promises o.events := by
  simp only [ftOnTransfer, bind_eq_ok] at h
  obtain ⟨_, -, -, -, h⟩ := h
  rcases ite_eq_ok.mp h with ⟨-, h⟩ | ⟨-, h⟩
  · obtain ⟨purchase, -, h⟩ := bind_eq_ok.mp h
    exact buyTicketV2_logs h
  · simp only [bind_eq_ok] at h
    obtain ⟨_, -, -, -, h⟩ := h
    rcases ite_eq_ok.mp h with ⟨-, h⟩ | ⟨-, h⟩
    · exact payForJob_logs h
    · exact (error_eq_ok.mp h).elim

/-! ## Withdrawals -/

theorem withdrawCreatorBalance_logs {o : Outcome Unit}
    (h : withdrawCreatorBalance env s = .ok o) :
    Logs env s .withdrawCreatorBalance o.state.shown o.promises o.events := by
  simp only [withdrawCreatorBalance, bind_eq_ok, pure_eq_ok] at h
  obtain ⟨-, -, _, -, rfl⟩ := h
  exact .creatorWithdrawal rfl rfl rfl

theorem withdrawPlatformBalance_logs {o : Outcome Unit}
    (h : withdrawPlatformBalance env s = .ok o) :
    Logs env s .withdrawPlatformBalance o.state.shown o.promises o.events := by
  simp only [withdrawPlatformBalance, bind_eq_ok, pure_eq_ok] at h
  obtain ⟨-, -, -, -, _, -, rfl⟩ := h
  exact .platformWithdrawal

theorem withdrawTaxBalance_logs {o : Outcome Unit} (h : withdrawTaxBalance env s = .ok o) :
    Logs env s .withdrawTaxBalance o.state.shown o.promises o.events := by
  simp only [withdrawTaxBalance, bind_eq_ok, pure_eq_ok] at h
  obtain ⟨-, -, -, -, _, -, rfl⟩ := h
  exact .quiet (s := s) rfl (by simp [Promise.withdrawalId, Promise.callback]) (by simp)

/-- A callback that only restores a balance when its transfer failed. -/
theorem restoring_logs {callback : Callback} {o : Outcome Bool}
    (hquiet : (Call.callback callback).announces env s = none)
    (h : o.state.shown = s.shown ∧ o.promises = [] ∧ o.events = []) :
    Logs env s (.callback callback) o.state.shown o.promises o.events := by
  obtain ⟨hshown, hpromises, hevents⟩ := h
  rw [hshown, hpromises, hevents]
  exact .quiet hquiet (by simp) (by simp)

theorem onCreatorWithdraw_logs {creatorId withdrawalId : String} {amount : Nat}
    {o : Outcome Bool} (h : onCreatorWithdraw env s creatorId amount withdrawalId = .ok o) :
    Logs env s (.callback (.onCreatorWithdraw creatorId amount withdrawalId)) o.state.shown
      o.promises o.events := by
  simp only [onCreatorWithdraw, bind_eq_ok] at h
  obtain ⟨-, -, result, -, h⟩ := h
  cases result with
  | successful =>
    cases pure_eq_ok.mp h
    exact .creatorWithdrawn (.inl ⟨rfl, rfl⟩)
  | failed =>
    simp only [bind_eq_ok, pure_eq_ok] at h
    obtain ⟨_, -, rfl⟩ := h
    exact .creatorWithdrawn (s := s) (.inr ⟨rfl, rfl⟩)

theorem onPlatformWithdraw_logs {amount : Nat} {o : Outcome Bool}
    (h : onPlatformWithdraw env s amount = .ok o) :
    Logs env s (.callback (.onPlatformWithdraw amount)) o.state.shown o.promises o.events := by
  simp only [onPlatformWithdraw, bind_eq_ok] at h
  obtain ⟨-, -, result, -, h⟩ := h
  cases result with
  | successful =>
    cases pure_eq_ok.mp h
    exact restoring_logs rfl ⟨rfl, rfl, rfl⟩
  | failed =>
    simp only [bind_eq_ok, pure_eq_ok] at h
    obtain ⟨_, -, rfl⟩ := h
    exact restoring_logs rfl ⟨rfl, rfl, rfl⟩

theorem onTaxWithdraw_logs {amount : Nat} {o : Outcome Bool}
    (h : onTaxWithdraw env s amount = .ok o) :
    Logs env s (.callback (.onTaxWithdraw amount)) o.state.shown o.promises o.events := by
  simp only [onTaxWithdraw, bind_eq_ok] at h
  obtain ⟨-, -, result, -, h⟩ := h
  cases result with
  | successful =>
    cases pure_eq_ok.mp h
    exact restoring_logs rfl ⟨rfl, rfl, rfl⟩
  | failed =>
    simp only [bind_eq_ok, pure_eq_ok] at h
    obtain ⟨_, -, rfl⟩ := h
    exact restoring_logs rfl ⟨rfl, rfl, rfl⟩

theorem onPlatformNearWithdraw_logs {amount : Nat} {o : Outcome Bool}
    (h : onPlatformNearWithdraw env s amount = .ok o) :
    Logs env s (.callback (.onPlatformNearWithdraw amount)) o.state.shown o.promises
      o.events := by
  simp only [onPlatformNearWithdraw, bind_eq_ok] at h
  obtain ⟨-, -, result, -, h⟩ := h
  cases result with
  | successful =>
    cases pure_eq_ok.mp h
    exact restoring_logs rfl ⟨rfl, rfl, rfl⟩
  | failed =>
    simp only [bind_eq_ok, pure_eq_ok] at h
    obtain ⟨_, -, rfl⟩ := h
    exact restoring_logs rfl ⟨rfl, rfl, rfl⟩

/-! ## Every method -/

theorem runCallback_logs {callback : Callback} {o : Outcome Bool}
    (h : runCallback env s callback = .ok o) :
    Logs env s (.callback callback) o.state.shown o.promises o.events := by
  cases callback with
  | onTicketRefund => exact onTicketRefund_logs h
  | onCreatorWithdraw => exact onCreatorWithdraw_logs h
  | onPlatformWithdraw => exact onPlatformWithdraw_logs h
  | onTaxWithdraw => exact onTaxWithdraw_logs h
  | onPlatformNearWithdraw => exact onPlatformNearWithdraw_logs h

/-- Forgetting the return value keeps the log. -/
theorem Logs.ofVoid {α : Type} {c : Call} {x : Result (Outcome α)} {o : Outcome Unit}
    (hx : ∀ {o : Outcome α}, x = .ok o → Logs env s c o.state.shown o.promises o.events)
    (h : (x >>= fun o => pure o.void) = .ok o) :
    Logs env s c o.state.shown o.promises o.events := by
  obtain ⟨o', ho', h⟩ := bind_eq_ok.mp h
  cases pure_eq_ok.mp h
  exact hx ho'

/-- The log of a call that did not panic. -/
theorem Call.run_logs {c : Call} {o : Outcome Unit} (h : c.run env s = .ok o) :
    Logs env s c o.state.shown o.promises o.events := by
  obtain ⟨-, -, h⟩ := bind_eq_ok.mp h
  cases c with
  | freezeBridge => exact freezeBridge_logs h
  | requestBridgeUnfreeze => exact .ofVoid requestBridgeUnfreeze_logs h
  | cancelBridgeUnfreeze => exact cancelBridgeUnfreeze_logs h
  | unfreezeBridge => exact unfreezeBridge_logs h
  | pauseNewPurchases => exact pauseNewPurchases_logs h
  | requestNewPurchasesUnpause => exact .ofVoid requestNewPurchasesUnpause_logs h
  | cancelNewPurchasesUnpause => exact cancelNewPurchasesUnpause_logs h
  | unpauseNewPurchases => exact unpauseNewPurchases_logs h
  | startPublicTestnetBeta => exact .ofVoid startPublicTestnetBeta_logs h
  | closePublicTestnetBeta => exact .ofVoid closePublicTestnetBeta_logs h
  | proposeBridge => exact proposeBridge_logs h
  | cancelBridgeRotation => exact cancelBridgeRotation_logs h
  | executeBridgeRotation => exact executeBridgeRotation_logs h
  | proposeRoleRotation => exact .ofVoid proposeRoleRotation_logs h
  | cancelRoleRotation => exact cancelRoleRotation_logs h
  | executeRoleRotation => exact executeRoleRotation_logs h
  | proposeCodeUpgrade => exact .ofVoid proposeCodeUpgrade_logs h
  | cancelCodeUpgrade => exact cancelCodeUpgrade_logs h
  | executeCodeUpgrade => exact executeCodeUpgrade_logs h
  | migrate => exact migrate_logs h
  | createPaidJob => exact .ofVoid createPaidJob_logs h
  | createPaidJobNear => exact .ofVoid createPaidJobNear_logs h
  | replaceUploadKey => exact .ofVoid replaceUploadKey_logs h
  | rotateQuotePublicKey => exact rotateQuotePublicKey_logs h
  | restartPaidJob => exact .ofVoid restartPaidJob_logs h
  | setPublicUploadFullHd => exact .ofVoid setPublicUploadFullHd_logs h
  | activatePlaybackDevice => exact activatePlaybackDevice_logs h
  | finalizePublication => exact .ofVoid finalizePublication_logs h
  | suspendSales => exact .ofVoid suspendSales_logs h
  | takedownPublication => exact .ofVoid takedownPublication_logs h
  | ftOnTransfer => exact .ofVoid ftOnTransfer_logs h
  | withdrawCreatorBalance => exact withdrawCreatorBalance_logs h
  | withdrawPlatformBalance => exact withdrawPlatformBalance_logs h
  | withdrawTaxBalance => exact withdrawTaxBalance_logs h
  | withdrawPlatformNear => exact withdrawPlatformNear_logs h
  | markWatched => exact .ofVoid markWatched_logs h
  | refundTicket => exact refundTicket_logs h
  | releaseExpired => exact .ofVoid releaseExpired_logs h
  | addDevice => exact .ofVoid addDevice_logs h
  | revokeDevice => exact revokeDevice_logs h
  | platformRevokeDevice => exact platformRevokeDevice_logs h
  | issueCardTicket => exact .ofVoid issueCardTicket_logs h
  | voidCardTicket => exact voidCardTicket_logs h
  | revokeVatKey => exact revokeVatKey_logs h
  | callback => exact .ofVoid runCallback_logs h

end Youtick.MarketV2
