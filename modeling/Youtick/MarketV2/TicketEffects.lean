import Youtick.MarketV2.UploadEffects

/-!
# Market V2: effects of the ticket, transfer and withdrawal methods

What the methods that touch tickets or balances did, read off a call that succeeded. The last
section collects the effect of every method in `Call.run_effect`.
-/

set_option autoImplicit false

namespace Youtick.MarketV2

open Youtick.Lib

variable {env : Env} {s : Contract}

/-! ## Shared parts -/

theorem newTicketDevice_ok {key certificate : String} {device : TicketDevice}
    (h : newTicketDevice env key certificate = .ok device) :
    device = {
      sessionPublicKey := key
      certificateSha256 := certificate
      authorizedAtMs := env.blockTimestampMs
      expiresAtMs := env.blockTimestampMs + playbackDeviceLifetimeMs } := by
  simp only [newTicketDevice, bind_eq_ok, checkedAdd_eq_ok, pure_eq_ok] at h
  obtain ⟨_, ⟨-, rfl⟩, rfl⟩ := h
  rfl

theorem callbackResult_ok {message : String} {result : PromiseResult}
    (h : callbackResult env message = .ok result) : env.promiseResults = [result] := by
  unfold callbackResult at h
  split at h
  · next hresults => rw [hresults, ok_eq_ok.mp h]
  · exact (error_eq_ok.mp h).elim

/-- A ticket change as the effect of a whole call. -/
theorem Effect.ofTicket {c : Call} {k : String} {old : Option Ticket} {new : Ticket} {flow : Flow}
    (hget : s.tickets.get k = old) (hstep : TicketStep env s c k old new flow)
    (hcovered : flow.Covered new s.toTill) :
    Effect env s c
      { s with toTill := flow.apply new { s.toTill with tickets := s.tickets.insert k new } }
      (flow.sends k new) :=
  .ofTill (fun _ => .once (.ticket hget hstep hcovered)) (by
    cases flow <;> simp [Flow.sends, Promise.isDeploy])

/-! ## Watching and refunds -/

theorem markWatched_effect {ticketId : String} {o : Outcome Bool}
    (h : markWatched env s ticketId = .ok o) :
    Effect env s (.markWatched ticketId) o.state o.promises := by
  simp only [markWatched, bind_eq_ok, expect_eq_ok] at h
  obtain ⟨-, -, ticket, hget, h⟩ := h
  split at h
  · cases pure_eq_ok.mp h
    exact .refl rfl
  · cases pure_eq_ok.mp h
    exact .refl rfl
  · cases pure_eq_ok.mp h
    exact .refl rfl
  · exact (error_eq_ok.mp h).elim
  · exact (error_eq_ok.mp h).elim
  · next hpurchased =>
      simp only [bind_eq_ok, pure_eq_ok] at h
      obtain ⟨_, -, -, -, rfl⟩ := h
      exact .ofTicket hget (.watched hpurchased rfl) trivial

theorem refundTicket_effect {ticketId expiresAtMs signature : String} {refundTo : AccountId}
    {o : Outcome Unit} (h : refundTicket env s ticketId refundTo expiresAtMs signature = .ok o) :
    Effect env s (.refundTicket ticketId refundTo expiresAtMs signature) o.state o.promises := by
  simp only [refundTicket, bind_eq_ok, expect_eq_ok, require_eq_ok, checkWhen_eq_ok,
    checkedAdd_eq_ok, checkedSub_eq_ok, pure_eq_ok] at h
  obtain ⟨ticket, hget, -, hescrow, -, hoperator, -, hpaused, -, hwindow, _, -, _, -, _, -, _, -,
    -, -, _, ⟨hcovered, rfl⟩, _, -, rfl⟩ := h
  have hallowed : RefundAllowed env s ticket := by
    cases htaken : takenDown s ticket.publicationId with
    | true => exact .inl htaken
    | false =>
      obtain ⟨_, ⟨-, rfl⟩, hopen⟩ := hwindow htaken
      rw [htaken] at hoperator hpaused
      exact .inr ⟨hoperator.resolve_left (by simp), hpaused.resolve_left (by simp), hopen⟩
  exact .ofTicket hget (.refundStarted hescrow hallowed) hcovered

theorem onTicketRefund_effect {ticketId : String} {receiverId : AccountId} {amount : Nat}
    {restoreStatus : Option TicketStatus} {o : Outcome Bool}
    (h : onTicketRefund env s ticketId receiverId amount restoreStatus = .ok o) :
    Effect env s (.callback (.onTicketRefund ticketId receiverId amount restoreStatus))
      o.state o.promises := by
  simp only [onTicketRefund, bind_eq_ok, expect_eq_ok] at h
  obtain ⟨-, -, result, hresult, ticket, hget, h⟩ := h
  cases result with
  | successful =>
    cases pure_eq_ok.mp h
    exact .ofTicket hget (.refundFinished (callbackResult_ok hresult)) trivial
  | failed =>
    simp only [bind_eq_ok, checkedAdd_eq_ok, pure_eq_ok] at h
    obtain ⟨_, ⟨-, rfl⟩, rfl⟩ := h
    exact .ofTicket hget (.refundRestored (callbackResult_ok hresult)) trivial

/-! ## Releases -/

theorem settleTicket_ok {ticket : Ticket} {s' : Contract} (h : settleTicket s ticket = .ok s') :
    ticket.grossUsdcMicro ≤ s.escrowBalance ∧
      s' = { s with toTill := Flow.apply ticket s.toTill .settle } := by
  simp only [settleTicket, creditCreator, bind_eq_ok, checkedSub_eq_ok, checkedAdd_eq_ok,
    pure_eq_ok] at h
  obtain ⟨_, ⟨hcovered, rfl⟩, _, ⟨-, rfl⟩, _, ⟨-, rfl⟩, _, ⟨-, rfl⟩, rfl⟩ := h
  exact ⟨hcovered, rfl⟩

/-- One pass of the release loop is a single release. -/
theorem releaseOne_step {ids : List String} {ticketId : String} (hmem : ticketId ∈ ids)
    {t : Till} {s' : Contract} {event : Event}
    (h : releaseOne env { s with toTill := t } ticketId = .ok (some (s', event))) :
    ∃ t', s' = { s with toTill := t' } ∧ TillStep env s (.releaseExpired ids) t [] t' := by
  unfold releaseOne at h
  split at h
  · simp at h
  · next ticket hget =>
      simp only [bind_eq_ok, checkedAdd_eq_ok] at h
      obtain ⟨_, ⟨-, rfl⟩, h⟩ := h
      rcases ite_eq_ok.mp h with ⟨-, h⟩ | ⟨hdue, h⟩
      · simp [pure_eq_ok] at h
      · simp only [bind_eq_ok, pure_eq_ok, Option.some.injEq, Prod.mk.injEq] at h
        obtain ⟨settled, hsettle, rfl, -⟩ := h
        obtain ⟨hcovered, rfl⟩ := settleTicket_ok hsettle
        simp only [not_or, not_not, not_lt] at hdue
        have hreleased : ReleaseDue env s ticket := ⟨hdue.1, hdue.2.1, Bool.eq_false_iff.mpr hdue.2.2⟩
        exact ⟨_, rfl, .ticket hget (.released hmem hreleased) hcovered⟩

theorem releaseLoop_run {ids rest : List String} (hsub : rest ⊆ ids) {t : Till} {s' : Contract}
    {released : Nat} {events : List Event}
    (h : releaseLoop env { s with toTill := t } rest = .ok (s', released, events)) :
    ∃ t', s' = { s with toTill := t' } ∧ ReleaseRun env s ids t t' := by
  induction rest generalizing t s' released events with
  | nil =>
    simp only [releaseLoop, ok_eq_ok, Prod.mk.injEq] at h
    exact ⟨t, h.1.symm, .refl⟩
  | cons ticketId rest ih =>
    have hmem : ticketId ∈ ids := hsub List.mem_cons_self
    have hrest : rest ⊆ ids := fun _ hx => hsub (List.mem_cons_of_mem _ hx)
    simp only [releaseLoop, bind_eq_ok] at h
    obtain ⟨result, hone, h⟩ := h
    cases result with
    | none => exact ih hrest h
    | some result =>
      obtain ⟨s₁, event⟩ := result
      obtain ⟨t₁, rfl, hstep⟩ := releaseOne_step hmem hone
      simp only [bind_eq_ok] at h
      obtain ⟨⟨last, n, evs⟩, hloop, h⟩ := h
      simp only [pure_eq_ok, Prod.mk.injEq] at h
      obtain ⟨t', rfl, hrun⟩ := ih hrest hloop
      exact ⟨t', h.1.symm, .head hstep hrun⟩

theorem releaseExpired_effect {ticketIds : List String} {o : Outcome Nat}
    (h : releaseExpired env s ticketIds = .ok o) :
    Effect env s (.releaseExpired ticketIds) o.state o.promises := by
  simp only [releaseExpired, bind_eq_ok] at h
  obtain ⟨-, -, ⟨state, released, events⟩, hloop, h⟩ := h
  simp only [pure_eq_ok] at h
  obtain ⟨-, -, rfl⟩ := h
  obtain ⟨t', rfl, hrun⟩ := releaseLoop_run (t := s.toTill) (List.Subset.refl ticketIds) hloop
  exact .ofTill (fun _ => .batch hrun) (by simp)

/-! ## Devices -/

theorem addDevice_ok {ticketId key certificate epoch expiresAtMs signature : String}
    {o : Outcome TicketDevice}
    (h : addDevice env s ticketId key certificate epoch expiresAtMs signature = .ok o) :
    ∃ ticket new, s.tickets.get ticketId = some ticket ∧
      TicketStep env s (.addDevice ticketId key certificate epoch expiresAtMs signature) ticketId
        (some ticket) new .still ∧
      o.state = { s with tickets := s.tickets.insert ticketId new } ∧ o.promises = [] := by
  simp only [addDevice, playableTicket, bind_eq_ok, expect_eq_ok, require_eq_ok, pure_eq_ok] at h
  obtain ⟨ticket, ⟨_, hget, -, hplayable, _, -, -, -, rfl⟩, _, -, -, -, -, -, _, hepoch,
    ⟨evicted, events⟩, hevicted, device, hdevice, -, -, rfl⟩ := h
  exact ⟨_, _, hget, .deviceAdded hplayable hepoch hevicted hdevice, rfl, rfl⟩

theorem addDevice_effect {ticketId key certificate epoch expiresAtMs signature : String}
    {o : Outcome TicketDevice}
    (h : addDevice env s ticketId key certificate epoch expiresAtMs signature = .ok o) :
    Effect env s (.addDevice ticketId key certificate epoch expiresAtMs signature)
      o.state o.promises := by
  obtain ⟨ticket, new, hget, hstep, hstate, hpromises⟩ := addDevice_ok h
  rw [hstate, hpromises]
  exact .ofTicket hget hstep trivial

theorem revokeTicketDevice_ok {ticket : Ticket} {key : String} {o : Outcome Unit}
    (h : revokeTicketDevice s ticket key = .ok o) :
    o.promises = [] ∧ o.state = { s with tickets := s.tickets.insert ticket.ticketId { ticket with
      devices := ticket.devices.filter fun device => decide (device.sessionPublicKey ≠ key)
      deviceEpoch := ticket.deviceEpoch + 1 } } := by
  simp only [revokeTicketDevice, bind_eq_ok, checkedAdd_eq_ok, pure_eq_ok] at h
  obtain ⟨_, ⟨-, rfl⟩, rfl⟩ := h
  exact ⟨rfl, rfl⟩

/-- Both revocations, for a ticket stored under its own id. -/
theorem Effect.ofRevocation {c : Call} {ticketId key : String} {ticket : Ticket} {o : Outcome Unit}
    (hget : s.tickets.get ticketId = some ticket)
    (hc : (∃ epoch expiresAtMs signature, c = .revokeDevice ticketId key epoch expiresAtMs signature ∧
      assertDeviceEpoch ticket epoch = .ok ⟨⟩) ∨ c = .platformRevokeDevice ticketId key)
    (h : revokeTicketDevice s ticket key = .ok o) : Effect env s c o.state o.promises := by
  obtain ⟨hpromises, hstate⟩ := revokeTicketDevice_ok h
  rw [hpromises, hstate]
  refine .ofTill (fun hkeyed => ?_) (by simp)
  obtain rfl : ticket.ticketId = ticketId := hkeyed ticketId ticket hget
  exact .once (.ticket hget (.deviceRevoked hc) trivial)

theorem revokeDevice_effect {ticketId key epoch expiresAtMs signature : String} {o : Outcome Unit}
    (h : revokeDevice env s ticketId key epoch expiresAtMs signature = .ok o) :
    Effect env s (.revokeDevice ticketId key epoch expiresAtMs signature) o.state o.promises := by
  simp only [revokeDevice, bind_eq_ok, expect_eq_ok] at h
  obtain ⟨ticket, hget, _, -, -, -, _, hepoch, h⟩ := h
  exact .ofRevocation hget (.inl ⟨epoch, expiresAtMs, signature, rfl, hepoch⟩) h

theorem platformRevokeDevice_effect {ticketId key : String} {o : Outcome Unit}
    (h : platformRevokeDevice env s ticketId key = .ok o) :
    Effect env s (.platformRevokeDevice ticketId key) o.state o.promises := by
  simp only [platformRevokeDevice, bind_eq_ok, expect_eq_ok] at h
  obtain ⟨-, -, ticket, hget, _, -, h⟩ := h
  exact .ofRevocation hget (.inr rfl) h

/-! ## Card tickets and VAT keys -/

theorem issueCardTicket_effect
    {ticketPublicKey publicationId hmac grossMinor currency : String} {device : SignedTicketDevice}
    {o : Outcome Ticket}
    (h : issueCardTicket env s ticketPublicKey publicationId device hmac grossMinor currency =
      .ok o) :
    Effect env s (.issueCardTicket ticketPublicKey publicationId device hmac grossMinor currency)
      o.state o.promises := by
  simp only [issueCardTicket, bind_eq_ok, expect_eq_ok, require_eq_ok, pure_eq_ok] at h
  obtain ⟨-, -, -, -, -, -, -, -, -, -, key, hkey, _, -, -, -, -, -, gross, -, -, -, -, -, _, -,
    publication, hpublication, -, hactive, -, hfresh, -, hunused, _, -, _, -, -, -, _, -, first,
    hfirst, -, -, rfl⟩ := h
  have hissue : CardIssue env s hmac (cardTicket env (hexSha256 env.toHost key) ticketPublicKey
      publicationId publication.creatorId first ⟨hmac, gross, currency⟩) := {
    publication := ⟨publication, hpublication, hactive, rfl⟩
    key := ⟨key, hkey, rfl⟩
    status := rfl
    purchasedAtMs := rfl
    deviceEpoch := rfl
    device := ⟨first, rfl, newTicketDevice_ok hfirst ▸ rfl⟩
    rail := rfl
    gross := rfl
    vat := rfl
    platform := rfl
    creator := rfl
    card := rfl
    fresh := hunused }
  exact .ofTicket hfresh (.issued hissue) trivial

theorem voidCardTicket_effect {ticketId reason : String} {o : Outcome Unit}
    (h : voidCardTicket env s ticketId reason = .ok o) :
    Effect env s (.voidCardTicket ticketId reason) o.state o.promises := by
  simp only [voidCardTicket, bind_eq_ok, expect_eq_ok, require_eq_ok, pure_eq_ok] at h
  obtain ⟨-, -, -, -, -, -, ticket, hget, -, hrail, -, hstatus, rfl⟩ := h
  exact .ofTicket hget (.voided hrail hstatus) trivial

theorem revokeVatKey_effect {keyVersion : Nat} {o : Outcome Unit}
    (h : revokeVatKey env s keyVersion = .ok o) :
    Effect env s (.revokeVatKey keyVersion) o.state o.promises := by
  simp only [revokeVatKey, bind_eq_ok, pure_eq_ok] at h
  obtain ⟨-, -, -, -, rfl⟩ := h
  exact .ofTill (fun _ => .once .vatKeyRevoked) (by simp)

/-! ## Incoming USDC -/

/-- The three ways `ft_on_transfer` returns. -/
inductive Received (env : Env) (s : Contract) (amount : Nat) : Outcome Nat → Prop where
  | returned : Received env s amount (returnAll s amount)
  | job (job : MediaJob) (uploads : Uploads) (events : List Event)
      (hfresh : s.mediaJobs.get job.jobId = none) (hstatus : job.status = .authorized)
      (hfee : job.feeAmount = amount) (hbound : s.platformBalance + amount ≤ maxOf 128) :
      Received env s amount {
        state := { s with
          mediaJobs := s.mediaJobs.insert job.jobId job
          toUploads := uploads
          platformBalance := s.platformBalance + amount }
        value := 0
        events := events }
  | ticket (ticket : Ticket) (events : List Event)
      (hfresh : s.tickets.get ticket.ticketId = none) (hsale : CryptoSale env s amount ticket)
      (hbound : s.escrowBalance + amount ≤ maxOf 128) :
      Received env s amount {
        state := { s with
          tickets := s.tickets.insert ticket.ticketId ticket
          escrowBalance := s.escrowBalance + amount }
        value := 0
        events := events }

theorem buyTicketV2_ok {amount : Nat} {purchase : PurchaseMessageV2} {o : Outcome Nat}
    (h : buyTicketV2 env s amount purchase = .ok o) : Received env s amount o := by
  simp only [buyTicketV2, bind_eq_ok] at h
  obtain ⟨-, -, -, -, key, hkey, _, -, -, -, _, -, _, -, vat, -, version, -, h⟩ := h
  rcases ite_eq_ok.mp h with ⟨-, h⟩ | ⟨-, h⟩
  · cases pure_eq_ok.mp h
    exact .returned
  · simp only [bind_eq_ok, expect_eq_ok] at h
    obtain ⟨publication, hpublication, h⟩ := h
    rcases ite_eq_ok.mp h with ⟨-, h⟩ | ⟨hsale, h⟩
    · cases pure_eq_ok.mp h
      exact .returned
    · simp only [not_or, not_not] at hsale
      obtain ⟨hactive, -, hfresh⟩ := hsale
      simp only [bind_eq_ok, checkedAdd_eq_ok, pure_eq_ok] at h
      obtain ⟨_, -, _, -, -, -, _, -, -, -, _, -, -, -, split, hsplit, first, hfirst, _,
        ⟨hbound, rfl⟩, -, -, _, -, rfl⟩ := h
      have hsale : CryptoSale env s amount (cryptoTicket env (hexSha256 env.toHost key) purchase
          publication.creatorId amount split version first) := {
        publication := ⟨publication, hpublication, hactive, rfl⟩
        key := ⟨key, hkey, rfl⟩
        status := rfl
        purchasedAtMs := rfl
        deviceEpoch := rfl
        device := ⟨first, rfl, newTicketDevice_ok hfirst ▸ rfl⟩
        rail := rfl
        card := rfl
        gross := rfl
        split := splitTicketAmount_ok hsplit }
      exact .ticket _ _ hfresh hsale hbound

theorem admitJob_ok {request : PaidJobRequest} {quote : Option SponsoredUploadQuote} {s' : Contract}
    (h : admitJob env s request quote = .ok s') : ∃ uploads, s' = { s with toUploads := uploads } := by
  simp only [admitJob, bind_eq_ok] at h
  obtain ⟨s₁, hupload, h⟩ := h
  have h₁ : ∃ uploads, s₁ = { s with toUploads := uploads } := by
    rcases ite_eq_ok.mp hupload with ⟨-, hupload⟩ | ⟨-, hupload⟩
    · exact admitPublicUpload_ok hupload
    · exact ⟨s.toUploads, (ok_eq_ok.mp hupload).symm⟩
  obtain ⟨uploads, rfl⟩ := h₁
  rcases ite_eq_ok.mp h with ⟨-, h⟩ | ⟨-, h⟩
  · simp only [bind_eq_ok] at h
    obtain ⟨_, -, hbeta⟩ := h
    obtain ⟨uploads', rfl⟩ := admitPublicTestnetBetaJob_ok hbeta
    exact ⟨uploads', rfl⟩
  · exact ⟨uploads, (pure_eq_ok.mp h).symm⟩

theorem acceptPaidJob_ok {senderId : AccountId} {amount fee : Nat} {request : PaidJobRequest}
    {quote : Option SponsoredUploadQuote} {session : Option PlaybackSessionAuthorization}
    {o : Outcome Nat} (hfee : amount = fee)
    (h : acceptPaidJob env s senderId amount request quote fee session = .ok o) :
    Received env s amount o := by
  simp only [acceptPaidJob, bind_eq_ok, checkedAdd_eq_ok, pure_eq_ok] at h
  obtain ⟨admitted, hadmit, created, hcreate, _, ⟨hbound, rfl⟩, state, hdevice, -, -, rfl⟩ := h
  obtain ⟨uploads, rfl⟩ := admitJob_ok hadmit
  obtain ⟨hfresh, hvalue, hstate, -⟩ := createUsdcPaidJob_ok hcreate
  obtain ⟨uploads', rfl⟩ := authorizePlaybackDevice_ok hdevice
  rw [hstate] at hbound
  rw [hstate, hvalue]
  exact .job (authorizedJob env request .usdc fee fee _) uploads' _ hfresh rfl hfee.symm hbound

theorem payForJob_ok {senderId : AccountId} {amount : Nat} {message : TransferMessage}
    {o : Outcome Nat} (h : payForJob env s senderId amount message = .ok o) :
    Received env s amount o := by
  simp only [payForJob, bind_eq_ok] at h
  obtain ⟨⟨request, uploadFee⟩, -, h⟩ := h
  dsimp only at h
  obtain ⟨quote, -, h⟩ := h
  rcases ite_eq_ok.mp h with ⟨-, h⟩ | ⟨-, h⟩
  · cases pure_eq_ok.mp h
    exact .returned
  rcases ite_eq_ok.mp h with ⟨-, h⟩ | ⟨-, h⟩
  · cases pure_eq_ok.mp h
    exact .returned
  simp only [bind_eq_ok, require_eq_ok] at h
  obtain ⟨-, hfee, h⟩ := h
  split at h
  · simp only [bind_eq_ok, pure_eq_ok] at h
    obtain ⟨-, -, -, -, rfl⟩ := h
    exact .returned
  · rcases ite_eq_ok.mp h with ⟨-, h⟩ | ⟨-, h⟩
    · cases pure_eq_ok.mp h
      exact .returned
    · exact acceptPaidJob_ok hfee h

/-- Every path of `ft_on_transfer` that does not panic. -/
theorem ftOnTransfer_ok {senderId : AccountId} {amount : Nat} {msg : String} {o : Outcome Nat}
    (h : ftOnTransfer env s senderId amount msg = .ok o) :
    (∃ usdc, usdcContractId env = .ok usdc ∧ env.predecessorAccountId = usdc) ∧
      Received env s amount o := by
  simp only [ftOnTransfer, bind_eq_ok, require_eq_ok] at h
  obtain ⟨usdc, husdc, -, hcaller, h⟩ := h
  refine ⟨⟨usdc, husdc, hcaller⟩, ?_⟩
  rcases ite_eq_ok.mp h with ⟨-, h⟩ | ⟨-, h⟩
  · simp only [bind_eq_ok] at h
    obtain ⟨purchase, -, h⟩ := h
    exact buyTicketV2_ok h
  · simp only [bind_eq_ok] at h
    obtain ⟨message, -, -, -, h⟩ := h
    rcases ite_eq_ok.mp h with ⟨-, h⟩ | ⟨-, h⟩
    · exact payForJob_ok h
    · exact (error_eq_ok.mp h).elim

theorem ftOnTransfer_effect {senderId : AccountId} {amount : Nat} {msg : String} {o : Outcome Nat}
    (h : ftOnTransfer env s senderId amount msg = .ok o) :
    Effect env s (.ftOnTransfer senderId amount msg) o.state o.promises := by
  cases (ftOnTransfer_ok h).2 with
  | returned => exact .refl rfl
  | job job uploads events hfresh hstatus hfee hbound =>
    exact {
      roles := .same
      controls := .same (by simp)
      catalog := .newJob job hfresh hstatus
      till := fun _ => .once .jobFee }
  | ticket ticket events hfresh hsale hbound =>
    obtain rfl := hsale.gross
    exact .ofTicket hfresh (.sold hsale) trivial

/-! ## Withdrawals -/

/-- A withdrawal as the effect of a whole call. -/
theorem Effect.ofWithdrawal {c : Call} (pot : Pot) {receiverId : AccountId} {memo : String}
    {callback : Callback} (hc : c.settlesUsdc = false)
    (hcallback : pot.Callback (s.toTill.balance pot) callback) :
    Effect env s c { s with toTill := s.toTill.setBalance 0 pot }
      [.ftTransfer receiverId (s.toTill.balance pot) memo callback] :=
  .ofTill (fun _ => .once (.withdrawn hc hcallback)) (by simp [Promise.isDeploy])

/-- A withdrawal callback as the effect of a whole call. -/
theorem Effect.ofSettled {pot : Pot} {amount : Nat} {callback : Callback} {till : Till}
    (hcallback : pot.Callback amount callback)
    (h : (env.promiseResults = [.successful] ∧ till = s.toTill) ∨
      (env.promiseResults = [.failed] ∧ till = s.toTill.credit pot amount)) :
    Effect env s (.callback callback) { s with toTill := till } [] := by
  refine .ofTill (fun _ => .once ?_) (by simp)
  rcases h with ⟨hresult, rfl⟩ | ⟨hresult, rfl⟩
  · exact .withdrawalFinished hcallback hresult
  · exact .withdrawalRestored hcallback hresult

theorem withdrawCreatorBalance_effect {o : Outcome Unit}
    (h : withdrawCreatorBalance env s = .ok o) :
    Effect env s .withdrawCreatorBalance o.state o.promises := by
  simp only [withdrawCreatorBalance, bind_eq_ok, pure_eq_ok] at h
  obtain ⟨-, -, _, -, rfl⟩ := h
  exact .ofWithdrawal (.creator env.predecessorAccountId) rfl .creator

theorem withdrawPlatformBalance_effect {o : Outcome Unit}
    (h : withdrawPlatformBalance env s = .ok o) :
    Effect env s .withdrawPlatformBalance o.state o.promises := by
  simp only [withdrawPlatformBalance, bind_eq_ok, pure_eq_ok] at h
  obtain ⟨-, -, -, -, _, -, rfl⟩ := h
  exact .ofWithdrawal .platform rfl .platform

theorem withdrawTaxBalance_effect {o : Outcome Unit} (h : withdrawTaxBalance env s = .ok o) :
    Effect env s .withdrawTaxBalance o.state o.promises := by
  simp only [withdrawTaxBalance, bind_eq_ok, pure_eq_ok] at h
  obtain ⟨-, -, -, -, _, -, rfl⟩ := h
  exact .ofWithdrawal .tax rfl .tax

theorem onCreatorWithdraw_effect {creatorId withdrawalId : String} {amount : Nat}
    {o : Outcome Bool} (h : onCreatorWithdraw env s creatorId amount withdrawalId = .ok o) :
    Effect env s (.callback (.onCreatorWithdraw creatorId amount withdrawalId))
      o.state o.promises := by
  simp only [onCreatorWithdraw, bind_eq_ok] at h
  obtain ⟨-, -, result, hresult, h⟩ := h
  cases result with
  | successful =>
    cases pure_eq_ok.mp h
    exact .ofSettled .creator (.inl ⟨callbackResult_ok hresult, rfl⟩)
  | failed =>
    simp only [bind_eq_ok, checkedAdd_eq_ok, pure_eq_ok] at h
    obtain ⟨_, ⟨-, rfl⟩, rfl⟩ := h
    exact .ofSettled .creator (.inr ⟨callbackResult_ok hresult, rfl⟩)

theorem onPlatformWithdraw_effect {amount : Nat} {o : Outcome Bool}
    (h : onPlatformWithdraw env s amount = .ok o) :
    Effect env s (.callback (.onPlatformWithdraw amount)) o.state o.promises := by
  simp only [onPlatformWithdraw, bind_eq_ok] at h
  obtain ⟨-, -, result, hresult, h⟩ := h
  cases result with
  | successful =>
    cases pure_eq_ok.mp h
    exact .ofSettled .platform (.inl ⟨callbackResult_ok hresult, rfl⟩)
  | failed =>
    simp only [bind_eq_ok, checkedAdd_eq_ok, pure_eq_ok] at h
    obtain ⟨_, ⟨-, rfl⟩, rfl⟩ := h
    exact .ofSettled .platform (.inr ⟨callbackResult_ok hresult, rfl⟩)

theorem onTaxWithdraw_effect {amount : Nat} {o : Outcome Bool}
    (h : onTaxWithdraw env s amount = .ok o) :
    Effect env s (.callback (.onTaxWithdraw amount)) o.state o.promises := by
  simp only [onTaxWithdraw, bind_eq_ok] at h
  obtain ⟨-, -, result, hresult, h⟩ := h
  cases result with
  | successful =>
    cases pure_eq_ok.mp h
    exact .ofSettled .tax (.inl ⟨callbackResult_ok hresult, rfl⟩)
  | failed =>
    simp only [bind_eq_ok, checkedAdd_eq_ok, pure_eq_ok] at h
    obtain ⟨_, ⟨-, rfl⟩, rfl⟩ := h
    exact .ofSettled .tax (.inr ⟨callbackResult_ok hresult, rfl⟩)

theorem onPlatformNearWithdraw_effect {amount : Nat} {o : Outcome Bool}
    (h : onPlatformNearWithdraw env s amount = .ok o) :
    Effect env s (.callback (.onPlatformNearWithdraw amount)) o.state o.promises := by
  simp only [onPlatformNearWithdraw, bind_eq_ok] at h
  obtain ⟨-, -, result, -, h⟩ := h
  cases result with
  | successful =>
    cases pure_eq_ok.mp h
    exact .refl rfl
  | failed =>
    simp only [bind_eq_ok, pure_eq_ok] at h
    obtain ⟨_, -, rfl⟩ := h
    exact .ofUploads _ rfl (by simp) (by simp)

/-! ## Every method -/

theorem runCallback_effect {callback : Callback} {o : Outcome Bool}
    (h : runCallback env s callback = .ok o) :
    Effect env s (.callback callback) o.state o.promises := by
  cases callback with
  | onTicketRefund => exact onTicketRefund_effect h
  | onCreatorWithdraw => exact onCreatorWithdraw_effect h
  | onPlatformWithdraw => exact onPlatformWithdraw_effect h
  | onTaxWithdraw => exact onTaxWithdraw_effect h
  | onPlatformNearWithdraw => exact onPlatformNearWithdraw_effect h

/-- Forgetting the return value keeps the effect. -/
theorem Effect.ofVoid {α : Type} {c : Call} {x : Result (Outcome α)} {o : Outcome Unit}
    (hx : ∀ {o : Outcome α}, x = .ok o → Effect env s c o.state o.promises)
    (h : (x >>= fun o => pure o.void) = .ok o) : Effect env s c o.state o.promises := by
  obtain ⟨o', ho', h⟩ := bind_eq_ok.mp h
  cases pure_eq_ok.mp h
  exact hx ho'

/-- The effect of a call that did not panic. -/
theorem Call.run_effect {c : Call} {o : Outcome Unit} (h : c.run env s = .ok o) :
    Effect env s c o.state o.promises := by
  obtain ⟨-, -, h⟩ := bind_eq_ok.mp h
  cases c with
  | freezeBridge => exact freezeBridge_effect h
  | requestBridgeUnfreeze => exact .ofVoid requestBridgeUnfreeze_effect h
  | cancelBridgeUnfreeze => exact cancelBridgeUnfreeze_effect h
  | unfreezeBridge => exact unfreezeBridge_effect h
  | pauseNewPurchases => exact pauseNewPurchases_effect h
  | requestNewPurchasesUnpause => exact .ofVoid requestNewPurchasesUnpause_effect h
  | cancelNewPurchasesUnpause => exact cancelNewPurchasesUnpause_effect h
  | unpauseNewPurchases => exact unpauseNewPurchases_effect h
  | startPublicTestnetBeta => exact .ofVoid startPublicTestnetBeta_effect h
  | closePublicTestnetBeta => exact .ofVoid closePublicTestnetBeta_effect h
  | proposeBridge => exact proposeBridge_effect h
  | cancelBridgeRotation => exact cancelBridgeRotation_effect h
  | executeBridgeRotation => exact executeBridgeRotation_effect h
  | proposeRoleRotation => exact .ofVoid proposeRoleRotation_effect h
  | cancelRoleRotation => exact cancelRoleRotation_effect h
  | executeRoleRotation => exact executeRoleRotation_effect h
  | proposeCodeUpgrade => exact .ofVoid proposeCodeUpgrade_effect h
  | cancelCodeUpgrade => exact cancelCodeUpgrade_effect h
  | executeCodeUpgrade => exact executeCodeUpgrade_effect h
  | migrate => exact migrate_effect h
  | createPaidJob => exact .ofVoid createPaidJob_effect h
  | createPaidJobNear => exact .ofVoid createPaidJobNear_effect h
  | replaceUploadKey => exact .ofVoid replaceUploadKey_effect h
  | rotateQuotePublicKey => exact rotateQuotePublicKey_effect h
  | restartPaidJob => exact .ofVoid restartPaidJob_effect h
  | setPublicUploadFullHd => exact .ofVoid setPublicUploadFullHd_effect h
  | activatePlaybackDevice => exact activatePlaybackDevice_effect h
  | finalizePublication => exact .ofVoid finalizePublication_effect h
  | suspendSales => exact .ofVoid suspendSales_effect h
  | takedownPublication => exact .ofVoid takedownPublication_effect h
  | ftOnTransfer => exact .ofVoid ftOnTransfer_effect h
  | withdrawCreatorBalance => exact withdrawCreatorBalance_effect h
  | withdrawPlatformBalance => exact withdrawPlatformBalance_effect h
  | withdrawTaxBalance => exact withdrawTaxBalance_effect h
  | withdrawPlatformNear => exact withdrawPlatformNear_effect h
  | markWatched => exact .ofVoid markWatched_effect h
  | refundTicket => exact refundTicket_effect h
  | releaseExpired => exact .ofVoid releaseExpired_effect h
  | addDevice => exact .ofVoid addDevice_effect h
  | revokeDevice => exact revokeDevice_effect h
  | platformRevokeDevice => exact platformRevokeDevice_effect h
  | issueCardTicket => exact .ofVoid issueCardTicket_effect h
  | voidCardTicket => exact voidCardTicket_effect h
  | revokeVatKey => exact revokeVatKey_effect h
  | callback => exact .ofVoid runCallback_effect h

end Youtick.MarketV2
