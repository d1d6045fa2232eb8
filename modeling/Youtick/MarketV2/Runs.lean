import Youtick.MarketV2.TicketEffects

/-!
# Market V2: steps of the world, read backwards

`World.step_cases` says what a step was: a call that ran with its `Effect`, a call that panicked, or
the landing of a transfer. `Delivery` says where the call came from and which receipts stay out.
-/

set_option autoImplicit false

namespace Youtick.MarketV2

open Youtick.Lib

/-- The call a label delivers, its context, and the receipts still out while it runs. -/
inductive Delivery (host : Host) (w : World) :
    Label → Context → Call → Outbox Promise → Prop where
  | external {ctx : Context} {c : Call} (hext : ctx.IsExternal host) :
      Delivery host w (.call ctx c) ctx c w.pending
  | callback {ctx : Context} {i : Nat} {promise : Promise} {ok : Bool} {callback : Callback}
      (hget : w.pending[i]? = some ⟨promise, some ok⟩)
      (hcallback : promise.callback = some callback) :
      Delivery host w (.callback ctx i) (ctx.own host [promiseResult ok]) (.callback callback)
        (w.pending.eraseIdx i)
  | batch {ctx : Context} {i : Nat} {code : Bytes} {checked : PendingCodeUpgrade}
      (hget : w.pending[i]? = some ⟨.deployContract code checked, none⟩) :
      Delivery host w (.batch ctx i) (ctx.own host []) .migrate (w.pending.eraseIdx i)

/-- The steps of a world. -/
inductive WorldStep (host : Host) (w : World) : Label → World → Prop where
  | ran {l : Label} {ctx : Context} {c : Call} {rest : Outbox Promise} {o : Outcome Unit}
      (hdelivery : Delivery host w l ctx c rest) (hnow : w.now ≤ ctx.blockTimestampMs)
      (hrun : c.run ⟨host, ctx⟩ w.contract = .ok o) :
      WorldStep host w l ⟨o.state, rest.send o.promises, ctx.blockTimestampMs⟩
  | panicked {l : Label} {ctx : Context} {c : Call} {rest : Outbox Promise} {e : String}
      (hdelivery : Delivery host w l ctx c rest) (hnow : w.now ≤ ctx.blockTimestampMs)
      (hrun : c.run ⟨host, ctx⟩ w.contract = .error e) :
      WorldStep host w l ⟨w.contract, rest, ctx.blockTimestampMs⟩
  | landed {i : Nat} {ok : Bool} {promise : Promise}
      (hget : w.pending[i]? = some ⟨promise, none⟩) (hcallback : promise.callback.isSome = true) :
      WorldStep host w (.land i ok) { w with pending := w.pending.land i promise ok }
  | dropped {i : Nat} {ok : Bool} {promise : Promise}
      (hget : w.pending[i]? = some ⟨promise, none⟩) (htransfer : promise.isTransfer = true)
      (hcallback : promise.callback = none) :
      WorldStep host w (.land i ok) { w with pending := w.pending.eraseIdx i }

variable {host : Host} {w w' : World} {l : Label}

/-- A delivered call either ran or panicked. -/
theorem WorldStep.ofReceive {ctx : Context} {c : Call} {rest : Outbox Promise}
    (hdelivery : Delivery host w l ctx c rest) (hnow : w.now ≤ ctx.blockTimestampMs) :
    WorldStep host w l (w.receive host ctx c rest) := by
  unfold World.receive
  split
  · next hrun => exact .ran hdelivery hnow hrun
  · next hrun => exact .panicked hdelivery hnow hrun

theorem World.step_cases (h : worldStep host w l w') : WorldStep host w l w' := by
  unfold worldStep ExecStep World.exec at h
  cases l with
  | call ctx c =>
    dsimp only at h
    split at h
    · next hguard =>
        cases h
        exact .ofReceive (.external hguard.1) hguard.2
    · cases h
  | land i ok =>
    dsimp only at h
    split at h
    · next promise hget =>
        split at h
        · next htransfer =>
            split at h
            · next hcallback =>
                cases h
                exact .landed hget hcallback
            · next hcallback =>
                cases h
                exact .dropped hget htransfer (by simpa using hcallback)
        · cases h
    · cases h
  | callback ctx i =>
    dsimp only at h
    split at h
    · next promise ok hget =>
        split at h
        · next callback hcallback =>
            split at h
            · next hnow =>
                cases h
                exact .ofReceive (.callback hget hcallback) hnow
            · cases h
        · cases h
    · cases h
  | batch ctx i =>
    dsimp only at h
    split at h
    · next code checked hget =>
        split at h
        · next hnow =>
            cases h
            exact .ofReceive (.batch hget) hnow
        · cases h
    · cases h

/-! ## Fresh contracts -/

/-- What both initialisers leave in the storage. -/
structure Fresh (c : Contract) : Prop where
  stateVersion : c.stateVersion = marketStateVersion
  tickets : c.tickets = .empty
  cardReferences : c.cardReferences = ∅
  escrowBalance : c.escrowBalance = 0
  taxBalance : c.taxBalance = 0
  platformBalance : c.platformBalance = 0
  creatorBalances : c.creatorBalances = .empty
  mediaJobs : c.mediaJobs = .empty
  publications : c.publications = .empty
  assetBindings : c.assetBindings = .empty
  playbackBindings : c.playbackBindings = .empty
  takedowns : c.takedowns = .empty
  publicationIds : c.publicationIds = .empty
  publicationCount : c.publicationCount = 0
  publicUploadCreators : c.publicUploadCreators = .empty
  pendingBridgeAccountId : c.pendingBridgeAccountId = none
  roleRotations : c.roleRotations = .empty
  bridgeUnfreezeRequest : c.bridgeUnfreezeRequest = none
  newPurchasesUnpauseRequest : c.newPurchasesUnpauseRequest = none
  codeUpgrade : c.codeUpgrade = none

theorem new_fresh {env : Env} {config : MarketInitConfig} {c : Contract}
    (h : new env config = .ok c) : Fresh c := by
  simp only [new, bind_eq_ok, pure_eq_ok] at h
  obtain ⟨-, -, -, -, -, -, _, -, -, -, -, -, -, -, -, -, -, -, -, -, rfl⟩ := h
  constructor <;> rfl

theorem Initial.fresh (h : Initial host w) : Fresh w.contract ∧ w.pending = [] := by
  cases h with
  | new _ h => exact ⟨new_fresh h, rfl⟩
  | newPublicTestnet _ h =>
    simp only [MarketV2.newPublicTestnet, bind_eq_ok, pure_eq_ok] at h
    obtain ⟨c, hc, -, -, -, -, -, -, rfl⟩ := h
    obtain hfresh := new_fresh hc
    exact ⟨{ hfresh with }, rfl⟩

/-- Time does not run backwards. -/
theorem World.step_now (h : worldStep host w l w') : w.now ≤ w'.now := by
  cases World.step_cases h with
  | ran _ hnow _ => exact hnow
  | panicked _ hnow _ => exact hnow
  | landed => exact Nat.le_refl _
  | dropped => exact Nat.le_refl _

/-! ## Calls at any time -/

/-- One call on the storage alone, by anyone and at any time; a panic reverts it. -/
def Contract.exec (host : Host) (s : Contract) (l : Context × Call) : Option Contract :=
  match l.2.run ⟨host, l.1⟩ s with
  | .ok o => some o.state
  | .error _ => some s

abbrev callStep (host : Host) : Contract → Context × Call → Contract → Prop :=
  ExecStep (Contract.exec host)

theorem callStep_cases {s s' : Contract} {x : Context × Call} (h : callStep host s x s') :
    s' = s ∨ ∃ o, x.2.run ⟨host, x.1⟩ s = .ok o ∧ s' = o.state := by
  unfold callStep ExecStep Contract.exec at h
  split at h
  · next o hrun => exact .inr ⟨o, hrun, (Option.some.inj h).symm⟩
  · exact .inl (Option.some.inj h).symm

theorem callStep_of_run {s s' : Contract} {x : Context × Call} {o : Outcome Unit}
    (h : callStep host s x s') (hrun : x.2.run ⟨host, x.1⟩ s = .ok o) : s' = o.state := by
  rcases callStep_cases h with rfl | ⟨o', hrun', rfl⟩
  · unfold callStep ExecStep Contract.exec at h
    rw [hrun] at h
    exact (Option.some.inj h).symm
  · rw [Except.ok.inj (hrun'.symm.trans hrun)]

/-! ## Callbacks come from receipts -/

theorem callbackResult_nil {env : Env} (h : env.promiseResults = []) (message : String) :
    callbackResult env message = .error message := by
  simp [callbackResult, h]

/-- Without a promise result every callback method panics. -/
theorem runCallback_nil {env : Env} {s : Contract} {callback : Callback} {o : Outcome Bool}
    (hnil : env.promiseResults = []) : runCallback env s callback ≠ .ok o := by
  intro h
  cases callback with
  | onTicketRefund =>
    simp only [runCallback, onTicketRefund, callbackResult_nil hnil, bind_eq_ok] at h
    obtain ⟨-, -, _, h, -⟩ := h
    exact error_eq_ok.mp h
  | onCreatorWithdraw =>
    simp only [runCallback, onCreatorWithdraw, callbackResult_nil hnil, bind_eq_ok] at h
    obtain ⟨-, -, _, h, -⟩ := h
    exact error_eq_ok.mp h
  | onPlatformWithdraw =>
    simp only [runCallback, onPlatformWithdraw, callbackResult_nil hnil, bind_eq_ok] at h
    obtain ⟨-, -, _, h, -⟩ := h
    exact error_eq_ok.mp h
  | onTaxWithdraw =>
    simp only [runCallback, onTaxWithdraw, callbackResult_nil hnil, bind_eq_ok] at h
    obtain ⟨-, -, _, h, -⟩ := h
    exact error_eq_ok.mp h
  | onPlatformNearWithdraw =>
    simp only [runCallback, onPlatformNearWithdraw, callbackResult_nil hnil, bind_eq_ok] at h
    obtain ⟨-, -, _, h, -⟩ := h
    exact error_eq_ok.mp h

theorem runCallback_private {env : Env} {s : Contract} {callback : Callback} {o : Outcome Bool}
    (h : runCallback env s callback = .ok o) :
    env.predecessorAccountId = env.currentAccountId := by
  cases callback with
  | onTicketRefund =>
    simp only [runCallback, onTicketRefund, bind_eq_ok, assertPrivate_ok] at h
    exact h.choose_spec.1
  | onCreatorWithdraw =>
    simp only [runCallback, onCreatorWithdraw, bind_eq_ok, assertPrivate_ok] at h
    exact h.choose_spec.1
  | onPlatformWithdraw =>
    simp only [runCallback, onPlatformWithdraw, bind_eq_ok, assertPrivate_ok] at h
    exact h.choose_spec.1
  | onTaxWithdraw =>
    simp only [runCallback, onTaxWithdraw, bind_eq_ok, assertPrivate_ok] at h
    exact h.choose_spec.1
  | onPlatformNearWithdraw =>
    simp only [runCallback, onPlatformNearWithdraw, bind_eq_ok, assertPrivate_ok] at h
    exact h.choose_spec.1

/-- A callback that ran was delivered by the landed receipt it was scheduled with. -/
theorem Delivery.callback_inv {ctx : Context} {callback : Callback} {rest : Outbox Promise}
    {o : Outcome Unit} (h : Delivery host w l ctx (.callback callback) rest)
    (hrun : Call.run ⟨host, ctx⟩ w.contract (.callback callback) = .ok o) :
    ∃ i promise ok, w.pending[i]? = some ⟨promise, some ok⟩ ∧ promise.callback = some callback ∧
      rest = w.pending.eraseIdx i ∧ ctx.promiseResults = [promiseResult ok] := by
  cases h with
  | external hext =>
    obtain ⟨-, -, hbody⟩ := bind_eq_ok.mp hrun
    obtain ⟨o', hcallback, -⟩ := bind_eq_ok.mp hbody
    exact absurd hcallback (runCallback_nil (hext (runCallback_private hcallback)))
  | callback hget hcallback => exact ⟨_, _, _, hget, hcallback, rfl, rfl⟩

/-- The receipts still out during a call were out before it. -/
theorem Delivery.sublist {ctx : Context} {c : Call} {rest : Outbox Promise}
    (h : Delivery host w l ctx c rest) : rest.Sublist w.pending := by
  cases h with
  | external => exact .refl _
  | callback => exact List.eraseIdx_sublist _ _
  | batch => exact List.eraseIdx_sublist _ _

theorem Delivery.items_sublist {ctx : Context} {c : Call} {rest : Outbox Promise}
    (h : Delivery host w l ctx c rest) : rest.items.Sublist w.pending.items :=
  h.sublist.map _

/-- A receipt that is out after a step was out before it, has just landed, or has just been sent. -/
theorem World.flight_cases (h : worldStep host w l w') {x : Flight Promise} (hx : x ∈ w'.pending) :
    x ∈ w.pending ∨
      (∃ i ok, l = .land i ok ∧ w.pending[i]? = some ⟨x.item, none⟩ ∧ x.result = some ok) ∨
      ∃ ctx c rest o, Delivery host w l ctx c rest ∧ w.now ≤ ctx.blockTimestampMs ∧
        c.run ⟨host, ctx⟩ w.contract = .ok o ∧ w'.contract = o.state ∧
        w'.now = ctx.blockTimestampMs ∧ x.item ∈ o.promises ∧ x.result = none := by
  cases World.step_cases h with
  | @ran _ ctx c rest o hdelivery hnow hrun =>
    rcases List.mem_append.mp hx with hx | hx
    · exact .inl (hdelivery.sublist.subset hx)
    · obtain ⟨p, hp, rfl⟩ := List.mem_map.mp hx
      exact .inr (.inr ⟨ctx, c, rest, o, hdelivery, hnow, hrun, rfl, rfl, hp, rfl⟩)
  | panicked hdelivery _ _ => exact .inl (hdelivery.sublist.subset hx)
  | @landed i ok promise hget _ =>
    rcases List.mem_or_eq_of_mem_set hx with hx | rfl
    · exact .inl hx
    · exact .inr (.inl ⟨i, ok, rfl, hget, rfl⟩)
  | dropped => exact .inl ((List.eraseIdx_sublist _ _).subset hx)

end Youtick.MarketV2
