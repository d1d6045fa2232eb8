import Youtick.NftTicket.Effects

/-!
# The V1 market: steps of the world, read backwards

`World.step_cases` says what a step was: a call that ran, a call that panicked, or the landing of a
transfer. `Delivery` says where the call came from and which receipts stay out. A callback that runs
was delivered by its own receipt, and it cannot panic while its amount fits next to the balance it
restores.
-/

set_option autoImplicit false

namespace Youtick.NftTicket

open Youtick.Lib
open Youtick.MarketV2 (AccountId Host PromiseResult)

/-- The call a label delivers, its context, and the receipts still out while it runs. -/
inductive Delivery (host : Host) (w : World) :
    Label → Context → Call → Outbox Promise → Prop where
  | external {ctx : Context} {c : Call} (hext : ctx.IsExternal host) :
      Delivery host w (.call ctx c) ctx c w.pending
  | callback {ctx : Context} {i : Nat} {promise : Promise} {ok : Bool} {callback : Callback}
      (hget : w.pending[i]? = some ⟨promise, some ok⟩)
      (hcallback : promise.callback = some callback) :
      Delivery host w (.callback ctx i) (ctx.own host [promiseResult ok]) (.callback callback)
        (w.pending.eraseIdx i)
  | batch {ctx : Context} {i : Nat} {code : Bytes}
      (hget : w.pending[i]? = some ⟨.deployContract code, none⟩) :
      Delivery host w (.batch ctx i) (ctx.own host []) .migrate (w.pending.eraseIdx i)

/-- The steps of a world. -/
inductive WorldStep (host : Host) (w : World) : Label → World → Prop where
  | ran {l : Label} {ctx : Context} {c : Call} {rest : Outbox Promise} {o : Outcome Unit}
      (hdelivery : Delivery host w l ctx c rest)
      (hrun : c.run ⟨host, ctx⟩ w.contract = .ok o) :
      WorldStep host w l ⟨o.state, rest.send o.promises, ctx.blockTimestampMs⟩
  | panicked {l : Label} {ctx : Context} {c : Call} {rest : Outbox Promise} {e : String}
      (hdelivery : Delivery host w l ctx c rest)
      (hrun : c.run ⟨host, ctx⟩ w.contract = .error e) :
      WorldStep host w l ⟨w.contract, rest, ctx.blockTimestampMs⟩
  | landed {i : Nat} {ok : Bool} {promise : Promise}
      (hget : w.pending[i]? = some ⟨promise, none⟩) (hcallback : promise.callback.isSome = true) :
      WorldStep host w (.land i ok) { w with pending := w.pending.land i promise ok }
  | dropped {i : Nat} {ok : Bool} {promise : Promise}
      (hget : w.pending[i]? = some ⟨promise, none⟩) (htransfer : promise.isTransfer = true)
      (hcallback : promise.callback = none) :
      WorldStep host w (.land i ok) { w with pending := w.pending.eraseIdx i }

section Steps

variable {host : Host} {w w' : World} {l : Label}

/-- A delivered call either ran or panicked. -/
theorem WorldStep.ofReceive {ctx : Context} {c : Call} {rest : Outbox Promise}
    (hdelivery : Delivery host w l ctx c rest) :
    WorldStep host w l (w.receive host ctx c rest) := by
  unfold World.receive
  split
  · next hrun => exact .ran hdelivery hrun
  · next hrun => exact .panicked hdelivery hrun

theorem World.step_cases (h : worldStep host w l w') : WorldStep host w l w' := by
  unfold worldStep ExecStep World.exec at h
  cases l with
  | call ctx c =>
    dsimp only at h
    split at h
    · next hguard =>
        cases h
        exact .ofReceive (.external hguard.1)
    · cases h
  | land i ok =>
    dsimp only at h
    split at h
    · next promise hget =>
        split at h
        · next htransfer =>
            split at h
            · next hcallback =>
                cases h
                exact .landed hget hcallback
            · next hcallback =>
                cases h
                exact .dropped hget htransfer (by simpa using hcallback)
        · cases h
    · cases h
  | callback ctx i =>
    dsimp only at h
    split at h
    · next promise ok hget =>
        split at h
        · next callback hcallback =>
            split at h
            · next hnow =>
                cases h
                exact .ofReceive (.callback hget hcallback)
            · cases h
        · cases h
    · cases h
  | batch ctx i =>
    dsimp only at h
    split at h
    · next code hget =>
        split at h
        · next hnow =>
            cases h
            exact .ofReceive (.batch hget)
        · cases h
    · cases h

/-- The receipts still out during a call were out before it. -/
theorem Delivery.items_sublist {ctx : Context} {c : Call} {rest : Outbox Promise}
    (h : Delivery host w l ctx c rest) : rest.items.Sublist w.pending.items := by
  cases h with
  | external => exact .refl _
  | callback | batch => exact (List.eraseIdx_sublist _ _).map _

end Steps

/-! ## Callbacks -/

section Callbacks

variable {env : Env} {s : Contract}

/-- A callback runs in the contract's own name and with one promise result. -/
theorem runCallback_inv {callback : Callback} {o : Outcome Bool}
    (h : runCallback env s callback = .ok o) :
    env.predecessorAccountId = env.currentAccountId ∧ ∃ result, env.promiseResults = [result] := by
  cases callback with
  | onCreatorWithdraw =>
    simp only [runCallback, onCreatorWithdraw, bind_eq_ok, assertPrivate_ok] at h
    obtain ⟨-, hown, result, hresult, -⟩ := h
    exact ⟨hown, result, withdrawalResult_ok hresult⟩
  | onPlatformWithdraw =>
    simp only [runCallback, onPlatformWithdraw, bind_eq_ok, assertPrivate_ok] at h
    obtain ⟨-, hown, result, hresult, -⟩ := h
    exact ⟨hown, result, withdrawalResult_ok hresult⟩
  | onPlatformNearWithdraw =>
    simp only [runCallback, onPlatformNearWithdraw, bind_eq_ok, assertPrivate_ok] at h
    obtain ⟨-, hown, result, hresult, -⟩ := h
    exact ⟨hown, result, withdrawalResult_ok hresult⟩

/-- The callback of a failed transfer runs when its amount fits next to its balance. -/
theorem runCallback_total {callback : Callback}
    (hown : env.predecessorAccountId = env.currentAccountId)
    (hfailed : env.promiseResults = [.failed])
    (hfits : s.money.balance callback.pot + callback.amount ≤ maxOf 128) :
    ∃ o, runCallback env s callback = .ok o := by
  have hprivate : ∀ method, assertPrivate env method = .ok ⟨⟩ := fun _ => assertPrivate_ok.mpr hown
  have hresult : withdrawalResult env = .ok .failed := by simp [withdrawalResult, hfailed]
  have hadd : ∀ message, checkedAdd 128 (s.money.balance callback.pot) callback.amount message =
      .ok (s.money.balance callback.pot + callback.amount) := by
    intro message
    rw [checkedAdd, if_pos hfits]
  cases callback with
  | onCreatorWithdraw | onPlatformWithdraw | onPlatformNearWithdraw =>
    exact ⟨_, bind_eq_ok.mpr ⟨_, hprivate _, bind_eq_ok.mpr ⟨_, hresult, bind_eq_ok.mpr
      ⟨_, hadd _, rfl⟩⟩⟩⟩

variable {host : Host} {w : World} {l : Label}

/-- A callback that ran was delivered by the landed receipt it was scheduled with. -/
theorem Delivery.callback_inv {ctx : Context} {callback : Callback} {rest : Outbox Promise}
    {o : Outcome Unit} (h : Delivery host w l ctx (.callback callback) rest)
    (hrun : Call.run ⟨host, ctx⟩ w.contract (.callback callback) = .ok o) :
    ∃ i promise ok, w.pending[i]? = some ⟨promise, some ok⟩ ∧ promise.callback = some callback ∧
      rest = w.pending.eraseIdx i ∧ ctx.promiseResults = [promiseResult ok] := by
  cases h with
  | external hext =>
    obtain ⟨-, -, hbody⟩ := bind_eq_ok.mp hrun
    obtain ⟨o', hcallback, -⟩ := bind_eq_ok.mp hbody
    obtain ⟨hown, result, hresult⟩ := runCallback_inv hcallback
    have hnil : ctx.promiseResults = [] := hext hown
    rw [hnil] at hresult
    cases hresult
  | callback hget hcallback => exact ⟨_, _, _, hget, hcallback, rfl, rfl⟩

end Callbacks

end Youtick.NftTicket
