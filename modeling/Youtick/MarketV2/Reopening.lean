import Youtick.Lib.Gate
import Youtick.MarketV2.Runs

/-!
# Market V2: reopening is timelocked

The bridge freeze and the purchase pause are two gates. What the controls allow in one call is a
step of each gate, so the rule for gates says that on mainnet a reopening goes back to a request the
admin made at least a day before.
-/

set_option autoImplicit false

namespace Youtick.MarketV2

open Youtick.Lib

/-! ## The two gates -/

def bridgeGate (controls : Controls) : Gate := ⟨controls.bridgeFrozen, controls.bridgeUnfreezeRequest⟩

def purchaseGate (controls : Controls) : Gate :=
  ⟨decide (controls.newPurchasesPausedRaw = some [1]), controls.newPurchasesUnpauseRequest⟩

section Step

variable {env : Env} {s : Contract} {c : Call} {ps : List Promise} {controls : Controls}

/-- The admin makes the call. -/
def AdminCalls (env : Env) (s : Contract) (c request : Call) : Prop :=
  c = request ∧ env.predecessorAccountId = s.adminAccountId

theorem ControlsStep.bridgeGate (hmainnet : env.toHost.IsMainnet)
    (h : ControlsStep env s c ps controls) :
    Gate.Step mainnetReopenDelayMs env.blockTimestampMs (AdminCalls env s c .requestBridgeUnfreeze)
      (MarketV2.bridgeGate s.toControls) (MarketV2.bridgeGate controls) := by
  unfold MarketV2.bridgeGate
  cases h with
  | freeze => exact .close
  | requestUnfreeze hadmin hfrozen hnone =>
    rw [hfrozen, hnone]
    exact .request ⟨rfl, hadmin⟩
  | cancelUnfreeze => exact .cancel
  | clearUnfreeze => exact .cancel
  | unfreeze hadmin hfrozen helapsed =>
    obtain ⟨t, hrequest, hdue⟩ := assertReopenElapsed_mainnet hmainnet helapsed
    rw [hfrozen, hrequest]
    exact .reopen hdue
  | same | pause | requestUnpause | cancelUnpause | clearUnpause | unpause | proposeUpgrade
  | cancelUpgrade | executeUpgrade | migrate => exact .idle

theorem ControlsStep.purchaseGate (hmainnet : env.toHost.IsMainnet)
    (h : ControlsStep env s c ps controls) :
    Gate.Step mainnetReopenDelayMs env.blockTimestampMs
      (AdminCalls env s c .requestNewPurchasesUnpause)
      (MarketV2.purchaseGate s.toControls) (MarketV2.purchaseGate controls) := by
  unfold MarketV2.purchaseGate
  cases h with
  | pause => exact .close
  | requestUnpause hadmin hpaused hnone =>
    rw [show decide (s.newPurchasesPausedRaw = some [1]) = true from hpaused, hnone]
    exact .request ⟨rfl, hadmin⟩
  | cancelUnpause => exact .cancel
  | clearUnpause => exact .cancel
  | unpause hadmin hpaused helapsed =>
    obtain ⟨t, hrequest, hdue⟩ := assertReopenElapsed_mainnet hmainnet helapsed
    rw [show decide (s.newPurchasesPausedRaw = some [1]) = true from hpaused, hrequest]
    exact .reopen hdue
  | same | freeze | requestUnfreeze | cancelUnfreeze | clearUnfreeze | unfreeze | proposeUpgrade
  | cancelUpgrade | executeUpgrade | migrate => exact .idle

/-- A cancellation that goes through leaves no request. -/
theorem cancelBridgeUnfreeze_clears {o : Outcome Unit}
    (h : Call.run env s .cancelBridgeUnfreeze = .ok o) : o.state.bridgeUnfreezeRequest = none := by
  obtain ⟨_, -, h⟩ := bind_eq_ok.mp h
  obtain ⟨_, -, h⟩ := bind_eq_ok.mp h
  split at h
  · next hnone =>
      cases pure_eq_ok.mp h
      exact hnone
  · cases pure_eq_ok.mp h
    rfl

theorem cancelNewPurchasesUnpause_clears {o : Outcome Unit}
    (h : Call.run env s .cancelNewPurchasesUnpause = .ok o) :
    o.state.newPurchasesUnpauseRequest = none := by
  obtain ⟨_, -, h⟩ := bind_eq_ok.mp h
  obtain ⟨_, -, h⟩ := bind_eq_ok.mp h
  split at h
  · next hnone =>
      cases pure_eq_ok.mp h
      exact hnone
  · cases pure_eq_ok.mp h
    rfl

end Step

/-! ## Runs -/

section Runs

variable {host : Host}

/-- In the run `a` before `x` the admin made the request at least the reopening delay before `x`;
the state was `closed` then and has been since, and no cancellation went through since. -/
def RequestedBefore (host : Host) (closed : Contract → Bool) (request cancel : Call)
    (a : List (Transition Contract (Context × Call))) (x : Transition Contract (Context × Call)) :
    Prop :=
  ∃ a₁ y a₂, a = a₁ ++ y :: a₂ ∧ y.label.2 = request ∧
    y.label.1.predecessorAccountId = y.pre.adminAccountId ∧
    y.label.1.blockTimestampMs + mainnetReopenDelayMs ≤ x.label.1.blockTimestampMs ∧
    closed y.pre = true ∧ closed y.post = true ∧
    ∀ z ∈ a₂, closed z.pre = true ∧ closed z.post = true ∧
      (z.label.2 = cancel → ∀ o, z.label.2.run ⟨host, z.label.1⟩ z.pre ≠ .ok o)

/-- The rule for gates, for a gate of the controls. -/
theorem requestedBefore_of_gate {gate : Controls → Gate} {request cancel : Call} {c₀ c : Contract}
    {a b : List (Transition Contract (Context × Call))} {x : Transition Contract (Context × Call)}
    (hstep : ∀ {env : Env} {s : Contract} {c : Call} {ps : List Promise} {controls : Controls},
      env.toHost = host → ControlsStep env s c ps controls →
        Gate.Step mainnetReopenDelayMs env.blockTimestampMs (AdminCalls env s c request)
          (gate s.toControls) (gate controls))
    (hcancel : ∀ {env : Env} {s : Contract} {o : Outcome Unit}, Call.run env s cancel = .ok o →
      (gate o.state.toControls).request = none)
    (h₀ : (gate c₀.toControls).request = none) (h : Trace (callStep host) c₀ (a ++ x :: b) c)
    (hclosed : (gate x.pre.toControls).closed = true)
    (hopen : (gate x.post.toControls).closed = false) :
    RequestedBefore host (fun s => (gate s.toControls).closed) request cancel a x := by
  have hgate : ∀ x : Transition Contract (Context × Call), callStep host x.pre x.label x.post →
      Gate.Step mainnetReopenDelayMs x.label.1.blockTimestampMs
        (AdminCalls ⟨host, x.label.1⟩ x.pre x.label.2 request) (gate x.pre.toControls)
        (gate x.post.toControls) := by
    intro x hx
    rcases callStep_cases hx with heq | ⟨o, hrun, heq⟩
    · rw [heq]
      exact .idle
    · rw [heq]
      exact hstep rfl (Call.run_effect hrun).controls
  obtain ⟨t, hdue, a₁, y, a₂, rfl, ⟨hrequest, hadmin⟩, rfl, hpre, hpost, hheld⟩ :=
    Gate.reopened (fun s : Contract => gate s.toControls) _ _ hgate h₀ h hclosed hopen
  refine ⟨a₁, y, a₂, rfl, hrequest, hadmin, hdue, congrArg Gate.closed hpre,
    congrArg Gate.closed hpost, fun z hz => ?_⟩
  obtain ⟨hzpre, hzpost⟩ := hheld z hz
  refine ⟨congrArg Gate.closed hzpre, congrArg Gate.closed hzpost, fun hc o hrun => ?_⟩
  have hz' : callStep host z.pre z.label z.post := h.step_of_mem (by simp [hz])
  have hnone := hcancel (hc ▸ hrun)
  rw [← callStep_of_run hz' hrun] at hnone
  cases (congrArg Gate.request hzpost).symm.trans hnone

/-- On mainnet the bridge is unfrozen, and new purchases are unpaused, only on a request the admin
made at least 24 hours before, since which the bridge was frozen (purchases were paused) without
interruption and no cancellation went through. -/
theorem reopening_timelocked {env : Env} {config : MarketInitConfig} {c₀ c : Contract}
    {a b : List (Transition Contract (Context × Call))} {x : Transition Contract (Context × Call)}
    (hmainnet : env.toHost.IsMainnet) (h₀ : new env config = .ok c₀)
    (h : Trace (callStep env.toHost) c₀ (a ++ x :: b) c) :
    (x.pre.bridgeFrozen = true → x.post.bridgeFrozen = false →
      RequestedBefore env.toHost (fun s => s.bridgeFrozen) .requestBridgeUnfreeze
        .cancelBridgeUnfreeze a x) ∧
    (newPurchasesPaused x.pre = true → newPurchasesPaused x.post = false →
      RequestedBefore env.toHost newPurchasesPaused .requestNewPurchasesUnpause
        .cancelNewPurchasesUnpause a x) := by
  have hfresh := new_fresh h₀
  refine ⟨fun hclosed hopen => ?_, fun hclosed hopen => ?_⟩
  · exact requestedBefore_of_gate (fun henv hstep => hstep.bridgeGate (henv ▸ hmainnet))
      cancelBridgeUnfreeze_clears hfresh.bridgeUnfreezeRequest h hclosed hopen
  · exact requestedBefore_of_gate (fun henv hstep => hstep.purchaseGate (henv ▸ hmainnet))
      cancelNewPurchasesUnpause_clears hfresh.newPurchasesUnpauseRequest h hclosed hopen

/-- The guardian freezes the bridge; the admin asks to unfreeze it and does a day later. -/
def Vectors.unfreeze : List (Context × Call) :=
  [(context config.guardianAccountId issuedAtMs, .freezeBridge),
   (context config.adminAccountId issuedAtMs, .requestBridgeUnfreeze),
   (context config.adminAccountId (issuedAtMs + mainnetReopenDelayMs), .unfreezeBridge)]

theorem reopening_timelocked_unfreeze :
    ∃ c₀ a x c, new ⟨Vectors.mainnetHost, Vectors.context "" Vectors.issuedAtMs⟩ Vectors.config =
        .ok c₀ ∧
      Trace (callStep Vectors.mainnetHost) c₀ (a ++ x :: []) c ∧
      RequestedBefore Vectors.mainnetHost (fun s => s.bridgeFrozen) .requestBridgeUnfreeze
        .cancelBridgeUnfreeze a x := by
  have hrun : (Vectors.run Vectors.mainnetHost (Contract.exec Vectors.mainnetHost) id Vectors.unfreeze).map (fun r =>
      r.1.getLast?.map fun x => (x.pre.bridgeFrozen, x.post.bridgeFrozen)) =
      some (some (true, false)) := by decide +kernel
  obtain ⟨c₀, tr, c, hnew, h, hlast⟩ := Vectors.trace_of_run hrun
  obtain ⟨x, hx, hfrozen⟩ := Option.map_eq_some_iff.mp hlast
  obtain ⟨hclosed, hopen⟩ := Prod.mk.inj hfrozen
  obtain ⟨a, rfl⟩ := List.getLast?_eq_some_iff.mp hx
  have hmainnet : Vectors.mainnetHost.IsMainnet := by constructor <;> decide
  exact ⟨c₀, a, x, c, hnew, h, (reopening_timelocked hmainnet hnew h).1 hclosed hopen⟩

end Runs

end Youtick.MarketV2
