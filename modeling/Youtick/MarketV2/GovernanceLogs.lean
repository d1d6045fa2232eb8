import Youtick.MarketV2.Events

/-!
# Market V2: logs of the governance methods

What each method of `Governance` logged, read off a call that succeeded.
-/

set_option autoImplicit false

namespace Youtick.MarketV2

open Youtick.Lib

variable {env : Env} {s : Contract}

/-! ## The bridge freeze -/

theorem freezeBridge_logs {o : Outcome Unit} (h : freezeBridge env s = .ok o) :
    Logs env s .freezeBridge o.state.shown o.promises o.events := by
  simp only [freezeBridge, bind_eq_ok] at h
  obtain ⟨-, -, h⟩ := h
  rcases ite_eq_ok.mp h with ⟨hfrozen, h⟩ | ⟨hopen, h⟩
  · cases pure_eq_ok.mp h
    exact .quiet (by simp [Call.announces, Call.governanceEvent, hfrozen]) (by simp) (by simp)
  · cases pure_eq_ok.mp h
    exact .governance (by simp [Call.governanceEvent, hopen])
      (by simp [Keyless])

theorem requestBridgeUnfreeze_logs {o : Outcome Nat} (h : requestBridgeUnfreeze env s = .ok o) :
    Logs env s .requestBridgeUnfreeze o.state.shown o.promises o.events := by
  simp only [requestBridgeUnfreeze, bind_eq_ok] at h
  obtain ⟨-, -, -, -, h⟩ := h
  split at h
  · next hsome =>
      cases pure_eq_ok.mp h
      exact .quiet (by simp [Call.announces, Call.governanceEvent, hsome]) (by simp) (by simp)
  · next hnone =>
      obtain ⟨_, -, h⟩ := bind_eq_ok.mp h
      cases pure_eq_ok.mp h
      exact .governance (by simp [Call.governanceEvent, hnone])
        (by simp [Keyless])

theorem cancelBridgeUnfreeze_logs {o : Outcome Unit} (h : cancelBridgeUnfreeze env s = .ok o) :
    Logs env s .cancelBridgeUnfreeze o.state.shown o.promises o.events := by
  simp only [cancelBridgeUnfreeze, bind_eq_ok] at h
  obtain ⟨-, -, h⟩ := h
  rcases ite_eq_ok.mp h with ⟨hnone, h⟩ | ⟨hsome, h⟩
  · cases pure_eq_ok.mp h
    exact .quiet (by simp [Call.announces, Call.governanceEvent, hnone]) (by simp) (by simp)
  · cases pure_eq_ok.mp h
    exact .governance (by simp [Call.governanceEvent, hsome])
      (by simp [Keyless])

theorem unfreezeBridge_logs {o : Outcome Unit} (h : unfreezeBridge env s = .ok o) :
    Logs env s .unfreezeBridge o.state.shown o.promises o.events := by
  simp only [unfreezeBridge, bind_eq_ok] at h
  obtain ⟨-, -, h⟩ := h
  rcases ite_eq_ok.mp h with ⟨hopen, h⟩ | ⟨hfrozen, h⟩
  · cases pure_eq_ok.mp h
    exact .quiet (by simp [Call.announces, Call.governanceEvent, hopen]) (by simp) (by simp)
  · obtain ⟨_, -, h⟩ := bind_eq_ok.mp h
    cases pure_eq_ok.mp h
    exact .governance (by simpa [Call.governanceEvent] using hfrozen)
      (by simp [Keyless])

/-! ## The purchase pause -/

theorem pauseNewPurchases_logs {o : Outcome Unit} (h : pauseNewPurchases env s = .ok o) :
    Logs env s .pauseNewPurchases o.state.shown o.promises o.events := by
  simp only [pauseNewPurchases, bind_eq_ok] at h
  obtain ⟨-, -, h⟩ := h
  rcases ite_eq_ok.mp h with ⟨hpaused, h⟩ | ⟨hopen, h⟩
  · cases pure_eq_ok.mp h
    exact .quiet (by simp [Call.announces, Call.governanceEvent, hpaused]) (by simp) (by simp)
  · cases pure_eq_ok.mp h
    exact .governance (by simp [Call.governanceEvent, hopen])
      (by simp [Keyless])

theorem requestNewPurchasesUnpause_logs {o : Outcome Nat}
    (h : requestNewPurchasesUnpause env s = .ok o) :
    Logs env s .requestNewPurchasesUnpause o.state.shown o.promises o.events := by
  simp only [requestNewPurchasesUnpause, bind_eq_ok] at h
  obtain ⟨-, -, -, -, h⟩ := h
  split at h
  · next hsome =>
      cases pure_eq_ok.mp h
      exact .quiet (by simp [Call.announces, Call.governanceEvent, hsome]) (by simp) (by simp)
  · next hnone =>
      obtain ⟨_, -, h⟩ := bind_eq_ok.mp h
      cases pure_eq_ok.mp h
      exact .governance (by simp [Call.governanceEvent, hnone])
        (by simp [Keyless])

theorem cancelNewPurchasesUnpause_logs {o : Outcome Unit}
    (h : cancelNewPurchasesUnpause env s = .ok o) :
    Logs env s .cancelNewPurchasesUnpause o.state.shown o.promises o.events := by
  simp only [cancelNewPurchasesUnpause, bind_eq_ok] at h
  obtain ⟨-, -, h⟩ := h
  rcases ite_eq_ok.mp h with ⟨hnone, h⟩ | ⟨hsome, h⟩
  · cases pure_eq_ok.mp h
    exact .quiet (by simp [Call.announces, Call.governanceEvent, hnone]) (by simp) (by simp)
  · cases pure_eq_ok.mp h
    exact .governance (by simp [Call.governanceEvent, hsome])
      (by simp [Keyless])

theorem unpauseNewPurchases_logs {o : Outcome Unit} (h : unpauseNewPurchases env s = .ok o) :
    Logs env s .unpauseNewPurchases o.state.shown o.promises o.events := by
  simp only [unpauseNewPurchases, bind_eq_ok] at h
  obtain ⟨-, -, h⟩ := h
  rcases ite_eq_ok.mp h with ⟨hopen, h⟩ | ⟨hpaused, h⟩
  · cases pure_eq_ok.mp h
    exact .quiet (by simp [Call.announces, Call.governanceEvent, hopen]) (by simp) (by simp)
  · obtain ⟨_, -, h⟩ := bind_eq_ok.mp h
    cases pure_eq_ok.mp h
    exact .governance (by simpa [Call.governanceEvent] using hpaused)
      (by simp [Keyless])

/-! ## The public beta window -/

theorem startPublicTestnetBeta_logs {o : Outcome PublicTestnetBetaState}
    (h : startPublicTestnetBeta env s = .ok o) :
    Logs env s .startPublicTestnetBeta o.state.shown o.promises o.events := by
  simp only [startPublicTestnetBeta, bind_eq_ok, pure_eq_ok] at h
  obtain ⟨-, -, -, -, _, -, -, -, -, -, -, -, -, -, _, -, _, -, rfl⟩ := h
  exact .governance rfl (by simp [Keyless])

theorem closePublicTestnetBeta_logs {o : Outcome PublicTestnetBetaState}
    (h : closePublicTestnetBeta env s = .ok o) :
    Logs env s .closePublicTestnetBeta o.state.shown o.promises o.events := by
  simp only [closePublicTestnetBeta, bind_eq_ok, expect_eq_ok] at h
  obtain ⟨-, -, state, hstate, h⟩ := h
  rcases ite_eq_ok.mp h with ⟨hclosed, h⟩ | ⟨hopen, h⟩
  · cases pure_eq_ok.mp h
    exact .quiet (by simp [Call.announces, Call.governanceEvent, hstate, hclosed]) (by simp) (by simp)
  · cases pure_eq_ok.mp h
    exact .governance (by simp [Call.governanceEvent, hstate, hopen])
      (by simp [Keyless])

/-! ## Rotations -/

theorem proposeBridge_logs {next : AccountId} {o : Outcome Unit}
    (h : proposeBridge env s next = .ok o) :
    Logs env s (.proposeBridge next) o.state.shown o.promises o.events := by
  simp only [proposeBridge, bind_eq_ok] at h
  obtain ⟨-, -, _, -, h⟩ := h
  rcases ite_eq_ok.mp h with ⟨hsame, h⟩ | ⟨hother, h⟩
  · cases pure_eq_ok.mp h
    exact .quiet (by simp [Call.announces, Call.governanceEvent, hsame]) (by simp) (by simp)
  · simp only [bind_eq_ok, pure_eq_ok] at h
    obtain ⟨-, -, _, -, rfl⟩ := h
    exact .governance (by simp [Call.governanceEvent, hother])
      (by simp [Keyless])

theorem cancelBridgeRotation_logs {o : Outcome Unit} (h : cancelBridgeRotation env s = .ok o) :
    Logs env s .cancelBridgeRotation o.state.shown o.promises o.events := by
  simp only [cancelBridgeRotation, bind_eq_ok] at h
  obtain ⟨-, -, h⟩ := h
  split at h
  · next hnone =>
      cases pure_eq_ok.mp h
      exact .quiet (by simp [Call.announces, Call.governanceEvent, hnone]) (by simp) (by simp)
  · next hsome =>
      cases pure_eq_ok.mp h
      exact .governance (by simp [Call.governanceEvent, hsome])
        (by simp [Keyless])

theorem executeBridgeRotation_logs {o : Outcome Unit} (h : executeBridgeRotation env s = .ok o) :
    Logs env s .executeBridgeRotation o.state.shown o.promises o.events := by
  simp only [executeBridgeRotation, bind_eq_ok, pure_eq_ok] at h
  obtain ⟨-, -, _, -, _, -, -, -, _, -, rfl⟩ := h
  exact .governance rfl (by simp [Keyless])

theorem proposeRoleRotation_logs {role : GovernanceRole} {next : AccountId}
    {o : Outcome PendingRoleRotation} (h : proposeRoleRotation env s role next = .ok o) :
    Logs env s (.proposeRoleRotation role next) o.state.shown o.promises o.events := by
  simp only [proposeRoleRotation, bind_eq_ok] at h
  obtain ⟨-, -, h⟩ := h
  split at h
  · next hsome =>
      simp only [bind_eq_ok, pure_eq_ok] at h
      obtain ⟨-, -, rfl⟩ := h
      exact .quiet (by simp [Call.announces, Call.governanceEvent, hsome]) (by simp) (by simp)
  · next hnone =>
      simp only [bind_eq_ok, pure_eq_ok] at h
      obtain ⟨-, -, _, -, _, -, rfl⟩ := h
      exact .governance (by simp [Call.governanceEvent, hnone])
        (by simp [Keyless])

theorem cancelRoleRotation_logs {role : GovernanceRole} {o : Outcome Unit}
    (h : cancelRoleRotation env s role = .ok o) :
    Logs env s (.cancelRoleRotation role) o.state.shown o.promises o.events := by
  simp only [cancelRoleRotation, bind_eq_ok] at h
  obtain ⟨-, -, h⟩ := h
  split at h
  · next hnone =>
      cases pure_eq_ok.mp h
      exact .quiet (by simp [Call.announces, Call.governanceEvent, hnone]) (by simp) (by simp)
  · next hsome =>
      cases pure_eq_ok.mp h
      exact .governance (by simp [Call.governanceEvent, hsome])
        (by simp [Keyless])

theorem executeRoleRotation_logs {role : GovernanceRole} {o : Outcome Unit}
    (h : executeRoleRotation env s role = .ok o) :
    Logs env s (.executeRoleRotation role) o.state.shown o.promises o.events := by
  simp only [executeRoleRotation, bind_eq_ok, pure_eq_ok] at h
  obtain ⟨-, -, pending, -, -, -, -, -, -, -, rfl⟩ := h
  have hshown : ∀ rotations, Contract.shown { s with
      toRoles := { s.toRoles.setRoleAccountId role pending.nextAccountId with
        roleRotations := rotations } } = s.shown := by
    intro rotations
    rfl
  rw [hshown]
  exact .governance rfl (by simp [Keyless])

/-! ## Code upgrade -/

theorem proposeCodeUpgrade_logs {codeSha256 : String} {o : Outcome PendingCodeUpgrade}
    (h : proposeCodeUpgrade env s codeSha256 = .ok o) :
    Logs env s (.proposeCodeUpgrade codeSha256) o.state.shown o.promises o.events := by
  simp only [proposeCodeUpgrade, bind_eq_ok] at h
  obtain ⟨-, -, -, -, h⟩ := h
  split at h
  · next hsome =>
      simp only [bind_eq_ok, pure_eq_ok] at h
      obtain ⟨-, -, rfl⟩ := h
      exact .quiet (by simp [Call.announces, Call.governanceEvent, hsome]) (by simp) (by simp)
  · next hnone =>
      simp only [bind_eq_ok, pure_eq_ok] at h
      obtain ⟨_, -, _, -, rfl⟩ := h
      exact .governance (by simp [Call.governanceEvent, hnone])
        (by simp [Keyless])

theorem cancelCodeUpgrade_logs {o : Outcome Unit} (h : cancelCodeUpgrade env s = .ok o) :
    Logs env s .cancelCodeUpgrade o.state.shown o.promises o.events := by
  simp only [cancelCodeUpgrade, bind_eq_ok] at h
  obtain ⟨-, -, h⟩ := h
  split at h
  · next hnone =>
      cases pure_eq_ok.mp h
      exact .quiet (by simp [Call.announces, Call.governanceEvent, hnone]) (by simp) (by simp)
  · next hsome =>
      cases pure_eq_ok.mp h
      exact .governance (by simp [Call.governanceEvent, hsome])
        (by simp [Keyless])

theorem executeCodeUpgrade_logs {o : Outcome Unit} (h : executeCodeUpgrade env s = .ok o) :
    Logs env s .executeCodeUpgrade o.state.shown o.promises o.events := by
  simp only [executeCodeUpgrade, bind_eq_ok, pure_eq_ok] at h
  obtain ⟨_, -, -, -, _, -, -, -, rfl⟩ := h
  exact .quiet rfl (by simp [Promise.withdrawalId, Promise.callback]) (by simp)

theorem migrate_logs {o : Outcome Unit} (h : migrate env s = .ok o) :
    Logs env s .migrate o.state.shown o.promises o.events := by
  simp only [migrate, bind_eq_ok, expect_eq_ok, pure_eq_ok] at h
  obtain ⟨-, -, -, -, pending, hpending, rfl⟩ := h
  exact .codeUpgraded hpending

end Youtick.MarketV2
