import Youtick.MarketV2.Effects

/-!
# Market V2: effects of the governance methods

What each method of `Governance` did, read off a call that succeeded.
-/

set_option autoImplicit false

namespace Youtick.MarketV2

open Youtick.Lib

variable {env : Env} {s : Contract}

/-! ## Authority checks -/

theorem assertAdmin_ok {r : PUnit.{1}} :
    assertAdmin env s = .ok r ↔ env.predecessorAccountId = s.adminAccountId := by
  simp only [assertAdmin, require_eq_ok]

theorem assertGuardian_ok {r : PUnit.{1}} :
    assertGuardian env s = .ok r ↔ env.predecessorAccountId = s.guardianAccountId := by
  simp only [assertGuardian, require_eq_ok]

theorem assertPrivate_ok {method : String} {r : PUnit.{1}} :
    assertPrivate env method = .ok r ↔ env.predecessorAccountId = env.currentAccountId := by
  simp only [assertPrivate, require_eq_ok]

/-! ## The bridge freeze -/

theorem freezeBridge_effect {o : Outcome Unit} (h : freezeBridge env s = .ok o) :
    Effect env s .freezeBridge o.state o.promises := by
  simp only [freezeBridge, bind_eq_ok, assertGuardian_ok] at h
  obtain ⟨-, hguardian, h⟩ := h
  split at h
  · cases pure_eq_ok.mp h
    exact .refl rfl
  · cases pure_eq_ok.mp h
    exact .ofControls (.freeze hguardian) rfl (by simp)

theorem requestBridgeUnfreeze_effect {o : Outcome Nat} (h : requestBridgeUnfreeze env s = .ok o) :
    Effect env s .requestBridgeUnfreeze o.state o.promises := by
  simp only [requestBridgeUnfreeze, bind_eq_ok, assertAdmin_ok, require_eq_ok] at h
  obtain ⟨-, hadmin, -, hfrozen, h⟩ := h
  split at h
  · cases pure_eq_ok.mp h
    exact .refl rfl
  · next hnone =>
      obtain ⟨_, -, h⟩ := bind_eq_ok.mp h
      cases pure_eq_ok.mp h
      exact .ofControls (.requestUnfreeze hadmin hfrozen hnone) rfl (by simp)

theorem cancelBridgeUnfreeze_effect {o : Outcome Unit} (h : cancelBridgeUnfreeze env s = .ok o) :
    Effect env s .cancelBridgeUnfreeze o.state o.promises := by
  simp only [cancelBridgeUnfreeze, bind_eq_ok] at h
  obtain ⟨-, -, h⟩ := h
  split at h
  · cases pure_eq_ok.mp h
    exact .refl rfl
  · cases pure_eq_ok.mp h
    exact .ofControls .cancelUnfreeze rfl (by simp)

theorem unfreezeBridge_effect {o : Outcome Unit} (h : unfreezeBridge env s = .ok o) :
    Effect env s .unfreezeBridge o.state o.promises := by
  simp only [unfreezeBridge, bind_eq_ok, assertAdmin_ok] at h
  obtain ⟨-, hadmin, h⟩ := h
  split at h
  · next hopen =>
      cases pure_eq_ok.mp h
      exact .ofControls (.clearUnfreeze hopen) rfl (by simp)
  · next hfrozen =>
      obtain ⟨_, helapsed, h⟩ := bind_eq_ok.mp h
      cases pure_eq_ok.mp h
      exact .ofControls (.unfreeze hadmin (by simpa using hfrozen) helapsed) rfl (by simp)

/-! ## The purchase pause -/

theorem pauseNewPurchases_effect {o : Outcome Unit} (h : pauseNewPurchases env s = .ok o) :
    Effect env s .pauseNewPurchases o.state o.promises := by
  simp only [pauseNewPurchases, bind_eq_ok, assertGuardian_ok] at h
  obtain ⟨-, hguardian, h⟩ := h
  split at h
  · cases pure_eq_ok.mp h
    exact .refl rfl
  · cases pure_eq_ok.mp h
    exact .ofControls (.pause hguardian (.inl rfl)) rfl (by simp)

theorem requestNewPurchasesUnpause_effect {o : Outcome Nat}
    (h : requestNewPurchasesUnpause env s = .ok o) :
    Effect env s .requestNewPurchasesUnpause o.state o.promises := by
  simp only [requestNewPurchasesUnpause, bind_eq_ok, assertAdmin_ok, require_eq_ok] at h
  obtain ⟨-, hadmin, -, hpaused, h⟩ := h
  split at h
  · cases pure_eq_ok.mp h
    exact .refl rfl
  · next hnone =>
      obtain ⟨_, -, h⟩ := bind_eq_ok.mp h
      cases pure_eq_ok.mp h
      exact .ofControls (.requestUnpause hadmin hpaused hnone) rfl (by simp)

theorem cancelNewPurchasesUnpause_effect {o : Outcome Unit}
    (h : cancelNewPurchasesUnpause env s = .ok o) :
    Effect env s .cancelNewPurchasesUnpause o.state o.promises := by
  simp only [cancelNewPurchasesUnpause, bind_eq_ok] at h
  obtain ⟨-, -, h⟩ := h
  split at h
  · cases pure_eq_ok.mp h
    exact .refl rfl
  · cases pure_eq_ok.mp h
    exact .ofControls .cancelUnpause rfl (by simp)

theorem unpauseNewPurchases_effect {o : Outcome Unit} (h : unpauseNewPurchases env s = .ok o) :
    Effect env s .unpauseNewPurchases o.state o.promises := by
  simp only [unpauseNewPurchases, bind_eq_ok, assertAdmin_ok] at h
  obtain ⟨-, hadmin, h⟩ := h
  split at h
  · next hopen =>
      cases pure_eq_ok.mp h
      exact .ofControls (.clearUnpause hopen) rfl (by simp)
  · next hpaused =>
      obtain ⟨_, helapsed, h⟩ := bind_eq_ok.mp h
      cases pure_eq_ok.mp h
      exact .ofControls (.unpause hadmin (by simpa using hpaused) helapsed) rfl (by simp)

/-! ## The public beta window -/

theorem startPublicTestnetBeta_effect {o : Outcome PublicTestnetBetaState}
    (h : startPublicTestnetBeta env s = .ok o) :
    Effect env s .startPublicTestnetBeta o.state o.promises := by
  simp only [startPublicTestnetBeta, bind_eq_ok, pure_eq_ok] at h
  obtain ⟨-, -, -, -, _, -, -, -, -, -, -, -, -, -, _, -, _, -, rfl⟩ := h
  exact .ofUploads _ rfl (by simp) (by simp)

theorem closePublicTestnetBeta_effect {o : Outcome PublicTestnetBetaState}
    (h : closePublicTestnetBeta env s = .ok o) :
    Effect env s .closePublicTestnetBeta o.state o.promises := by
  simp only [closePublicTestnetBeta, bind_eq_ok, assertGuardian_ok] at h
  obtain ⟨-, hguardian, state, -, h⟩ := h
  split at h
  · cases pure_eq_ok.mp h
    exact .refl rfl
  · cases pure_eq_ok.mp h
    exact {
      roles := .same
      controls := .pause hguardian (.inr rfl)
      catalog := .same
      till := fun _ => .once (.quiet rfl (by simp)) }

/-! ## Bridge rotation -/

theorem proposeBridge_effect {next : AccountId} {o : Outcome Unit}
    (h : proposeBridge env s next = .ok o) :
    Effect env s (.proposeBridge next) o.state o.promises := by
  simp only [proposeBridge, bind_eq_ok, assertAdmin_ok] at h
  obtain ⟨-, hadmin, _, hvalid, h⟩ := h
  split at h
  · cases pure_eq_ok.mp h
    exact .refl rfl
  · simp only [bind_eq_ok, pure_eq_ok] at h
    obtain ⟨-, -, _, -, rfl⟩ := h
    exact .ofRoles (.proposeBridge hadmin hvalid) rfl

theorem cancelBridgeRotation_effect {o : Outcome Unit} (h : cancelBridgeRotation env s = .ok o) :
    Effect env s .cancelBridgeRotation o.state o.promises := by
  simp only [cancelBridgeRotation, bind_eq_ok] at h
  obtain ⟨-, -, h⟩ := h
  split at h
  · cases pure_eq_ok.mp h
    exact .refl rfl
  · cases pure_eq_ok.mp h
    exact .ofRoles .cancelBridge rfl

theorem executeBridgeRotation_effect {o : Outcome Unit} (h : executeBridgeRotation env s = .ok o) :
    Effect env s .executeBridgeRotation o.state o.promises := by
  simp only [executeBridgeRotation, bind_eq_ok, assertAdmin_ok, expect_eq_ok, pure_eq_ok] at h
  obtain ⟨-, hadmin, _, hproposed, _, hexecutable, _, hdue, next, hpending, rfl⟩ := h
  exact .ofRoles (.executeBridge hadmin hproposed hexecutable (require_eq_ok.mp hdue) hpending) rfl

/-! ## Role rotation -/

theorem proposeRoleRotation_effect {role : GovernanceRole} {next : AccountId}
    {o : Outcome PendingRoleRotation} (h : proposeRoleRotation env s role next = .ok o) :
    Effect env s (.proposeRoleRotation role next) o.state o.promises := by
  simp only [proposeRoleRotation, bind_eq_ok, assertAdmin_ok] at h
  obtain ⟨-, hadmin, h⟩ := h
  split at h
  · simp only [bind_eq_ok, pure_eq_ok] at h
    obtain ⟨-, -, rfl⟩ := h
    exact .refl rfl
  · simp only [bind_eq_ok, pure_eq_ok] at h
    obtain ⟨_, hvalid, _, -, executableAtMs, -, rfl⟩ := h
    let pending : PendingRoleRotation := {
      role := role
      currentAccountId := s.roleAccountId role
      nextAccountId := next
      proposedAtMs := env.blockTimestampMs
      executableAtMs := executableAtMs }
    exact .ofRoles (.proposeRole pending hadmin hvalid) rfl

theorem cancelRoleRotation_effect {role : GovernanceRole} {o : Outcome Unit}
    (h : cancelRoleRotation env s role = .ok o) :
    Effect env s (.cancelRoleRotation role) o.state o.promises := by
  simp only [cancelRoleRotation, bind_eq_ok] at h
  obtain ⟨-, -, h⟩ := h
  split at h
  · cases pure_eq_ok.mp h
    exact .refl rfl
  · cases pure_eq_ok.mp h
    exact .ofRoles .cancelRole rfl

theorem executeRoleRotation_effect {role : GovernanceRole} {o : Outcome Unit}
    (h : executeRoleRotation env s role = .ok o) :
    Effect env s (.executeRoleRotation role) o.state o.promises := by
  simp only [executeRoleRotation, bind_eq_ok, assertAdmin_ok, expect_eq_ok, require_eq_ok,
    pure_eq_ok] at h
  obtain ⟨-, hadmin, pending, hpending, -, hdue, -, hcurrent, _, hvalid, rfl⟩ := h
  exact .ofRoles (.executeRole hadmin hpending hdue hcurrent hvalid) rfl

/-! ## Code upgrade -/

theorem proposeCodeUpgrade_effect {codeSha256 : String} {o : Outcome PendingCodeUpgrade}
    (h : proposeCodeUpgrade env s codeSha256 = .ok o) :
    Effect env s (.proposeCodeUpgrade codeSha256) o.state o.promises := by
  simp only [proposeCodeUpgrade, bind_eq_ok, assertAdmin_ok] at h
  obtain ⟨-, hadmin, -, -, h⟩ := h
  split at h
  · simp only [bind_eq_ok, pure_eq_ok] at h
    obtain ⟨-, -, rfl⟩ := h
    exact .refl rfl
  · next hnone =>
      simp only [bind_eq_ok, pure_eq_ok] at h
      obtain ⟨delay, hdelay, executableAtMs, hdue, rfl⟩ := h
      let pending : PendingCodeUpgrade := {
        codeSha256 := codeSha256
        proposedAtMs := env.blockTimestampMs
        executableAtMs := executableAtMs }
      exact .ofControls (.proposeUpgrade pending hadmin hnone rfl
        (bind_eq_ok.mpr ⟨delay, hdelay, hdue⟩)) rfl (by simp)

theorem cancelCodeUpgrade_effect {o : Outcome Unit} (h : cancelCodeUpgrade env s = .ok o) :
    Effect env s .cancelCodeUpgrade o.state o.promises := by
  simp only [cancelCodeUpgrade, bind_eq_ok] at h
  obtain ⟨-, -, h⟩ := h
  split at h
  · cases pure_eq_ok.mp h
    exact .refl rfl
  · cases pure_eq_ok.mp h
    exact .ofControls .cancelUpgrade rfl (by simp)

theorem executeCodeUpgrade_effect {o : Outcome Unit} (h : executeCodeUpgrade env s = .ok o) :
    Effect env s .executeCodeUpgrade o.state o.promises := by
  simp only [executeCodeUpgrade, bind_eq_ok, expect_eq_ok, require_eq_ok, pure_eq_ok] at h
  obtain ⟨pending, hpending, -, hdue, code, -, -, hhash, rfl⟩ := h
  exact .ofControls (.executeUpgrade hpending hdue hhash) rfl (by simp [Promise.isUsdc])

theorem migrate_effect {o : Outcome Unit} (h : migrate env s = .ok o) :
    Effect env s .migrate o.state o.promises := by
  simp only [migrate, bind_eq_ok, expect_eq_ok, pure_eq_ok] at h
  obtain ⟨-, -, -, -, pending, hpending, rfl⟩ := h
  exact .ofControls (.migrate hpending) rfl (by simp)

end Youtick.MarketV2
