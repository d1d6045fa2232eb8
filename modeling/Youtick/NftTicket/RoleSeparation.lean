import Youtick.NftTicket.Effects

/-!
# The V1 market: separation of roles

`new` requires that certain pairs of authorities are different accounts, and every rotation of a role
checks the same pairs for the roles as they will be. The execution of a bridge rotation checks
nothing: it rests on `RotationSound`, which also keeps a pending bridge apart from every role. A role
rotation keeps that even when it was proposed before the bridge and is executed after it, because
`execute_role_rotation` compares the next account with the pending bridge once more.
-/

set_option autoImplicit false

namespace Youtick.NftTicket

open Youtick.Lib
open Youtick.MarketV2 (AccountId Host)

/-! ## The separation `new` enforces -/

structure Roles.Separated (r : Roles) : Prop where
  platform : r.platformAccountId ≠ r.activeBridgeAccountId
  admin : r.adminAccountId ≠ r.guardianAccountId
  adminBridge : r.adminAccountId ≠ r.activeBridgeAccountId
  guardianBridge : r.guardianAccountId ≠ r.activeBridgeAccountId
  takedownBridge : r.takedownAuthorityId ≠ r.activeBridgeAccountId
  takedownPlatform : r.takedownAuthorityId ≠ r.platformAccountId

/-- The roles are separated, and a pending bridge is none of their accounts. -/
structure RotationSound (r : Roles) : Prop where
  separated : r.Separated
  pending : ∀ next, r.pendingBridgeAccountId = some next → ∀ role, r.roleAccountId role ≠ next

/-- A separate account can take over the bridge with no further check. -/
theorem Roles.Separated.rotateBridge {r : Roles} (h : r.Separated) {next : AccountId}
    (hnext : ∀ role, r.roleAccountId role ≠ next) :
    ({ r with activeBridgeAccountId := next } : Roles).Separated where
  platform := hnext .platform
  admin := h.admin
  adminBridge := hnext .admin
  guardianBridge := hnext .guardian
  takedownBridge := hnext .takedownAuthority
  takedownPlatform := h.takedownPlatform

theorem new_rotationSound {config : MarketInitConfig} {c : Contract} (h : new config = .ok c) :
    RotationSound c.toRoles := by
  simp only [new, bind_eq_ok, require_eq_ok, pure_eq_ok] at h
  obtain ⟨-, hplatform, -, -, -, -, -, hadmin, -, ⟨hadminBridge, hguardianBridge⟩, -,
    ⟨htakedownBridge, htakedownPlatform⟩, rfl⟩ := h
  constructor
  · exact ⟨hplatform, hadmin, hadminBridge, hguardianBridge, htakedownBridge, htakedownPlatform⟩
  · -- Nothing is pending in a fresh contract.
    intro next hnext
    cases hnext

theorem Deployed.rotationSound {host : Host} {c : Contract} (h : Deployed host c) :
    RotationSound c.toRoles := by
  cases h with
  | new h => exact new_rotationSound h
  | newPublicTestnet _ h =>
    simp only [NftTicket.newPublicTestnet, bind_eq_ok, pure_eq_ok] at h
    obtain ⟨contract, hnew, _, -, -, -, -, -, rfl⟩ := h
    have hsound := new_rotationSound hnew
    exact hsound

/-! ## One rotation -/

section Step

variable {env : Env} {s : Contract} {c : Call} {roles : Roles}

theorem Roles.roleAccountId_set (r : Roles) (role candidate : GovernanceRole)
    (accountId : AccountId) :
    (r.setRoleAccountId role accountId).roleAccountId candidate =
      if candidate = role then accountId else r.roleAccountId candidate := by
  cases role <;> cases candidate <;> rfl

@[simp] theorem Roles.setRoleAccountId_bridge (r : Roles) (role : GovernanceRole)
    (accountId : AccountId) :
    (r.setRoleAccountId role accountId).activeBridgeAccountId = r.activeBridgeAccountId := by
  cases role <;> rfl

@[simp] theorem Roles.setRoleAccountId_pending (r : Roles) (role : GovernanceRole)
    (accountId : AccountId) :
    (r.setRoleAccountId role accountId).pendingBridgeAccountId = r.pendingBridgeAccountId := by
  cases role <;> rfl

/-- What a proposed bridge is compared with. -/
theorem assertValidBridgeAccount_ok {next : AccountId}
    (h : assertValidBridgeAccount s next = .ok ⟨⟩) (role : GovernanceRole) :
    s.roleAccountId role ≠ next := by
  obtain ⟨-, hplatform, htakedown, hadmin, hguardian⟩ := require_eq_ok.mp h
  cases role with
  | admin => exact hadmin.symm
  | guardian => exact hguardian.symm
  | platform => exact hplatform.symm
  | takedownAuthority => exact htakedown.symm

/-- The check of a role rotation is the separation of the roles after it, and the next account is
not the pending bridge. -/
theorem assertValidRoleAssignment_ok {role : GovernanceRole} {next : AccountId}
    (h : assertValidRoleAssignment s role next = .ok ⟨⟩) :
    (s.toRoles.setRoleAccountId role next).Separated ∧ s.pendingBridgeAccountId ≠ some next := by
  simp only [assertValidRoleAssignment, ← Roles.roleAccountId_set, bind_eq_ok, require_eq_ok,
    checkSome_eq_ok] at h
  obtain ⟨-, -, -, hplatform, -, hadmin, -, ⟨hadminBridge, hguardianBridge⟩, -,
    ⟨htakedownBridge, htakedownPlatform⟩, hpending⟩ := h
  constructor
  · constructor
    · rw [Roles.setRoleAccountId_bridge]
      exact hplatform
    · exact hadmin
    · rw [Roles.setRoleAccountId_bridge]
      exact hadminBridge
    · rw [Roles.setRoleAccountId_bridge]
      exact hguardianBridge
    · rw [Roles.setRoleAccountId_bridge]
      exact htakedownBridge
    · exact htakedownPlatform
  · intro hnext
    exact hpending next hnext rfl

/-- Every rotation keeps the roles separated and the pending bridge apart. -/
theorem RolesStep.sound (h : RolesStep env s c roles) (hs : RotationSound s.toRoles) :
    RotationSound roles := by
  cases h with
  | same => exact hs
  | proposeBridge hadmin hvalid =>
    refine ⟨{ hs.separated with }, ?_⟩
    rintro next ⟨⟩ role
    exact assertValidBridgeAccount_ok hvalid role
  | cancelBridge => exact ⟨{ hs.separated with }, fun next hnext => (nomatch hnext)⟩
  | executeBridge hadmin hpending =>
    -- No check is made here: the pending bridge has been apart from the roles all along.
    have hafter := hs.separated.rotateBridge (hs.pending _ hpending)
    exact ⟨{ hafter with }, fun next hnext => (nomatch hnext)⟩
  | proposeRole | cancelRole => exact ⟨{ hs.separated with }, hs.pending⟩
  | @executeRole role pending hadmin hpending hvalid =>
    obtain ⟨hseparated, hbridge⟩ := assertValidRoleAssignment_ok hvalid
    refine ⟨{ hseparated with }, ?_⟩
    intro next hnext candidate
    -- The bridge may have been proposed after this rotation was.
    have hsame : s.pendingBridgeAccountId = some next := by
      rw [← Roles.setRoleAccountId_pending s.toRoles role pending.nextAccountId]
      exact hnext
    show (s.toRoles.setRoleAccountId role pending.nextAccountId).roleAccountId candidate ≠ next
    rw [Roles.roleAccountId_set]
    split
    · intro heq
      exact hbridge (heq ▸ hsame)
    · exact hs.pending next hsame candidate

end Step

/-! ## Every run -/

section Runs

variable {host : Host} {s s' : Contract} {x : Context × Call}

theorem callStep_cases (h : callStep host s x s') :
    s' = s ∨ ∃ o, x.2.run ⟨host, x.1⟩ s = .ok o ∧ s' = o.state := by
  unfold callStep ExecStep Contract.exec at h
  split at h
  · next o hrun => exact .inr ⟨o, hrun, (Option.some.inj h).symm⟩
  · exact .inl (Option.some.inj h).symm

theorem RotationSound.step (hs : RotationSound s.toRoles) (h : callStep host s x s') :
    RotationSound s'.toRoles := by
  rcases callStep_cases h with rfl | ⟨o, hrun, rfl⟩
  · exact hs
  · exact (Call.run_effect hrun).roles.sound hs

/-- In every state of every run from a fresh contract, whoever calls what and when, the roles are
separated, a pending bridge is none of their accounts, and they stay separated when it takes over. -/
theorem roles_separated {c₀ c : Contract} {tr : List (Transition Contract (Context × Call))}
    (h₀ : Deployed host c₀) (h : Trace (callStep host) c₀ tr c) :
    c.toRoles.Separated ∧ ∀ next, c.pendingBridgeAccountId = some next →
      (∀ role, c.roleAccountId role ≠ next) ∧
        ({ c.toRoles with activeBridgeAccountId := next } : Roles).Separated := by
  have hsound : RotationSound c.toRoles :=
    h.invariant (I := fun s => RotationSound s.toRoles) (fun _ _ _ hs hstep => hs.step hstep)
      h₀.rotationSound
  refine ⟨hsound.separated, ?_⟩
  intro next hnext
  exact ⟨hsound.pending next hnext, hsound.separated.rotateBridge (hsound.pending next hnext)⟩

/-- A guardian is proposed, then a bridge; the guardian is rotated first. -/
def Vectors.rotations : List (Context × Call) :=
  [(context config.adminAccountId, .proposeRoleRotation .guardian "guardian-2.testnet"),
   (context config.adminAccountId, .proposeBridge "bridge-2.testnet"),
   (context config.adminAccountId, .executeRoleRotation .guardian)]

theorem roles_separated_rotations :
    ∃ c₀ tr c, Deployed Vectors.host c₀ ∧ Trace (callStep Vectors.host) c₀ tr c ∧
      (c.guardianAccountId, c.pendingBridgeAccountId) =
        ("guardian-2.testnet", some "bridge-2.testnet") ∧
      c.toRoles.Separated := by
  have hrun : (Vectors.run (Contract.exec Vectors.host) id Vectors.rotations).map
      (fun r => (r.2.guardianAccountId, r.2.pendingBridgeAccountId)) =
        some ("guardian-2.testnet", some "bridge-2.testnet") := by decide +kernel
  obtain ⟨c₀, tr, c, hnew, h, hroles⟩ := Vectors.trace_of_run hrun
  exact ⟨c₀, tr, c, .new hnew, h, hroles, (roles_separated (.new hnew) h).1⟩

end Runs

end Youtick.NftTicket
