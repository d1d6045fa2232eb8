import Youtick.MarketV2.Runs

/-!
# Market V2: separation of roles

`new` requires that certain pairs of authorities are different accounts. Every rotation checks the
pairs again, for the roles as they will be and against a pending bridge, so they hold for ever
(`RotationSound`), except for the two pairs of the tax account with the platform and with the bridge:
no rotation compares these. They hold exactly until the tax account is rotated into one of the two
roles.
-/

set_option autoImplicit false

namespace Youtick.MarketV2

open Youtick.Lib

/-! ## The separation `new` enforces -/

/-- The pairs every rotation compares. -/
structure Roles.Distinct (r : Roles) : Prop where
  operator : r.paymentOperatorId ≠ r.activeBridgeAccountId ∧
    r.paymentOperatorId ≠ r.platformAccountId ∧ r.paymentOperatorId ≠ r.adminAccountId ∧
    r.paymentOperatorId ≠ r.guardianAccountId ∧ r.paymentOperatorId ≠ r.takedownAuthorityId ∧
    r.paymentOperatorId ≠ r.taxAccountId
  platform : r.platformAccountId ≠ r.activeBridgeAccountId
  admin : r.adminAccountId ≠ r.guardianAccountId
  bridge : r.adminAccountId ≠ r.activeBridgeAccountId ∧
    r.guardianAccountId ≠ r.activeBridgeAccountId
  takedown : r.takedownAuthorityId ≠ r.activeBridgeAccountId ∧
    r.takedownAuthorityId ≠ r.platformAccountId

/-- The tax account is neither the platform nor the bridge. -/
def Roles.TaxApart (r : Roles) : Prop :=
  r.taxAccountId ≠ r.platformAccountId ∧ r.taxAccountId ≠ r.activeBridgeAccountId

/-- Everything `new` requires. -/
structure Roles.Separated (r : Roles) : Prop extends Roles.Distinct r where
  tax : r.TaxApart

theorem new_separated {env : Env} {config : MarketInitConfig} {c : Contract}
    (h : new env config = .ok c) : c.toRoles.Separated := by
  simp only [new, bind_eq_ok, require_eq_ok, pure_eq_ok] at h
  obtain ⟨-, hoperator, -, -, -, htax, _, -, -, hplatform, -, -, -, -, -, hadmin, -, hbridge, -,
    htakedown, rfl⟩ := h
  obtain ⟨hbridge', hplatform', hadmin', hguardian', htakedown', htax'⟩ := hoperator
  exact {
    operator := ⟨hbridge', hplatform', hadmin', hguardian', htakedown', htax'⟩
    platform := hplatform
    admin := hadmin
    bridge := hbridge
    takedown := htakedown
    tax := htax }

/-! ## One rotation -/

section Step

variable {env : Env} {s : Contract} {c : Call} {roles : Roles}

theorem Roles.roleAccountId_set (r : Roles) (role candidate : GovernanceRole)
    (accountId : AccountId) :
    (r.setRoleAccountId role accountId).roleAccountId candidate =
      if candidate = role then accountId else r.roleAccountId candidate := by
  cases role <;> cases candidate <;> rfl

/-- A rotation replaces a role's account and nothing else. -/
@[simp] theorem Roles.setRoleAccountId_bridge (r : Roles) (role : GovernanceRole)
    (accountId : AccountId) :
    (r.setRoleAccountId role accountId).activeBridgeAccountId = r.activeBridgeAccountId := by
  cases role <;> rfl

@[simp] theorem Roles.setRoleAccountId_tax (r : Roles) (role : GovernanceRole)
    (accountId : AccountId) :
    (r.setRoleAccountId role accountId).taxAccountId = r.taxAccountId := by
  cases role <;> rfl

@[simp] theorem Roles.setRoleAccountId_pending (r : Roles) (role : GovernanceRole)
    (accountId : AccountId) :
    (r.setRoleAccountId role accountId).pendingBridgeAccountId = r.pendingBridgeAccountId := by
  cases role <;> rfl

/-- The check of a role rotation is the separation of the roles after it. -/
theorem assertValidRoleAssignment_ok {role : GovernanceRole} {next : AccountId}
    (h : assertValidRoleAssignment s role next = .ok ⟨⟩) :
    (s.toRoles.setRoleAccountId role next).Distinct ∧ s.pendingBridgeAccountId ≠ some next := by
  simp only [assertValidRoleAssignment, ← Roles.roleAccountId_set, bind_eq_ok, require_eq_ok] at h
  obtain ⟨-, -, -, hoperator, -, hplatform, -, hadmin, -, hbridge, -, htakedown, hpending⟩ := h
  refine ⟨⟨?_, ?_, hadmin, ?_, ?_⟩, ?_⟩
  · rw [Roles.setRoleAccountId_bridge, Roles.setRoleAccountId_tax]
    exact hoperator
  · rw [Roles.setRoleAccountId_bridge]
    exact hplatform
  · rw [Roles.setRoleAccountId_bridge]
    exact hbridge
  · rw [Roles.setRoleAccountId_bridge]
    exact htakedown
  · rintro hsome
    rw [hsome] at hpending
    exact require_eq_ok.mp hpending rfl

/-- The roles are distinct, and a pending bridge is distinct from all of them. -/
structure RotationSound (r : Roles) : Prop where
  distinct : r.Distinct
  pending : ∀ next, r.pendingBridgeAccountId = some next →
    ({ r with activeBridgeAccountId := next } : Roles).Distinct

/-- Replacing the bridge keeps the pairs without it. -/
theorem Roles.Distinct.rotateBridge {r : Roles} (h : r.Distinct) {next : AccountId}
    (hplatform : next ≠ r.platformAccountId) (htakedown : next ≠ r.takedownAuthorityId)
    (hadmin : next ≠ r.adminAccountId) (hguardian : next ≠ r.guardianAccountId)
    (hoperator : next ≠ r.paymentOperatorId) :
    ({ r with activeBridgeAccountId := next } : Roles).Distinct where
  operator := ⟨hoperator.symm, h.operator.2⟩
  platform := hplatform.symm
  admin := h.admin
  bridge := ⟨hadmin.symm, hguardian.symm⟩
  takedown := ⟨htakedown.symm, h.takedown.2⟩

/-- Every rotation keeps the pairs it compares. -/
theorem RolesStep.sound (h : RolesStep env s c roles) (hs : RotationSound s.toRoles) :
    RotationSound roles := by
  cases h with
  | same => exact hs
  | proposeBridge hadmin hvalid =>
    refine ⟨{ hs.distinct with }, ?_⟩
    rintro next ⟨⟩
    obtain ⟨-, hplatform, htakedown, hadmin, hguardian, hoperator⟩ := require_eq_ok.mp hvalid
    exact { hs.distinct.rotateBridge hplatform htakedown hadmin hguardian hoperator with }
  | cancelBridge => exact ⟨{ hs.distinct with }, by simp⟩
  | executeBridge hadmin hproposed hexecutable hdue hpending =>
    exact ⟨{ hs.pending _ hpending with }, by simp⟩
  | proposeRole pending hadmin hvalid =>
    exact ⟨{ hs.distinct with }, fun next hnext => { hs.pending next hnext with }⟩
  | cancelRole => exact ⟨{ hs.distinct with }, fun next hnext => { hs.pending next hnext with }⟩
  | @executeRole role pending hadmin hpending hdue hcurrent hvalid =>
    obtain ⟨hdistinct, hbridge⟩ := assertValidRoleAssignment_ok hvalid
    refine ⟨{ hdistinct with }, fun next hnext => ?_⟩
    have hnext : s.pendingBridgeAccountId = some next := by
      rw [← Roles.setRoleAccountId_pending s.toRoles role pending.nextAccountId]
      exact hnext
    have hne : next ≠ pending.nextAccountId := fun heq => hbridge (heq ▸ hnext)
    -- The new account differs from the pending bridge, the others did before.
    have hold := hs.pending next hnext
    have hkeep : ∀ candidate, s.roleAccountId candidate ≠ next →
        (s.toRoles.setRoleAccountId role pending.nextAccountId).roleAccountId candidate ≠
          next := by
      intro candidate hcandidate
      rw [Roles.roleAccountId_set]
      split
      · exact hne.symm
      · exact hcandidate
    exact { hdistinct.rotateBridge (hkeep .platform hold.platform).symm
      (hkeep .takedownAuthority hold.takedown.1).symm (hkeep .admin hold.bridge.1).symm
      (hkeep .guardian hold.bridge.2).symm (hkeep .paymentOperator hold.operator.1).symm with }

/-! ## The tax account -/

/-- The admin executes a rotation that is due and makes the tax account the bridge or the
platform. -/
inductive RotatesToTax (env : Env) (s : Contract) : Call → Prop where
  | bridge {proposedAtMs executableAtMs : Nat}
      (hadmin : env.predecessorAccountId = s.adminAccountId)
      (hproposed : s.bridgeRotationProposedAtMs = some proposedAtMs)
      (hexecutable : bridgeRotationExecutableAtMs env proposedAtMs = .ok executableAtMs)
      (hdue : executableAtMs ≤ env.blockTimestampMs)
      (hpending : s.pendingBridgeAccountId = some s.taxAccountId) :
      RotatesToTax env s .executeBridgeRotation
  | platform {pending : PendingRoleRotation}
      (hadmin : env.predecessorAccountId = s.adminAccountId)
      (hpending : s.roleRotations.get .platform = some pending)
      (hdue : pending.executableAtMs ≤ env.blockTimestampMs)
      (hcurrent : s.platformAccountId = pending.currentAccountId)
      (htax : pending.nextAccountId = s.taxAccountId)
      (hvalid : assertValidRoleAssignment s .platform pending.nextAccountId = .ok ⟨⟩) :
      RotatesToTax env s (.executeRoleRotation .platform)

/-- Such a rotation goes through, and the tax account is apart no longer. -/
theorem RotatesToTax.run (h : RotatesToTax env s c) (hdeposit : env.attachedDeposit = 0) :
    ∃ o, c.run env s = .ok o ∧ ¬ o.state.toRoles.TaxApart := by
  cases h with
  | bridge hadmin hproposed hexecutable hdue hpending =>
    refine ⟨_, bind_eq_ok.mpr ⟨⟨⟩, require_eq_ok.mpr (.inr hdeposit), bind_eq_ok.mpr
      ⟨⟨⟩, require_eq_ok.mpr hadmin, bind_eq_ok.mpr ⟨_, expect_eq_ok.mpr hproposed,
        bind_eq_ok.mpr ⟨_, hexecutable, bind_eq_ok.mpr ⟨⟨⟩, require_eq_ok.mpr hdue,
          bind_eq_ok.mpr ⟨_, expect_eq_ok.mpr hpending, rfl⟩⟩⟩⟩⟩⟩, ?_⟩
    exact fun happart => happart.2 rfl
  | platform hadmin hpending hdue hcurrent htax hvalid =>
    refine ⟨_, bind_eq_ok.mpr ⟨⟨⟩, require_eq_ok.mpr (.inr hdeposit), bind_eq_ok.mpr
      ⟨⟨⟩, require_eq_ok.mpr hadmin, bind_eq_ok.mpr ⟨_, expect_eq_ok.mpr hpending,
        bind_eq_ok.mpr ⟨⟨⟩, require_eq_ok.mpr hdue, bind_eq_ok.mpr
          ⟨⟨⟩, require_eq_ok.mpr hcurrent, bind_eq_ok.mpr ⟨⟨⟩, hvalid, rfl⟩⟩⟩⟩⟩⟩, ?_⟩
    exact fun happart => happart.1 htax.symm

theorem RotatesToTax.not_payable (h : RotatesToTax env s c) : c.payable = false := by
  cases h <;> rfl

/-- Nothing else brings the tax account into one of the two roles. -/
theorem RolesStep.taxApart (h : RolesStep env s c roles) (hno : ¬ RotatesToTax env s c)
    (hs : s.toRoles.TaxApart) : roles.TaxApart := by
  cases h with
  | same | proposeBridge | cancelBridge | proposeRole | cancelRole => exact hs
  | executeBridge hadmin hproposed hexecutable hdue hpending =>
    refine ⟨hs.1, fun htax => hno (.bridge hadmin hproposed hexecutable hdue ?_)⟩
    rw [hpending]
    exact congrArg some htax.symm
  | @executeRole role pending hadmin hpending hdue hcurrent hvalid =>
    cases role with
    | platform =>
      exact ⟨fun htax => hno (.platform hadmin hpending hdue hcurrent htax.symm hvalid), hs.2⟩
    | admin | guardian | takedownAuthority | paymentOperator => exact hs

end Step

/-! ## Runs -/

section Runs

variable {host : Host} {s s' : Contract} {x : Context × Call}

theorem RotationSound.step (hs : RotationSound s.toRoles) (h : callStep host s x s') :
    RotationSound s'.toRoles := by
  rcases callStep_cases h with rfl | ⟨o, hrun, rfl⟩
  · exact hs
  · exact (Call.run_effect hrun).roles.sound hs

theorem new_rotationSound {env : Env} {config : MarketInitConfig} {c : Contract}
    (h : new env config = .ok c) : RotationSound c.toRoles where
  distinct := (new_separated h).toDistinct
  pending := by simp [(new_fresh h).pendingBridgeAccountId]

/-- The transition executes a due rotation of the tax account, without a deposit. -/
def TaxRotation (host : Host) (x : Transition Contract (Context × Call)) : Prop :=
  x.label.1.attachedDeposit = 0 ∧ RotatesToTax ⟨host, x.label.1⟩ x.pre x.label.2

theorem taxApart_step (hs : s.toRoles.TaxApart) (h : callStep host s x s')
    (hno : ¬ TaxRotation host ⟨s, x, s'⟩) : s'.toRoles.TaxApart := by
  rcases callStep_cases h with rfl | ⟨o, hrun, rfl⟩
  · exact hs
  · refine (Call.run_effect hrun).roles.taxApart (fun hrotates => hno ⟨?_, hrotates⟩) hs
    obtain ⟨_, hguard, -⟩ := bind_eq_ok.mp hrun
    rcases require_eq_ok.mp hguard with hpayable | hdeposit
    · simp [hrotates.not_payable] at hpayable
    · exact hdeposit

theorem TaxRotation.breaks (h : TaxRotation host ⟨s, x, s'⟩) (hstep : callStep host s x s') :
    ¬ s'.toRoles.TaxApart := by
  obtain ⟨o, hrun, hbroken⟩ := h.2.run h.1
  rwa [callStep_of_run hstep hrun]

/-- The separation of `new` holds in every state of a run exactly when no transition of the run
rotates the tax account into the platform or the bridge role. -/
theorem separated_iff_no_taxRotation {env : Env} {config : MarketInitConfig} {c₀ c : Contract}
    {tr : List (Transition Contract (Context × Call))} (h₀ : new env config = .ok c₀)
    (h : Trace (callStep env.toHost) c₀ tr c) :
    (c₀.toRoles.Separated ∧ ∀ x ∈ tr, x.post.toRoles.Separated) ↔
      ∀ x ∈ tr, ¬ TaxRotation env.toHost x := by
  constructor
  · rintro ⟨-, hall⟩ x hx hrotation
    exact hrotation.breaks (h.step_of_mem hx) (hall x hx).tax
  · intro hno
    refine ⟨new_separated h₀, fun x hx => ?_⟩
    have hdistinct := (h.invariant_mem (I := fun s => RotationSound s.toRoles)
      (fun _ _ _ hs hst => hs.step hst) (new_rotationSound h₀) hx).2.distinct
    have htax := (h.invariant_along (I := fun s => s.toRoles.TaxApart) (new_separated h₀).tax
      fun y hy hs hst => taxApart_step hs hst (hno y hy)).2 x hx
    exact { hdistinct with tax := htax.2 }

/-- The admin rotates the bridge to the tax account. -/
def Vectors.taxBridge : List (Context × Call) :=
  [(context config.adminAccountId issuedAtMs, .proposeBridge config.taxAccountId),
   (context config.adminAccountId issuedAtMs, .executeBridgeRotation)]

/-- The admin rotates the bridge to a new account. -/
def Vectors.newBridge : List (Context × Call) :=
  [(context config.adminAccountId issuedAtMs, .proposeBridge "bridge-2.testnet"),
   (context config.adminAccountId issuedAtMs, .executeBridgeRotation)]

theorem separation_broken :
    ¬ ∀ (env : Env) (config : MarketInitConfig) (c₀ c : Contract)
      (tr : List (Transition Contract (Context × Call))), new env config = .ok c₀ →
      Trace (callStep env.toHost) c₀ tr c →
      c₀.toRoles.Separated ∧ ∀ x ∈ tr, x.post.toRoles.Separated := by
  intro hclaim
  have hrun : (Vectors.run Vectors.host (Contract.exec Vectors.host) id Vectors.taxBridge).map (fun r =>
      r.1.getLast?.map fun x => (x.post.taxAccountId, x.post.activeBridgeAccountId)) =
      some (some ("tax.testnet", "tax.testnet")) := by decide +kernel
  obtain ⟨c₀, tr, c, hnew, h, hlast⟩ := Vectors.trace_of_run hrun
  obtain ⟨x, hx, hroles⟩ := Option.map_eq_some_iff.mp hlast
  obtain ⟨htax, hbridge⟩ := Prod.mk.inj hroles
  have hseparated := (hclaim _ _ c₀ c tr hnew h).2 x (List.mem_of_getLast? hx)
  exact hseparated.tax.2 (htax.trans hbridge.symm)

theorem separated_newBridge :
    ∃ c₀ tr c, new ⟨Vectors.host, Vectors.context "" Vectors.issuedAtMs⟩ Vectors.config = .ok c₀ ∧
      Trace (callStep Vectors.host) c₀ tr c ∧ c.activeBridgeAccountId = "bridge-2.testnet" ∧
      ((c₀.toRoles.Separated ∧ ∀ x ∈ tr, x.post.toRoles.Separated) ↔
        ∀ x ∈ tr, ¬ TaxRotation Vectors.host x) := by
  have hrun : (Vectors.run Vectors.host (Contract.exec Vectors.host) id Vectors.newBridge).map (·.2.activeBridgeAccountId) =
      some "bridge-2.testnet" := by decide +kernel
  obtain ⟨c₀, tr, c, hnew, h, hbridge⟩ := Vectors.trace_of_run hrun
  exact ⟨c₀, tr, c, hnew, h, hbridge, separated_iff_no_taxRotation hnew h⟩

end Runs

end Youtick.MarketV2
