import Youtick.AccessControl.Governance

/-!
# Access control: the guardian and the owner

`new` and every change of the guardian compare the guardian with the owner. A change of the owner
does not: the two stay apart exactly until the guardian, proposed as owner, accepts.
-/

set_option autoImplicit false

namespace Youtick.AccessControl

open Youtick.Lib

/-- The guardian, when there is one, is not the owner. -/
def Governance.Apart (g : Governance) : Prop := g.guardian ≠ some g.ownerId

/-- The guardian accepts the ownership it was offered. -/
def GuardianAccepts (x : Transition World (Context × Call)) : Prop :=
  x.label.1.attachedDeposit = 0 ∧ x.label.2 = .acceptOwnership ∧
    x.pre.contract.pendingOwnerId = some x.label.1.predecessorAccountId ∧
    x.pre.contract.guardian = some x.label.1.predecessorAccountId

section Step

variable {env : Env} {g g' : Governance} {call : Call}

theorem Governance.Apart.apply (h : g.Apart) {action : TimelockAction}
    (hguardian : ∀ guardianId, action = .setGuardian guardianId → guardianId ≠ g.ownerId) :
    (g.apply action).Apart := by
  cases action with
  | setGuardian guardianId => exact fun heq => hguardian guardianId rfl (Option.some.inj heq)
  | _ => exact h

/-- Every step but the guardian's acceptance keeps the two apart. -/
theorem Governance.Apart.step (h : g.Apart) (hst : GovernanceStep env g call g')
    (hno : ¬ (call = .acceptOwnership ∧ g.pendingOwnerId = some env.predecessorAccountId ∧
      g.guardian = some env.predecessorAccountId)) : g'.Apart := by
  cases hst with
  | acceptOwnership hpending => exact fun heq => hno ⟨rfl, hpending, heq⟩
  | @execute id proposal hget hdue hguardian =>
    exact Governance.Apart.apply (g := { g with timelocks := g.timelocks.remove id }) h hguardian
  | same | pauseScope | pauseContract | propose | cancel => exact h

theorem new_apart {ownerId marketContractId : AccountId} {guardianId : Option AccountId}
    {s : AccessControlContract} (h : new ownerId marketContractId guardianId = .ok s) :
    s.governance.Apart := by
  cases guardianId with
  | none =>
    obtain rfl := Except.ok.inj h
    exact nofun
  | some guardianId =>
    simp only [new, writeGuardian, bind_eq_ok, require_eq_ok, pure_eq_ok] at h
    obtain ⟨_, ⟨-, hne, rfl⟩, rfl⟩ := h
    exact fun heq => hne (Option.some.inj heq)

end Step

section Runs

variable {host : Host}

theorem apart_step {w w' : World} {label : Context × Call} (h : w.contract.governance.Apart)
    (hst : worldStep host w label w') (hno : ¬ GuardianAccepts ⟨w, label, w'⟩) :
    w'.contract.governance.Apart := by
  obtain ⟨-, -, hsame | hrun⟩ := worldStep_cases hst
  · rw [hsame]
    exact h
  · refine h.step (governanceStep_of_run hrun) fun ⟨hcall, hpending, hguardian⟩ => hno ?_
    obtain ⟨_, hdeposit, -⟩ := bind_eq_ok.mp hrun
    exact ⟨require_eq_ok.mp hdeposit, hcall, hpending, hguardian⟩

/-- The acceptance goes through, and the guardian is the owner. -/
theorem GuardianAccepts.breaks {x : Transition World (Context × Call)} (h : GuardianAccepts x)
    (hst : worldStep host x.pre x.label x.post) : ¬ x.post.contract.governance.Apart := by
  obtain ⟨hdeposit, hcall, hpending, hguardian⟩ := h
  have hrun : x.label.2.run ⟨host, x.label.1⟩ x.pre.contract = .ok
      { x.pre.contract with
        pendingOwnerId := none
        ownerId := x.label.1.predecessorAccountId } := by
    rw [hcall]
    simp only [Call.run, callBody, acceptOwnership, bind_eq_ok, require_eq_ok, expect_eq_ok,
      pure_eq_ok]
    exact ⟨⟨⟩, hdeposit, _, hpending, ⟨⟩, rfl, rfl⟩
  rw [contract_of_run hst hrun]
  exact fun hapart => hapart hguardian

/-- In a run from `new` the guardian differs from the owner in every state exactly when the guardian
accepts no ownership. -/
theorem guardian_apart_iff {w₀ w : World} {tr : List (Transition World (Context × Call))}
    (hinit : Initial w₀) (htr : Trace (worldStep host) w₀ tr w) :
    (w₀.contract.guardian ≠ some w₀.contract.ownerId ∧
      ∀ x ∈ tr, x.post.contract.guardian ≠ some x.post.contract.ownerId) ↔
      ∀ x ∈ tr, ¬ GuardianAccepts x := by
  constructor
  · rintro ⟨-, hall⟩ x hx haccepts
    exact haccepts.breaks (htr.step_of_mem hx) (hall x hx)
  · intro hno
    have h₀ : w₀.contract.governance.Apart := by
      cases hinit with
      | new hnew now => exact new_apart hnew
    refine ⟨h₀, fun x hx => ?_⟩
    exact ((htr.invariant_along (I := fun w => w.contract.governance.Apart) h₀
      fun y hy hpre hst => apart_step hpre hst (hno y hy)).2 x hx).2

/-- The owner offers the ownership to the guardian, who accepts. -/
def Vectors.guardianAccepts : List (Context × Call) :=
  [(context ownerId start, .proposeAction (.proposeOwner guardianId)),
   (context ownerId (start + timelockDelay), .executeAction 0),
   (context guardianId (start + timelockDelay), .acceptOwnership)]

theorem guardian_becomes_owner :
    ¬ ∀ (host : Host) (w₀ w : World) (tr : List (Transition World (Context × Call))),
      Initial w₀ → Trace (worldStep host) w₀ tr w →
      w.contract.guardian ≠ some w.contract.ownerId := by
  intro hclaim
  have hrun : (Vectors.run Vectors.guardianAccepts).map (fun r =>
      (r.2.contract.guardian, r.2.contract.ownerId)) =
      some (some Vectors.guardianId, Vectors.guardianId) := by decide +kernel
  obtain ⟨w₀, tr, w, hinit, htr, hroles⟩ := Vectors.trace_of_run hrun
  obtain ⟨hguardian, howner⟩ := Prod.mk.inj hroles
  exact hclaim Vectors.host w₀ w tr hinit htr (hguardian.trans (congrArg some howner).symm)

/-- The ownership goes to a new account. -/
def Vectors.newOwnerAccepts : List (Context × Call) :=
  [(context ownerId start, .proposeAction (.proposeOwner "owner-2.youtick.near")),
   (context ownerId (start + timelockDelay), .executeAction 0),
   (context "owner-2.youtick.near" (start + timelockDelay), .acceptOwnership)]

theorem guardian_apart_newOwner : ∃ w₀ tr w, Initial w₀ ∧ Trace (worldStep Vectors.host) w₀ tr w ∧
    w.contract.ownerId = "owner-2.youtick.near" ∧
    ((w₀.contract.guardian ≠ some w₀.contract.ownerId ∧
      ∀ x ∈ tr, x.post.contract.guardian ≠ some x.post.contract.ownerId) ↔
      ∀ x ∈ tr, ¬ GuardianAccepts x) := by
  have hrun : (Vectors.run Vectors.newOwnerAccepts).map (fun r => r.2.contract.ownerId) =
      some "owner-2.youtick.near" := by decide +kernel
  obtain ⟨w₀, tr, w, hinit, htr, howner⟩ := Vectors.trace_of_run hrun
  exact ⟨w₀, tr, w, hinit, htr, howner, guardian_apart_iff hinit htr⟩

end Runs

end Youtick.AccessControl
