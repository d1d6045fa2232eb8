import Youtick.AccessControl.Contract

/-!
# Access control: what a call does to the governance state

The accounts, the pause switches and the queued proposals are one record, and `GovernanceStep` says
what a call may do to it, guards included. The emergency pause and the separation of the guardian
are proved from that list.
-/

set_option autoImplicit false

namespace Youtick.AccessControl

open Youtick.Lib

structure Governance where
  ownerId : AccountId
  pendingOwnerId : Option AccountId
  guardian : Option AccountId
  paused : Option Bool
  pausedScopes : Finset String
  timelocks : LookupMap Nat TimelockProposal

def AccessControlContract.governance (s : AccessControlContract) : Governance where
  ownerId := s.ownerId
  pendingOwnerId := s.pendingOwnerId
  guardian := s.guardian
  paused := s.paused
  pausedScopes := s.pausedScopes
  timelocks := s.timelocks

/-- What an executed action does to the governance state. -/
def Governance.apply (g : Governance) : TimelockAction → Governance
  | .pauseScope scope => { g with pausedScopes := insert scope.asKey g.pausedScopes }
  | .unpauseScope scope => { g with pausedScopes := g.pausedScopes.erase scope.asKey }
  | .pauseContract => { g with paused := some true }
  | .unpauseContract => { g with paused := some false }
  | .proposeOwner proposedOwnerId => { g with pendingOwnerId := some proposedOwnerId }
  | .setGuardian guardianId => { g with guardian := some guardianId }
  | .setScopePolicy .. | .setMarketContract _ | .setGrantIssuance _ => g

/-- What a successful call does to the governance state. -/
inductive GovernanceStep (env : Env) (g : Governance) : Call → Governance → Prop where
  | same {call : Call} (h : call ≠ .acceptOwnership) : GovernanceStep env g call g
  | pauseScope {scope : SessionScope} :
      GovernanceStep env g (.pauseScope scope)
        { g with pausedScopes := insert scope.asKey g.pausedScopes }
  | pauseContract : GovernanceStep env g .pauseContract { g with paused := some true }
  | acceptOwnership (h : g.pendingOwnerId = some env.predecessorAccountId) :
      GovernanceStep env g .acceptOwnership
        { g with pendingOwnerId := none, ownerId := env.predecessorAccountId }
  | propose {action : TimelockAction} {id : Nat} :
      GovernanceStep env g (.proposeAction action)
        { g with
          timelocks :=
            g.timelocks.insert id ⟨action, env.predecessorAccountId, env.blockTimestamp⟩ }
  | execute {id : Nat} {proposal : TimelockProposal} (hget : g.timelocks.get id = some proposal)
      (hdue : env.blockTimestamp - proposal.proposedAt ≥ timelockDelayNs env.toHost)
      (hguardian : ∀ guardianId, proposal.action = .setGuardian guardianId →
        guardianId ≠ g.ownerId) :
      GovernanceStep env g (.executeAction id)
        (Governance.apply { g with timelocks := g.timelocks.remove id } proposal.action)
  | cancel {id : Nat} :
      GovernanceStep env g (.cancelAction id) { g with timelocks := g.timelocks.remove id }

section Step

variable {env : Env} {s s' : AccessControlContract}

theorem applyAction_governance {action : TimelockAction} (h : applyAction s action = .ok s') :
    s'.governance = s.governance.apply action ∧
      ∀ guardianId, action = .setGuardian guardianId → guardianId ≠ s.ownerId := by
  cases action with
  | setGuardian guardianId =>
    simp only [applyAction, writeGuardian, bind_eq_ok, require_eq_ok, pure_eq_ok] at h
    obtain ⟨-, hne, rfl⟩ := h
    refine ⟨rfl, fun other hother => ?_⟩
    obtain rfl := TimelockAction.setGuardian.inj hother
    exact hne
  | _ =>
    obtain rfl := Except.ok.inj h
    exact ⟨rfl, fun _ hother => TimelockAction.noConfusion hother⟩

/-- A successful call is one of these steps. -/
theorem governanceStep_of_run {call : Call} (h : call.run env s = .ok s') :
    GovernanceStep env s.governance call s'.governance := by
  simp only [Call.run, bind_eq_ok, require_eq_ok] at h
  obtain ⟨-, -, hbody⟩ := h
  cases call with
  | issueSessionGrant request =>
    simp only [callBody, issueSessionGrant, listSessionKey, bind_eq_ok, pure_eq_ok] at hbody
    obtain ⟨_, ⟨_, -, listed, hlist, rfl⟩, rfl⟩ := hbody
    have hsame : listed.governance = s.governance := by
      split at hlist
      · obtain rfl := Except.ok.inj hlist
        rfl
      · simp only [bind_eq_ok, pure_eq_ok] at hlist
        obtain ⟨-, -, rfl⟩ := hlist
        rfl
    rw [← hsame]
    exact .same (by simp)
  | revokeSessionGrant sessionPk =>
    simp only [callBody, revokeSessionGrant, bind_eq_ok, pure_eq_ok] at hbody
    obtain ⟨_, -, -, -, rfl⟩ := hbody
    exact .same (by simp)
  | revokeSubjectSessions ownerId =>
    simp only [callBody, revokeSubjectSessions, bind_eq_ok, pure_eq_ok] at hbody
    obtain ⟨-, -, rfl⟩ := hbody
    exact .same (by simp)
  | cleanupSessionGrants ownerId limit =>
    simp only [callBody, cleanupSessionGrants, bind_eq_ok, pure_eq_ok] at hbody
    obtain ⟨_, ⟨-, -, -, -, rfl⟩, rfl⟩ := hbody
    exact .same (by simp)
  | pauseScope scope =>
    simp only [callBody, pauseScope, bind_eq_ok, pure_eq_ok] at hbody
    obtain ⟨-, -, rfl⟩ := hbody
    exact .pauseScope
  | pauseContract =>
    simp only [callBody, pauseContract, bind_eq_ok, pure_eq_ok] at hbody
    obtain ⟨-, -, rfl⟩ := hbody
    split
    · exact .same (by simp)
    · exact .pauseContract
  | acceptOwnership =>
    simp only [callBody, acceptOwnership, bind_eq_ok, expect_eq_ok, require_eq_ok,
      pure_eq_ok] at hbody
    obtain ⟨_, hpending, -, rfl, rfl⟩ := hbody
    exact .acceptOwnership hpending
  | proposeAction action =>
    simp only [callBody, proposeAction, bind_eq_ok, pure_eq_ok] at hbody
    obtain ⟨_, ⟨-, -, _, -, rfl⟩, rfl⟩ := hbody
    exact .propose
  | executeAction id =>
    simp only [callBody, executeAction, bind_eq_ok, expect_eq_ok, require_eq_ok] at hbody
    obtain ⟨-, -, proposal, hget, -, hdue, happly⟩ := hbody
    obtain ⟨hgovernance, hguardian⟩ := applyAction_governance happly
    rw [hgovernance]
    exact .execute hget hdue hguardian
  | cancelAction id =>
    simp only [callBody, cancelAction, bind_eq_ok, pure_eq_ok] at hbody
    obtain ⟨_, -, -, -, rfl⟩ := hbody
    exact .cancel
  | _ => cases hbody

end Step

end Youtick.AccessControl
