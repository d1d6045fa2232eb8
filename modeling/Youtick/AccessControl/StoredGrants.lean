import Youtick.AccessControl.Grants

/-!
# Access control: what is stored of a grant

A call stores a grant by issuing it; every other change to a stored grant is its revocation
(`stored_of_run`). So a stored grant names the key it is stored under and the resource it was issued
for (`GrantsSound`).
-/

set_option autoImplicit false

namespace Youtick.AccessControl

open Youtick.Lib

/-- The same grant, revoked or not, but never revived. -/
def SameGrant (grant grant' : SessionGrant) : Prop :=
  grant' = { grant with revoked := grant'.revoked } ∧ (grant.revoked = true → grant'.revoked = true)

theorem SameGrant.refl (grant : SessionGrant) : SameGrant grant grant := ⟨rfl, id⟩

theorem SameGrant.trans {grant mid grant' : SessionGrant} (h : SameGrant grant mid)
    (h' : SameGrant mid grant') : SameGrant grant grant' := by
  refine ⟨?_, fun hrevoked => h'.2 (h.2 hrevoked)⟩
  rw [h'.1, h.1]

/-- A stored grant comes from one stored before. -/
def Inherits (grants grants' : LookupMap String SessionGrant) : Prop :=
  ∀ text grant', grants'.get text = some grant' →
    ∃ grant, grants.get text = some grant ∧ SameGrant grant grant'

theorem Inherits.of_eq {grants grants' : LookupMap String SessionGrant} (h : grants' = grants) :
    Inherits grants grants' := by
  subst h
  intro text grant hget
  exact ⟨grant, hget, .refl grant⟩

theorem Inherits.trans {grants mid grants' : LookupMap String SessionGrant}
    (h : Inherits grants mid) (h' : Inherits mid grants') : Inherits grants grants' := by
  intro text grant' hget
  obtain ⟨middle, hmiddle, hsame'⟩ := h' text grant' hget
  obtain ⟨grant, hgrant, hsame⟩ := h text middle hmiddle
  exact ⟨grant, hgrant, hsame.trans hsame'⟩

theorem Inherits.revokeKey (grants : LookupMap String SessionGrant) (sessionPk : String) :
    Inherits grants (revokeKey grants sessionPk) := by
  unfold AccessControl.revokeKey
  split
  · next grant hget =>
      intro text grant' hget'
      rw [LookupMap.get_insert] at hget'
      split at hget'
      · next heq =>
          subst heq
          cases hget'
          exact ⟨grant, hget, rfl, fun _ => rfl⟩
      · exact ⟨grant', hget', .refl grant'⟩
  · exact .of_eq rfl

theorem Inherits.revokeKeys (keys : List String) (grants : LookupMap String SessionGrant) :
    Inherits grants (keys.foldl AccessControl.revokeKey grants) := by
  induction keys generalizing grants with
  | nil => exact .of_eq rfl
  | cons key rest ih => exact (Inherits.revokeKey grants key).trans (ih _)

section Step

variable {env : Env} {s s' : AccessControlContract}

theorem Inherits.cleanup (h : Indexed s) (ownerId : AccountId) (limit : Nat) :
    Inherits s.grants (cleanupOwnerGrants env s ownerId limit).1.grants := by
  intro text grant hget
  exact ⟨grant, Indexed.get_of_cleanup (h.nodup ownerId) hget, .refl grant⟩

/-- What a request that was let through has: a key that parses, and a resource. -/
theorem assertGrantRequest_names {request : SessionGrantRequest}
    (hassert : assertGrantRequest env s request = .ok ⟨⟩) :
    request.resourceId.isSome = true ∧
      (parseEd25519PublicKey env.toHost request.sessionPk).isSome = true := by
  simp only [assertGrantRequest, bind_eq_ok, expect_eq_ok] at hassert
  obtain ⟨-, -, -, -, -, -, -, -, _, -, -, -, -, -, -, -, resource, hresource, -, -, -, -, -, -, -, -,
    -, -, -, -, _, hproof, -⟩ := hassert
  refine ⟨by rw [hresource]; rfl, ?_⟩
  simp only [assertSessionKeyProof, bind_eq_ok, expect_eq_ok] at hproof
  obtain ⟨key, hkey, -⟩ := hproof
  rw [hkey]
  rfl

/-- Where a grant stored after a call comes from. -/
theorem stored_of_run (h : Indexed s) {call : Call} (hrun : call.run env s = .ok s') {text : String}
    {grant' : SessionGrant} (hget : s'.grants.get text = some grant') :
    (∃ grant, s.grants.get text = some grant ∧ SameGrant grant grant') ∨
      ∃ request, call = .issueSessionGrant request ∧ text = request.sessionPk ∧
        assertGrantRequest env s request = .ok ⟨⟩ ∧ grant'.ownerId = request.targetOwnerId ∧
        grant'.sessionPk = request.sessionPk ∧ grant'.resourceId = request.resourceId := by
  simp only [Call.run, bind_eq_ok, require_eq_ok] at hrun
  obtain ⟨-, -, hbody⟩ := hrun
  cases call with
  | issueSessionGrant request =>
    simp only [callBody, issueSessionGrant, bind_eq_ok, pure_eq_ok] at hbody
    obtain ⟨_, ⟨_, hassert, listed, hlist, rfl⟩, rfl⟩ := hbody
    obtain ⟨hgrants, -, -⟩ := Indexed.ownerKeys_listSessionKey hlist
    rw [LookupMap.get_insert] at hget
    split at hget
    · next heq =>
        cases hget
        exact .inr ⟨request, rfl, heq, hassert, rfl, rfl, rfl⟩
    · rw [hgrants] at hget
      exact .inl (Inherits.cleanup h request.targetOwnerId maxGrantsPerOwner text grant' hget)
  | revokeSessionGrant sessionPk =>
    simp only [callBody, revokeSessionGrant, bind_eq_ok, expect_eq_ok, require_eq_ok,
      pure_eq_ok] at hbody
    obtain ⟨grant, hstored, -, -, rfl⟩ := hbody
    have hrevoke : s.grants.insert sessionPk { grant with revoked := true } =
        revokeKey s.grants sessionPk := by rw [revokeKey, hstored]
    rw [hrevoke] at hget
    exact .inl (Inherits.revokeKey s.grants sessionPk text grant' hget)
  | revokeSubjectSessions ownerId =>
    simp only [callBody, revokeSubjectSessions, bind_eq_ok, require_eq_ok, pure_eq_ok] at hbody
    obtain ⟨-, -, rfl⟩ := hbody
    exact .inl (Inherits.revokeKeys _ s.grants text grant' hget)
  | cleanupSessionGrants ownerId limit =>
    simp only [callBody, cleanupSessionGrants, bind_eq_ok, require_eq_ok, pure_eq_ok] at hbody
    obtain ⟨_, ⟨-, -, -, -, rfl⟩, rfl⟩ := hbody
    exact .inl (Inherits.cleanup h ownerId _ text grant' hget)
  | pauseScope scope =>
    simp only [callBody, pauseScope, bind_eq_ok, pure_eq_ok] at hbody
    obtain ⟨-, -, rfl⟩ := hbody
    exact .inl ⟨grant', hget, .refl grant'⟩
  | pauseContract =>
    simp only [callBody, pauseContract, bind_eq_ok, pure_eq_ok] at hbody
    obtain ⟨-, -, rfl⟩ := hbody
    split at hget
    · exact .inl ⟨grant', hget, .refl grant'⟩
    · exact .inl ⟨grant', hget, .refl grant'⟩
  | acceptOwnership =>
    simp only [callBody, acceptOwnership, bind_eq_ok, pure_eq_ok] at hbody
    obtain ⟨_, -, -, -, rfl⟩ := hbody
    exact .inl ⟨grant', hget, .refl grant'⟩
  | proposeAction action =>
    simp only [callBody, proposeAction, bind_eq_ok, pure_eq_ok] at hbody
    obtain ⟨_, ⟨-, -, _, -, rfl⟩, rfl⟩ := hbody
    exact .inl ⟨grant', hget, .refl grant'⟩
  | executeAction id =>
    simp only [callBody, executeAction, bind_eq_ok] at hbody
    obtain ⟨-, -, _, -, -, -, happly⟩ := hbody
    obtain ⟨hgrants, -⟩ := Indexed.applyAction_grants happly
    rw [hgrants] at hget
    exact .inl ⟨grant', hget, .refl grant'⟩
  | cancelAction id =>
    simp only [callBody, cancelAction, bind_eq_ok, pure_eq_ok] at hbody
    obtain ⟨_, -, -, -, rfl⟩ := hbody
    exact .inl ⟨grant', hget, .refl grant'⟩
  | _ => cases hbody

/-- The index is in step, and a stored grant names its key and a resource. -/
structure GrantsSound (s : AccessControlContract) : Prop where
  indexed : Indexed s
  sessionPk : ∀ text grant, s.grants.get text = some grant → grant.sessionPk = text
  resource : ∀ text grant, s.grants.get text = some grant → grant.resourceId.isSome = true

theorem GrantsSound.step (h : GrantsSound s) {call : Call} (hrun : call.run env s = .ok s') :
    GrantsSound s' := by
  refine ⟨h.indexed.step hrun, ?_, ?_⟩
  · intro text grant' hget
    rcases stored_of_run h.indexed hrun hget with
      ⟨grant, hgrant, hsame⟩ | ⟨request, -, htext, -, -, hkey, -⟩
    · rw [hsame.1]
      exact h.sessionPk text grant hgrant
    · rw [hkey, htext]
  · intro text grant' hget
    rcases stored_of_run h.indexed hrun hget with
      ⟨grant, hgrant, hsame⟩ | ⟨request, -, -, hassert, -, -, hresource⟩
    · rw [hsame.1]
      exact h.resource text grant hgrant
    · rw [hresource]
      exact (assertGrantRequest_names hassert).1

end Step

/-- A fresh contract stores no grant. -/
theorem new_grants {ownerId marketContractId : AccountId} {guardianId : Option AccountId}
    {s : AccessControlContract} (h : new ownerId marketContractId guardianId = .ok s) :
    s.grants = .empty := by
  cases guardianId with
  | none =>
    obtain rfl := Except.ok.inj h
    rfl
  | some guardianId =>
    simp only [AccessControl.new, writeGuardian, bind_eq_ok, require_eq_ok, pure_eq_ok] at h
    obtain ⟨_, ⟨-, -, rfl⟩, rfl⟩ := h
    rfl

theorem grantsSound_of_trace {host : Host} {w₀ w : World}
    {tr : List (Transition World (Context × Call))} (hinit : Initial w₀)
    (htr : Trace (worldStep host) w₀ tr w) : GrantsSound w.contract := by
  refine htr.invariant (I := fun w => GrantsSound w.contract) ?_ ?_
  · intro w label w' hw hst
    obtain ⟨-, -, hsame | hrun⟩ := worldStep_cases hst
    · rw [hsame]
      exact hw
    · exact hw.step hrun
  · cases hinit with
    | new hnew now =>
      refine ⟨Indexed.new hnew, ?_, ?_⟩
      · intro text grant hget
        rw [new_grants hnew, LookupMap.get_empty] at hget
        cases hget
      · intro text grant hget
        rw [new_grants hnew, LookupMap.get_empty] at hget
        cases hget

end Youtick.AccessControl
