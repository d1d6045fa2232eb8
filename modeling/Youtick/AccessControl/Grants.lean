import Youtick.AccessControl.Contract

/-!
# Access control: the index of grants

Grants are stored by session key, and each owner has the list of its keys. Every call keeps the two
in step (`Indexed`): a key is listed under an owner exactly when a grant of that owner is stored
under it, no key is listed twice, and at most sixteen are.
-/

set_option autoImplicit false

namespace Youtick.AccessControl

open Youtick.Lib

/-- The keys listed under an owner. -/
def ownerKeys (s : AccessControlContract) (ownerId : AccountId) : List String :=
  (s.grantsByOwner.get ownerId).getD []

/-- The index and the grants agree. -/
structure Indexed (s : AccessControlContract) : Prop where
  nodup : ∀ o, (ownerKeys s o).Nodup
  bounded : ∀ o, (ownerKeys s o).length ≤ maxGrantsPerOwner
  linked : ∀ o sessionPk, sessionPk ∈ ownerKeys s o ↔
    ∃ grant, s.grants.get sessionPk = some grant ∧ grant.ownerId = o

/-! ## The sweep -/

section Sweep

variable {nowMs limit : Nat}

/-- Whether a key is eligible depends on its own grant only. -/
theorem cleanupEligible_remove {grants : LookupMap String SessionGrant} {key sessionPk : String}
    (h : sessionPk ≠ key) : cleanupEligible (grants.remove key) nowMs sessionPk =
      cleanupEligible grants nowMs sessionPk := by
  unfold cleanupEligible
  rw [LookupMap.get_remove_of_ne _ h]

/-- The sweep removes the grants of the keys it does not keep. -/
theorem sweep_spec (nowMs limit : Nat) (keys : List String) (hnodup : keys.Nodup)
    (grants : LookupMap String SessionGrant) (removed : Nat) :
    (sweep nowMs limit keys grants removed).2.1.Sublist keys ∧
      ∀ sessionPk, (sweep nowMs limit keys grants removed).1.get sessionPk =
        if sessionPk ∈ keys ∧ sessionPk ∉ (sweep nowMs limit keys grants removed).2.1 then none
        else grants.get sessionPk := by
  induction keys generalizing grants removed with
  | nil => exact ⟨List.Sublist.slnil, fun sessionPk => (if_neg (by simp)).symm⟩
  | cons key rest ih =>
    obtain ⟨hkey, hrest⟩ := List.nodup_cons.mp hnodup
    unfold sweep
    split
    · obtain ⟨hsub, hget⟩ := ih hrest (grants.remove key) (removed + 1)
      refine ⟨hsub.cons key, fun sessionPk => ?_⟩
      rw [hget, LookupMap.get_remove]
      by_cases heq : sessionPk = key
      · subst heq
        have hnot : sessionPk ∉ (sweep nowMs limit rest (grants.remove sessionPk)
          (removed + 1)).2.1 := fun hmem => hkey (hsub.subset hmem)
        simp [hnot]
      · simp [heq]
    · obtain ⟨hsub, hget⟩ := ih hrest grants removed
      refine ⟨hsub.cons_cons key, fun sessionPk => ?_⟩
      show (sweep nowMs limit rest grants removed).1.get sessionPk = _
      rw [hget]
      by_cases heq : sessionPk = key
      · subst heq
        simp [hkey]
      · simp [heq]

/-- With room to remove every key, exactly the keys that are not eligible are kept. -/
theorem sweep_kept (keys : List String) (hnodup : keys.Nodup)
    (grants : LookupMap String SessionGrant) (removed : Nat) (hlimit : removed + keys.length ≤ limit) :
    (sweep nowMs limit keys grants removed).2.1 =
      keys.filter fun sessionPk => !cleanupEligible grants nowMs sessionPk := by
  induction keys generalizing grants removed with
  | nil => rfl
  | cons key rest ih =>
    obtain ⟨hkey, hrest⟩ := List.nodup_cons.mp hnodup
    rw [List.length_cons] at hlimit
    unfold sweep
    by_cases heligible : cleanupEligible grants nowMs key = true
    · rw [if_pos ⟨heligible, by omega⟩, ih hrest _ _ (by omega),
        List.filter_cons_of_neg (by simp [heligible])]
      refine List.filter_congr fun sessionPk hmem => ?_
      rw [cleanupEligible_remove (by rintro rfl; exact hkey hmem)]
    · rw [if_neg fun h => heligible h.1, List.filter_cons_of_pos (by simpa using heligible)]
      exact congrArg (key :: ·) (ih hrest _ _ (by omega))

end Sweep

/-! ## The calls -/

namespace Indexed

variable {env : Env} {s s' : AccessControlContract}

/-- Only the two maps matter. -/
theorem congr (h : Indexed s) (hgrants : s'.grants = s.grants)
    (hindex : s'.grantsByOwner = s.grantsByOwner) : Indexed s' := by
  have hkeys : ∀ o, ownerKeys s' o = ownerKeys s o := fun o => by rw [ownerKeys, hindex, ownerKeys]
  refine ⟨fun o => hkeys o ▸ h.nodup o, fun o => hkeys o ▸ h.bounded o, fun o sessionPk => ?_⟩
  rw [hkeys, hgrants]
  exact h.linked o sessionPk

/-- A key belongs to one owner. -/
theorem owner_unique (h : Indexed s) {o o' : AccountId} {sessionPk : String}
    (hmem : sessionPk ∈ ownerKeys s o) (hmem' : sessionPk ∈ ownerKeys s o') : o = o' := by
  obtain ⟨grant, hget, rfl⟩ := (h.linked o sessionPk).mp hmem
  obtain ⟨grant', hget', rfl⟩ := (h.linked o' sessionPk).mp hmem'
  rw [Option.some.inj (hget.symm.trans hget')]

theorem ownerKeys_cleanup (env : Env) (s : AccessControlContract) (ownerId o : AccountId)
    (limit : Nat) : ownerKeys (cleanupOwnerGrants env s ownerId limit).1 o =
      if o = ownerId then
        (sweep (currentTimeMs env) limit (ownerKeys s ownerId) s.grants 0).2.1
      else ownerKeys s o := by
  unfold ownerKeys cleanupOwnerGrants
  dsimp only
  split
  · next hnil =>
      rw [LookupMap.get_remove]
      split
      · exact hnil.symm
      · rfl
  · rw [LookupMap.get_insert]
    split <;> rfl

theorem cleanup (h : Indexed s) (ownerId : AccountId) (limit : Nat) :
    Indexed (cleanupOwnerGrants env s ownerId limit).1 := by
  obtain ⟨hsub, hget⟩ := sweep_spec (currentTimeMs env) limit
    (ownerKeys s ownerId) (h.nodup ownerId) s.grants 0
  refine ⟨fun o => ?_, fun o => ?_, fun o sessionPk => ?_⟩
  · rw [ownerKeys_cleanup]
    split
    · exact (h.nodup ownerId).sublist hsub
    · exact h.nodup o
  · rw [ownerKeys_cleanup]
    split
    · exact hsub.length_le.trans (h.bounded ownerId)
    · exact h.bounded o
  · show _ ↔ ∃ grant, (sweep (currentTimeMs env) limit (ownerKeys s ownerId) s.grants 0).1.get
      sessionPk = some grant ∧ grant.ownerId = o
    rw [ownerKeys_cleanup, hget]
    split
    · next ho =>
        subst ho
        split
        · next hgone =>
            refine ⟨fun hmem => absurd hmem hgone.2, ?_⟩
            rintro ⟨_, hnone, _⟩
            cases hnone
        · next hkept =>
            rw [not_and_not_right] at hkept
            rw [← h.linked]
            exact ⟨fun hmem => hsub.subset hmem, hkept⟩
    · next ho =>
        rw [h.linked]
        split
        · next hgone =>
            -- a removed key was the cleaned owner's
            constructor
            · rintro ⟨grant, hgrant, rfl⟩
              exact absurd (h.owner_unique ((h.linked _ _).mpr ⟨grant, hgrant, rfl⟩) hgone.1) ho
            · rintro ⟨grant, hnone, -⟩
              cases hnone
        · exact Iff.rfl

/-- Grants may change under their keys as long as their owners stay. -/
theorem regrant (h : Indexed s) {grants : LookupMap String SessionGrant}
    (howner : ∀ sessionPk, (grants.get sessionPk).map (·.ownerId) =
      (s.grants.get sessionPk).map (·.ownerId)) : Indexed { s with grants := grants } where
  nodup := h.nodup
  bounded := h.bounded
  linked o sessionPk := by
    show sessionPk ∈ ownerKeys s o ↔ ∃ grant, grants.get sessionPk = some grant ∧ _
    rw [h.linked]
    have hiff : ∀ m : LookupMap String SessionGrant,
        (∃ grant, m.get sessionPk = some grant ∧ grant.ownerId = o) ↔
          (m.get sessionPk).map (·.ownerId) = some o := fun m => Option.map_eq_some_iff.symm
    rw [hiff, hiff, howner]

/-- What listing a key does to the index. -/
theorem ownerKeys_listSessionKey {ownerId : AccountId} {sessionPk : String}
    (hlist : listSessionKey s ownerId sessionPk = .ok s') : s'.grants = s.grants ∧
      (sessionPk ∉ ownerKeys s ownerId → (ownerKeys s ownerId).length < maxGrantsPerOwner) ∧
      ∀ o, ownerKeys s' o = if o = ownerId ∧ sessionPk ∉ ownerKeys s ownerId then
        ownerKeys s ownerId ++ [sessionPk] else ownerKeys s o := by
  simp only [listSessionKey] at hlist
  split at hlist
  · next hmem =>
      obtain rfl := Except.ok.inj hlist
      exact ⟨rfl, fun hnot => absurd hmem hnot, fun o => (if_neg fun hc => hc.2 hmem).symm⟩
  · next hmem =>
      simp only [bind_eq_ok, require_eq_ok, pure_eq_ok] at hlist
      obtain ⟨-, hroom, rfl⟩ := hlist
      refine ⟨rfl, fun _ => hroom, fun o => ?_⟩
      show ((s.grantsByOwner.insert _ _).get o).getD [] = _
      rw [LookupMap.get_insert]
      by_cases ho : o = ownerId
      · rw [if_pos ho, if_pos ⟨ho, hmem⟩]
        rfl
      · rw [if_neg ho, if_neg fun hc => ho hc.1]
        rfl

/-- Listing a key and storing its grant. -/
theorem issue (h : Indexed s) {grant : SessionGrant} {sessionPk : String}
    (hfree : ∀ existing, s.grants.get sessionPk = some existing → existing.ownerId = grant.ownerId)
    (hlist : listSessionKey s grant.ownerId sessionPk = .ok s') :
    Indexed { s' with grants := s'.grants.insert sessionPk grant } := by
  obtain ⟨hgrants, hroom, hkeys⟩ := ownerKeys_listSessionKey hlist
  -- the key is listed under no other owner
  have hother : ∀ o, sessionPk ∈ ownerKeys s o → o = grant.ownerId := by
    intro o hmem
    obtain ⟨existing, hget, rfl⟩ := (h.linked o sessionPk).mp hmem
    exact hfree existing hget
  have hmem : ∀ o key, key ∈ ownerKeys s' o ↔
      key ∈ ownerKeys s o ∨ o = grant.ownerId ∧ key = sessionPk := by
    intro o key
    rw [hkeys]
    split
    · next ho => simp [ho.1]
    · next ho =>
        refine ⟨Or.inl, Or.rec id ?_⟩
        rintro ⟨rfl, rfl⟩
        exact not_not.mp fun hnot => ho ⟨rfl, hnot⟩
  refine ⟨fun o => ?_, fun o => ?_, fun o key => ?_⟩
  · show (ownerKeys s' o).Nodup
    rw [hkeys]
    split
    · next ho => exact List.concat_eq_append ▸ (h.nodup _).concat ho.2
    · exact h.nodup o
  · show (ownerKeys s' o).length ≤ _
    rw [hkeys]
    split
    · next ho =>
        rw [List.length_append]
        exact hroom ho.2
    · exact h.bounded o
  · show key ∈ ownerKeys s' o ↔ ∃ stored, (s'.grants.insert sessionPk grant).get key = some stored ∧ _
    rw [hmem, h.linked, hgrants, LookupMap.get_insert]
    by_cases hkey : key = sessionPk
    · subst hkey
      rw [if_pos rfl, ← h.linked]
      constructor
      · rintro (hold | ⟨rfl, -⟩)
        · exact ⟨grant, rfl, (hother o hold).symm⟩
        · exact ⟨grant, rfl, rfl⟩
      · rintro ⟨stored, hstored, rfl⟩
        exact Or.inr ⟨by rw [Option.some.inj hstored], rfl⟩
    · rw [if_neg hkey]
      exact or_iff_left fun hc => hkey hc.2

/-- Revoking a grant keeps its owner. -/
theorem revokeKey_owner (grants : LookupMap String SessionGrant) (revoked sessionPk : String) :
    ((revokeKey grants revoked).get sessionPk).map (·.ownerId) =
      (grants.get sessionPk).map (·.ownerId) := by
  unfold revokeKey
  split
  · next grant hget =>
      rw [LookupMap.get_insert]
      split
      · next heq => rw [heq, hget]; rfl
      · rfl
  · rfl

theorem revokeKeys_owner (keys : List String) (grants : LookupMap String SessionGrant)
    (sessionPk : String) : ((keys.foldl revokeKey grants).get sessionPk).map (·.ownerId) =
      (grants.get sessionPk).map (·.ownerId) := by
  induction keys generalizing grants with
  | nil => rfl
  | cons key rest ih => exact (ih _).trans (revokeKey_owner grants key sessionPk)

theorem new {ownerId marketContractId : AccountId} {guardianId : Option AccountId}
    (h : new ownerId marketContractId guardianId = .ok s) : Indexed s := by
  have hempty : s.grants = .empty ∧ s.grantsByOwner = .empty := by
    cases guardianId with
    | none =>
      obtain rfl := Except.ok.inj h
      exact ⟨rfl, rfl⟩
    | some guardianId =>
      simp only [AccessControl.new, writeGuardian, bind_eq_ok, require_eq_ok, pure_eq_ok] at h
      obtain ⟨_, ⟨-, -, rfl⟩, rfl⟩ := h
      exact ⟨rfl, rfl⟩
  have hkeys : ∀ o, ownerKeys s o = [] := fun o => by
    rw [ownerKeys, hempty.2, LookupMap.get_empty]
    rfl
  refine ⟨fun o => by simp [hkeys], fun o => by simp [hkeys], fun o sessionPk => ?_⟩
  simp [hkeys, hempty.1]

/-- The admin actions leave the grants alone. -/
theorem applyAction_grants {action : TimelockAction} (h : applyAction s action = .ok s') :
    s'.grants = s.grants ∧ s'.grantsByOwner = s.grantsByOwner := by
  cases action with
  | setGuardian guardianId =>
    simp only [applyAction, writeGuardian, bind_eq_ok, require_eq_ok, pure_eq_ok] at h
    obtain ⟨-, -, rfl⟩ := h
    exact ⟨rfl, rfl⟩
  | _ =>
    obtain rfl := Except.ok.inj h
    exact ⟨rfl, rfl⟩

/-- A request is let through only for a key no other owner holds. -/
theorem assertGrantRequest_free {request : SessionGrantRequest} {existing : SessionGrant}
    (hassert : assertGrantRequest env s request = .ok ⟨⟩)
    (hget : s.grants.get request.sessionPk = some existing) :
    existing.ownerId = request.targetOwnerId := by
  simp only [assertGrantRequest, bind_eq_ok, checkSome_eq_ok] at hassert
  obtain ⟨-, -, -, -, -, -, -, -, _, -, -, -, -, -, -, -, _, -, -, -, -, -, -, -, -, -, -, -, -, -, -,
    -, hfree⟩ := hassert
  exact require_eq_ok.mp (hfree existing hget)

/-- The sweep stores nothing. -/
theorem get_of_cleanup {ownerId : AccountId} {limit : Nat} {sessionPk : String}
    {grant : SessionGrant} (hnodup : (ownerKeys s ownerId).Nodup)
    (hget : (cleanupOwnerGrants env s ownerId limit).1.grants.get sessionPk = some grant) :
    s.grants.get sessionPk = some grant := by
  have hspec := (sweep_spec (currentTimeMs env) limit _ hnodup s.grants 0).2
    sessionPk
  have hcleaned : (sweep (currentTimeMs env) limit (ownerKeys s ownerId) s.grants 0).1.get
      sessionPk = some grant := hget
  rw [hspec] at hcleaned
  split at hcleaned
  · cases hcleaned
  · exact hcleaned

/-- Every call keeps the index and the grants in step. -/
theorem step (h : Indexed s) {call : Call} (hrun : call.run env s = .ok s') : Indexed s' := by
  simp only [Call.run, bind_eq_ok, require_eq_ok] at hrun
  obtain ⟨-, -, hbody⟩ := hrun
  cases call with
  | issueSessionGrant request =>
    simp only [callBody, issueSessionGrant, bind_eq_ok, pure_eq_ok] at hbody
    obtain ⟨_, ⟨_, hassert, listed, hlist, rfl⟩, rfl⟩ := hbody
    refine (h.cleanup request.targetOwnerId maxGrantsPerOwner).issue (fun existing hget => ?_) hlist
    exact assertGrantRequest_free hassert (get_of_cleanup (h.nodup _) hget)
  | revokeSessionGrant sessionPk =>
    simp only [callBody, revokeSessionGrant, bind_eq_ok, expect_eq_ok, require_eq_ok,
      pure_eq_ok] at hbody
    obtain ⟨grant, hget, -, -, rfl⟩ := hbody
    have hrevoke : s.grants.insert sessionPk { grant with revoked := true } =
        revokeKey s.grants sessionPk := by rw [revokeKey, hget]
    rw [hrevoke]
    exact h.regrant (revokeKey_owner s.grants sessionPk)
  | revokeSubjectSessions ownerId =>
    simp only [callBody, revokeSubjectSessions, bind_eq_ok, require_eq_ok, pure_eq_ok] at hbody
    obtain ⟨-, -, rfl⟩ := hbody
    exact h.regrant (revokeKeys_owner _ s.grants)
  | cleanupSessionGrants ownerId limit =>
    simp only [callBody, cleanupSessionGrants, bind_eq_ok, require_eq_ok, pure_eq_ok] at hbody
    obtain ⟨_, ⟨-, -, -, -, rfl⟩, rfl⟩ := hbody
    exact h.cleanup ownerId _
  | pauseScope scope =>
    simp only [callBody, pauseScope, bind_eq_ok, pure_eq_ok] at hbody
    obtain ⟨-, -, rfl⟩ := hbody
    exact h.congr rfl rfl
  | pauseContract =>
    simp only [callBody, pauseContract, bind_eq_ok, pure_eq_ok] at hbody
    obtain ⟨-, -, rfl⟩ := hbody
    split
    · exact h
    · exact h.congr rfl rfl
  | acceptOwnership =>
    simp only [callBody, acceptOwnership, bind_eq_ok, pure_eq_ok] at hbody
    obtain ⟨_, -, -, -, rfl⟩ := hbody
    exact h.congr rfl rfl
  | proposeAction action =>
    simp only [callBody, proposeAction, bind_eq_ok, pure_eq_ok] at hbody
    obtain ⟨_, ⟨-, -, _, -, rfl⟩, rfl⟩ := hbody
    exact h.congr rfl rfl
  | executeAction id =>
    simp only [callBody, executeAction, bind_eq_ok] at hbody
    obtain ⟨-, -, _, -, -, -, happly⟩ := hbody
    obtain ⟨hgrants, hindex⟩ := applyAction_grants happly
    exact h.congr hgrants hindex
  | cancelAction id =>
    simp only [callBody, cancelAction, bind_eq_ok, pure_eq_ok] at hbody
    obtain ⟨_, -, -, -, rfl⟩ := hbody
    exact h.congr rfl rfl
  | _ => cases hbody

end Indexed

/-! ## Room for a new grant -/

/-- The keys of an owner's grants that are neither revoked nor expired. -/
def activeGrants (env : Env) (s : AccessControlContract) (ownerId : AccountId) : Finset String :=
  s.grants.keys.filter fun sessionPk => (s.grants.get sessionPk).any fun grant =>
    decide (grant.ownerId = ownerId) && !grant.revoked &&
      decide (currentTimeMs env ≤ grant.expiresAtMs)

section Room

variable {env : Env} {s : AccessControlContract} {ownerId : AccountId} {sessionPk : String}

theorem mem_activeGrants : sessionPk ∈ activeGrants env s ownerId ↔ ∃ grant,
    s.grants.get sessionPk = some grant ∧ grant.ownerId = ownerId ∧ grant.revoked = false ∧
      currentTimeMs env ≤ grant.expiresAtMs := by
  simp only [activeGrants, Finset.mem_filter, LookupMap.mem_keys, Option.any_eq_true,
    Bool.and_eq_true, decide_eq_true_eq, Bool.not_eq_true', and_assoc]
  exact ⟨fun h => h.2, fun h => ⟨⟨h.choose, h.choose_spec.1⟩, h⟩⟩

/-- After the cleanup at issue, exactly the active grants are left under the owner. -/
theorem Indexed.cleanup_active (h : Indexed s) :
    ownerKeys (cleanupOwnerGrants env s ownerId maxGrantsPerOwner).1 ownerId =
      (ownerKeys s ownerId).filter (· ∈ activeGrants env s ownerId) := by
  rw [Indexed.ownerKeys_cleanup, if_pos rfl,
    sweep_kept _ (h.nodup ownerId) _ _ (by simpa using h.bounded ownerId)]
  refine List.filter_congr fun key hmem => ?_
  obtain ⟨grant, hget, howner⟩ := (h.linked ownerId key).mp hmem
  rw [eq_comm, Bool.eq_iff_iff, decide_eq_true_eq, mem_activeGrants, cleanupEligible, hget]
  simp [howner]

/-- The owner has room when it has fewer than sixteen active grants, or renews a listed key. -/
theorem Indexed.issue_room (h : Indexed s)
    (hroom : (activeGrants env s ownerId).card < maxGrantsPerOwner ∨
      sessionPk ∈ ownerKeys s ownerId) :
    let kept := ownerKeys (cleanupOwnerGrants env s ownerId maxGrantsPerOwner).1 ownerId
    sessionPk ∈ kept ∨ kept.length < maxGrantsPerOwner := by
  dsimp only
  rw [h.cleanup_active]
  rcases hroom with hfew | hlisted
  · right
    have hsub : ((ownerKeys s ownerId).filter (· ∈ activeGrants env s ownerId)).toFinset ⊆
        activeGrants env s ownerId := fun key hmem => by
      simpa using (List.mem_filter.mp (List.mem_toFinset.mp hmem)).2
    calc _ = _ := (List.toFinset_card_of_nodup ((h.nodup ownerId).filter _)).symm
      _ ≤ _ := Finset.card_le_card hsub
      _ < _ := hfew
  · by_cases hactive : sessionPk ∈ activeGrants env s ownerId
    · exact Or.inl (List.mem_filter.mpr ⟨hlisted, by simpa using hactive⟩)
    · right
      -- the listed key itself is removed
      refine lt_of_lt_of_le ?_ (h.bounded ownerId)
      exact List.length_filter_lt_length_iff_exists.mpr ⟨sessionPk, hlisted, by simpa using hactive⟩

theorem assertGrantRequest_avoids (request : SessionGrantRequest) :
    Avoids "Active grant limit reached" (assertGrantRequest env s request) := by
  unfold assertGrantRequest assertBoundedBinding assertSessionKeyProof
  repeat
    first
    | exact avoids_require (by decide)
    | exact avoids_expect (by decide)
    | refine avoids_checkWhen fun _ => ?_
    | refine avoids_checkSome fun _ => ?_
    | refine avoids_bind ?_ fun _ _ => ?_

theorem Indexed.issueSessionGrant_avoids (h : Indexed s) (request : SessionGrantRequest)
    (hroom : (activeGrants env s request.targetOwnerId).card < maxGrantsPerOwner ∨
      request.sessionPk ∈ ownerKeys s request.targetOwnerId) :
    Avoids "Active grant limit reached" (issueSessionGrant env s request) := by
  unfold issueSessionGrant
  refine avoids_bind (assertGrantRequest_avoids request) fun _ _ => ?_
  refine avoids_bind ?_ fun _ _ => avoids_pure _
  unfold listSessionKey
  dsimp only
  refine avoids_ite (fun _ => avoids_ok _) fun hnot => ?_
  have hlength := (h.issue_room hroom).resolve_left hnot
  unfold ownerKeys at hlength
  rw [require, if_pos hlength]
  exact avoids_pure _

end Room

/-! ## Every run -/

/-- In every reachable state the index and the grants agree, and issuing to an owner with fewer than
sixteen active grants, or for a key the owner already has listed, never fails for capacity. -/
theorem grant_index {host : Host} {w₀ w : World} {tr : List (Transition World (Context × Call))}
    (hinit : Initial w₀) (htr : Trace (worldStep host) w₀ tr w) :
    (∀ o, (ownerKeys w.contract o).Nodup ∧ (ownerKeys w.contract o).length ≤ maxGrantsPerOwner ∧
      ∀ sessionPk, sessionPk ∈ ownerKeys w.contract o ↔
        ∃ grant, w.contract.grants.get sessionPk = some grant ∧ grant.ownerId = o) ∧
    ∀ (context : Context) (request : SessionGrantRequest),
      (activeGrants ⟨host, context⟩ w.contract request.targetOwnerId).card < maxGrantsPerOwner ∨
        request.sessionPk ∈ ownerKeys w.contract request.targetOwnerId →
      Call.run ⟨host, context⟩ w.contract (.issueSessionGrant request) ≠
        .error "Active grant limit reached" := by
  have h : Indexed w.contract := by
    refine htr.invariant (I := fun w => Indexed w.contract) ?_ ?_
    · intro w label w' hw hst
      obtain ⟨-, -, hsame | hrun⟩ := worldStep_cases hst
      · rw [hsame]
        exact hw
      · exact hw.step hrun
    · cases hinit with
      | new hnew now => exact Indexed.new hnew
  refine ⟨fun o => ⟨h.nodup o, h.bounded o, h.linked o⟩, fun context request hroom => ?_⟩
  refine avoids_bind (avoids_require (by decide)) fun _ _ => ?_
  exact avoids_bind (h.issueSessionGrant_avoids request hroom) fun _ _ => avoids_pure _

/-- A viewer takes out a grant, and may renew it. -/
theorem grant_index_issued : ∃ w₀ tr w, Initial w₀ ∧ Trace (worldStep Vectors.host) w₀ tr w ∧
    ownerKeys w.contract Vectors.viewerId = [Vectors.sessionPk] ∧
    (∃ grant, w.contract.grants.get Vectors.sessionPk = some grant ∧
      grant.ownerId = Vectors.viewerId) ∧
    Call.run ⟨Vectors.host, Vectors.context Vectors.viewerId Vectors.start⟩ w.contract
      (.issueSessionGrant Vectors.request) ≠ .error "Active grant limit reached" := by
  have hrun : (Vectors.run [(Vectors.context Vectors.viewerId Vectors.start,
      .issueSessionGrant Vectors.request)]).map
      (fun r => ownerKeys r.2.contract Vectors.viewerId) = some [Vectors.sessionPk] := by
    decide +kernel
  obtain ⟨w₀, tr, w, hinit, htr, hkeys⟩ := Vectors.trace_of_run hrun
  obtain ⟨hindex, hroom⟩ := grant_index hinit htr
  have hlisted : Vectors.sessionPk ∈ ownerKeys w.contract Vectors.viewerId := by
    rw [show ownerKeys w.contract Vectors.viewerId = _ from hkeys]
    exact List.mem_singleton_self _
  exact ⟨w₀, tr, w, hinit, htr, hkeys, ((hindex Vectors.viewerId).2.2 Vectors.sessionPk).mp hlisted,
    hroom _ Vectors.request (Or.inr hlisted)⟩

end Youtick.AccessControl
