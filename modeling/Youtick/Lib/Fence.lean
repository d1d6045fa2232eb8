import Youtick.Lib.Since

/-!
# Writes fenced by a revision

A store counts its invalidations in a revision. A writer reads the revision, works for a while, and
writes only when the revision is still the one it has read. In a history, newest entry first, the
revision is the number of entries that `advance` it, so an equal revision means that no entry in
between has advanced it (`MadeAt.since`): what was read holds since, and a write after an invalidation
comes of a read after that invalidation (`Written.within`).
-/

set_option autoImplicit false

namespace Youtick.Lib

universe u

variable {α : Type u}

/-- An entry with `P` was made when the history had advanced so often. -/
def MadeAt (advances : α → Bool) (P : α → Prop) (revision : Nat) (history : List α) : Prop :=
  ∃ newer entry older, history = newer ++ entry :: older ∧ P entry ∧
    (entry :: older).countP advances = revision

/-- An entry with `P` stands in the history; every newer one satisfies `Q`, and `Q` holds since an
entry with `R` before it as well. -/
def Written (R P Q : α → Prop) (history : List α) : Prop :=
  ∃ newer entry older, history = newer ++ entry :: older ∧ P entry ∧ (∀ x ∈ newer, Q x) ∧
    Since R Q older

section Fence

variable {advances : α → Bool} {P R Q : α → Prop} {revision : Nat}
  {history newer older : List α} {x : α}

theorem MadeAt.here (h : P x) (hrevision : (x :: history).countP advances = revision) :
    MadeAt advances P revision (x :: history) := ⟨[], x, history, rfl, h, hrevision⟩

/-- Nothing that was made is forgotten. -/
theorem MadeAt.mono {history' : List α} (h : MadeAt advances P revision history)
    (hsuffix : history <:+ history') : MadeAt advances P revision history' := by
  obtain ⟨newer, entry, older, rfl, hentry, hrevision⟩ := h
  obtain ⟨later, rfl⟩ := hsuffix
  exact ⟨later ++ newer, entry, older, (List.append_assoc _ _ _).symm, hentry, hrevision⟩

/-- While the revision is the one of the entry, nothing has advanced it. -/
theorem MadeAt.since (h : MadeAt advances P revision history)
    (hrevision : history.countP advances = revision) :
    Since P (fun y => advances y = false) history := by
  obtain ⟨newer, entry, older, rfl, hentry, hthen⟩ := h
  refine ⟨newer, entry, older, rfl, hentry, fun y hy => ?_⟩
  rw [List.countP_append, hthen] at hrevision
  have hnone : newer.countP advances = 0 := Nat.add_eq_right.mp hrevision
  exact Bool.eq_false_iff.mpr (List.countP_eq_zero.mp hnone y hy)

theorem Written.here (h : P x) (hsince : Since R Q history) : Written R P Q (x :: history) :=
  ⟨[], x, history, rfl, h, fun _ hy => absurd hy List.not_mem_nil, hsince⟩

theorem Written.cons (hx : Q x) (h : Written R P Q history) : Written R P Q (x :: history) := by
  obtain ⟨newer, entry, older, rfl, hentry, hnewer, hsince⟩ := h
  refine ⟨x :: newer, entry, older, rfl, hentry, fun y hy => ?_, hsince⟩
  rcases List.mem_cons.mp hy with rfl | hy
  · exact hx
  · exact hnewer y hy

/-- A write that outlasts a boundary was made, and read for, after it. -/
theorem Written.within (h : Written R P Q (newer ++ x :: older)) (hP : ¬ P x) (hR : ¬ R x)
    (hQ : ¬ Q x) : Written R P (fun _ => True) newer := by
  obtain ⟨later, entry, earlier, heq, hentry, hlater, hsince⟩ := h
  rcases List.append_eq_append_iff.mp heq with ⟨gap, hlater', hrest⟩ | ⟨gap, hnewer, hrest⟩
  · -- the boundary is no newer than the entry
    cases gap with
    | nil =>
      obtain ⟨rfl, -⟩ := List.cons.inj hrest
      exact absurd hentry hP
    | cons y gap =>
      obtain ⟨rfl, -⟩ := List.cons.inj hrest
      exact absurd (hlater x (by simp [hlater'])) hQ
  · cases gap with
    | nil =>
      obtain ⟨rfl, -⟩ := List.cons.inj hrest
      exact absurd hentry hP
    | cons y gap =>
      obtain ⟨rfl, hearlier⟩ := List.cons.inj hrest
      rw [hearlier] at hsince
      have hread : Since R Q gap := hsince.within hR hQ
      exact ⟨later, entry, gap, hnewer, hentry, fun _ _ => trivial,
        hread.mono (fun _ h => h) fun _ _ => trivial⟩

end Fence

end Youtick.Lib
