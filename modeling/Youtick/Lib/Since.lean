import Mathlib.Tactic

/-!
# What holds since

Histories are lists with the newest entry first. `Since P Q h` says that some entry of `h` satisfies
`P` and every newer one satisfies `Q`: the past operator that a small record of "first seen" and
"seen again" keeps up to date one entry at a time.

`Since.within` is the rule that lets a record survive a boundary: when an entry that breaks `Q`
stands in the history, what holds since then holds since after it.
-/

set_option autoImplicit false

namespace Youtick.Lib

universe u

variable {α : Type u} {P P' Q Q' : α → Prop}

/-- Some entry satisfies `P`, and every newer one `Q`. -/
def Since (P Q : α → Prop) (history : List α) : Prop :=
  ∃ newer entry older,
    history = newer ++ entry :: older ∧ P entry ∧ ∀ x ∈ newer, Q x

namespace Since

variable {history newer older : List α} {entry x : α}

theorem here (h : P entry) : Since P Q (entry :: history) :=
  ⟨[], entry, history, rfl, h, by simp⟩

/-- One more entry that satisfies `Q`. -/
theorem cons (hx : Q x) (h : Since P Q history) : Since P Q (x :: history) := by
  obtain ⟨newer, entry, older, rfl, hentry, hnewer⟩ := h
  refine ⟨x :: newer, entry, older, rfl, hentry, ?_⟩
  intro y hy
  rcases List.mem_cons.mp hy with rfl | hy
  · exact hx
  · exact hnewer y hy

theorem mono (h : Since P Q history) (hP : ∀ x, P x → P' x) (hQ : ∀ x, Q x → Q' x) :
    Since P' Q' history := by
  obtain ⟨newer, entry, older, rfl, hentry, hnewer⟩ := h
  exact ⟨newer, entry, older, rfl, hP entry hentry, fun y hy => hQ y (hnewer y hy)⟩

/-- What holds since an entry newer than a boundary holds on the part after the boundary. -/
theorem within (h : Since P Q (newer ++ x :: older)) (hP : ¬ P x) (hQ : ¬ Q x) :
    Since P Q newer := by
  obtain ⟨later, entry, earlier, heq, hentry, hlater⟩ := h
  rcases List.append_eq_append_iff.mp heq with ⟨gap, hlater', hrest⟩ | ⟨gap, hnewer, hrest⟩
  · -- the entry would lie at or beyond the boundary
    cases gap with
    | nil =>
      obtain ⟨rfl, -⟩ := List.cons.inj hrest
      exact absurd hentry hP
    | cons y gap =>
      obtain ⟨rfl, -⟩ := List.cons.inj hrest
      exact absurd (hlater x (by simp [hlater'])) hQ
  · cases gap with
    | nil =>
      obtain ⟨rfl, -⟩ := List.cons.inj hrest
      exact absurd hentry hP
    | cons y gap =>
      obtain ⟨rfl, -⟩ := List.cons.inj hrest
      exact ⟨later, entry, gap, hnewer, hentry, hlater⟩

end Since

end Youtick.Lib
