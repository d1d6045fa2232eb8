import Mathlib.Data.List.Basic
import Mathlib.Tactic

/-!
# Keyset paging

A list in a strict order is read page by page. A page is the beginning of what comes after a mark,
and the mark of the next page is the last item of this one. What comes after that mark is what the
page left over (`after_last`), so the pages follow one another without a gap or an overlap.
-/

set_option autoImplicit false

namespace Youtick.Lib.Keyset

universe u

variable {α : Type u}

/-- What comes after the mark, if there is one. -/
def after (before : α → α → Bool) (mark : Option α) (items : List α) : List α :=
  items.filter fun item => mark.all fun last => before last item

variable {before : α → α → Bool} {front rest : List α} {last : α}

@[simp] theorem after_none (items : List α) : after before none items = items := by
  unfold after
  rw [List.filter_eq_self]
  intro item _
  rfl

/-- After the last item of a beginning comes the rest of the list. -/
theorem after_last (hirrefl : ∀ a, before a a = false)
    (hasymm : ∀ a b, before a b = true → before b a = false)
    (hsorted : (front ++ rest).Pairwise fun a b => before a b = true)
    (hlast : front.getLast? = some last) : after before (some last) (front ++ rest) = rest := by
  obtain ⟨init, rfl⟩ := List.getLast?_eq_some_iff.mp hlast
  obtain ⟨hfront, -, hacross⟩ := List.pairwise_append.mp hsorted
  have hmem : last ∈ init ++ [last] := List.mem_append_right _ (List.mem_singleton_self _)
  have hskipped : ∀ item ∈ init ++ [last], ¬ before last item = true := by
    intro item hitem
    rw [Bool.not_eq_true]
    rcases List.mem_append.mp hitem with hinit | hself
    · exact hasymm item last
        ((List.pairwise_append.mp hfront).2.2 item hinit last (List.mem_singleton_self _))
    · rw [List.mem_singleton.mp hself]
      exact hirrefl last
  have hkept : ∀ item ∈ rest, before last item = true := by
    intro item hitem
    exact hacross last hmem item hitem
  unfold after
  simp only [Option.all_some]
  rw [List.filter_append, List.filter_eq_nil_iff.mpr hskipped, List.filter_eq_self.mpr hkept,
    List.nil_append]

end Youtick.Lib.Keyset
