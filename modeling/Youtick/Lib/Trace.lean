import Mathlib.Logic.Relation
import Mathlib.Tactic

/-!
# Traces of a labelled transition system

A trace is the list of transitions a system has made, each with the state before it, its label and
the state after it. Properties of runs are stated on that list: an invariant holds at both ends of
every transition (`Trace.invariant_mem`), a relation that every step respects relates the start to
the end (`Trace.relate`), and a property that holds now and did not hold at the start has a last
transition that made it true, after which it has held without interruption (`Trace.since`).

`since` is the rule behind every "preceded by" claim: it turns the current value of a register into
the transition that wrote it.

The last section runs a computable step function over a list of labels and returns the trace.
-/

set_option autoImplicit false

namespace Youtick.Lib

universe u v w

variable {σ : Type u} {ℓ : Type v}

/-- One transition: the state before, the label, the state after. -/
structure Transition (σ : Type u) (ℓ : Type v) where
  pre : σ
  label : ℓ
  post : σ

/-- The finite traces from `s₀`, with the state they end in. -/
inductive Trace (step : σ → ℓ → σ → Prop) (s₀ : σ) : List (Transition σ ℓ) → σ → Prop where
  | nil : Trace step s₀ [] s₀
  | snoc {tr : List (Transition σ ℓ)} {s : σ} {l : ℓ} {t : σ} :
      Trace step s₀ tr s → step s l t → Trace step s₀ (tr ++ [⟨s, l, t⟩]) t

/-- The states some trace from `s₀` ends in. -/
def Reachable (step : σ → ℓ → σ → Prop) (s₀ s : σ) : Prop := ∃ tr, Trace step s₀ tr s

namespace Trace

variable {step : σ → ℓ → σ → Prop} {s₀ s : σ} {tr : List (Transition σ ℓ)}

/-! ## Taking traces apart -/

theorem append {m : σ} {a b : List (Transition σ ℓ)} (h : Trace step s₀ a m)
    (h' : Trace step m b s) : Trace step s₀ (a ++ b) s := by
  induction h' with
  | nil => simpa using h
  | snoc _ hst ih =>
    rw [← List.append_assoc]
    exact .snoc ih hst

theorem cons {l : ℓ} {t : σ} (hst : step s₀ l t) (h : Trace step t tr s) :
    Trace step s₀ (⟨s₀, l, t⟩ :: tr) s :=
  append (.snoc .nil hst) h

theorem split {a b : List (Transition σ ℓ)} (h : Trace step s₀ (a ++ b) s) :
    ∃ m, Trace step s₀ a m ∧ Trace step m b s := by
  generalize htr : a ++ b = tr at h
  induction h generalizing b with
  | nil =>
    obtain ⟨rfl, rfl⟩ := List.append_eq_nil_iff.mp htr
    exact ⟨s₀, .nil, .nil⟩
  | @snoc tr s l t h hst ih =>
    rcases List.eq_nil_or_concat b with rfl | ⟨b', x, rfl⟩
    · rw [List.append_nil] at htr
      exact ⟨t, htr ▸ .snoc h hst, .nil⟩
    · rw [List.concat_eq_append, ← List.append_assoc] at htr
      obtain ⟨htr, hx⟩ := List.append_inj' htr rfl
      obtain ⟨m, ha, hb⟩ := ih htr
      cases List.cons.inj hx |>.1
      exact ⟨m, ha, List.concat_eq_append ▸ .snoc hb hst⟩

/-- A trace at one of its transitions: the part before it, the step, the part after it. -/
theorem at_mem {a b : List (Transition σ ℓ)} {x : Transition σ ℓ}
    (h : Trace step s₀ (a ++ x :: b) s) :
    Trace step s₀ a x.pre ∧ step x.pre x.label x.post ∧ Trace step x.post b s := by
  rw [List.append_cons] at h
  obtain ⟨m, hax, hb⟩ := h.split
  generalize hc : a ++ [x] = c at hax
  cases hax with
  | nil => simp at hc
  | snoc ha hst =>
    obtain ⟨rfl, hx⟩ := List.append_inj' hc rfl
    cases List.cons.inj hx |>.1
    exact ⟨ha, hst, hb⟩

/-- The last transition of a trace. -/
theorem at_last {a : List (Transition σ ℓ)} {x : Transition σ ℓ}
    (h : Trace step s₀ (a ++ [x]) s) :
    x = ⟨x.pre, x.label, s⟩ ∧ Trace step s₀ a x.pre ∧ step x.pre x.label s := by
  generalize hc : a ++ [x] = c at h
  cases h with
  | nil => simp at hc
  | snoc ha hst =>
    obtain ⟨rfl, hx⟩ := List.append_inj' hc rfl
    obtain rfl := List.cons.inj hx |>.1
    exact ⟨rfl, ha, hst⟩

theorem step_of_mem {x : Transition σ ℓ} (h : Trace step s₀ tr s) (hx : x ∈ tr) :
    step x.pre x.label x.post := by
  obtain ⟨a, b, rfl⟩ := List.append_of_mem hx
  exact h.at_mem.2.1

/-! ## Invariants and relations -/

theorem invariant {I : σ → Prop} (hstep : ∀ s l t, I s → step s l t → I t)
    (h : Trace step s₀ tr s) (h₀ : I s₀) : I s := by
  induction h with
  | nil => exact h₀
  | snoc _ hst ih => exact hstep _ _ _ ih hst

theorem invariant_mem {I : σ → Prop} (hstep : ∀ s l t, I s → step s l t → I t)
    (h : Trace step s₀ tr s) (h₀ : I s₀) {x : Transition σ ℓ} (hx : x ∈ tr) :
    I x.pre ∧ I x.post := by
  obtain ⟨a, b, rfl⟩ := List.append_of_mem hx
  have hpre : I x.pre := h.at_mem.1.invariant hstep h₀
  exact ⟨hpre, hstep _ _ _ hpre h.at_mem.2.1⟩

/-- An invariant that the transitions of one trace keep. -/
theorem invariant_along {I : σ → Prop} (h : Trace step s₀ tr s) (h₀ : I s₀)
    (hstep : ∀ x ∈ tr, I x.pre → step x.pre x.label x.post → I x.post) :
    I s ∧ ∀ x ∈ tr, I x.pre ∧ I x.post := by
  induction h with
  | nil => exact ⟨h₀, by simp⟩
  | @snoc tr s l t _ hst ih =>
    obtain ⟨hs, hmem⟩ := ih fun x hx => hstep x (List.mem_append_left _ hx)
    have ht : I t := hstep ⟨s, l, t⟩ (by simp) hs hst
    refine ⟨ht, fun x hx => ?_⟩
    rcases List.mem_append.mp hx with hx | hx
    · exact hmem x hx
    · obtain rfl := List.mem_singleton.mp hx
      exact ⟨hs, ht⟩

/-- A reflexive and transitive relation that every step from an invariant state respects relates
the start of a trace to its end. -/
theorem relate {I : σ → Prop} {R : σ → σ → Prop} (hrefl : ∀ s, R s s)
    (htrans : ∀ a b c, R a b → R b c → R a c)
    (hinv : ∀ s l t, I s → step s l t → I t) (hstep : ∀ s l t, I s → step s l t → R s t)
    (h : Trace step s₀ tr s) (h₀ : I s₀) : R s₀ s := by
  induction h with
  | nil => exact hrefl _
  | snoc h hst ih => exact htrans _ _ _ ih (hstep _ _ _ (h.invariant hinv h₀) hst)

/-- A relation between two transitions, the second any number of steps after the first. -/
theorem pairwise {I : σ → Prop} {R : Transition σ ℓ → Transition σ ℓ → Prop}
    (hinv : ∀ s l t, I s → step s l t → I t)
    (hR : ∀ x b y, I x.pre → step x.pre x.label x.post → Trace step x.post b y.pre →
      step y.pre y.label y.post → R x y)
    (h : Trace step s₀ tr s) (h₀ : I s₀) : tr.Pairwise R := by
  induction h with
  | nil => exact List.Pairwise.nil
  | @snoc tr s l t htr hst ih =>
    rw [List.pairwise_append]
    refine ⟨ih, List.pairwise_singleton _ _, ?_⟩
    intro x hx y hy
    obtain rfl := List.mem_singleton.mp hy
    obtain ⟨a, b, rfl⟩ := List.append_of_mem hx
    obtain ⟨ha, hx, hb⟩ := htr.at_mem
    exact hR x b _ (ha.invariant hinv h₀) hx hb hst

/-! ## The last transition that made a property true -/

theorem since {P : σ → Prop} (h : Trace step s₀ tr s) (h₀ : ¬ P s₀) (hs : P s) :
    ∃ a x b, tr = a ++ x :: b ∧ ¬ P x.pre ∧ P x.post ∧ ∀ y ∈ b, P y.pre ∧ P y.post := by
  classical
  induction h with
  | nil => exact absurd hs h₀
  | @snoc tr s l t _ _ ih =>
    by_cases hPs : P s
    · obtain ⟨a, x, b, rfl, hpre, hpost, hb⟩ := ih hPs
      refine ⟨a, x, b ++ [⟨s, l, t⟩], by simp, hpre, hpost, ?_⟩
      intro y hy
      rcases List.mem_append.mp hy with hy | hy
      · exact hb y hy
      · rw [List.mem_singleton] at hy
        subst hy
        exact ⟨hPs, hs⟩
    · exact ⟨tr, ⟨s, l, t⟩, [], rfl, hPs, hs, by simp⟩

end Trace

/-! ## Computed traces -/

section Exec

variable (exec : σ → ℓ → Option σ)

/-- The step relation of a computable step function. -/
def ExecStep (s : σ) (l : ℓ) (t : σ) : Prop := exec s l = some t

/-- Run the labels in order from `s`; `none` when a label is not enabled. -/
def execTrace (s : σ) : List ℓ → Option (List (Transition σ ℓ) × σ)
  | [] => some ([], s)
  | l :: ls =>
    match exec s l with
    | none => none
    | some t => (execTrace t ls).map fun r => (⟨s, l, t⟩ :: r.1, r.2)

theorem trace_of_execTrace {s t : σ} {ls : List ℓ} {tr : List (Transition σ ℓ)}
    (h : execTrace exec s ls = some (tr, t)) : Trace (ExecStep exec) s tr t := by
  induction ls generalizing s tr with
  | nil =>
    simp only [execTrace, Option.some.injEq, Prod.mk.injEq] at h
    obtain ⟨rfl, rfl⟩ := h
    exact .nil
  | cons l ls ih =>
    cases hl : exec s l with
    | none => simp [execTrace, hl] at h
    | some m =>
      simp only [execTrace, hl, Option.map_eq_some_iff, Prod.mk.injEq] at h
      obtain ⟨⟨tr', t'⟩, hrest, rfl, rfl⟩ := h
      exact .cons hl (ih hrest)

end Exec

end Youtick.Lib
