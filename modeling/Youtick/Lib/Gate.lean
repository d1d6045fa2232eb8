import Youtick.Lib.Trace

/-!
# Gates that reopen after a delay

A gate is open or closed, and next to it stands a request to reopen it. Anyone may close it; a
request is recorded only while it is closed, can be withdrawn, and opens the gate once it is `delay`
old. The request is a register of its own, so the question is whether it can outlive the closing it
was made for. It cannot: an open gate has no request (`Gate.Sealed`), and therefore every reopening
goes back to a request since which the gate was closed and the request stood (`Gate.reopened`).
-/

set_option autoImplicit false

namespace Youtick.Lib

universe u v

structure Gate where
  closed : Bool
  request : Option Nat

namespace Gate

/-- What may happen to a gate at time `now`; `allowed` says that a request may be made. -/
inductive Step (delay now : Nat) (allowed : Prop) : Gate → Gate → Prop where
  | idle {g : Gate} : Step delay now allowed g g
  | close {g : Gate} : Step delay now allowed g { g with closed := true }
  | request (hallowed : allowed) : Step delay now allowed ⟨true, none⟩ ⟨true, some now⟩
  | cancel {g : Gate} : Step delay now allowed g { g with request := none }
  | reopen {t : Nat} (helapsed : t + delay ≤ now) :
      Step delay now allowed ⟨true, some t⟩ ⟨false, none⟩

/-- An open gate has no request. -/
def Sealed (g : Gate) : Prop := g.closed = false → g.request = none

theorem Step.sealed {delay now : Nat} {allowed : Prop} {g g' : Gate}
    (h : Step delay now allowed g g') (hg : g.Sealed) : g'.Sealed := by
  cases h with
  | idle => exact hg
  | close => exact fun hopen => by cases hopen
  | request => exact fun hopen => by cases hopen
  | cancel => exact fun _ => rfl
  | reopen => exact fun _ => rfl

/-- The step that made a gate closed with a request is that request. -/
theorem Step.requested {delay now t : Nat} {allowed : Prop} {g : Gate}
    (h : Step delay now allowed g ⟨true, some t⟩) (hg : g.Sealed) (hnew : g ≠ ⟨true, some t⟩) :
    allowed ∧ now = t ∧ g = ⟨true, none⟩ := by
  generalize hpost : (⟨true, some t⟩ : Gate) = g' at h
  cases h with
  | idle => exact absurd hpost.symm hnew
  | close =>
    -- A gate closed over a standing request would have been open with one.
    obtain ⟨closed, request⟩ := g
    obtain ⟨-, rfl⟩ := Gate.mk.inj hpost
    cases closed with
    | true => exact absurd rfl hnew
    | false => cases hg rfl
  | request hallowed => exact ⟨hallowed, (Option.some.inj (Gate.mk.inj hpost).2).symm, rfl⟩
  | cancel => cases (Gate.mk.inj hpost).2
  | reopen => cases (Gate.mk.inj hpost).1

/-! ## Runs -/

section Runs

variable {σ : Type u} {ℓ : Type v} {step : σ → ℓ → σ → Prop} {delay : Nat} (gate : σ → Gate)
  (time : Transition σ ℓ → Nat) (allowed : Transition σ ℓ → Prop)

/-- Somewhere in `a` an allowed request was made at time `t`, and the gate has been closed and the
request has stood ever since. -/
def HeldSince (t : Nat) (a : List (Transition σ ℓ)) : Prop :=
  ∃ a₁ y a₂, a = a₁ ++ y :: a₂ ∧ allowed y ∧ time y = t ∧ gate y.pre = ⟨true, none⟩ ∧
    gate y.post = ⟨true, some t⟩ ∧
    ∀ z ∈ a₂, gate z.pre = ⟨true, some t⟩ ∧ gate z.post = ⟨true, some t⟩

theorem reopened {s₀ s : σ} {a b : List (Transition σ ℓ)} {x : Transition σ ℓ}
    (hstep : ∀ x, step x.pre x.label x.post →
      Step delay (time x) (allowed x) (gate x.pre) (gate x.post))
    (h₀ : (gate s₀).request = none) (h : Trace step s₀ (a ++ x :: b) s)
    (hclosed : (gate x.pre).closed = true) (hopen : (gate x.post).closed = false) :
    ∃ t, t + delay ≤ time x ∧ HeldSince gate time allowed t a := by
  obtain ⟨ha, hx, -⟩ := h.at_mem
  have hreopen : ∃ t, gate x.pre = ⟨true, some t⟩ ∧ t + delay ≤ time x := by
    have hgate := hstep x hx
    generalize gate x.pre = g, gate x.post = g' at hgate hclosed hopen
    cases hgate with
    | reopen helapsed => exact ⟨_, rfl, helapsed⟩
    | idle => simp [hclosed] at hopen
    | close => cases hopen
    | request => cases hopen
    | cancel => simp [hclosed] at hopen
  obtain ⟨t, hpre, helapsed⟩ := hreopen
  have hstart : gate s₀ ≠ ⟨true, some t⟩ := by
    intro hgate
    rw [hgate] at h₀
    cases h₀
  obtain ⟨a₁, y, a₂, rfl, hbefore, hafter, hheld⟩ :=
    ha.since (P := fun s => gate s = ⟨true, some t⟩) hstart hpre
  have hsealed : (gate y.pre).Sealed :=
    (ha.invariant_mem (I := fun s => (gate s).Sealed)
      (fun s l t hs hst => (hstep ⟨s, l, t⟩ hst).sealed hs) (fun _ => h₀) (by simp)).1
  have hrequest := hstep y (ha.step_of_mem (by simp))
  rw [hafter] at hrequest
  obtain ⟨hallowed, htime, hgate⟩ := hrequest.requested hsealed hbefore
  exact ⟨t, helapsed, a₁, y, a₂, rfl, hallowed, htime, hgate, hafter, hheld⟩

end Runs

end Gate

end Youtick.Lib
