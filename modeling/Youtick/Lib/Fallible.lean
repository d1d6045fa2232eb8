import Mathlib.Order.Basic

/-!
# Programs that keep what they did when they fail

In `EStateM ε σ` a program that throws leaves the state it had reached. `Advances` says that every
run, whether it returns or throws, moves the state along a relation; what a run that returns has
done is read off with the `_eq_ok` lemmas, one step at a time.
-/

set_option autoImplicit false

namespace Youtick.Lib.Fallible

variable {ε σ α β : Type}

/-- `if (p) throw e` -/
def reject (p : Prop) [Decidable p] (e : ε) : EStateM ε σ PUnit := if p then throw e else pure ⟨⟩

/-- `if (p) m` -/
def whenever (p : Prop) [Decidable p] (m : EStateM ε σ PUnit) : EStateM ε σ PUnit :=
  if p then m else pure ⟨⟩

/-- The value of a pure computation, or its error. -/
def settle (x : Except ε α) : EStateM ε σ α :=
  match x with
  | .ok a => pure a
  | .error e => throw e

/-- The state a run leaves. -/
def after (m : EStateM ε σ α) (s : σ) : σ :=
  match m s with
  | .ok _ s' => s'
  | .error _ s' => s'

/-- A run returned what `p` accepts. -/
def returns (p : α → σ → Bool) : EStateM.Result ε σ α → Bool
  | .ok a s => p a s
  | .error _ _ => false

/-! ## Runs that return -/

theorem exists_ok_of_returns {p : α → σ → Bool} {r : EStateM.Result ε σ α}
    (h : returns p r = true) : ∃ a s, r = .ok a s ∧ p a s = true := by
  cases r with
  | ok a s => exact ⟨a, s, rfl, h⟩
  | error e s => cases h

theorem bind_eq_ok {m : EStateM ε σ α} {f : α → EStateM ε σ β} {s s' : σ} {b : β} :
    (m >>= f) s = .ok b s' ↔ ∃ a mid, m s = .ok a mid ∧ f a mid = .ok b s' := by
  change (match m s with | .ok a mid => f a mid | .error e mid => .error e mid) = _ ↔ _
  cases hm : m s with
  | ok a mid =>
    constructor
    · intro h
      exact ⟨a, mid, rfl, h⟩
    · rintro ⟨a', mid', heq, h⟩
      cases heq
      exact h
  | error e mid =>
    constructor
    · intro h
      cases h
    · rintro ⟨a', mid', heq, -⟩
      cases heq

theorem pure_eq_ok {s s' : σ} {a b : α} :
    (pure a : EStateM ε σ α) s = .ok b s' ↔ a = b ∧ s = s' := by
  constructor
  · intro h
    cases h
    exact ⟨rfl, rfl⟩
  · rintro ⟨rfl, rfl⟩
    rfl

theorem throw_ne_ok {s s' : σ} {e : ε} {a : α} : (throw e : EStateM ε σ α) s ≠ .ok a s' := by
  intro h
  cases h

theorem reject_pos {p : Prop} [Decidable p] {e : ε} (hp : p) :
    (reject p e : EStateM ε σ PUnit) = throw e := if_pos hp

theorem reject_neg {p : Prop} [Decidable p] {e : ε} (hp : ¬ p) :
    (reject p e : EStateM ε σ PUnit) = pure ⟨⟩ := if_neg hp

theorem settle_ok (a : α) : (settle (.ok a) : EStateM ε σ α) = pure a := rfl

theorem settle_error (e : ε) : (settle (.error e) : EStateM ε σ α) = throw e := rfl

theorem reject_eq_ok {p : Prop} [Decidable p] {e : ε} {s s' : σ} {u : PUnit} :
    (reject p e : EStateM ε σ PUnit) s = .ok u s' ↔ ¬ p ∧ s = s' := by
  unfold reject
  by_cases hp : p
  · rw [if_pos hp]
    constructor
    · intro h
      exact absurd h throw_ne_ok
    · rintro ⟨hnot, -⟩
      exact absurd hp hnot
  · rw [if_neg hp, pure_eq_ok]
    constructor
    · rintro ⟨-, rfl⟩
      exact ⟨hp, rfl⟩
    · rintro ⟨-, rfl⟩
      exact ⟨rfl, rfl⟩

theorem whenever_pos {p : Prop} [Decidable p] {m : EStateM ε σ PUnit} (hp : p) :
    whenever p m = m := if_pos hp

theorem settle_eq_ok {x : Except ε α} {s s' : σ} {a : α} :
    (settle x : EStateM ε σ α) s = .ok a s' ↔ x = .ok a ∧ s = s' := by
  cases x with
  | ok b =>
    rw [settle, pure_eq_ok, Except.ok.injEq]
  | error e =>
    constructor
    · intro h
      exact absurd h throw_ne_ok
    · rintro ⟨h, -⟩
      cases h

theorem get_eq_ok {s s' a : σ} :
    (get : EStateM ε σ σ) s = .ok a s' ↔ a = s ∧ s = s' := by
  constructor
  · intro h
    cases h
    exact ⟨rfl, rfl⟩
  · rintro ⟨rfl, rfl⟩
    rfl

theorem modify_eq_ok {f : σ → σ} {s s' : σ} {u : PUnit} :
    (modify f : EStateM ε σ PUnit) s = .ok u s' ↔ s' = f s := by
  constructor
  · intro h
    cases h
    rfl
  · rintro rfl
    rfl

/-- The same for a pure computation with an error. -/
theorem except_bind_eq_ok {x : Except ε α} {f : α → Except ε β} {b : β} :
    (x >>= f) = .ok b ↔ ∃ a, x = .ok a ∧ f a = .ok b := by
  cases x with
  | error e => simp [bind, Except.bind]
  | ok a => simp [bind, Except.bind]

theorem mapM_eq_ok {f : α → Except ε β} {xs : List α} {ys : List β} (h : xs.mapM f = .ok ys) :
    (∀ x ∈ xs, ∃ y ∈ ys, f x = .ok y) ∧ ∀ y ∈ ys, ∃ x ∈ xs, f x = .ok y := by
  induction xs generalizing ys with
  | nil =>
    cases h
    constructor
    · intro x hx
      cases hx
    · intro y hy
      cases hy
  | cons x xs ih =>
    rw [List.mapM_cons] at h
    obtain ⟨y, hy, h⟩ := except_bind_eq_ok.mp h
    obtain ⟨rest, hrest, h⟩ := except_bind_eq_ok.mp h
    cases h
    obtain ⟨himage, hsource⟩ := ih hrest
    constructor
    · intro z hz
      rcases List.mem_cons.mp hz with rfl | hz
      · exact ⟨y, List.mem_cons_self, hy⟩
      · obtain ⟨w, hw, hfw⟩ := himage z hz
        exact ⟨w, List.mem_cons_of_mem _ hw, hfw⟩
    · intro w hw
      rcases List.mem_cons.mp hw with rfl | hw
      · exact ⟨x, List.mem_cons_self, hy⟩
      · obtain ⟨z, hz, hfz⟩ := hsource w hw
        exact ⟨z, List.mem_cons_of_mem _ hz, hfz⟩

/-! ## Every run -/

/-- Every run moves the state along `R`. -/
def Advances (R : σ → σ → Prop) (m : EStateM ε σ α) : Prop := ∀ s, R s (after m s)

section Advances

variable {R : σ → σ → Prop}

theorem Advances.of_ok {m : EStateM ε σ α} (h : Advances R m) {s s' : σ} {a : α}
    (hok : m s = .ok a s') : R s s' := by
  have hafter := h s
  rwa [after, hok] at hafter

theorem Advances.mono {R' : σ → σ → Prop} {m : EStateM ε σ α} (h : Advances R m)
    (hR : ∀ {s s'}, R s s' → R' s s') : Advances R' m := fun s => hR (h s)

theorem advances_modify {f : σ → σ} (h : ∀ s, R s (f s)) :
    Advances R (modify f : EStateM ε σ PUnit) := h

variable (refl : ∀ s, R s s)

include refl

theorem advances_pure (a : α) : Advances R (pure a : EStateM ε σ α) := refl

theorem advances_throw (e : ε) : Advances R (throw e : EStateM ε σ α) := refl

theorem advances_get : Advances R (get : EStateM ε σ σ) := refl

theorem advances_reject {p : Prop} [Decidable p] {e : ε} :
    Advances R (reject p e : EStateM ε σ PUnit) := by
  unfold reject
  split
  · exact advances_throw refl e
  · exact advances_pure refl _

theorem advances_whenever {p : Prop} [Decidable p] {m : EStateM ε σ PUnit} (hm : Advances R m) :
    Advances R (whenever p m) := by
  unfold whenever
  split
  · exact hm
  · exact advances_pure refl _

theorem advances_settle {x : Except ε α} : Advances R (settle x : EStateM ε σ α) := by
  cases x with
  | ok a => exact advances_pure refl a
  | error e => exact advances_throw refl e

omit refl

variable (trans : ∀ {a b c}, R a b → R b c → R a c)

include trans

/-- What follows a first part has to move the state from where that part returned. -/
theorem after_bind {m : EStateM ε σ α} {f : α → EStateM ε σ β} {s : σ} (hm : R s (after m s))
    (hf : ∀ a mid, m s = .ok a mid → R mid (after (f a) mid)) : R s (after (m >>= f) s) := by
  change R s (match (match m s with | .ok a mid => f a mid | .error e mid => .error e mid) with
    | .ok _ s' => s'
    | .error _ s' => s')
  unfold after at hm
  cases hrun : m s with
  | ok a mid =>
    rw [hrun] at hm
    exact trans hm (hf a mid hrun)
  | error e mid =>
    rw [hrun] at hm
    exact hm

theorem advances_bind {m : EStateM ε σ α} {f : α → EStateM ε σ β} (hm : Advances R m)
    (hf : ∀ a, Advances R (f a)) : Advances R (m >>= f) := by
  intro s
  refine after_bind @trans (hm s) ?_
  intro a mid _
  exact hf a mid

include refl

theorem advances_forM {f : α → EStateM ε σ PUnit} {xs : List α}
    (hf : ∀ x, Advances R (f x)) : Advances R (xs.forM f) := by
  induction xs with
  | nil => exact advances_pure refl _
  | cons x xs ih => exact advances_bind @trans (hf x) fun _ => ih

/-- What each round of a loop establishes and later rounds keep holds of every item in the end. -/
theorem forM_eq_ok {f : α → EStateM ε σ PUnit} {xs : List α} {P : α → σ → Prop}
    (hf : ∀ x, Advances R (f x)) (hkeep : ∀ {x s s'}, R s s' → P x s → P x s')
    {Q : σ → Prop} (hQ : ∀ {s s'}, R s s' → Q s → Q s')
    (hround : ∀ x ∈ xs, ∀ {s s' u}, Q s → f x s = .ok u s' → P x s') {s s' : σ} {u : PUnit}
    (hs : Q s) (h : xs.forM f s = .ok u s') : ∀ x ∈ xs, P x s' := by
  induction xs generalizing s with
  | nil =>
    intro x hx
    cases hx
  | cons y ys ih =>
    obtain ⟨_, mid, hfirst, hrest⟩ := bind_eq_ok.mp h
    have hmid := (hf y).of_ok hfirst
    intro x hx
    rcases List.mem_cons.mp hx with rfl | hx
    · have hlater : R mid s' := (advances_forM refl @trans hf).of_ok hrest
      exact hkeep hlater (hround x List.mem_cons_self hs hfirst)
    · exact ih (fun z hz => hround z (List.mem_cons_of_mem _ hz)) (hQ hmid hs) hrest x hx

end Advances

end Youtick.Lib.Fallible
