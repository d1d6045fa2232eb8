import Mathlib.Tactic

/-!
# Calls that return or panic

A contract call either returns a value or panics with a message, and a panic reverts everything the
call wrote. `Result` is that pair of outcomes as `Except String`: `require` and `expect` are the two
ways source code panics on purpose, and the checked operations panic where a fixed-width integer
would leave its range.

The lemmas in the second section read a successful call backwards: from `x >>= f = .ok b` they
recover the intermediate value and the guard of every `require` on the way. The third section is
about panics: `Avoids` says that one particular message is never raised, and its rules follow the
structure of the call.
-/

set_option autoImplicit false

namespace Youtick.Lib

universe u v

variable {α : Type u} {β : Type u}

/-- A call's outcome: the value it returns, or the message it panics with. -/
abbrev Result (α : Type u) : Type u := Except String α

/-- Panic with `message` unless `p` holds. -/
def require (p : Prop) [Decidable p] (message : String) : Result PUnit.{u + 1} :=
  if p then .ok ⟨⟩ else .error message

/-- The value of `o`, or a panic with `message`. -/
def expect (o : Option α) (message : String) : Result α :=
  match o with
  | some a => .ok a
  | none => .error message

/-- Make the check `x` when `p` holds. -/
def checkWhen (p : Prop) [Decidable p] (x : Result PUnit.{u + 1}) : Result PUnit.{u + 1} :=
  if p then x else .ok ⟨⟩

/-- Make the check `f` on the value of `o`, when there is one. -/
def checkSome (o : Option α) (f : α → Result PUnit.{u + 1}) : Result PUnit.{u + 1} :=
  match o with
  | some a => f a
  | none => .ok ⟨⟩

/-- The largest value of a `w`-bit unsigned integer. -/
def maxOf (w : Nat) : Nat := 2 ^ w - 1

/-- Addition of `w`-bit unsigned integers, panicking with `message` on overflow. -/
def checkedAdd (w a b : Nat) (message : String) : Result Nat :=
  if a + b ≤ maxOf w then .ok (a + b) else .error message

/-- Subtraction of unsigned integers, panicking with `message` on underflow. -/
def checkedSub (a b : Nat) (message : String) : Result Nat :=
  if b ≤ a then .ok (a - b) else .error message

/-- Multiplication of `w`-bit unsigned integers, panicking with `message` on overflow. -/
def checkedMul (w a b : Nat) (message : String) : Result Nat :=
  if a * b ≤ maxOf w then .ok (a * b) else .error message

/-- Division, panicking as the language does on a zero divisor. -/
def checkedDiv (a b : Nat) : Result Nat :=
  if b = 0 then .error "attempt to divide by zero" else .ok (a / b)

/-- Multiplication of `w`-bit unsigned integers that stays at the largest value on overflow. -/
def saturatingMul (w a b : Nat) : Nat := min (a * b) (maxOf w)

/-- Addition of `w`-bit unsigned integers that stays at the largest value on overflow. -/
def saturatingAdd (w a b : Nat) : Nat := min (a + b) (maxOf w)

/-! ## Reading a successful call backwards -/

theorem bind_eq_ok {x : Result α} {f : α → Result β} {b : β} :
    (x >>= f) = .ok b ↔ ∃ a, x = .ok a ∧ f a = .ok b := by
  rcases x with e | a <;> simp [bind, Except.bind]

theorem ok_bind (a : α) (f : α → Result β) : (Except.ok a >>= f) = f a := rfl

theorem require_pos {p : Prop} [Decidable p] {message : String} (h : p) :
    (require p message : Result PUnit.{u + 1}) = .ok ⟨⟩ := if_pos h

theorem require_neg {p : Prop} [Decidable p] {message : String} (h : ¬ p) :
    (require p message : Result PUnit.{u + 1}) = .error message := if_neg h

theorem expect_some {a : α} {message : String} : expect (some a) message = .ok a := rfl

theorem error_bind (message : String) (f : α → Result β) :
    ((Except.error message : Result α) >>= f) = .error message := rfl

theorem require_eq_ok {p : Prop} [Decidable p] {message : String} {r : PUnit.{u + 1}} :
    require p message = .ok r ↔ p := by
  by_cases hp : p
  · simp [require, hp]
  · simp [require, hp]

theorem expect_eq_ok {o : Option α} {message : String} {a : α} :
    expect o message = .ok a ↔ o = some a := by
  cases o with
  | none => simp [expect]
  | some b => simp [expect]

theorem checkWhen_eq_ok {p : Prop} [Decidable p] {x : Result PUnit.{u + 1}} {r : PUnit.{u + 1}} :
    checkWhen p x = .ok r ↔ (p → x = .ok ⟨⟩) := by
  by_cases hp : p
  · simp [checkWhen, hp]
  · simp [checkWhen, hp]

theorem checkSome_eq_ok {o : Option α} {f : α → Result PUnit.{u + 1}} {r : PUnit.{u + 1}} :
    checkSome o f = .ok r ↔ ∀ a, o = some a → f a = .ok ⟨⟩ := by
  cases o with
  | none => simp [checkSome]
  | some a => simp [checkSome]

theorem pure_eq_ok {a b : α} : (pure a : Result α) = .ok b ↔ a = b := by
  simp [pure, Except.pure]

theorem error_eq_ok {e : String} {a : α} : (Except.error e : Result α) = .ok a ↔ False := by
  simp

theorem ok_eq_ok {a b : α} : (Except.ok a : Result α) = .ok b ↔ a = b := by
  simp

theorem ite_eq_ok {p : Prop} [Decidable p] {x y : Result α} {a : α} :
    (if p then x else y) = .ok a ↔ (p ∧ x = .ok a) ∨ (¬ p ∧ y = .ok a) := by
  by_cases hp : p
  · simp [hp]
  · simp [hp]

theorem checkedAdd_eq_ok {w a b c : Nat} {message : String} :
    checkedAdd w a b message = .ok c ↔ a + b ≤ maxOf w ∧ a + b = c := by
  by_cases h : a + b ≤ maxOf w
  · simp [checkedAdd, h]
  · simp [checkedAdd, h]

theorem checkedSub_eq_ok {a b c : Nat} {message : String} :
    checkedSub a b message = .ok c ↔ b ≤ a ∧ a - b = c := by
  by_cases h : b ≤ a
  · simp [checkedSub, h]
  · simp [checkedSub, h]

theorem checkedMul_eq_ok {w a b c : Nat} {message : String} :
    checkedMul w a b message = .ok c ↔ a * b ≤ maxOf w ∧ a * b = c := by
  by_cases h : a * b ≤ maxOf w
  · simp [checkedMul, h]
  · simp [checkedMul, h]

/-! ## Messages a call never panics with -/

/-- The call does not panic with `message`. -/
def Avoids (message : String) (x : Result α) : Prop := x ≠ .error message

section Avoids

variable {message m : String}

theorem avoids_ok (a : α) : Avoids message (.ok a : Result α) := by
  intro h
  cases h

theorem avoids_pure (a : α) : Avoids message (pure a : Result α) := avoids_ok a

theorem avoids_error (h : m ≠ message) : Avoids message (.error m : Result α) := fun he =>
  h (Except.error.inj he)

/-- A sequence avoids what both its parts avoid; the second part may use the value of the first. -/
theorem avoids_bind {x : Result α} {f : α → Result β} (hx : Avoids message x)
    (hf : ∀ a, x = .ok a → Avoids message (f a)) : Avoids message (x >>= f) := by
  cases x with
  | error e => exact fun h => hx (by cases h; rfl)
  | ok a => exact hf a rfl

theorem avoids_ite {p : Prop} [Decidable p] {x y : Result α} (hx : p → Avoids message x)
    (hy : ¬ p → Avoids message y) : Avoids message (if p then x else y) := by
  split
  · next hp => exact hx hp
  · next hp => exact hy hp

theorem avoids_require {p : Prop} [Decidable p] (h : m ≠ message) :
    Avoids message (require p m : Result PUnit.{u + 1}) :=
  avoids_ite (fun _ => avoids_ok _) fun _ => avoids_error h

theorem avoids_expect {o : Option α} (h : m ≠ message) : Avoids message (expect o m) := by
  cases o with
  | none => exact avoids_error h
  | some a => exact avoids_ok a

theorem avoids_checkWhen {p : Prop} [Decidable p] {x : Result PUnit.{u + 1}}
    (hx : p → Avoids message x) : Avoids message (checkWhen p x) :=
  avoids_ite hx fun _ => avoids_ok _

theorem avoids_checkSome {o : Option α} {f : α → Result PUnit.{u + 1}}
    (hf : ∀ a, Avoids message (f a)) : Avoids message (checkSome o f) := by
  cases o with
  | none => exact avoids_ok _
  | some a => exact hf a

theorem avoids_checkedAdd {w a b : Nat} (h : m ≠ message) : Avoids message (checkedAdd w a b m) :=
  avoids_ite (fun _ => avoids_ok _) fun _ => avoids_error h

theorem avoids_checkedMul {w a b : Nat} (h : m ≠ message) : Avoids message (checkedMul w a b m) :=
  avoids_ite (fun _ => avoids_ok _) fun _ => avoids_error h

theorem avoids_checkedDiv {a b : Nat} (h : "attempt to divide by zero" ≠ message) :
    Avoids message (checkedDiv a b) :=
  avoids_ite (fun _ => avoids_error h) fun _ => avoids_ok _

/-- A subtraction that fits raises no message at all. -/
theorem avoids_checkedSub {a b : Nat} (h : b ≤ a) : Avoids message (checkedSub a b m) := by
  rw [checkedSub, if_pos h]
  exact avoids_ok _

end Avoids

/-! ## What a call that goes through ensures -/

/-- Every value the call returns satisfies `Q`. -/
def Ensures (Q : α → Prop) (x : Result α) : Prop := ∀ a, x = .ok a → Q a

section Ensures

variable {Q : β → Prop}

theorem ensures_ok {b : β} (h : Q b) : Ensures Q (.ok b : Result β) := by
  intro b' hb
  cases hb
  exact h

theorem ensures_pure {b : β} (h : Q b) : Ensures Q (pure b : Result β) := ensures_ok h

theorem ensures_error {m : String} : Ensures Q (.error m : Result β) := by
  intro b hb
  cases hb

/-- A sequence ensures what its second part ensures of every value the first part returns. -/
theorem ensures_bind {x : Result α} {f : α → Result β} (hf : ∀ a, x = .ok a → Ensures Q (f a)) :
    Ensures Q (x >>= f) := by
  intro b hb
  obtain ⟨a, ha, hfa⟩ := bind_eq_ok.mp hb
  exact hf a ha b hfa

/-- The same, when all that matters of the first part is what it ensures. -/
theorem ensures_seq {P : α → Prop} {x : Result α} {f : α → Result β} (hx : Ensures P x)
    (hf : ∀ a, P a → Ensures Q (f a)) : Ensures Q (x >>= f) :=
  ensures_bind fun a ha => hf a (hx a ha)

theorem ensures_ite {p : Prop} [Decidable p] {x y : Result β} (hx : p → Ensures Q x)
    (hy : ¬ p → Ensures Q y) : Ensures Q (if p then x else y) := by
  split
  · next hp => exact hx hp
  · next hp => exact hy hp

end Ensures

end Youtick.Lib
