import Mathlib.Logic.Relation
import Mathlib.Tactic

/-!
# Custody of money owed to others

A custodian receives cash, records what it owes, and pays out asynchronously: an amount leaves the
records when it is sent, leaves the cash when it is delivered, and returns to the records when the
delivery failed. `Custody` counts the cash, the records (`held`), what is sent and not resolved
(`owed`), and what came in without being recorded (`gifts`); `paidIn` and `paidOut` are the totals
of deposits and deliveries since the start.

`Balanced` is the law every run keeps: the cash is exactly the records, the unresolved amounts and
the gifts, and every deposit is still held, owed, or paid out. So recorded money is always there,
and no more is paid out than was paid in.
-/

set_option autoImplicit false

namespace Youtick.Lib

structure Custody where
  cash : Nat
  held : Nat
  owed : Nat
  gifts : Nat
  paidIn : Nat
  paidOut : Nat

namespace Custody

/-- The entries a custodian can make. -/
inductive Step (c : Custody) : Custody → Prop where
  | deposit (n : Nat) :
      Step c { c with cash := c.cash + n, held := c.held + n, paidIn := c.paidIn + n }
  | gift (n : Nat) : Step c { c with cash := c.cash + n, gifts := c.gifts + n }
  | send {held : Nat} (n : Nat) (h : held + n = c.held) :
      Step c { c with held := held, owed := c.owed + n }
  | deliver {cash owed : Nat} (n : Nat) (hcash : cash + n = c.cash) (howed : owed + n = c.owed) :
      Step c { c with cash := cash, owed := owed, paidOut := c.paidOut + n }
  | restore {owed : Nat} (n : Nat) (h : owed + n = c.owed) :
      Step c { c with owed := owed, held := c.held + n }

/-- Any number of entries. -/
abbrev Run : Custody → Custody → Prop := Relation.ReflTransGen Step

/-- Every unit of cash is accounted for, and so is every unit that was paid in. -/
structure Balanced (c : Custody) : Prop where
  cash : c.cash = c.held + c.owed + c.gifts
  paidIn : c.paidIn = c.held + c.owed + c.paidOut

variable {c d : Custody}

theorem Balanced.step (h : Balanced c) (hstep : Step c d) : Balanced d := by
  obtain ⟨hcash, hin⟩ := h
  cases hstep with
  | deposit n => constructor <;> simp only <;> omega
  | gift n => constructor <;> simp only <;> omega
  | send n hn => constructor <;> simp only <;> omega
  | deliver n hc ho => constructor <;> simp only <;> omega
  | restore n ho => constructor <;> simp only <;> omega

theorem Balanced.run (h : Balanced c) (hrun : Run c d) : Balanced d := by
  induction hrun with
  | refl => exact h
  | tail _ hstep ih => exact ih.step hstep

/-- A custodian that starts with nothing recorded; what cash it has is a gift. -/
def start (cash : Nat) : Custody where
  cash := cash
  held := 0
  owed := 0
  gifts := cash
  paidIn := 0
  paidOut := 0

theorem balanced_start (cash : Nat) : Balanced (start cash) := by
  constructor <;> simp [start]

/-- Recorded and unresolved money is there. -/
theorem Balanced.covers (h : Balanced c) : c.held + c.owed ≤ c.cash := by
  have := h.cash
  omega

end Custody

end Youtick.Lib
