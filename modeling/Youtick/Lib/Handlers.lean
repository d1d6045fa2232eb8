import Youtick.Lib.Trace
import Mathlib.Tactic

/-!
# Interleaved request handlers

A handler is a program that performs one atomic operation at a time (a database statement, a
network call) and continues with its answer. Handlers of several requests run over one shared
state, interleaved between any two operations. An operation may throw, before or after it took
effect, and a handler may be cut off anywhere.

Runs are reasoned about by rely and guarantee. A `Discipline` names an invariant of the shared
state, what a request may rely on while it waits, and what each of its own operations guarantees.
`Discipline.Safe` is the proof obligation of one handler, by recursion on its program;
`Discipline.run` is the one induction over runs, so that a development only ever proves its
handlers safe one at a time. `Safe.trail`, `Safe.bind` and `Safe.rescue` compose such proofs, and
`Uses.safe` settles a handler all of whose operations are harmless by themselves.
-/

set_option autoImplicit false

namespace Youtick.Lib

universe u v

/-- A handler: it has answered, it has thrown, or it is about to perform an operation. -/
inductive Handler (Op : Type → Type) (ε α : Type) : Type 1 where
  | done (a : α)
  | raise (e : ε)
  | act {β : Type} (op : Op β) (next : β → Handler Op ε α) (onError : Handler Op ε α)

namespace Handler

variable {Op : Type → Type} {ε α β : Type}

/-- Sequencing: an error of the first part skips the second. -/
def bind : Handler Op ε α → (α → Handler Op ε β) → Handler Op ε β
  | .done a, f => f a
  | .raise e, _ => .raise e
  | .act op next onError, f => .act op (fun b => (next b).bind f) (onError.bind f)

instance : Monad (Handler Op ε) where
  pure := .done
  bind := .bind

/-- `try … catch`: every operation inside may throw into `handle`. -/
def rescue : Handler Op ε α → (ε → Handler Op ε α) → Handler Op ε α
  | .done a, _ => .done a
  | .raise e, handle => handle e
  | .act op next onError, handle =>
    .act op (fun b => (next b).rescue handle) (onError.rescue handle)

/-- One operation; `broken` is what it throws when the store or the network fails. -/
def perform (broken : ε) (op : Op β) : Handler Op ε β := .act op .done (.raise broken)

/-- A value or an error that needs no operation. -/
def ofExcept : Except ε α → Handler Op ε α
  | .ok a => .done a
  | .error e => .raise e

/-- The same program over the operations of a larger system. -/
def lift {Op' : Type → Type} (f : {β : Type} → Op β → Op' β) : Handler Op ε α → Handler Op' ε α
  | .done a => .done a
  | .raise e => .raise e
  | .act op next onError => .act (f op) (fun b => (next b).lift f) (onError.lift f)

/-- Every operation the handler can come to satisfies `P`. -/
def Uses (P : {β : Type} → Op β → Prop) : Handler Op ε α → Prop
  | .done _ => True
  | .raise _ => True
  | .act op next onError => P op ∧ (∀ b, (next b).Uses P) ∧ onError.Uses P

section Uses

variable {P : {β : Type} → Op β → Prop}

theorem Uses.bind {p : Handler Op ε α} {f : α → Handler Op ε β} (hp : p.Uses P)
    (hf : ∀ a, (f a).Uses P) : (p >>= f).Uses P := by
  change (p.bind f).Uses P
  induction p with
  | done a => exact hf a
  | raise e => trivial
  | act op next onError ihNext ihError =>
    exact ⟨hp.1, fun b => ihNext b (hp.2.1 b), ihError hp.2.2⟩

theorem Uses.perform {e : ε} {op : Op β} (h : P op) :
    (Handler.perform e op : Handler Op ε β).Uses P :=
  ⟨h, fun _ => trivial, trivial⟩

theorem Uses.rescue {p : Handler Op ε α} {handle : ε → Handler Op ε α} (hp : p.Uses P)
    (hh : ∀ e, (handle e).Uses P) : (p.rescue handle).Uses P := by
  induction p with
  | done a => trivial
  | raise e => exact hh e
  | act op next onError ihNext ihError =>
    exact ⟨hp.1, fun b => ihNext b (hp.2.1 b), ihError hp.2.2⟩

theorem Uses.ofExcept (x : Except ε α) : (Handler.ofExcept x : Handler Op ε α).Uses P := by
  cases x with
  | ok a => trivial
  | error e => trivial

/-- A check that throws performs nothing. -/
theorem Uses.check {c : Prop} [Decidable c] {e : ε} {p : Handler Op ε α} (h : ¬ c → p.Uses P) :
    (if c then .raise e else p : Handler Op ε α).Uses P := by
  split
  · trivial
  · next hc => exact h hc

end Uses

/-- Every operation the handler can come to satisfies `P`, together with how it goes on. -/
def Continues (P : {α β : Type} → Op β → (β → Handler Op ε α) → Prop) : Handler Op ε α → Prop
  | .done _ => True
  | .raise _ => True
  | .act op next onError => P op next ∧ (∀ b, (next b).Continues P) ∧ onError.Continues P

section Continues

variable {P : {α β : Type} → Op β → (β → Handler Op ε α) → Prop}

theorem Continues.bind {p : Handler Op ε α} {f : α → Handler Op ε β}
    (hP : ∀ {γ : Type} (op : Op γ) (next : γ → Handler Op ε α), P op next →
      P op fun c => next c >>= f)
    (hp : p.Continues P) (hf : ∀ a, (f a).Continues P) : (p >>= f).Continues P := by
  change (p.bind f).Continues P
  induction p with
  | done a => exact hf a
  | raise e => trivial
  | act op next onError ihNext ihError =>
    exact ⟨hP op next hp.1, fun b => ihNext b (hp.2.1 b), ihError hp.2.2⟩

theorem Continues.rescue {p : Handler Op ε α} {handle : ε → Handler Op ε α}
    (hP : ∀ {γ : Type} (op : Op γ) (next : γ → Handler Op ε α), P op next →
      P op fun c => (next c).rescue handle)
    (hp : p.Continues P) (hh : ∀ e, (handle e).Continues P) : (p.rescue handle).Continues P := by
  induction p with
  | done a => trivial
  | raise e => exact hh e
  | act op next onError ihNext ihError =>
    exact ⟨hP op next hp.1, fun b => ihNext b (hp.2.1 b), ihError hp.2.2⟩

/-- The rule for the next operation of a program in `do` notation. -/
theorem Continues.perform {e : ε} {op : Op β} {f : β → Handler Op ε α} (h : P op f)
    (hf : ∀ b, (f b).Continues P) : (Handler.perform e op >>= f).Continues P :=
  ⟨h, hf, trivial⟩

theorem Continues.uses {Q : {β : Type} → Op β → Prop} {p : Handler Op ε α}
    (hPQ : ∀ {α β : Type} (op : Op β) (next : β → Handler Op ε α), P op next → Q op)
    (hp : p.Continues P) : p.Uses Q := by
  induction p with
  | done a => trivial
  | raise e => trivial
  | act op next onError ihNext ihError =>
    exact ⟨hPQ op next hp.1, fun b => ihNext b (hp.2.1 b), ihError hp.2.2⟩

end Continues

/-- Where the handler ends with a value, it is one with `P`, if every operation has an answer it
`can` have. -/
def Yields (can : {β : Type} → Op β → β → Prop) (P : α → Prop) : Handler Op ε α → Prop
  | .done a => P a
  | .raise _ => True
  | .act op next onError => (∀ b, can op b → (next b).Yields can P) ∧ onError.Yields can P

section Yields

variable {can : {β : Type} → Op β → β → Prop} {P : α → Prop} {Q : β → Prop}

theorem Yields.bind {p : Handler Op ε α} {f : α → Handler Op ε β} (hp : p.Yields can P)
    (hf : ∀ a, P a → (f a).Yields can Q) : (p >>= f).Yields can Q := by
  change (p.bind f).Yields can Q
  induction p with
  | done a => exact hf a hp
  | raise e => trivial
  | act op next onError ihNext ihError => exact ⟨fun b hb => ihNext b (hp.1 b hb), ihError hp.2⟩

theorem Yields.rescue {p : Handler Op ε α} {handle : ε → Handler Op ε α} (hp : p.Yields can P)
    (hh : ∀ e, (handle e).Yields can P) : (p.rescue handle).Yields can P := by
  induction p with
  | done a => exact hp
  | raise e => exact hh e
  | act op next onError ihNext ihError => exact ⟨fun b hb => ihNext b (hp.1 b hb), ihError hp.2⟩

/-- The rule for the next operation of a program in `do` notation. -/
theorem Yields.perform {γ : Type} {e : ε} {op : Op γ} {f : γ → Handler Op ε α}
    (h : ∀ b, can op b → (f b).Yields can P) : (Handler.perform e op >>= f).Yields can P :=
  ⟨h, trivial⟩

/-- Nothing is asked of the value. -/
theorem Yields.trivially (p : Handler Op ε α) : p.Yields can fun _ => True := by
  induction p with
  | done a => trivial
  | raise e => trivial
  | act op next onError ihNext ihError => exact ⟨fun b _ => ihNext b, ihError⟩

end Yields

section Lift

variable {Op' : Type → Type} (f : {β : Type} → Op β → Op' β)

theorem lift_bind (p : Handler Op ε α) (g : α → Handler Op ε β) :
    (p >>= g).lift f = p.lift f >>= fun a => (g a).lift f := by
  change (p.bind g).lift f = (p.lift f).bind fun a => (g a).lift f
  induction p with
  | done a => rfl
  | raise e => rfl
  | act op next onError ihNext ihError =>
    simp only [bind, lift, ihError]
    congr
    funext b
    exact ihNext b

/-- What holds of every operation of the larger system that is used. -/
theorem Uses.lift {P : {β : Type} → Op' β → Prop} {p : Handler Op ε α}
    (h : ∀ {β : Type} (op : Op β), P (f op)) : (p.lift f).Uses P := by
  induction p with
  | done a => trivial
  | raise e => trivial
  | act op next onError ihNext ihError => exact ⟨h op, ihNext, ihError⟩

theorem Uses.lift_of {P : {β : Type} → Op' β → Prop} {p : Handler Op ε α}
    (hp : p.Uses fun op => P (f op)) : (p.lift f).Uses P := by
  induction p with
  | done a => trivial
  | raise e => trivial
  | act op next onError ihNext ihError =>
    exact ⟨hp.1, fun b => ihNext b (hp.2.1 b), ihError hp.2.2⟩

theorem lift_rescue (p : Handler Op ε α) (handle : ε → Handler Op ε α) :
    (p.rescue handle).lift f = (p.lift f).rescue fun e => (handle e).lift f := by
  induction p with
  | done a => rfl
  | raise e => rfl
  | act op next onError ihNext ihError =>
    simp only [rescue, lift, ihError]
    congr
    funext b
    exact ihNext b

@[simp] theorem lift_ofExcept (x : Except ε α) :
    (ofExcept x : Handler Op ε α).lift f = ofExcept x := by
  cases x <;> rfl

end Lift

/-! ## One handler at a time -/

section Sequential

variable {σ ι : Type} (exec : (β : Type) → Op β → ι → σ → Option (β × σ))

/-- The handler alone, cut off before operation number `limit`; with its answer if it got that
far. -/
def runUpTo (i : ι) : Handler Op ε α → Option Nat → σ → Option α × σ
  | .done a, _, s => (some a, s)
  | .raise _, _, s => (none, s)
  | .act _ _ _, some 0, s => (none, s)
  | .act op next _, limit, s =>
    match exec _ op i s with
    | none => (none, s)
    | some (b, t) => runUpTo i (next b) (limit.map (· - 1)) t

/-- Run alone, the handler keeps `J` with every operation and answers with `Q`. -/
def Keeps (J : σ → Prop) (Q : α → σ → Prop) : Handler Op ε α → σ → Prop
  | .done a, s => Q a s
  | .raise _, _ => True
  | .act op next _, s => ∀ i b t, exec _ op i s = some (b, t) → J t ∧ Keeps J Q (next b) t

/-- The handler does not throw by itself, and its operations always have an answer. -/
def Completes (i : ι) : Handler Op ε α → Prop
  | .done _ => True
  | .raise _ => False
  | .act op next _ => (∀ s, (exec _ op i s).isSome = true) ∧ ∀ b, Completes i (next b)

variable {exec}

theorem Keeps.bind {J : σ → Prop} {Q : α → σ → Prop} {Q' : β → σ → Prop} {p : Handler Op ε α}
    {f : α → Handler Op ε β} {s : σ} (h : p.Keeps exec J Q s) (hs : J s)
    (hf : ∀ a t, J t → Q a t → (f a).Keeps exec J Q' t) : (p >>= f).Keeps exec J Q' s := by
  change (p.bind f).Keeps exec J Q' s
  induction p generalizing s with
  | done a => exact hf a s hs h
  | raise e => trivial
  | act op next onError ihNext ihError =>
    intro i b t hx
    obtain ⟨ht, hnext⟩ := h i b t hx
    exact ⟨ht, ihNext b hnext ht⟩

/-- The rule for the next operation of a program in `do` notation. -/
theorem Keeps.perform {J : σ → Prop} {Q : α → σ → Prop} {e : ε} {op : Op β}
    {f : β → Handler Op ε α} {s : σ}
    (h : ∀ i b t, exec _ op i s = some (b, t) → J t ∧ (f b).Keeps exec J Q t) :
    (Handler.perform e op >>= f).Keeps exec J Q s := h

/-- The rule for a check that throws. -/
theorem Keeps.check {J : σ → Prop} {Q : α → σ → Prop} {c : Prop} [Decidable c] {e : ε}
    {p : Handler Op ε α} {s : σ} (h : ¬ c → p.Keeps exec J Q s) :
    (if c then .raise e else p : Handler Op ε α).Keeps exec J Q s := by
  split
  · trivial
  · next hc => exact h hc

theorem Keeps.weaken {J J' : σ → Prop} {Q Q' : α → σ → Prop} {p : Handler Op ε α} {s : σ}
    (h : p.Keeps exec J' Q' s) (hs : J' s) (hJ : ∀ t, J' t → J t)
    (hQ : ∀ a t, J' t → Q' a t → Q a t) : p.Keeps exec J Q s := by
  induction p generalizing s with
  | done a => exact hQ a s hs h
  | raise e => trivial
  | act op next onError ihNext ihError =>
    intro i b t hx
    obtain ⟨ht, hnext⟩ := h i b t hx
    exact ⟨hJ t ht, ihNext b hnext ht⟩

theorem Keeps.runUpTo {J : σ → Prop} {Q : α → σ → Prop} {p : Handler Op ε α} {s : σ} (i : ι)
    (limit : Option Nat) (h : p.Keeps exec J Q s) (hs : J s) :
    J (p.runUpTo exec i limit s).2 ∧
      ∀ a, (p.runUpTo exec i limit s).1 = some a → Q a (p.runUpTo exec i limit s).2 := by
  induction p generalizing s limit with
  | done a =>
    refine ⟨hs, fun a' ha => ?_⟩
    cases ha
    exact h
  | raise e => exact ⟨hs, fun a ha => nomatch ha⟩
  | act op next onError ihNext ihError =>
    rcases limit with _ | _ | n
    · simp only [Handler.runUpTo]
      cases hx : exec _ op i s with
      | none => exact ⟨hs, fun a ha => nomatch ha⟩
      | some out =>
        obtain ⟨ht, hnext⟩ := h i _ _ hx
        exact ihNext out.1 _ hnext ht
    · exact ⟨hs, fun a ha => nomatch ha⟩
    · simp only [Handler.runUpTo]
      cases hx : exec _ op i s with
      | none => exact ⟨hs, fun a ha => nomatch ha⟩
      | some out =>
        obtain ⟨ht, hnext⟩ := h i _ _ hx
        exact ihNext out.1 _ hnext ht

theorem Completes.bind {i : ι} {p : Handler Op ε α} {f : α → Handler Op ε β}
    (h : p.Completes exec i) (hf : ∀ a, (f a).Completes exec i) : (p >>= f).Completes exec i := by
  change (p.bind f).Completes exec i
  induction p with
  | done a => exact hf a
  | raise e => exact h
  | act op next onError ihNext ihError => exact ⟨h.1, fun b => ihNext b (h.2 b)⟩

/-- A handler that is never cut off and never throws answers. -/
theorem Completes.answers {i : ι} {p : Handler Op ε α} (h : p.Completes exec i) (s : σ) :
    ∃ a, (p.runUpTo exec i none s).1 = some a := by
  induction p generalizing s with
  | done a => exact ⟨a, rfl⟩
  | raise e => exact h.elim
  | act op next onError ihNext ihError =>
    simp only [Handler.runUpTo]
    cases hx : exec _ op i s with
    | none =>
      have hsome := h.1 s
      rw [hx] at hsome
      cases hsome
    | some out => exact ihNext out.1 (h.2 out.1) out.2

end Sequential

end Handler

/-! ## The system of handlers -/

/-- Requests over a shared state: how operations execute on an input, how a request is handled,
which requests are never in flight together, and what the outside world does by itself. -/
structure System (σ ι : Type) (Op : Type → Type) (ε α Req Env : Type) where
  exec : (β : Type) → Op β → ι → σ → Option (β × σ)
  handle : Req → Handler Op ε α
  solo : Req → Bool
  environment : Env → σ → Option σ

/-- The shared state and the handlers in flight, each with its request. -/
structure Config (σ : Type) (Op : Type → Type) (ε α Req : Type) where
  shared : σ
  pool : List (Req × Handler Op ε α)

/-- What can happen next. -/
inductive Event (ι Req Env : Type) where
  | start (request : Req)
  | run (k : Nat) (input : ι)
  | throwBefore (k : Nat)
  | throwAfter (k : Nat) (input : ι)
  | stop (k : Nat)
  | world (e : Env)

namespace System

variable {σ ι ε α Req Env : Type} {Op : Type → Type} (S : System σ ι Op ε α Req Env)

/-- A request that must run alone waits until the one before it is gone. -/
def admits (pool : List (Req × Handler Op ε α)) (request : Req) : Bool :=
  !(S.solo request && pool.any fun p => S.solo p.1)

/-- One event. `stop` is both a crash and the end of an answered handler. -/
def next (c : Config σ Op ε α Req) : Event ι Req Env → Option (Config σ Op ε α Req)
  | .start r =>
    if S.admits c.pool r then some { c with pool := c.pool ++ [(r, S.handle r)] } else none
  | .run k i =>
    match c.pool[k]? with
    | some (r, .act op next _) =>
      (S.exec _ op i c.shared).map fun out => ⟨out.2, c.pool.set k (r, next out.1)⟩
    | _ => none
  | .throwBefore k =>
    match c.pool[k]? with
    | some (r, .act _ _ onError) => some { c with pool := c.pool.set k (r, onError) }
    | _ => none
  | .throwAfter k i =>
    match c.pool[k]? with
    | some (r, .act op _ onError) =>
      (S.exec _ op i c.shared).map fun out => ⟨out.2, c.pool.set k (r, onError)⟩
    | _ => none
  | .stop k => some { c with pool := c.pool.eraseIdx k }
  | .world e => (S.environment e c.shared).map fun s => { c with shared := s }

end System

/-- Event `e` executes operation `op` of request `r` on input `i`. -/
def Config.Executes {σ ι ε α Req Env : Type} {Op : Type → Type} (c : Config σ Op ε α Req)
    (e : Event ι Req Env) (r : Req) {β : Type} (op : Op β) (i : ι) : Prop :=
  ∃ (k : Nat) (cont : β → Handler Op ε α) (onError : Handler Op ε α),
    c.pool[k]? = some (r, .act op cont onError) ∧ (e = .run k i ∨ e = .throwAfter k i)

/-- The operation that an event executes. -/
def Config.operation {σ ι ε α Req Env : Type} {Op : Type → Type} (c : Config σ Op ε α Req) :
    Event ι Req Env → Option (Σ β : Type, Op β)
  | .run k _ | .throwAfter k _ =>
    match c.pool[k]? with
    | some (_, .act op _ _) => some ⟨_, op⟩
    | _ => none
  | _ => none

theorem Config.Executes.operation {σ ι ε α Req Env : Type} {Op : Type → Type}
    {c : Config σ Op ε α Req} {e : Event ι Req Env} {r : Req} {β : Type} {op : Op β} {i : ι}
    (h : c.Executes e r op i) : c.operation e = some ⟨β, op⟩ := by
  obtain ⟨k, cont, onError, hk, rfl | rfl⟩ := h
  · simp only [Config.operation, hk]
  · simp only [Config.operation, hk]

/-! ## Rely and guarantee -/

/-- An invariant of the shared state together with what requests rely on and guarantee. Runs are
taken whose executed operations all meet `meets`. -/
structure Discipline {σ ι ε α Req Env : Type} {Op : Type → Type}
    (S : System σ ι Op ε α Req Env) where
  inv : σ → Prop
  meets : {β : Type} → Op β → σ → Prop
  rely : Req → σ → σ → Prop
  guar : Req → σ → σ → Prop
  rely_refl : ∀ r s, rely r s s
  rely_trans : ∀ r s t u, rely r s t → rely r t u → rely r s u
  guar_rely : ∀ r r' s t, (S.solo r && S.solo r') = false → inv s → guar r s t → rely r' s t
  world : ∀ e s t, inv s → S.environment e s = some t → inv t ∧ ∀ r, rely r s t

namespace Discipline

variable {σ ι ε α Req Env : Type} {Op : Type → Type} {S : System σ ι Op ε α Req Env}
  (D : Discipline S)

/-- The handler `p` of request `r`, started in `s`, keeps the invariant and its guarantee with
every operation, whatever the others do meanwhile; `Q` holds where it ends. -/
def Safe (r : Req) {τ : Type} (Q : Except ε τ → σ → Prop) : Handler Op ε τ → σ → Prop
  | .done a, s => Q (.ok a) s
  | .raise e, s => Q (.error e) s
  | .act op next onError, s => ∀ t, D.rely r s t → D.inv t → Safe r Q onError t ∧
      ∀ i b u, D.meets op t → S.exec _ op i t = some (b, u) →
        D.inv u ∧ D.guar r t u ∧ Safe r Q (next b) u ∧ Safe r Q onError u

/-- Nothing is asked of where a handler ends. -/
def Anywhere {τ : Type} (_ : Except ε τ) (_ : σ) : Prop := True

variable {D} {r : Req} {τ υ : Type}

namespace Safe

theorem mono {Q Q' : Except ε τ → σ → Prop} {p : Handler Op ε τ} {s : σ} (h : D.Safe r Q p s)
    (hQ : ∀ x t, Q x t → Q' x t) : D.Safe r Q' p s := by
  induction p generalizing s with
  | done a => exact hQ _ _ h
  | raise e => exact hQ _ _ h
  | act op next onError ihNext ihError =>
    intro t hst ht
    obtain ⟨herr, hrun⟩ := h t hst ht
    refine ⟨ihError herr, fun i b u hm hx => ?_⟩
    obtain ⟨hu, hg, hnext, herr'⟩ := hrun i b u hm hx
    exact ⟨hu, hg, ihNext b hnext, ihError herr'⟩

/-- What others do while a handler waits does not hurt it. -/
theorem wait {p : Handler Op ε τ} {s t : σ} (h : D.Safe r Anywhere p s) (hst : D.rely r s t) :
    D.Safe r Anywhere p t := by
  cases p with
  | done a => trivial
  | raise e => trivial
  | act op next onError => exact fun t' htt' => h t' (D.rely_trans r s t t' hst htt')

theorem bind {Q : Except ε τ → σ → Prop} {Q' : Except ε υ → σ → Prop} {p : Handler Op ε τ}
    {f : τ → Handler Op ε υ} {s : σ} (h : D.Safe r Q p s) (hs : D.inv s)
    (hok : ∀ a t, D.inv t → Q (.ok a) t → D.Safe r Q' (f a) t)
    (herr : ∀ e t, D.inv t → Q (.error e) t → Q' (.error e) t) : D.Safe r Q' (p >>= f) s := by
  change D.Safe r Q' (p.bind f) s
  induction p generalizing s with
  | done a => exact hok a s hs h
  | raise e => exact herr e s hs h
  | act op next onError ihNext ihError =>
    intro t hst ht
    obtain ⟨he, hrun⟩ := h t hst ht
    refine ⟨ihError he ht, fun i b u hm hx => ?_⟩
    obtain ⟨hu, hg, hnext, he'⟩ := hrun i b u hm hx
    exact ⟨hu, hg, ihNext b hnext hu, ihError he' hu⟩

theorem rescue {Q Q' : Except ε τ → σ → Prop} {p : Handler Op ε τ}
    {handle : ε → Handler Op ε τ} {s : σ} (h : D.Safe r Q p s) (hs : D.inv s)
    (hok : ∀ a t, D.inv t → Q (.ok a) t → Q' (.ok a) t)
    (herr : ∀ e t, D.inv t → Q (.error e) t → D.Safe r Q' (handle e) t) :
    D.Safe r Q' (p.rescue handle) s := by
  induction p generalizing s with
  | done a => exact hok a s hs h
  | raise e => exact herr e s hs h
  | act op next onError ihNext ihError =>
    intro t hst ht
    obtain ⟨he, hrun⟩ := h t hst ht
    refine ⟨ihError he ht, fun i b u hm hx => ?_⟩
    obtain ⟨hu, hg, hnext, he'⟩ := hrun i b u hm hx
    exact ⟨hu, hg, ihNext b hnext hu, ihError he' hu⟩

/-- The rule for the next operation of a program in `do` notation. -/
theorem perform {β : Type} {Q : Except ε τ → σ → Prop} {e : ε} {op : Op β}
    {f : β → Handler Op ε τ} {s : σ}
    (h : ∀ t, D.rely r s t → D.inv t → Q (.error e) t ∧
      ∀ i b u, D.meets op t → S.exec _ op i t = some (b, u) →
        D.inv u ∧ D.guar r t u ∧ D.Safe r Q (f b) u ∧ Q (.error e) u) :
    D.Safe r Q (Handler.perform e op >>= f) s := h

/-- The rule for the next operation when nothing is asked of where the handler ends. -/
theorem perform_anywhere {β : Type} {e : ε} {op : Op β} {f : β → Handler Op ε τ} {s : σ}
    (h : ∀ t, D.rely r s t → D.inv t → ∀ i b u, D.meets op t → S.exec _ op i t = some (b, u) →
      D.inv u ∧ D.guar r t u ∧ D.Safe r Anywhere (f b) u) :
    D.Safe r Anywhere (Handler.perform e op >>= f) s := by
  refine perform fun t hst ht => ⟨trivial, fun i b u hm hx => ?_⟩
  obtain ⟨hu, hg, hnext⟩ := h t hst ht i b u hm hx
  exact ⟨hu, hg, hnext, trivial⟩

/-- The rule for a value or an error that needs no operation. -/
theorem ofExcept {Q : Except ε υ → σ → Prop} {x : Except ε τ} {f : τ → Handler Op ε υ} {s : σ}
    (hok : ∀ a, x = .ok a → D.Safe r Q (f a) s) (herr : ∀ e, x = .error e → Q (.error e) s) :
    D.Safe r Q (Handler.ofExcept x >>= f) s := by
  cases x with
  | ok a => exact hok a rfl
  | error e => exact herr e rfl

/-- A relation that the others and the handler itself respect links the start of a handler to its
end. -/
theorem trail {Q : Except ε τ → σ → Prop} {A : σ → σ → Prop} {p : Handler Op ε τ} {s : σ}
    (hrefl : ∀ s, A s s) (htrans : ∀ s t u, A s t → A t u → A s u)
    (hrely : ∀ s t, D.rely r s t → A s t) (hguar : ∀ s t, D.guar r s t → A s t)
    (h : D.Safe r Q p s) : D.Safe r (fun x t => Q x t ∧ A s t) p s := by
  induction p generalizing s with
  | done a => exact ⟨h, hrefl s⟩
  | raise e => exact ⟨h, hrefl s⟩
  | act op next onError ihNext ihError =>
    intro t hst ht
    obtain ⟨herr, hrun⟩ := h t hst ht
    have hA := hrely s t hst
    refine ⟨(ihError herr).mono fun x v hv => ⟨hv.1, htrans s t v hA hv.2⟩, ?_⟩
    intro i b u hm hx
    obtain ⟨hu, hg, hnext, herr'⟩ := hrun i b u hm hx
    have hA' := htrans s t u hA (hguar t u hg)
    exact ⟨hu, hg, (ihNext b hnext).mono fun x v hv => ⟨hv.1, htrans s u v hA' hv.2⟩,
      (ihError herr').mono fun x v hv => ⟨hv.1, htrans s u v hA' hv.2⟩⟩

end Safe

/-- The discipline with one more guarantee; a handler that gives it is safe without it as well. -/
def strengthen (D : Discipline S) (A : σ → σ → Prop) : Discipline S :=
  { D with
    guar := fun r s t => D.guar r s t ∧ A s t
    guar_rely := fun r r' s t halone hs hg => D.guar_rely r r' s t halone hs hg.1 }

theorem Safe.relax {A : σ → σ → Prop} {Q : Except ε τ → σ → Prop} {p : Handler Op ε τ} {s : σ}
    (h : (D.strengthen A).Safe r Q p s) : D.Safe r Q p s := by
  induction p generalizing s with
  | done a => exact h
  | raise e => exact h
  | act op next onError ihNext ihError =>
    intro t hst ht
    obtain ⟨herr, hrun⟩ := h t hst ht
    refine ⟨ihError herr, fun i b u hm hx => ?_⟩
    obtain ⟨hu, hg, hnext, herr'⟩ := hrun i b u hm hx
    exact ⟨hu, hg.1, ihNext b hnext, ihError herr'⟩

/-- A handler all of whose operations are harmless by themselves is safe. -/
theorem safe_of_uses {P : {β : Type} → Op β → Prop} {p : Handler Op ε τ} {s : σ}
    (hop : ∀ {β : Type} (op : Op β), P op → ∀ i t b u, D.inv t → D.meets op t →
      S.exec _ op i t = some (b, u) → D.inv u ∧ D.guar r t u)
    (h : p.Uses P) : D.Safe r Anywhere p s := by
  induction p generalizing s with
  | done a => trivial
  | raise e => trivial
  | act op next onError ihNext ihError =>
    intro t hst ht
    refine ⟨ihError h.2.2, fun i b u hm hx => ?_⟩
    obtain ⟨hu, hg⟩ := hop op h.1 i t b u ht hm hx
    exact ⟨hu, hg, ihNext b (h.2.1 b), ihError h.2.2⟩

/-- A handler all of whose operations are harmless while `J` holds keeps it, if the others do. -/
theorem safe_of_uses_while {P : {β : Type} → Op β → Prop} {J : σ → Prop} {p : Handler Op ε τ}
    {s : σ} (hrely : ∀ s t, J s → D.rely r s t → J t)
    (hop : ∀ {β : Type} (op : Op β), P op → ∀ i t b u, D.inv t → J t → D.meets op t →
      S.exec _ op i t = some (b, u) → D.inv u ∧ D.guar r t u ∧ J u)
    (h : p.Uses P) (hs : J s) : D.Safe r (fun _ t => J t) p s := by
  induction p generalizing s with
  | done a => exact hs
  | raise e => exact hs
  | act op next onError ihNext ihError =>
    intro t hst ht
    have hJ := hrely s t hs hst
    refine ⟨ihError h.2.2 hJ, fun i b u hm hx => ?_⟩
    obtain ⟨hu, hg, hJu⟩ := hop op h.1 i t b u ht hJ hm hx
    exact ⟨hu, hg, ihNext b (h.2.1 b) hJu, ihError h.2.2 hJu⟩

/-! ## Runs -/

/-- Every handler in flight is safe, and no two that must run alone are in flight together. -/
structure Sound (D : Discipline S) (c : Config σ Op ε α Req) : Prop where
  inv : D.inv c.shared
  safe : ∀ p ∈ c.pool, D.Safe p.1 Anywhere p.2 c.shared
  alone : c.pool.Pairwise fun p q => (S.solo p.1 && S.solo q.1) = false

/-- How one event changes the shared state: not at all, by itself, or by the guarantee of the
request it runs. -/
inductive Moves (D : Discipline S) (e : Event ι Req Env) (s t : σ) : Prop where
  | still (h : t = s)
  | world (w : Env) (he : e = .world w) (h : S.environment w s = some t)
  | acted (r : Req) (h : D.guar r s t)

/-- The executed operation of a transition meets the condition of the discipline. -/
def Meets (D : Discipline S) (x : Transition (Config σ Op ε α Req) (Event ι Req Env)) : Prop :=
  ∀ (r : Req) {β : Type} (op : Op β) (i : ι), x.pre.Executes x.label r op i →
    D.meets op x.pre.shared

variable {c d : Config σ Op ε α Req} {e : Event ι Req Env}

private theorem pairwise_set {P : Req × Handler Op ε α → Req × Handler Op ε α → Prop}
    {l : List (Req × Handler Op ε α)} {k : Nat} {r : Req} {p q : Handler Op ε α}
    (hP : ∀ (a b : Req × Handler Op ε α) (h : Handler Op ε α),
      (P a b → P (a.1, h) b) ∧ (P a b → P a (b.1, h)))
    (h : l.Pairwise P) (hk : l[k]? = some (r, p)) : (l.set k (r, q)).Pairwise P := by
  rw [List.pairwise_iff_getElem] at h ⊢
  intro i j hi hj hij
  rw [List.length_set] at hi hj
  have hb := h i j hi hj hij
  rw [List.getElem?_eq_some_iff] at hk
  obtain ⟨hklt, hk⟩ := hk
  rw [List.getElem_set, List.getElem_set]
  by_cases h1 : k = i <;> by_cases h2 : k = j
  · omega
  · subst h1
    simp only [if_true, if_neg h2]
    have hb' := (hP l[k] l[j] q).1 hb
    rwa [hk] at hb'
  · subst h2
    simp only [if_true, if_neg h1]
    have hb' := (hP l[i] l[k] q).2 hb
    rwa [hk] at hb'
  · simpa only [if_neg h1, if_neg h2] using hb

/-- The other handlers stay safe when one of them has acted. -/
private theorem sound_set (hc : D.Sound c) {k : Nat} {r : Req} {p q : Handler Op ε α} {t : σ}
    (hk : c.pool[k]? = some (r, p)) (ht : D.inv t) (hg : D.guar r c.shared t)
    (hq : D.Safe r Anywhere q t) : D.Sound ⟨t, c.pool.set k (r, q)⟩ := by
  refine ⟨ht, fun x hx => ?_, pairwise_set (fun a b h => ⟨id, id⟩) hc.alone hk⟩
  obtain ⟨j, hj, hx⟩ := List.mem_iff_getElem.mp hx
  have hj' : j < c.pool.length := by simpa using hj
  rw [List.getElem_set] at hx
  obtain ⟨hklt, hk⟩ := List.getElem?_eq_some_iff.mp hk
  by_cases hkj : k = j
  · rw [if_pos hkj] at hx
    exact hx ▸ hq
  · rw [if_neg hkj] at hx
    subst hx
    have hsafe := hc.safe _ (List.getElem_mem hj')
    have halone : (S.solo r && S.solo c.pool[j].1) = false := by
      have hpw := List.pairwise_iff_getElem.mp hc.alone
      rcases Nat.lt_or_gt_of_ne hkj with hlt | hlt
      · have := hpw k j hklt hj' hlt
        rwa [hk] at this
      · have := hpw j k hj' hklt hlt
        rw [hk, Bool.and_comm] at this
        exact this
    exact hsafe.wait (D.guar_rely r _ _ _ halone hc.inv hg)

theorem Sound.step (hhandle : ∀ r s, D.inv s → D.Safe r Anywhere (S.handle r) s)
    (hc : D.Sound c) (hmeets : D.Meets ⟨c, e, d⟩) (h : S.next c e = some d) :
    D.Sound d ∧ D.Moves e c.shared d.shared := by
  cases e with
  | start r =>
    simp only [System.next] at h
    split at h
    · next hadm =>
        cases h
        refine ⟨⟨hc.inv, fun p hp => ?_, ?_⟩, .still rfl⟩
        · rcases List.mem_append.mp hp with hp | hp
          · exact hc.safe p hp
          · rw [List.mem_singleton] at hp
            subst hp
            exact hhandle r _ hc.inv
        · refine List.pairwise_append.mpr ⟨hc.alone, List.pairwise_singleton _ _, ?_⟩
          intro p hp q hq
          rw [List.mem_singleton] at hq
          subst hq
          simp only [System.admits, Bool.not_eq_true', Bool.and_eq_false_iff,
            List.any_eq_false] at hadm
          rcases hadm with hs | hs
          · simp [hs]
          · simp [hs p hp]
    · cases h
  | run k i =>
    simp only [System.next] at h
    split at h
    · next r β op next onError hk =>
        obtain ⟨⟨b, t⟩, hx, rfl⟩ := Option.map_eq_some_iff.mp h
        have hsafe := hc.safe _ (List.mem_of_getElem? hk)
        have hm : D.meets op c.shared := hmeets r op i ⟨k, next, onError, hk, .inl rfl⟩
        obtain ⟨ht, hg, hnext, -⟩ := (hsafe _ (D.rely_refl r _) hc.inv).2 i b t hm hx
        exact ⟨sound_set hc hk ht hg hnext, .acted r hg⟩
    · cases h
  | throwBefore k =>
    simp only [System.next] at h
    split at h
    · next r β op next onError hk =>
        cases h
        have hsafe := hc.safe _ (List.mem_of_getElem? hk)
        have herr := (hsafe _ (D.rely_refl r _) hc.inv).1
        refine ⟨⟨hc.inv, fun x hx => ?_, pairwise_set (fun a b h => ⟨id, id⟩) hc.alone hk⟩,
          .still rfl⟩
        rcases List.mem_or_eq_of_mem_set hx with hx | rfl
        · exact hc.safe x hx
        · exact herr
    · cases h
  | throwAfter k i =>
    simp only [System.next] at h
    split at h
    · next r β op next onError hk =>
        obtain ⟨⟨b, t⟩, hx, rfl⟩ := Option.map_eq_some_iff.mp h
        have hsafe := hc.safe _ (List.mem_of_getElem? hk)
        have hm : D.meets op c.shared := hmeets r op i ⟨k, next, onError, hk, .inr rfl⟩
        obtain ⟨ht, hg, -, herr⟩ := (hsafe _ (D.rely_refl r _) hc.inv).2 i b t hm hx
        exact ⟨sound_set hc hk ht hg herr, .acted r hg⟩
    · cases h
  | stop k =>
    cases h
    exact ⟨⟨hc.inv, fun p hp => hc.safe p (List.mem_of_mem_eraseIdx hp),
      hc.alone.sublist (List.eraseIdx_sublist _ _)⟩, .still rfl⟩
  | world w =>
    obtain ⟨t, ht, rfl⟩ := Option.map_eq_some_iff.mp h
    obtain ⟨hinv, hrely⟩ := D.world w _ t hc.inv ht
    exact ⟨⟨hinv, fun p hp => (hc.safe p hp).wait (hrely p.1), hc.alone⟩, .world w rfl ht⟩

/-- Over a run from sound handlers, every configuration is sound and every event moves the shared
state as the discipline says. -/
theorem run {tr : List (Transition (Config σ Op ε α Req) (Event ι Req Env))}
    (hhandle : ∀ r s, D.inv s → D.Safe r Anywhere (S.handle r) s) (hc : D.Sound c)
    (h : Trace (ExecStep S.next) c tr d) (hmeets : ∀ x ∈ tr, D.Meets x) :
    D.Sound d ∧ ∀ x ∈ tr, D.Sound x.pre ∧ D.Moves x.label x.pre.shared x.post.shared := by
  induction h with
  | nil => exact ⟨hc, fun x hx => absurd hx List.not_mem_nil⟩
  | @snoc tr s l t _ hst ih =>
    obtain ⟨hs, hall⟩ := ih fun x hx => hmeets x (List.mem_append_left _ hx)
    obtain ⟨ht, hmove⟩ := Sound.step hhandle hs (hmeets _ (by simp)) hst
    refine ⟨ht, fun x hx => ?_⟩
    rcases List.mem_append.mp hx with hx | hx
    · exact hall x hx
    · rw [List.mem_singleton] at hx
      subst hx
      exact ⟨hs, hmove⟩

/-- No handler in flight is the start of every run. -/
theorem sound_idle {s : σ} (hs : D.inv s) : D.Sound (⟨s, []⟩ : Config σ Op ε α Req) :=
  ⟨hs, fun _ hp => absurd hp List.not_mem_nil, List.Pairwise.nil⟩

end Discipline

end Youtick.Lib
