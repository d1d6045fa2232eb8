import Youtick.Lib.Handlers

/-!
# Credits and debts of handlers

Two counts that no invariant of the shared state alone can give, because they are about what the
handlers in flight still hold.

A handler holds a *credit* once it has performed an operation that earns one, and needs a credit for
every operation that spends one. Over a run no more is spent than was earned.

A handler has a *debt* once an operation of its own incurred it, until another operation settles it.
Over a run in which nobody abandons a debt, what is still pending is owed by a handler in flight.
-/

set_option autoImplicit false

namespace Youtick.Lib

universe u

namespace Handler

variable {Op : Type → Type} {ε α β : Type}

theorem Uses.mono {P Q : {β : Type} → Op β → Prop} {p : Handler Op ε α} (h : p.Uses P)
    (hPQ : ∀ {β : Type} (op : Op β), P op → Q op) : p.Uses Q := by
  induction p with
  | done a => trivial
  | raise e => trivial
  | act op next onError ihNext ihError =>
    exact ⟨hPQ op h.1, fun b => ihNext b (h.2.1 b), ihError h.2.2⟩

/-- The handler has answered or thrown. -/
def ended : Handler Op ε α → Bool
  | .act _ _ _ => false
  | _ => true

/-! ## Credits -/

section Credits

variable (earns spends : (β : Type) → Op β → Bool)

/-- With `n` credits at the start, the handler has one for every operation that spends one. -/
def Funded : Nat → Handler Op ε α → Prop
  | _, .done _ => True
  | _, .raise _ => True
  | n, .act op next onError =>
    (spends _ op = true → 0 < n) ∧
      (∀ b, Funded (n - (spends _ op).toNat + (earns _ op).toNat) (next b)) ∧
      Funded (n - (spends _ op).toNat) onError

variable {earns spends}

theorem Funded.mono {n m : Nat} {p : Handler Op ε α} (h : p.Funded earns spends n) (hnm : n ≤ m) :
    p.Funded earns spends m := by
  induction p generalizing n m with
  | done a => trivial
  | raise e => trivial
  | act op next onError ihNext ihError =>
    refine ⟨fun hs => ?_, fun b => ?_, ?_⟩
    · have := h.1 hs
      omega
    · exact ihNext b (h.2.1 b) (by omega)
    · exact ihError h.2.2 (by omega)

/-- A handler that spends nothing needs nothing. -/
theorem funded_of_uses {n : Nat} {p : Handler Op ε α}
    (h : p.Uses fun op => spends _ op = false) : p.Funded earns spends n := by
  induction p generalizing n with
  | done a => trivial
  | raise e => trivial
  | act op next onError ihNext ihError =>
    refine ⟨fun hs => ?_, fun b => ihNext b (h.2.1 b), ihError h.2.2⟩
    rw [h.1] at hs
    cases hs

/-- A second part that needs nothing. -/
theorem Funded.bind {n : Nat} {p : Handler Op ε α} {f : α → Handler Op ε β}
    (hp : p.Funded earns spends n) (hf : ∀ a, (f a).Funded earns spends 0) :
    (p >>= f).Funded earns spends n := by
  change (p.bind f).Funded earns spends n
  induction p generalizing n with
  | done a => exact (hf a).mono (Nat.zero_le n)
  | raise e => trivial
  | act op next onError ihNext ihError =>
    exact ⟨hp.1, fun b => ihNext b (hp.2.1 b), ihError hp.2.2⟩

theorem Funded.rescue {n : Nat} {p : Handler Op ε α} {handle : ε → Handler Op ε α}
    (hp : p.Funded earns spends n) (hh : ∀ e, (handle e).Funded earns spends 0) :
    (p.rescue handle).Funded earns spends n := by
  induction p generalizing n with
  | done a => trivial
  | raise e => exact (hh e).mono (Nat.zero_le n)
  | act op next onError ihNext ihError =>
    exact ⟨hp.1, fun b => ihNext b (hp.2.1 b), ihError hp.2.2⟩

/-- An operation that earns gives the rest one credit more. -/
theorem Funded.perform_earn {n : Nat} {e : ε} {op : Op β} {f : β → Handler Op ε α}
    (hearns : earns _ op = true) (hspends : spends _ op = false)
    (hf : ∀ b, (f b).Funded earns spends (n + 1)) :
    (Handler.perform e op >>= f).Funded earns spends n := by
  refine ⟨fun hs => ?_, fun b => ?_, trivial⟩
  · rw [hspends] at hs
    cases hs
  · rw [hspends, hearns]
    exact hf b

/-- An operation that spends uses one credit up. -/
theorem Funded.perform_spend {n : Nat} {e : ε} {op : Op β} {f : β → Handler Op ε α}
    (hf : ∀ b, (f b).Funded earns spends n) :
    (Handler.perform e op >>= f).Funded earns spends (n + 1) := by
  refine ⟨fun _ => Nat.succ_pos n, fun b => (hf b).mono ?_, trivial⟩
  have : (spends _ op).toNat ≤ 1 := Bool.toNat_le _
  omega

end Credits

/-! ## Debts -/

section Debts

variable (settles : (β : Type) → Op β → Prop) (incurs : (β : Type) → Op β → β → Prop)

/-- Whatever is answered and whatever throws, the handler comes to an operation that settles. -/
def Owes : Handler Op ε α → Prop
  | .done _ => False
  | .raise _ => False
  | .act op next onError => settles _ op ∨ ((∀ b, (next b).Owes) ∧ onError.Owes)

/-- After an operation that incurs the debt the handler owes it. -/
def Honours : Handler Op ε α → Prop
  | .done _ => True
  | .raise _ => True
  | .act op next onError =>
    (∀ b, incurs _ op b → (next b).Owes settles) ∧ (∀ b, (next b).Honours) ∧ onError.Honours

variable {settles incurs}

theorem Owes.bind {p : Handler Op ε α} {f : α → Handler Op ε β} (h : p.Owes settles) :
    (p >>= f).Owes settles := by
  change (p.bind f).Owes settles
  induction p with
  | done a => exact h.elim
  | raise e => exact h.elim
  | act op next onError ihNext ihError =>
    rcases h with h | ⟨hnext, herror⟩
    · exact .inl h
    · exact .inr ⟨fun b => ihNext b (hnext b), ihError herror⟩

theorem Owes.rescue {p : Handler Op ε α} {handle : ε → Handler Op ε α} (h : p.Owes settles) :
    (p.rescue handle).Owes settles := by
  induction p with
  | done a => exact h.elim
  | raise e => exact h.elim
  | act op next onError ihNext ihError =>
    rcases h with h | ⟨hnext, herror⟩
    · exact .inl h
    · exact .inr ⟨fun b => ihNext b (hnext b), ihError herror⟩

/-- However a part ends, what comes after it settles. -/
theorem owes_rescue_bind {p : Handler Op ε α} {f : α → Handler Op ε β}
    {handle : ε → Handler Op ε β} (hf : ∀ a, ((f a).rescue handle).Owes settles)
    (hh : ∀ e, (handle e).Owes settles) : ((p >>= f).rescue handle).Owes settles := by
  change ((p.bind f).rescue handle).Owes settles
  induction p with
  | done a => exact hf a
  | raise e => exact hh e
  | act op next onError ihNext ihError => exact .inr ⟨fun b => ihNext b, ihError⟩

theorem owes_perform {e : ε} {op : Op β} {f : β → Handler Op ε α} (h : settles _ op) :
    (Handler.perform e op >>= f).Owes settles := .inl h

theorem Honours.bind {p : Handler Op ε α} {f : α → Handler Op ε β} (hp : p.Honours settles incurs)
    (hf : ∀ a, (f a).Honours settles incurs) : (p >>= f).Honours settles incurs := by
  change (p.bind f).Honours settles incurs
  induction p with
  | done a => exact hf a
  | raise e => trivial
  | act op next onError ihNext ihError =>
    refine ⟨fun b hb => ?_, fun b => ihNext b (hp.2.1 b), ihError hp.2.2⟩
    exact (hp.1 b hb).bind

theorem Honours.rescue {p : Handler Op ε α} {handle : ε → Handler Op ε α}
    (hp : p.Honours settles incurs) (hh : ∀ e, (handle e).Honours settles incurs) :
    (p.rescue handle).Honours settles incurs := by
  induction p with
  | done a => trivial
  | raise e => exact hh e
  | act op next onError ihNext ihError =>
    refine ⟨fun b hb => ?_, fun b => ihNext b (hp.2.1 b), ihError hp.2.2⟩
    exact (hp.1 b hb).rescue

/-- A handler that incurs nothing. -/
theorem honours_of_uses {p : Handler Op ε α} (hp : p.Uses fun op => ∀ b, ¬ incurs _ op b) :
    p.Honours settles incurs := by
  induction p with
  | done a => trivial
  | raise e => trivial
  | act op next onError ihNext ihError =>
    exact ⟨fun b hb => absurd hb (hp.1 b), fun b => ihNext b (hp.2.1 b), ihError hp.2.2⟩

end Debts

end Handler

/-! ## Runs -/

namespace System

variable {σ ι ε α Req Env : Type} {Op : Type → Type} (S : System σ ι Op ε α Req Env)

section Credits

variable (earns spends : (β : Type) → Op β → Bool) (earned spent : σ → Nat)

/-- `earned` counts the operations that earn, and perhaps more; `spent` counts none but those that
spend. -/
structure Counts : Prop where
  exec : ∀ {β : Type} (op : Op β) (i : ι) (s t : σ) (b : β), S.exec _ op i s = some (b, t) →
    earned s + (earns _ op).toNat ≤ earned t ∧ spent t ≤ spent s + (spends _ op).toNat
  world : ∀ e s t, S.environment e s = some t → earned s ≤ earned t ∧ spent t ≤ spent s

/-- Every handler in flight is funded by credits that were earned and not spent. -/
def Backed (c : Config σ Op ε α Req) : Prop :=
  ∃ credits : List Nat, List.Forall₂ (fun n p => p.2.Funded earns spends n) credits c.pool ∧
    spent c.shared + credits.sum ≤ earned c.shared

variable {S earns spends earned spent}

private theorem forall₂_set {κ : Type} {τ : Type u} {R : κ → τ → Prop} {l : List κ} {m : List τ} {k : Nat}
    {a : κ} {b : τ} (h : List.Forall₂ R l m) (hab : R a b) :
    List.Forall₂ R (l.set k a) (m.set k b) := by
  induction h generalizing k with
  | nil => exact .nil
  | cons hx _ ih =>
    cases k with
    | zero => exact .cons hab ‹_›
    | succ k => exact .cons hx ih

private theorem forall₂_eraseIdx {κ : Type} {τ : Type u} {R : κ → τ → Prop} {l : List κ} {m : List τ}
    {k : Nat} (h : List.Forall₂ R l m) : List.Forall₂ R (l.eraseIdx k) (m.eraseIdx k) := by
  induction h generalizing k with
  | nil => exact .nil
  | cons hx hrest ih =>
    cases k with
    | zero => exact hrest
    | succ k => exact .cons hx ih

private theorem forall₂_get {κ : Type} {τ : Type u} {R : κ → τ → Prop} {l : List κ} {m : List τ} {k : Nat}
    {b : τ} (h : List.Forall₂ R l m) (hb : m[k]? = some b) :
    ∃ a, l[k]? = some a ∧ R a b := by
  induction h generalizing k with
  | nil => simp at hb
  | @cons a c l m hx _ ih =>
    cases k with
    | zero =>
      simp only [List.getElem?_cons_zero, Option.some.injEq] at hb
      exact ⟨a, rfl, hb ▸ hx⟩
    | succ k => exact ih (by simpa using hb)

private theorem sum_set {l : List Nat} {k a n : Nat} (h : l[k]? = some a) :
    (l.set k n).sum + a = l.sum + n := by
  induction l generalizing k with
  | nil => simp at h
  | cons b l ih =>
    cases k with
    | zero =>
      simp only [List.getElem?_cons_zero, Option.some.injEq] at h
      simp only [List.set_cons_zero, List.sum_cons]
      omega
    | succ k =>
      have := ih (k := k) (by simpa using h)
      simp only [List.set_cons_succ, List.sum_cons]
      omega

private theorem sum_eraseIdx_le (l : List Nat) (k : Nat) : (l.eraseIdx k).sum ≤ l.sum := by
  induction l generalizing k with
  | nil => simp
  | cons b l ih =>
    cases k with
    | zero => simp
    | succ k =>
      have := ih k
      simp only [List.eraseIdx_cons_succ, List.sum_cons]
      omega

theorem Backed.step (hcounts : S.Counts earns spends earned spent)
    (hhandle : ∀ r, (S.handle r).Funded earns spends 0) {c d : Config σ Op ε α Req}
    {e : Event ι Req Env} (hc : Backed earns spends earned spent c) (h : S.next c e = some d) :
    Backed earns spends earned spent d := by
  obtain ⟨credits, hfund, hsum⟩ := hc
  cases e with
  | start r =>
    simp only [System.next] at h
    split at h
    · cases h
      refine ⟨credits ++ [0], ?_, by simpa using hsum⟩
      exact List.rel_append hfund (.cons (hhandle r) .nil)
    · cases h
  | run k i =>
    simp only [System.next] at h
    split at h
    · next r β op next onError hk =>
        obtain ⟨⟨b, t⟩, hx, rfl⟩ := Option.map_eq_some_iff.mp h
        obtain ⟨n, hn, hpay, hnext, -⟩ := forall₂_get hfund hk
        obtain ⟨hearned, hspent⟩ := hcounts.exec op i _ _ b hx
        refine ⟨credits.set k _, forall₂_set hfund (hnext b), ?_⟩
        have hset := sum_set (n := n - (spends _ op).toNat + (earns _ op).toNat) hn
        have hcovered : (spends _ op).toNat ≤ n := by
          cases hs : spends _ op with
          | false => exact Nat.zero_le n
          | true => exact hpay hs
        change spent t + _ ≤ earned t
        omega
    · cases h
  | throwBefore k =>
    simp only [System.next] at h
    split at h
    · next r β op next onError hk =>
        cases h
        obtain ⟨n, hn, -, -, herror⟩ := forall₂_get hfund hk
        refine ⟨credits.set k (n - (spends _ op).toNat), forall₂_set hfund herror, ?_⟩
        have hset := sum_set (n := n - (spends _ op).toNat) hn
        change spent c.shared + _ ≤ earned c.shared
        omega
    · cases h
  | throwAfter k i =>
    simp only [System.next] at h
    split at h
    · next r β op next onError hk =>
        obtain ⟨⟨b, t⟩, hx, rfl⟩ := Option.map_eq_some_iff.mp h
        obtain ⟨n, hn, hpay, -, herror⟩ := forall₂_get hfund hk
        obtain ⟨hearned, hspent⟩ := hcounts.exec op i _ _ b hx
        refine ⟨credits.set k (n - (spends _ op).toNat), forall₂_set hfund herror, ?_⟩
        have hset := sum_set (n := n - (spends _ op).toNat) hn
        have hcovered : (spends _ op).toNat ≤ n := by
          cases hs : spends _ op with
          | false => exact Nat.zero_le n
          | true => exact hpay hs
        change spent t + _ ≤ earned t
        omega
    · cases h
  | stop k =>
    cases h
    refine ⟨credits.eraseIdx k, forall₂_eraseIdx hfund, ?_⟩
    have := sum_eraseIdx_le credits k
    change spent c.shared + _ ≤ earned c.shared
    omega
  | world w =>
    obtain ⟨t, ht, rfl⟩ := Option.map_eq_some_iff.mp h
    obtain ⟨hearned, hspent⟩ := hcounts.world w _ t ht
    refine ⟨credits, hfund, ?_⟩
    change spent t + _ ≤ earned t
    omega

/-- No handler in flight holds a credit at the start of a run. -/
theorem backed_idle {s : σ} (h : spent s ≤ earned s) :
    Backed earns spends earned spent (⟨s, []⟩ : Config σ Op ε α Req) := ⟨[], .nil, by simpa using h⟩

/-- Over a run every configuration is backed. -/
theorem Backed.run (hcounts : S.Counts earns spends earned spent)
    (hhandle : ∀ r, (S.handle r).Funded earns spends 0) {c d : Config σ Op ε α Req}
    {tr : List (Transition (Config σ Op ε α Req) (Event ι Req Env))}
    (hc : Backed earns spends earned spent c) (h : Trace (ExecStep S.next) c tr d) :
    Backed earns spends earned spent d ∧
      ∀ x ∈ tr, Backed earns spends earned spent x.pre := by
  induction h with
  | nil => exact ⟨hc, fun x hx => absurd hx List.not_mem_nil⟩
  | @snoc tr s l t _ hst ih =>
    obtain ⟨hs, hall⟩ := ih
    refine ⟨Backed.step hcounts hhandle hs hst, fun x hx => ?_⟩
    rcases List.mem_append.mp hx with hx | hx
    · exact hall x hx
    · rw [List.mem_singleton] at hx
      subst hx
      exact hs

end Credits

section Debts

variable (settles : (β : Type) → Op β → Prop) (incurs : (β : Type) → Op β → β → Prop)
  (pending : σ → Prop)

/-- A debt is pending from the operation that incurs it to one that settles it. -/
structure Tracks : Prop where
  exec : ∀ {β : Type} (op : Op β) (i : ι) (s t : σ) (b : β), S.exec _ op i s = some (b, t) →
    pending t → incurs _ op b ∨ (pending s ∧ ¬ settles _ op)
  world : ∀ e s t, S.environment e s = some t → pending t → pending s

/-- The event abandons the debt: it cuts off a handler that owes it, or a settlement fails and is
not tried again, or the debt is incurred and the answer lost. -/
def Abandons (c : Config σ Op ε α Req) : Event ι Req Env → Prop
  | .stop k => ∃ p, c.pool[k]? = some p ∧ p.2.Owes settles
  | .throwBefore k => ∃ (r : Req) (β : Type) (op : Op β) (next : β → Handler Op ε α)
      (onError : Handler Op ε α), c.pool[k]? = some (r, .act op next onError) ∧ settles _ op ∧
        ¬ onError.Owes settles
  | .throwAfter k i => ∃ (r : Req) (β : Type) (op : Op β) (next : β → Handler Op ε α)
      (onError : Handler Op ε α) (b : β) (t : σ),
        c.pool[k]? = some (r, .act op next onError) ∧ S.exec _ op i c.shared = some (b, t) ∧
          incurs _ op b
  | _ => False

/-- Nothing throws, and only handlers that have ended are taken away. -/
def Undisturbed (c : Config σ Op ε α Req) : Event ι Req Env → Bool
  | .start _ => true
  | .run _ _ => true
  | .stop k => c.pool[k]?.all fun p => p.2.ended
  | .world _ => true
  | _ => false

/-- What is pending is owed by a handler in flight. -/
structure Covered (c : Config σ Op ε α Req) : Prop where
  honours : ∀ p ∈ c.pool, p.2.Honours settles incurs
  owed : pending c.shared → ∃ p ∈ c.pool, p.2.Owes settles

variable {S settles incurs pending}

/-- An undisturbed event abandons nothing. -/
theorem not_abandons {c : Config σ Op ε α Req} {e : Event ι Req Env}
    (h : Undisturbed c e = true) : ¬ S.Abandons settles incurs c e := by
  cases e with
  | start r => exact id
  | run k i => exact id
  | throwBefore k => cases h
  | throwAfter k i => cases h
  | stop k =>
    rintro ⟨p, hp, howes⟩
    have hended : p.2.ended = true := by
      change (c.pool[k]?.all fun p => p.2.ended) = true at h
      rw [hp] at h
      exact h
    revert howes hended
    cases p.2 <;> intro howes hended
    · exact howes
    · exact howes
    · cases hended
  | world w => exact id

private theorem owed_set {l : List (Req × Handler Op ε α)} {k : Nat} {r : Req}
    {p q : Handler Op ε α} (hk : l[k]? = some (r, p)) (h : ∃ x ∈ l, x.2.Owes settles)
    (hpq : p.Owes settles → q.Owes settles) : ∃ x ∈ l.set k (r, q), x.2.Owes settles := by
  obtain ⟨x, hx, howes⟩ := h
  obtain ⟨j, hj, rfl⟩ := List.mem_iff_getElem.mp hx
  obtain ⟨hklt, hk⟩ := List.getElem?_eq_some_iff.mp hk
  by_cases hkj : k = j
  · subst hkj
    refine ⟨(r, q), List.mem_set hklt (r, q), hpq ?_⟩
    rw [hk] at howes
    exact howes
  · refine ⟨l[j], List.mem_iff_getElem.mpr ⟨j, by simpa using hj, ?_⟩, howes⟩
    exact List.getElem_set_ne hkj _

private theorem honours_set {l : List (Req × Handler Op ε α)} {k : Nat} {r : Req}
    {q : Handler Op ε α} (h : ∀ p ∈ l, p.2.Honours settles incurs)
    (hq : q.Honours settles incurs) : ∀ p ∈ l.set k (r, q), p.2.Honours settles incurs := by
  intro p hp
  rcases List.mem_or_eq_of_mem_set hp with hp | rfl
  · exact h p hp
  · exact hq

theorem Covered.step (htracks : S.Tracks settles incurs pending)
    (hhandle : ∀ r, (S.handle r).Honours settles incurs) {c d : Config σ Op ε α Req}
    {e : Event ι Req Env} (hc : Covered settles incurs pending c)
    (hkept : ¬ S.Abandons settles incurs c e) (h : S.next c e = some d) :
    Covered settles incurs pending d := by
  cases e with
  | start r =>
    simp only [System.next] at h
    split at h
    · cases h
      refine ⟨fun p hp => ?_, fun hpending => ?_⟩
      · rcases List.mem_append.mp hp with hp | hp
        · exact hc.honours p hp
        · rw [List.mem_singleton] at hp
          exact hp ▸ hhandle r
      · obtain ⟨p, hp, howes⟩ := hc.owed hpending
        exact ⟨p, List.mem_append_left _ hp, howes⟩
    · cases h
  | run k i =>
    simp only [System.next] at h
    split at h
    · next r β op next onError hk =>
        obtain ⟨⟨b, t⟩, hx, rfl⟩ := Option.map_eq_some_iff.mp h
        obtain ⟨hincurs, hnext, -⟩ := hc.honours _ (List.mem_of_getElem? hk)
        refine ⟨honours_set hc.honours (hnext b), fun hpending => ?_⟩
        rcases htracks.exec op i _ _ b hx hpending with hdebt | ⟨hbefore, hunsettled⟩
        · have hklt := (List.getElem?_eq_some_iff.mp hk).1
          exact ⟨(r, next b), List.mem_set hklt _, hincurs b hdebt⟩
        · refine owed_set hk (hc.owed hbefore) fun howes => ?_
          rcases howes with hs | ⟨hall, -⟩
          · exact absurd hs hunsettled
          · exact hall b
    · cases h
  | throwBefore k =>
    simp only [System.next] at h
    split at h
    · next r β op next onError hk =>
        cases h
        obtain ⟨-, -, herror⟩ := hc.honours _ (List.mem_of_getElem? hk)
        refine ⟨honours_set hc.honours herror, fun hpending => ?_⟩
        refine owed_set hk (hc.owed hpending) fun howes => ?_
        rcases howes with hs | ⟨-, hlater⟩
        · by_contra hlost
          exact hkept ⟨r, β, op, next, onError, hk, hs, hlost⟩
        · exact hlater
    · cases h
  | throwAfter k i =>
    simp only [System.next] at h
    split at h
    · next r β op next onError hk =>
        obtain ⟨⟨b, t⟩, hx, rfl⟩ := Option.map_eq_some_iff.mp h
        obtain ⟨-, -, herror⟩ := hc.honours _ (List.mem_of_getElem? hk)
        refine ⟨honours_set hc.honours herror, fun hpending => ?_⟩
        rcases htracks.exec op i _ _ b hx hpending with hdebt | ⟨hbefore, hunsettled⟩
        · exact absurd ⟨r, β, op, next, onError, b, t, hk, hx, hdebt⟩ hkept
        · refine owed_set hk (hc.owed hbefore) fun howes => ?_
          rcases howes with hs | ⟨-, hlater⟩
          · exact absurd hs hunsettled
          · exact hlater
    · cases h
  | stop k =>
    cases h
    refine ⟨fun p hp => hc.honours p (List.mem_of_mem_eraseIdx hp), fun hpending => ?_⟩
    obtain ⟨p, hp, howes⟩ := hc.owed hpending
    obtain ⟨j, hj⟩ := List.mem_iff_getElem?.mp hp
    refine ⟨p, List.mem_eraseIdx_iff_getElem?.mpr ⟨j, ?_, hj⟩, howes⟩
    rintro rfl
    exact hkept ⟨p, hj, howes⟩
  | world w =>
    obtain ⟨t, ht, rfl⟩ := Option.map_eq_some_iff.mp h
    exact ⟨hc.honours, fun hpending => hc.owed (htracks.world w _ t ht hpending)⟩

/-- Over a run that abandons nothing, whatever is pending is owed by a handler in flight. -/
theorem Covered.run (htracks : S.Tracks settles incurs pending)
    (hhandle : ∀ r, (S.handle r).Honours settles incurs) {c d : Config σ Op ε α Req}
    {tr : List (Transition (Config σ Op ε α Req) (Event ι Req Env))}
    (hc : Covered settles incurs pending c) (h : Trace (ExecStep S.next) c tr d)
    (hkept : ∀ x ∈ tr, ¬ S.Abandons settles incurs x.pre x.label) :
    Covered settles incurs pending d ∧ ∀ x ∈ tr, Covered settles incurs pending x.pre := by
  induction h with
  | nil => exact ⟨hc, fun x hx => absurd hx List.not_mem_nil⟩
  | @snoc tr s l t _ hst ih =>
    obtain ⟨hs, hall⟩ := ih fun x hx => hkept x (List.mem_append_left _ hx)
    have hlast := hkept ⟨s, l, t⟩ (List.mem_append_right _ (List.mem_singleton_self _))
    refine ⟨Covered.step htracks hhandle hs hlast hst, fun x hx => ?_⟩
    rcases List.mem_append.mp hx with hx | hx
    · exact hall x hx
    · rw [List.mem_singleton] at hx
      subst hx
      exact hs

/-- Nothing is pending at the start of a run. -/
theorem covered_idle {s : σ} (h : ¬ pending s) :
    Covered settles incurs pending (⟨s, []⟩ : Config σ Op ε α Req) :=
  ⟨fun _ hp => absurd hp List.not_mem_nil, fun hp => absurd hp h⟩

end Debts

end System

end Youtick.Lib
