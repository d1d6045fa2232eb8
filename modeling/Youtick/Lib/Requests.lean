import Youtick.Lib.Handlers

/-!
# What one request does

Requests that take a number first and perform every operation under it. What was done under a number
changes only by the operations of its own request (`Numbering`), so of that much a request can be
reasoned about as if it ran alone: `Numbering.Alone` is the obligation of one program, by recursion on
it, and `Numbering.run` the one induction over interleaved runs.
-/

set_option autoImplicit false

namespace Youtick.Lib

/-- An event leaves the shared state as it is, or the world moves it, or one operation executes. -/
theorem System.next_shared {σ ι ε α Req Env : Type} {Op : Type → Type}
    {S : System σ ι Op ε α Req Env} {c d : Config σ Op ε α Req} {e : Event ι Req Env}
    (h : S.next c e = some d) : d.shared = c.shared ∨
      (∃ w, e = .world w ∧ S.environment w c.shared = some d.shared) ∨
      ∃ (r : Req) (β : Type) (op : Op β) (i : ι) (b : β), c.Executes e r op i ∧
        S.exec β op i c.shared = some (b, d.shared) := by
  cases e with
  | start r =>
    simp only [System.next] at h
    split at h
    · cases h
      exact .inl rfl
    · cases h
  | run k i =>
    simp only [System.next] at h
    split at h
    · next r β op next onError hk =>
        obtain ⟨⟨b, t⟩, hexec, rfl⟩ := Option.map_eq_some_iff.mp h
        exact .inr (.inr ⟨r, β, op, i, b, ⟨k, next, onError, hk, .inl rfl⟩, hexec⟩)
    · cases h
  | throwBefore k =>
    simp only [System.next] at h
    split at h
    · cases h
      exact .inl rfl
    · cases h
  | throwAfter k i =>
    simp only [System.next] at h
    split at h
    · next r β op next onError hk =>
        obtain ⟨⟨b, t⟩, hexec, rfl⟩ := Option.map_eq_some_iff.mp h
        exact .inr (.inr ⟨r, β, op, i, b, ⟨k, next, onError, hk, .inr rfl⟩, hexec⟩)
    · cases h
  | stop k =>
    cases h
    exact .inl rfl
  | world w =>
    obtain ⟨t, ht, rfl⟩ := Option.map_eq_some_iff.mp h
    exact .inr (.inl ⟨w, rfl, ht⟩)

/-- A handler in flight that nothing interrupts, on one input: a run. -/
theorem System.trace_handler {σ ι ε α Req Env : Type} {Op : Type → Type}
    (S : System σ ι Op ε α Req Env) (r : Req) (i : ι) (p : Handler Op ε α) (s : σ) :
    ∃ tr, Trace (ExecStep S.next) ⟨s, [(r, p)]⟩ tr ⟨(p.runUpTo S.exec i none s).2, []⟩ := by
  have hstop (t : σ) (q : Handler Op ε α) :
      S.next ⟨t, [(r, q)]⟩ (.stop 0) = some ⟨t, []⟩ := rfl
  induction p generalizing s with
  | done a => exact ⟨_, Trace.snoc .nil (hstop s _)⟩
  | raise e => exact ⟨_, Trace.snoc .nil (hstop s _)⟩
  | act op next onError ihNext ihError =>
    simp only [Handler.runUpTo]
    cases hexec : S.exec _ op i s with
    | none => exact ⟨_, Trace.snoc .nil (hstop s _)⟩
    | some out =>
      obtain ⟨b, t⟩ := out
      obtain ⟨tr, htr⟩ := ihNext b t
      have hrun : S.next ⟨s, [(r, .act op next onError)]⟩ (.run 0 i) =
          some ⟨t, [(r, next b)]⟩ := by
        simp [System.next, hexec]
      exact ⟨_, Trace.cons hrun htr⟩

/-- A request that nothing interrupts. -/
theorem System.trace_alone {σ ι ε α Req Env : Type} {Op : Type → Type}
    (S : System σ ι Op ε α Req Env) (r : Req) (i : ι) (s : σ) :
    ∃ tr, Trace (ExecStep S.next) ⟨s, []⟩ tr ⟨((S.handle r).runUpTo S.exec i none s).2, []⟩ := by
  obtain ⟨tr, htr⟩ := S.trace_handler r i (S.handle r) s
  have hstart : S.next ⟨s, []⟩ (.start r) = some ⟨s, [(r, S.handle r)]⟩ := by
    simp [System.next, System.admits]
  exact ⟨_, Trace.cons hstart htr⟩

/-- Requests with numbers of their own: `taken` is how many were given out, `own` what was done under
a number. -/
structure Numbering {σ ι ε α Req Env : Type} {Op : Type → Type} (S : System σ ι Op ε α Req Env)
    (φ : Type) where
  taken : σ → Nat
  own : σ → Nat → List φ
  number : {β : Type} → Op β → Nat
  accept : Req → Op Nat
  rest : Req → Nat → Handler Op ε α
  broken : ε
  handle_eq : ∀ r, S.handle r = .act (accept r) (rest r) (.raise broken)
  accept_exec : ∀ r i s n t, S.exec _ (accept r) i s = some (n, t) →
    n = taken s ∧ taken t = taken s + 1 ∧ ∀ m, own t m = own s m
  rest_uses : ∀ r n, (rest r n).Uses fun op => number op = n
  exec_own : ∀ {β : Type} (op : Op β) i s b t, S.exec β op i s = some (b, t) →
    taken s ≤ taken t ∧ ∀ m, m ≠ number op → own t m = own s m
  world_own : ∀ e s t, S.environment e s = some t → taken t = taken s ∧ ∀ m, own t m = own s m

namespace Numbering

variable {σ ι ε α Req Env φ : Type} {Op : Type → Type} {S : System σ ι Op ε α Req Env}
  (N : Numbering S φ)

/-- Run alone, the program of request `n` keeps `Good` of what it has done, and ends with `Q`. -/
def Alone (Good : List φ → Prop) (n : Nat) {τ : Type} (Q : Except ε τ → List φ → Prop) :
    Handler Op ε τ → List φ → Prop
  | .done a, done => Q (.ok a) done
  | .raise e, done => Q (.error e) done
  | .act op next onError, done => Alone Good n Q onError done ∧
      ∀ i s b t, N.own s n = done → S.exec _ op i s = some (b, t) →
        Good (N.own t n) ∧ Alone Good n Q (next b) (N.own t n) ∧ Alone Good n Q onError (N.own t n)

/-- Nothing is asked of where a program ends. -/
def Anyhow {τ : Type} (_ : Except ε τ) (_ : List φ) : Prop := True

namespace Alone

variable {N} {Good : List φ → Prop} {n : Nat} {τ υ : Type} {done : List φ}

theorem bind {Q : Except ε τ → List φ → Prop} {Q' : Except ε υ → List φ → Prop}
    {p : Handler Op ε τ} {f : τ → Handler Op ε υ} (h : N.Alone Good n Q p done)
    (hok : ∀ a past, Q (.ok a) past → N.Alone Good n Q' (f a) past)
    (herr : ∀ e past, Q (.error e) past → Q' (.error e) past) :
    N.Alone Good n Q' (p >>= f) done := by
  change N.Alone Good n Q' (p.bind f) done
  induction p generalizing done with
  | done a => exact hok a done h
  | raise e => exact herr e done h
  | act op next onError ihNext ihError =>
    refine ⟨ihError h.1, fun i s b t hs hexec => ?_⟩
    obtain ⟨hgood, hnext, hfailed⟩ := h.2 i s b t hs hexec
    exact ⟨hgood, ihNext b hnext, ihError hfailed⟩

theorem rescue {Q Q' : Except ε τ → List φ → Prop} {p : Handler Op ε τ}
    {handle : ε → Handler Op ε τ} (h : N.Alone Good n Q p done)
    (hok : ∀ a past, Q (.ok a) past → Q' (.ok a) past)
    (herr : ∀ e past, Q (.error e) past → N.Alone Good n Q' (handle e) past) :
    N.Alone Good n Q' (p.rescue handle) done := by
  induction p generalizing done with
  | done a => exact hok a done h
  | raise e => exact herr e done h
  | act op next onError ihNext ihError =>
    refine ⟨ihError h.1, fun i s b t hs hexec => ?_⟩
    obtain ⟨hgood, hnext, hfailed⟩ := h.2 i s b t hs hexec
    exact ⟨hgood, ihNext b hnext, ihError hfailed⟩

/-- The rule for the next operation of a program in `do` notation. -/
theorem perform {β : Type} {Q : Except ε τ → List φ → Prop} {e : ε} {op : Op β}
    {f : β → Handler Op ε τ} (herr : ∀ past, Q (.error e) past)
    (h : ∀ i s b t, N.own s n = done → S.exec _ op i s = some (b, t) →
      Good (N.own t n) ∧ N.Alone Good n Q (f b) (N.own t n)) :
    N.Alone Good n Q (Handler.perform e op >>= f) done := by
  refine ⟨herr done, fun i s b t hs hexec => ?_⟩
  obtain ⟨hgood, hnext⟩ := h i s b t hs hexec
  exact ⟨hgood, hnext, herr _⟩

/-- A program all of whose operations keep `Good` by themselves. -/
theorem of_uses {P : {β : Type} → Op β → Prop} {p : Handler Op ε τ}
    (hop : ∀ {β : Type} (op : Op β), P op → ∀ i s b t, Good (N.own s n) →
      S.exec _ op i s = some (b, t) → Good (N.own t n))
    (h : p.Uses P) (hgood : Good done) : N.Alone Good n (fun _ past => Good past) p done := by
  induction p generalizing done with
  | done a => exact hgood
  | raise e => exact hgood
  | act op next onError ihNext ihError =>
    refine ⟨ihError h.2.2 hgood, fun i s b t hs hexec => ?_⟩
    subst hs
    have ht := hop op h.1 i s b t hgood hexec
    exact ⟨ht, ihNext b (h.2.1 b) ht, ihError h.2.2 ht⟩

theorem mono {Q Q' : Except ε τ → List φ → Prop} {p : Handler Op ε τ}
    (h : N.Alone Good n Q p done) (hQ : ∀ x past, Q x past → Q' x past) :
    N.Alone Good n Q' p done := by
  induction p generalizing done with
  | done a => exact hQ _ _ h
  | raise e => exact hQ _ _ h
  | act op next onError ihNext ihError =>
    refine ⟨ihError h.1, fun i s b t hs hexec => ?_⟩
    obtain ⟨hgood, hnext, hfailed⟩ := h.2 i s b t hs hexec
    exact ⟨hgood, ihNext b hnext, ihError hfailed⟩

end Alone

/-! ## Runs -/

/-- A request in flight: it has no number yet, or it goes on under its own. -/
inductive Stands (Good : List φ → Prop) (s : σ) : Option Nat × (Req × Handler Op ε α) → Prop where
  | waiting (r : Req) : Stands Good s (none, (r, S.handle r))
  | failed (r : Req) (e : ε) : Stands Good s (none, (r, .raise e))
  | numbered (n : Nat) (r : Req) (p : Handler Op ε α) (hn : n < N.taken s)
      (huses : p.Uses fun op => N.number op = n)
      (halone : N.Alone Good n Anyhow p (N.own s n)) : Stands Good s (some n, (r, p))

/-- Every request in flight stands, no two under one number, and what was done is good. -/
structure Sound (Good : List φ → Prop) (c : Config σ Op ε α Req) : Prop where
  good : ∀ n, Good (N.own c.shared n)
  fresh : ∀ n, N.taken c.shared ≤ n → N.own c.shared n = []
  pool : ∃ named : List (Option Nat × (Req × Handler Op ε α)), named.map Prod.snd = c.pool ∧
    (∀ p ∈ named, N.Stands Good c.shared p) ∧
    named.Pairwise fun p q => ∀ n, p.1 = some n → q.1 ≠ some n

variable {N} {Good : List φ → Prop} {c d : Config σ Op ε α Req} {e : Event ι Req Env}

/-- What others do leaves a request where it stands. -/
theorem Stands.keep {s t : σ} {p : Option Nat × (Req × Handler Op ε α)} (h : N.Stands Good s p)
    (htaken : N.taken s ≤ N.taken t) (hown : ∀ n, p.1 = some n → N.own t n = N.own s n) :
    N.Stands Good t p := by
  cases h with
  | waiting r => exact .waiting r
  | failed r e => exact .failed r e
  | numbered n r p hn huses halone =>
    refine .numbered n r p (hn.trans_le htaken) huses ?_
    rw [hown n rfl]
    exact halone

private theorem pairwise_set_name {named : List (Option Nat × (Req × Handler Op ε α))} {k : Nat}
    {name : Option Nat} {p q : Req × Handler Op ε α}
    (h : named.Pairwise fun p q => ∀ n, p.1 = some n → q.1 ≠ some n)
    (hk : named[k]? = some (name, p)) {name' : Option Nat}
    (hname : name' = name ∨ ∀ x ∈ named, ∀ n, x.1 = some n → name' ≠ some n) :
    (named.set k (name', q)).Pairwise fun p q => ∀ n, p.1 = some n → q.1 ≠ some n := by
  rw [List.pairwise_iff_getElem] at h ⊢
  obtain ⟨hklt, hget⟩ := List.getElem?_eq_some_iff.mp hk
  intro i j hi hj hij n hin hjn
  rw [List.length_set] at hi hj
  have hb := h i j hi hj hij
  rw [List.getElem_set] at hin hjn
  by_cases hki : k = i
  · subst hki
    rw [if_pos rfl] at hin
    rw [if_neg (by omega)] at hjn
    rcases hname with rfl | hother
    · exact hb n (by rw [hget]; exact hin) hjn
    · exact hother _ (List.getElem_mem hj) n hjn hin
  · rw [if_neg hki] at hin
    by_cases hkj : k = j
    · subst hkj
      rw [if_pos rfl] at hjn
      rcases hname with rfl | hother
      · exact hb n hin (by rw [hget]; exact hjn)
      · exact hother _ (List.getElem_mem hi) n hin hjn
    · rw [if_neg hkj] at hjn
      exact hb n hin hjn

/-- One request goes on, under the name it had or under a new one. -/
private theorem sound_set {t : σ} {k : Nat} {r : Req} {name name' : Option Nat}
    {p q : Handler Op ε α} {named : List (Option Nat × (Req × Handler Op ε α))}
    (hmap : named.map Prod.snd = c.pool) (hstands : ∀ p ∈ named, N.Stands Good c.shared p)
    (hpairwise : named.Pairwise fun p q => ∀ n, p.1 = some n → q.1 ≠ some n)
    (hk : named[k]? = some (name, (r, p)))
    (hname : name' = name ∨ ∀ x ∈ named, ∀ n, x.1 = some n → name' ≠ some n)
    (hgood : ∀ n, Good (N.own t n)) (hfresh : ∀ n, N.taken t ≤ n → N.own t n = [])
    (htaken : N.taken c.shared ≤ N.taken t)
    (hown : ∀ n, name ≠ some n → N.own t n = N.own c.shared n)
    (hq : N.Stands Good t (name', (r, q))) : N.Sound Good ⟨t, c.pool.set k (r, q)⟩ := by
  refine ⟨hgood, hfresh, named.set k (name', (r, q)), ?_, ?_, pairwise_set_name hpairwise hk hname⟩
  · rw [List.map_set, hmap]
  · intro x hx
    obtain ⟨j, hj, rfl⟩ := List.mem_iff_getElem.mp hx
    rw [List.length_set] at hj
    rw [List.getElem_set]
    split
    · exact hq
    · next hkj =>
        have hold := hstands _ (List.getElem_mem hj)
        refine hold.keep htaken fun n hn => ?_
        apply hown
        -- its number is not the one of the request that goes on
        obtain ⟨hklt, hget⟩ := List.getElem?_eq_some_iff.mp hk
        intro hsame
        rw [List.pairwise_iff_getElem] at hpairwise
        rcases Nat.lt_or_gt_of_ne hkj with hlt | hlt
        · exact hpairwise k j hklt hj hlt n (by rw [hget]; exact hsame) hn
        · exact hpairwise j k hj hklt hlt n hn (by rw [hget]; exact hsame)

/-- The numbers of the requests in flight were given out. -/
theorem Stands.lt_taken {s : σ} {p : Option Nat × (Req × Handler Op ε α)} (h : N.Stands Good s p)
    {n : Nat} (hn : p.1 = some n) : n < N.taken s := by
  cases h with
  | waiting | failed => cases hn
  | numbered m _ _ hlt =>
    cases hn
    exact hlt

private theorem named_get {named : List (Option Nat × (Req × Handler Op ε α))} {k : Nat} {r : Req}
    {p : Handler Op ε α} (hmap : named.map Prod.snd = c.pool) (hk : c.pool[k]? = some (r, p)) :
    ∃ name, named[k]? = some (name, (r, p)) := by
  rw [← hmap, List.getElem?_map] at hk
  obtain ⟨⟨name, entry⟩, hget, rfl⟩ := Option.map_eq_some_iff.mp hk
  exact ⟨name, hget⟩

theorem Stands.inv {s : σ} {name : Option Nat} {r : Req} {p : Handler Op ε α}
    (h : N.Stands Good s (name, (r, p))) :
    (name = none ∧ (p = S.handle r ∨ ∃ e, p = .raise e)) ∨
      ∃ n, name = some n ∧ n < N.taken s ∧ (p.Uses fun op => N.number op = n) ∧
        N.Alone Good n Anyhow p (N.own s n) := by
  generalize hentry : (name, (r, p)) = entry at h
  cases h with
  | waiting r' =>
    obtain ⟨rfl, hrest⟩ := Prod.mk.inj hentry
    obtain ⟨rfl, rfl⟩ := Prod.mk.inj hrest
    exact .inl ⟨rfl, .inl rfl⟩
  | failed r' e =>
    obtain ⟨rfl, hrest⟩ := Prod.mk.inj hentry
    obtain ⟨rfl, rfl⟩ := Prod.mk.inj hrest
    exact .inl ⟨rfl, .inr ⟨e, rfl⟩⟩
  | numbered n r' p' hn huses halone =>
    obtain ⟨rfl, hrest⟩ := Prod.mk.inj hentry
    obtain ⟨rfl, rfl⟩ := Prod.mk.inj hrest
    exact .inr ⟨n, rfl, hn, huses, halone⟩

/-- What one operation of a standing request does. -/
private theorem stands_exec (hrest : ∀ r n, N.Alone Good n Anyhow (N.rest r n) []) {s t : σ}
    {name : Option Nat} {r : Req} {β : Type} {op : Op β} {next : β → Handler Op ε α}
    {onError : Handler Op ε α} {i : ι} {b : β}
    (h : N.Stands Good s (name, (r, .act op next onError))) (hgood : ∀ n, Good (N.own s n))
    (hfresh : ∀ n, N.taken s ≤ n → N.own s n = []) (hexec : S.exec _ op i s = some (b, t)) :
    (∀ n, Good (N.own t n)) ∧ (∀ n, N.taken t ≤ n → N.own t n = []) ∧
      N.taken s ≤ N.taken t ∧ (∀ n, name ≠ some n → N.own t n = N.own s n) ∧
      N.Stands Good t (name, (r, onError)) ∧
      ∃ name', (name' = name ∨ name' = some (N.taken s)) ∧
        N.Stands Good t (name', (r, next b)) := by
  rcases h.inv with ⟨rfl, hwaiting | ⟨e, hraise⟩⟩ | ⟨n, rfl, hn, huses, halone⟩
  · -- the request takes its number
    rw [N.handle_eq] at hwaiting
    cases hwaiting
    obtain ⟨rfl, htaken, hown⟩ := N.accept_exec r i s b t hexec
    have hempty : N.own t (N.taken s) = [] := (hown _).trans (hfresh _ le_rfl)
    refine ⟨fun m => ?_, fun m hm => ?_, ?_, fun m _ => hown m, .failed r N.broken,
      some (N.taken s), .inr rfl, .numbered _ r _ ?_ (N.rest_uses r _) ?_⟩
    · rw [hown m]
      exact hgood m
    · rw [hown m]
      exact hfresh m (by omega)
    · omega
    · omega
    · rw [hempty]
      exact hrest r _
  · cases hraise
  · obtain ⟨htaken, hown⟩ := N.exec_own op i s b t hexec
    rw [huses.1] at hown
    obtain ⟨hthis, hnext, herr⟩ := halone.2 i s b t rfl hexec
    have hlt : n < N.taken t := hn.trans_le htaken
    refine ⟨fun m => ?_, fun m hm => ?_, htaken, fun m hm => hown m fun hsame => ?_,
      .numbered n r _ hlt huses.2.2 herr, some n, .inl rfl,
      .numbered n r _ hlt (huses.2.1 b) hnext⟩
    · by_cases hm : m = n
      · rw [hm]
        exact hthis
      · rw [hown m hm]
        exact hgood m
    · rw [hown m (by omega)]
      exact hfresh m (by omega)
    · exact hm (by rw [hsame])

theorem Sound.step (hrest : ∀ r n, N.Alone Good n Anyhow (N.rest r n) []) (hc : N.Sound Good c)
    (h : S.next c e = some d) : N.Sound Good d := by
  obtain ⟨hgood, hfresh, named, hmap, hstands, hpairwise⟩ := hc
  have hnew : ∀ x ∈ named, ∀ n, x.1 = some n → some (N.taken c.shared) ≠ some n := by
    intro x hx n hn hsame
    have hlt := (hstands x hx).lt_taken hn
    exact absurd (Option.some.inj hsame) hlt.ne'
  cases e with
  | start r =>
    simp only [System.next] at h
    split at h
    · cases h
      refine ⟨hgood, hfresh, named ++ [(none, (r, S.handle r))], ?_, ?_, ?_⟩
      · rw [List.map_append, hmap]
        rfl
      · intro p hp
        rcases List.mem_append.mp hp with hold | hlast
        · exact hstands p hold
        · rw [List.mem_singleton.mp hlast]
          exact .waiting r
      · refine List.pairwise_append.mpr ⟨hpairwise, List.pairwise_singleton _ _, ?_⟩
        intro p _ q hq n _
        rw [List.mem_singleton.mp hq]
        intro h
        cases h
    · cases h
  | run k i =>
    simp only [System.next] at h
    split at h
    · next r β op next onError hk =>
        obtain ⟨⟨b, t⟩, hexec, rfl⟩ := Option.map_eq_some_iff.mp h
        obtain ⟨name, hget⟩ := named_get hmap hk
        obtain ⟨hgood', hfresh', htaken, hown, -, name', hname, hnext⟩ :=
          stands_exec hrest (hstands _ (List.mem_of_getElem? hget)) hgood hfresh hexec
        refine sound_set hmap hstands hpairwise hget ?_ hgood' hfresh' htaken
          hown hnext
        rcases hname with rfl | rfl
        · exact .inl rfl
        · exact .inr hnew
    · cases h
  | throwBefore k =>
    simp only [System.next] at h
    split at h
    · next r β op next onError hk =>
        cases h
        obtain ⟨name, hget⟩ := named_get hmap hk
        refine sound_set hmap hstands hpairwise hget (.inl rfl) hgood hfresh le_rfl
          (fun _ _ => rfl) ?_
        rcases (hstands _ (List.mem_of_getElem? hget)).inv with
          ⟨rfl, hwaiting | ⟨e, hraise⟩⟩ | ⟨n, rfl, hn, huses, halone⟩
        · rw [N.handle_eq] at hwaiting
          cases hwaiting
          exact .failed r N.broken
        · cases hraise
        · exact .numbered n r _ hn huses.2.2 halone.1
    · cases h
  | throwAfter k i =>
    simp only [System.next] at h
    split at h
    · next r β op next onError hk =>
        obtain ⟨⟨b, t⟩, hexec, rfl⟩ := Option.map_eq_some_iff.mp h
        obtain ⟨name, hget⟩ := named_get hmap hk
        obtain ⟨hgood', hfresh', htaken, hown, herr, -⟩ :=
          stands_exec hrest (hstands _ (List.mem_of_getElem? hget)) hgood hfresh hexec
        exact sound_set hmap hstands hpairwise hget (.inl rfl) hgood' hfresh' htaken
          hown herr
    · cases h
  | stop k =>
    cases h
    refine ⟨hgood, hfresh, named.eraseIdx k, ?_, ?_, ?_⟩
    · rw [← hmap, List.eraseIdx_map]
    · intro p hp
      exact hstands p (List.mem_of_mem_eraseIdx hp)
    · exact hpairwise.sublist (List.eraseIdx_sublist _ _)
  | world w =>
    obtain ⟨t, ht, rfl⟩ := Option.map_eq_some_iff.mp h
    obtain ⟨htaken, hown⟩ := N.world_own w _ t ht
    refine ⟨fun n => ?_, fun n hn => ?_, named, hmap, fun p hp => ?_, hpairwise⟩
    · rw [hown n]
      exact hgood n
    · rw [hown n]
      exact hfresh n (htaken ▸ hn)
    · exact (hstands p hp).keep htaken.ge fun n _ => hown n

/-- Over a run from no request in flight, what was done under each number stays good. -/
theorem run {s : σ} {tr : List (Transition (Config σ Op ε α Req) (Event ι Req Env))}
    (hrest : ∀ r n, N.Alone Good n Anyhow (N.rest r n) []) (hgood : ∀ n, Good (N.own s n))
    (hfresh : ∀ n, N.taken s ≤ n → N.own s n = [])
    (h : Trace (ExecStep S.next) (⟨s, []⟩ : Config σ Op ε α Req) tr d) : N.Sound Good d := by
  have hstart : N.Sound Good (⟨s, []⟩ : Config σ Op ε α Req) :=
    ⟨hgood, hfresh, [], rfl, fun p hp => absurd hp List.not_mem_nil, List.Pairwise.nil⟩
  exact h.invariant (fun _ _ _ hs hstep => hs.step hrest hstep) hstart

end Numbering

end Youtick.Lib
