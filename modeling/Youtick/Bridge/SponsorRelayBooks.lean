import Youtick.Bridge.SponsorRelay

/-!
# Bridge: the books of the sponsored upload relay

`RelaySound` is the invariant of the records: a transaction that was signed for a job and that a
node has received is closed, or its job exists, or the job's record still holds it. So a record may go
once its transaction is closed or was never sent (`Justified`). One lemma for each operation says
what it does to the records and to the chain.
-/

set_option autoImplicit false

namespace Youtick.Bridge.SponsorRelay

open Youtick.Lib

/-! ## The chain -/

namespace RelayChain

/-- A delegate action that was executed has used up its nonce. -/
structure Sound (chain : RelayChain) : Prop where
  used : ∀ delegate ∈ chain.executed,
    delegate.nonce ≤ chain.keyNonce delegate.request.creatorId delegate.publicKey
  once : chain.executed.Nodup

/-- Nothing more is received, closed transactions stay closed and jobs stay. -/
structure Extends (chain chain' : RelayChain) : Prop where
  received : chain'.received = chain.received
  closed : chain.closed ⊆ chain'.closed
  jobs : ∀ jobId, (chain.jobs.get jobId).isSome → (chain'.jobs.get jobId).isSome

section Chain

variable {chain chain' chain'' : RelayChain} {tx : RelayTransaction} {delegate : SponsoredDelegate}
  {job : Option JobView} {jobId : String}

theorem Extends.refl (chain : RelayChain) : Extends chain chain :=
  ⟨rfl, List.Subset.refl _, fun _ h => h⟩

theorem Extends.trans (h : Extends chain chain') (h' : Extends chain' chain'') :
    Extends chain chain'' :=
  ⟨h'.received.trans h.received, List.Subset.trans h.closed h'.closed,
    fun jobId hjob => h'.jobs jobId (h.jobs jobId hjob)⟩

theorem makeJob_extends : Extends chain (chain.makeJob jobId job) := by
  unfold makeJob
  split
  · next new hnone =>
      refine ⟨rfl, List.Subset.refl _, fun id hjob => ?_⟩
      change ((chain.jobs.insert jobId new).get id).isSome
      rw [LookupMap.get_insert]
      split
      · rfl
      · exact hjob
  · exact Extends.refl chain

theorem Sound.makeJob (h : chain.Sound) : (chain.makeJob jobId job).Sound := by
  unfold RelayChain.makeJob
  split
  · exact ⟨h.used, h.once⟩
  · exact h

theorem Sound.close (h : chain.Sound) : (chain.close tx).Sound := ⟨h.used, h.once⟩

theorem close_extends : Extends chain (chain.close tx) :=
  ⟨rfl, List.subset_append_left _ _, fun _ h => h⟩

theorem execute_extends (h : chain.execute delegate job = some chain') : Extends chain chain' := by
  unfold execute at h
  split at h
  · cases h
    have hupdated : Extends chain { chain with
        nonces :=
          chain.nonces.insert (delegate.request.creatorId, delegate.publicKey) delegate.nonce
        executed := chain.executed ++ [delegate] } :=
      ⟨rfl, List.Subset.refl _, fun _ hjob => hjob⟩
    exact hupdated.trans makeJob_extends
  · cases h

/-- A key's nonce only grows, and an action needs one above it. -/
theorem Sound.execute (hs : chain.Sound) (h : chain.execute delegate job = some chain') :
    chain'.Sound := by
  unfold RelayChain.execute at h
  split at h
  · next hnonce =>
      cases h
      apply Sound.makeJob
      have hused : ∀ old ∈ chain.executed, old.nonce ≤ (((chain.nonces.insert
          (delegate.request.creatorId, delegate.publicKey) delegate.nonce).get
            (old.request.creatorId, old.publicKey)).getD 0) := by
        intro old hold
        have hle := hs.used old hold
        rw [LookupMap.get_insert]
        split
        · next hkey =>
            obtain ⟨hcreator, hpublic⟩ := Prod.mk.inj hkey
            rw [hcreator, hpublic] at hle
            exact hle.trans hnonce.le
        · exact hle
      refine ⟨fun old hold => ?_, ?_⟩
      · rcases List.mem_append.mp hold with hold | hnew
        · exact hused old hold
        · obtain rfl := List.mem_singleton.mp hnew
          change _ ≤ ((LookupMap.insert _ _ _).get _).getD 0
          rw [LookupMap.get_insert_self]
          exact Nat.le_refl _
      · refine List.nodup_append.mpr ⟨hs.once, List.nodup_singleton _, ?_⟩
        intro old hold new hnew heq
        rw [List.mem_singleton] at hnew
        subst hnew heq
        exact absurd (hs.used old hold) (Nat.not_le.mpr hnonce)
  · cases h

theorem land_extends {landing : Landing} (h : chain.land tx landing = some chain') :
    Extends chain chain' := by
  unfold land at h
  split at h
  · cases landing with
    | refused =>
      cases h
      exact close_extends
    | executed job =>
      obtain ⟨next, hnext, rfl⟩ := Option.map_eq_some_iff.mp h
      exact (execute_extends hnext).trans close_extends
  · cases h

theorem Sound.land {landing : Landing} (hs : chain.Sound)
    (h : chain.land tx landing = some chain') : chain'.Sound := by
  unfold RelayChain.land at h
  split at h
  · cases landing with
    | refused =>
      cases h
      exact hs.close
    | executed job =>
      obtain ⟨next, hnext, rfl⟩ := Option.map_eq_some_iff.mp h
      exact (hs.execute hnext).close
  · cases h

/-- An answer other than `unknown` is final. -/
theorem answer_inv {outcome : TxOutcome} (h : chain.answer tx outcome = some chain') :
    Extends chain chain' ∧ (chain.Sound → chain'.Sound) ∧
      (outcome ≠ .unknown → tx ∈ chain'.closed) := by
  have hlast : tx ∈ chain.closed ++ [tx] := List.mem_append_right _ (List.mem_singleton_self _)
  cases outcome with
  | unknown =>
    cases h
    exact ⟨Extends.refl _, id, fun hnot => absurd rfl hnot⟩
  | sent =>
    unfold answer at h
    dsimp only at h
    split at h
    · next hclosed =>
        cases h
        exact ⟨Extends.refl _, id, fun _ => hclosed⟩
    · cases h
  | failed =>
    cases h
    exact ⟨close_extends, Sound.close, fun _ => hlast⟩
  | invalidNonce =>
    cases h
    exact ⟨close_extends, Sound.close, fun _ => hlast⟩

theorem change_inv {change : ChainChange} (h : chain.change change = some chain') :
    Extends chain chain' ∧ (chain.Sound → chain'.Sound) := by
  cases change with
  | lands tx landing => exact ⟨land_extends h, fun hs => hs.land h⟩
  | executes delegate job => exact ⟨execute_extends h, fun hs => hs.execute h⟩
  | usesKey creator publicKey nonce =>
    cases h
    refine ⟨⟨rfl, List.Subset.refl _, fun _ hjob => hjob⟩, fun hs => ⟨?_, hs.once⟩⟩
    intro old hold
    have hle := hs.used old hold
    change _ ≤ ((LookupMap.insert _ _ _).get _).getD 0
    rw [LookupMap.get_insert]
    split
    · next hkey =>
        obtain ⟨hcreator, hpublic⟩ := Prod.mk.inj hkey
        rw [hcreator, hpublic] at hle
        exact hle.trans (Nat.le_max_left _ _)
    · exact hle
  | setsJob jobId job =>
    cases h
    refine ⟨⟨rfl, List.Subset.refl _, fun id hjob => ?_⟩, fun hs => ⟨hs.used, hs.once⟩⟩
    change ((chain.jobs.insert jobId job).get id).isSome
    rw [LookupMap.get_insert]
    split
    · rfl
    · exact hjob

end Chain

end RelayChain

/-! ## The invariant -/

/-- The nonces in the order they were reserved, each with its job. -/
def reservations (journal : List RelayFact) : List (String × Nat) :=
  journal.filterMap fun fact =>
    match fact with
    | .reserved jobId nonce => some (jobId, nonce)
    | _ => none

theorem mem_reservations {journal : List RelayFact} {jobId : String} {n : Nat} :
    (jobId, n) ∈ reservations journal ↔ .reserved jobId n ∈ journal := by
  unfold reservations
  rw [List.mem_filterMap]
  constructor
  · rintro ⟨fact, hfact, heq⟩
    cases fact with
    | reserved id nonce =>
      cases heq
      exact hfact
    | signed _ _ | sent _ _ | released _ => cases heq
  · exact fun hfact => ⟨_, hfact, rfl⟩

structure RelaySound (s : RelayObject) : Prop where
  /-- A record holds only a transaction with its nonce that was signed for its job. -/
  holds : ∀ k r tx, s.records.get k = some r → r.signedTx = some tx →
    r.nonce = some tx.nonce ∧ .signed k tx ∈ s.journal
  reserved : ∀ k r n, s.records.get k = some r → r.nonce = some n → .reserved k n ∈ s.journal
  signed : ∀ k tx, .signed k tx ∈ s.journal → .reserved k tx.nonce ∈ s.journal
  /-- A nonce that waits for its transaction has not been used. -/
  unused : ∀ k r n, s.records.get k = some r → r.nonce = some n → r.signedTx = none →
    ∀ tx ∈ s.chain.received, tx.nonce ≠ n
  /-- Where a received transaction is. -/
  tracked : ∀ k tx, .signed k tx ∈ s.journal → tx ∈ s.chain.received → tx ∈ s.chain.closed ∨
    (s.chain.jobs.get k).isSome ∨ ∃ r, s.records.get k = some r ∧ r.signedTx = some tx
  increasing : (reservations s.journal).Pairwise fun a b => a.2 < b.2
  last : ∀ a ∈ reservations s.journal, a.2 ≤ s.lastNonce.getD 0
  received : ∀ tx ∈ s.chain.received, tx.nonce ≤ s.lastNonce.getD 0
  chain : s.chain.Sound

/-- The job exists, or no transaction that was signed for it can still land. -/
def Justified (s : RelayObject) (k : String) : Prop :=
  (s.chain.jobs.get k).isSome ∨ ∀ tx, .signed k tx ∈ s.journal → ¬ s.chain.CanLand tx

/-- The record of the job is deleted, or its reservation released. -/
def Drops (s t : RelayObject) (k : String) : Prop :=
  (s.records.get k ≠ none ∧ t.records.get k = none) ∨ t.journal = s.journal ++ [.released k]

/-- Every record that holds a transaction a node has received says that it was broadcast. -/
def Recorded (s : RelayObject) : Prop :=
  ∀ k r tx, s.records.get k = some r → r.signedTx = some tx → tx ∈ s.chain.received →
    r.state = .broadcast

/-- The operation records a broadcast. -/
def RelayOp.records : {β : Type} → RelayOp β → Bool
  | _, .putRecord _ record => decide (record.state = .broadcast)
  | _, _ => false

/-- Nothing of the object changes, and the chain goes on. -/
structure Waits (s t : RelayObject) : Prop where
  records : t.records = s.records
  lastNonce : t.lastNonce = s.lastNonce
  journal : t.journal = s.journal
  chain : s.chain.Extends t.chain

section Invariant

variable {s t u : RelayObject} {k : String} {r r' : SponsorRelayRecord} {tx : RelayTransaction}
  {n : Nat}

theorem Waits.refl (s : RelayObject) : Waits s s := ⟨rfl, rfl, rfl, RelayChain.Extends.refl _⟩

theorem Waits.trans (h : Waits s t) (h' : Waits t u) : Waits s u :=
  ⟨h'.records.trans h.records, h'.lastNonce.trans h.lastNonce, h'.journal.trans h.journal,
    h.chain.trans h'.chain⟩

theorem RelaySound.waits (hs : RelaySound s) (h : Waits s t) (hchain : t.chain.Sound) :
    RelaySound t where
  holds := by
    rw [h.records, h.journal]
    exact hs.holds
  reserved := by
    rw [h.records, h.journal]
    exact hs.reserved
  signed := by
    rw [h.journal]
    exact hs.signed
  unused := by
    rw [h.records, h.chain.received]
    exact hs.unused
  tracked := by
    intro k tx hsigned hreceived
    rw [h.journal] at hsigned
    rw [h.chain.received] at hreceived
    rw [h.records]
    rcases hs.tracked k tx hsigned hreceived with hclosed | hjob | hheld
    · exact .inl (h.chain.closed hclosed)
    · exact .inr (.inl (h.chain.jobs k hjob))
    · exact .inr (.inr hheld)
  increasing := by
    rw [h.journal]
    exact hs.increasing
  last := by
    rw [h.journal, h.lastNonce]
    exact hs.last
  received := by
    rw [h.chain.received, h.lastNonce]
    exact hs.received
  chain := hchain

theorem Justified.waits (hj : Justified s k) (h : Waits s t) : Justified t k := by
  rcases hj with hjob | hnone
  · exact .inl (h.chain.jobs k hjob)
  · refine .inr fun tx hsigned hland => ?_
    rw [h.journal] at hsigned
    refine hnone tx hsigned ⟨?_, fun hclosed => hland.2 (h.chain.closed hclosed)⟩
    rw [← h.chain.received]
    exact hland.1

theorem Waits.not_drops (h : Waits s t) : ¬ Drops s t k := by
  rintro (⟨hsome, hnone⟩ | hreleased)
  · rw [h.records] at hnone
    exact hsome hnone
  · rw [h.journal] at hreleased
    exact List.cons_ne_nil _ _ (List.self_eq_append_right.mp hreleased)

/-- Two reservations with one nonce are one. -/
theorem RelaySound.reservation_unique (hs : RelaySound s) {k' : String}
    (h : .reserved k n ∈ s.journal) (h' : .reserved k' n ∈ s.journal) : k = k' := by
  have hnodup : ((reservations s.journal).map Prod.snd).Nodup :=
    List.pairwise_map.mpr (hs.increasing.imp fun hlt => Nat.ne_of_lt hlt)
  have hsame := List.inj_on_of_nodup_map hnodup (mem_reservations.mpr h) (mem_reservations.mpr h')
    rfl
  exact (Prod.mk.inj hsame).1

/-- A record is written. What it held is still tracked. -/
theorem RelaySound.put (hs : RelaySound s)
    (hholds : ∀ tx, r'.signedTx = some tx → r'.nonce = some tx.nonce ∧ .signed k tx ∈ s.journal)
    (hreserved : ∀ n, r'.nonce = some n → .reserved k n ∈ s.journal)
    (hunused : ∀ n, r'.nonce = some n → r'.signedTx = none → ∀ tx ∈ s.chain.received, tx.nonce ≠ n)
    (htracked : ∀ r tx, s.records.get k = some r → r.signedTx = some tx →
      tx ∈ s.chain.received → tx ∈ s.chain.closed ∨ (s.chain.jobs.get k).isSome ∨
        r'.signedTx = some tx) :
    RelaySound { s with records := s.records.insert k r' } where
  holds := by
    intro k₁ r₁ tx hget hsigned
    change (s.records.insert k r').get k₁ = some r₁ at hget
    rw [LookupMap.get_insert] at hget
    split at hget
    · next heq =>
        cases hget
        subst heq
        exact hholds tx hsigned
    · exact hs.holds k₁ r₁ tx hget hsigned
  reserved := by
    intro k₁ r₁ n hget hnonce
    change (s.records.insert k r').get k₁ = some r₁ at hget
    rw [LookupMap.get_insert] at hget
    split at hget
    · next heq =>
        cases hget
        subst heq
        exact hreserved n hnonce
    · exact hs.reserved k₁ r₁ n hget hnonce
  signed := hs.signed
  unused := by
    intro k₁ r₁ n hget hnonce hnone
    change (s.records.insert k r').get k₁ = some r₁ at hget
    rw [LookupMap.get_insert] at hget
    split at hget
    · cases hget
      exact hunused n hnonce hnone
    · exact hs.unused k₁ r₁ n hget hnonce hnone
  tracked := by
    intro k₁ tx hsigned hreceived
    change _ ∨ _ ∨ ∃ r₁, (s.records.insert k r').get k₁ = some r₁ ∧ _
    rcases hs.tracked k₁ tx hsigned hreceived with hclosed | hjob | ⟨r₁, hget, hheld⟩
    · exact .inl hclosed
    · exact .inr (.inl hjob)
    · by_cases heq : k₁ = k
      · subst heq
        rcases htracked r₁ tx hget hheld hreceived with hclosed | hjob | hkept
        · exact .inl hclosed
        · exact .inr (.inl hjob)
        · exact .inr (.inr ⟨r', LookupMap.get_insert_self _ _ _, hkept⟩)
      · refine .inr (.inr ⟨r₁, ?_, hheld⟩)
        rw [LookupMap.get_insert_of_ne _ _ heq]
        exact hget
  increasing := hs.increasing
  last := hs.last
  received := hs.received
  chain := hs.chain

/-- A record is opened where there is none. -/
theorem RelaySound.create (hs : RelaySound s) (hnone : s.records.get k = none)
    (input : SponsoredDelegate) (nowMs : Nat) :
    RelaySound { s with records := s.records.insert k (.create input nowMs) } := by
  refine hs.put nofun nofun nofun fun r tx hget => ?_
  rw [hnone] at hget
  cases hget

/-- A record is deleted when its job exists or nothing signed for it can land. -/
theorem RelaySound.delete (hs : RelaySound s) (hj : Justified s k) :
    RelaySound { s with records := s.records.remove k } where
  holds := by
    intro k₁ r₁ tx hget hsigned
    change (s.records.remove k).get k₁ = some r₁ at hget
    rw [LookupMap.get_remove] at hget
    split at hget
    · cases hget
    · exact hs.holds k₁ r₁ tx hget hsigned
  reserved := by
    intro k₁ r₁ n hget hnonce
    change (s.records.remove k).get k₁ = some r₁ at hget
    rw [LookupMap.get_remove] at hget
    split at hget
    · cases hget
    · exact hs.reserved k₁ r₁ n hget hnonce
  signed := hs.signed
  unused := by
    intro k₁ r₁ n hget hnonce hnone
    change (s.records.remove k).get k₁ = some r₁ at hget
    rw [LookupMap.get_remove] at hget
    split at hget
    · cases hget
    · exact hs.unused k₁ r₁ n hget hnonce hnone
  tracked := by
    intro k₁ tx hsigned hreceived
    change _ ∨ _ ∨ ∃ r₁, (s.records.remove k).get k₁ = some r₁ ∧ _
    by_cases heq : k₁ = k
    · subst heq
      rcases hj with hjob | hnone
      · exact .inr (.inl hjob)
      · exact .inl (not_not.mp fun hopen => hnone tx hsigned ⟨hreceived, hopen⟩)
    · rcases hs.tracked k₁ tx hsigned hreceived with hclosed | hjob | ⟨r₁, hget, hheld⟩
      · exact .inl hclosed
      · exact .inr (.inl hjob)
      · refine .inr (.inr ⟨r₁, ?_, hheld⟩)
        rw [LookupMap.get_remove, if_neg heq]
        exact hget
  increasing := hs.increasing
  last := hs.last
  received := hs.received
  chain := hs.chain

/-- A line that reserves nothing is written; what it signs has its nonce and was never received. -/
theorem RelaySound.log (hs : RelaySound s) {fact : RelayFact}
    (hreserved : ∀ k n, fact ≠ .reserved k n) (hsigned : ∀ k tx, fact = .signed k tx →
      .reserved k tx.nonce ∈ s.journal ∧ tx ∉ s.chain.received) : RelaySound (s.log fact) := by
  have hsame : reservations (s.journal ++ [fact]) = reservations s.journal := by
    unfold reservations
    rw [List.filterMap_append]
    cases fact with
    | reserved k n => exact absurd rfl (hreserved k n)
    | signed _ _ | sent _ _ | released _ => exact List.append_nil _
  refine ⟨?_, ?_, ?_, hs.unused, ?_, ?_, ?_, hs.received, hs.chain⟩
  · intro k r tx hget hheld
    obtain ⟨hnonce, hmem⟩ := hs.holds k r tx hget hheld
    exact ⟨hnonce, List.mem_append_left _ hmem⟩
  · intro k r n hget hnonce
    exact List.mem_append_left _ (hs.reserved k r n hget hnonce)
  · intro k tx hmem
    rcases List.mem_append.mp hmem with hmem | hnew
    · exact List.mem_append_left _ (hs.signed k tx hmem)
    · exact List.mem_append_left _ (hsigned k tx (List.mem_singleton.mp hnew).symm).1
  · intro k tx hmem hreceived
    rcases List.mem_append.mp hmem with hmem | hnew
    · exact hs.tracked k tx hmem hreceived
    · exact absurd hreceived (hsigned k tx (List.mem_singleton.mp hnew).symm).2
  · change (reservations (s.journal ++ [fact])).Pairwise _
    rw [hsame]
    exact hs.increasing
  · change ∀ a ∈ reservations (s.journal ++ [fact]), _
    rw [hsame]
    exact hs.last

/-- The next nonce is above every one that was reserved or received. -/
theorem RelaySound.reserve (hs : RelaySound s) (hget : s.records.get k = some r)
    (hnone : r.signedTx = none) (habove : s.lastNonce.getD 0 < n) (blockHash : String)
    (state : RelayState) :
    RelaySound { s.log (.reserved k n) with
      records := s.records.insert k { r with
        state := state
        nonce := some n
        blockHash := some blockHash }
      lastNonce := some n } := by
  have hsame :
      reservations (s.journal ++ [.reserved k n]) = reservations s.journal ++ [(k, n)] := by
    unfold reservations
    rw [List.filterMap_append]
    rfl
  -- the record is written into the object whose journal knows the nonce
  have hlogged : RelaySound { s.log (.reserved k n) with lastNonce := some n } := by
    refine ⟨?_, ?_, ?_, hs.unused, ?_, ?_, ?_, ?_, hs.chain⟩
    · intro k₁ r₁ tx hget₁ hheld
      obtain ⟨hnonce, hmem⟩ := hs.holds k₁ r₁ tx hget₁ hheld
      exact ⟨hnonce, List.mem_append_left _ hmem⟩
    · intro k₁ r₁ n₁ hget₁ hnonce
      exact List.mem_append_left _ (hs.reserved k₁ r₁ n₁ hget₁ hnonce)
    · intro k₁ tx hmem
      rcases List.mem_append.mp hmem with hmem | hnew
      · exact List.mem_append_left _ (hs.signed k₁ tx hmem)
      · cases List.mem_singleton.mp hnew
    · intro k₁ tx hmem hreceived
      rcases List.mem_append.mp hmem with hmem | hnew
      · exact hs.tracked k₁ tx hmem hreceived
      · cases List.mem_singleton.mp hnew
    · change (reservations (s.journal ++ [.reserved k n])).Pairwise _
      rw [hsame]
      refine List.pairwise_append.mpr ⟨hs.increasing, List.pairwise_singleton _ _, ?_⟩
      intro a ha b hb
      rw [List.mem_singleton] at hb
      subst hb
      exact Nat.lt_of_le_of_lt (hs.last a ha) habove
    · change ∀ a ∈ reservations (s.journal ++ [.reserved k n]), a.2 ≤ n
      rw [hsame]
      intro a ha
      rcases List.mem_append.mp ha with hold | hnew
      · exact (hs.last a hold).trans habove.le
      · rw [List.mem_singleton] at hnew
        subst hnew
        exact Nat.le_refl _
    · exact fun tx htx => (hs.received tx htx).trans habove.le
  refine hlogged.put ?_ ?_ ?_ ?_
  · intro tx hheld
    rw [hnone] at hheld
    cases hheld
  · intro n₁ hn
    cases hn
    exact List.mem_append_right _ (List.mem_singleton_self _)
  · intro n₁ hn _ tx htx heq
    cases hn
    exact absurd (hs.received tx htx) (by omega)
  · intro r₁ tx hget₁ hheld _
    obtain rfl := Option.some.inj (hget.symm.trans hget₁)
    rw [hnone] at hheld
    cases hheld

/-- The transaction of a record is sent. -/
theorem RelaySound.send (hs : RelaySound s) (hget : s.records.get k = some r)
    (hheld : r.signedTx = some tx) {chain : RelayChain}
    (hextends : (s.chain.receive tx).Extends chain) (hchain : chain.Sound) :
    RelaySound { s.log (.sent k tx) with chain := chain } := by
  obtain ⟨hnonce, hsigned⟩ := hs.holds k r tx hget hheld
  have hreserved := hs.reserved k r tx.nonce hget hnonce
  have hlogged : RelaySound (s.log (.sent k tx)) := 
    hs.log (fun _ _ => nofun) fun _ _ => nofun
  have hreceive : RelaySound { s.log (.sent k tx) with chain := s.chain.receive tx } := by
    refine ⟨hlogged.holds, hlogged.reserved, hlogged.signed, ?_, ?_, hlogged.increasing,
      hlogged.last, ?_, ⟨hs.chain.used, hs.chain.once⟩⟩
    · intro k₁ r₁ n₁ hget₁ hn₁ hnone₁ other hother
      rcases List.mem_append.mp hother with hold | hnew
      · exact hs.unused k₁ r₁ n₁ hget₁ hn₁ hnone₁ other hold
      · obtain rfl := List.mem_singleton.mp hnew
        -- only its own record has the nonce of the transaction
        intro heq
        subst heq
        obtain rfl := hs.reservation_unique hreserved (hs.reserved k₁ r₁ _ hget₁ hn₁)
        obtain rfl := Option.some.inj (hget.symm.trans hget₁)
        rw [hheld] at hnone₁
        cases hnone₁
    · intro k₁ other hsigned₁ hother
      rcases List.mem_append.mp hother with hold | hnew
      · exact hlogged.tracked k₁ other hsigned₁ hold
      · obtain rfl := List.mem_singleton.mp hnew
        obtain rfl := hlogged.reservation_unique (hlogged.signed k₁ other hsigned₁)
          (List.mem_append_left _ hreserved)
        exact .inr (.inr ⟨r, hget, hheld⟩)
    · intro other hother
      rcases List.mem_append.mp hother with hold | hnew
      · exact hs.received other hold
      · obtain rfl := List.mem_singleton.mp hnew
        exact hs.last _ (mem_reservations.mpr hreserved)
  refine hreceive.waits ⟨rfl, rfl, rfl, ?_⟩ hchain
  exact hextends

end Invariant

/-! ## Operations -/

section Operations

variable {β : Type} {i : RelayInput} {s u : RelayObject} {b : β}

/-- The operation only asks. -/
def RelayOp.reads : {β : Type} → RelayOp β → Bool
  | _, .now => true
  | _, .readJob _ => true
  | _, .getRecord _ => true
  | _, .firstRecord => true
  | _, .rememberPaidJob _ _ => true
  | _, .readFinalBlock => true
  | _, .readCreatorKey _ _ => true
  | _, .readRelayerKey => true
  | _, .readUsdcBalance _ => true
  | _, .rateLimit _ => true
  | _, .reserveAdmission _ => true
  | _, _ => false

theorem exec_reads {op : RelayOp β} (hop : op.reads = true)
    (h : RelayOp.exec β op i s = some (b, u)) : u = s := by
  cases op with
  | readJob jobId =>
    dsimp only [RelayOp.exec] at h
    split at h
    · cases h
      rfl
    · cases h
  | now | getRecord jobId | firstRecord | rememberPaidJob creator jobId | readFinalBlock
  | readCreatorKey creator publicKey | readRelayerKey | readUsdcBalance creator
  | rateLimit creator | reserveAdmission request =>
    cases h
    rfl
  | putRecord jobId record | deleteRecord jobId | queryTransaction tx | sendTransaction jobId tx
  | releaseAdmission jobId | openRecord input | reserveNonce jobId accessKey | sign jobId tx =>
    cases hop

/-- A job that is seen exists. -/
theorem exec_readJob {jobId : String} {job : Option JobView}
    (h : RelayOp.exec _ (.readJob jobId) i s = some (job, u)) (hjob : job ≠ none) :
    (s.chain.jobs.get jobId).isSome := by
  dsimp only [RelayOp.exec] at h
  split at h
  · next hseen =>
      cases h
      exact hseen.resolve_left hjob
  · cases h

theorem exec_query {tx : RelayTransaction} {outcome : TxOutcome}
    (h : RelayOp.exec _ (.queryTransaction tx) i s = some (outcome, u)) :
    Waits s u ∧ (s.chain.Sound → u.chain.Sound) ∧ (outcome ≠ .unknown → tx ∈ u.chain.closed) := by
  obtain ⟨chain, hanswer, heq⟩ := Option.map_eq_some_iff.mp h
  cases heq
  obtain ⟨hextends, hsound, hfinal⟩ := RelayChain.answer_inv hanswer
  exact ⟨⟨rfl, rfl, rfl, hextends⟩, hsound, hfinal⟩

theorem exec_send {k : String} {tx : RelayTransaction} {outcome : TxOutcome}
    (h : RelayOp.exec _ (.sendTransaction k tx) i s = some (outcome, u)) :
    ∃ chain, u = { s.log (.sent k tx) with chain := chain } ∧
      (s.chain.receive tx).Extends chain ∧ (s.chain.Sound → chain.Sound) ∧
      (outcome ≠ .unknown → tx ∈ chain.closed) := by
  obtain ⟨chain, hchain, heq⟩ := Option.map_eq_some_iff.mp h
  cases heq
  obtain ⟨landed, hlanded, hanswer⟩ := Option.bind_eq_some_iff.mp hchain
  obtain ⟨hextends, hsound, hfinal⟩ := RelayChain.answer_inv hanswer
  have hreceive : s.chain.Sound → (s.chain.receive tx).Sound := fun hs => ⟨hs.used, hs.once⟩
  cases hlanding : i.landing with
  | none =>
    rw [hlanding] at hlanded
    cases hlanded
    exact ⟨chain, rfl, hextends, fun hs => hsound (hreceive hs), hfinal⟩
  | some landing =>
    rw [hlanding] at hlanded
    refine ⟨chain, rfl, (RelayChain.land_extends hlanded).trans hextends, fun hs => ?_, hfinal⟩
    exact hsound ((hreceive hs).land hlanded)

end Operations

end Youtick.Bridge.SponsorRelay
