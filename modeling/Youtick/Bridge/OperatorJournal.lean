import Youtick.Bridge.Operator

/-!
# Bridge: what the operator's journal says

The laws of the outbox are properties of its journal: nonces rise, a transaction is sent after it
was stored, a nonce is reserved for a record only when no transaction of it is outstanding, a call
that succeeded has its effect in the final state, and a refused request does nothing further.

`OutboxSound` joins them to the stored records. `OutboxSound.append` is the one step: every
operation that writes is an instance of it.
-/

set_option autoImplicit false

namespace Youtick.Bridge

open Youtick.Lib

/-! ## Facts -/

/-- A request with this payload and method contradicts the stored record. The V2 name of the
record's V1 method is no contradiction when the record is confirmed or suspends sales. -/
def OutboxConflict (before : OperatorRecord) (payloadSha256 : String) (method : OutboxMethod) : Prop :=
  before.payloadSha256 ≠ payloadSha256 ∨ (before.method ≠ method ∧
    ¬ (before.method.renamed = some method ∧
      (before.state = .confirmed ∨ method = .suspendSales)))

namespace OutboxFact

/-- A request or an alarm starts. -/
def Begins : OutboxFact → Prop
  | began _ => True
  | _ => False

/-- A transaction is stored in the record of a key. -/
def Stores (fact : OutboxFact) (key base64 hash : String) : Prop :=
  match fact with
  | put k record => k = key ∧ record.Holds base64 hash
  | _ => False

/-- A node says that a transaction can no longer land. -/
def Classifies (fact : OutboxFact) (base64 hash : String) : Prop :=
  match fact with
  | sent b outcome => b = base64 ∧ outcome.Unlandable
  | queried h outcome => h = hash ∧ outcome.Unlandable
  | _ => False

/-- The record of a key is confirmed, or dropped under its old method name. -/
def Releases (fact : OutboxFact) (key : String) : Prop :=
  match fact with
  | put k record => k = key ∧ record.state = .confirmed
  | removed k why => k = key ∧ why = .confirmed
  | rekeyed k => k = key
  | _ => False

/-- A call of this key may be reported as confirmed: its effect was seen, or its record was
confirmed. -/
def Grounds (fact : OutboxFact) (key : String) : Prop :=
  match fact with
  | effect k holds => k = key ∧ holds = true
  | opened k _ _ (some before) => k = key ∧ before.state = .confirmed
  | _ => False

/-- A request was opened against a record it contradicts. -/
def Conflicts : OutboxFact → Prop
  | opened _ payloadSha256 method (some before) => OutboxConflict before payloadSha256 method
  | _ => False

/-- The refusal of a request, or a failure of the storage that hides it. -/
def Refuses : OutboxFact → Prop
  | answered _ (.error code) => code = "outbox_conflict" ∨ code = "internal_error"
  | _ => False

def nonce? : OutboxFact → Option Nat
  | reserved _ nonce => some nonce
  | _ => none

end OutboxFact

/-! ## Journals -/

/-- A transaction was stored in the record of a key, the record was not confirmed or dropped since,
and no node has said that the transaction can no longer land. -/
def Outstanding (journal : List OutboxFact) (key base64 hash : String) : Prop :=
  (∃ a fact b, journal = a ++ fact :: b ∧ fact.Stores key base64 hash ∧
    ∀ g ∈ b, ¬ g.Releases key) ∧ ∀ g ∈ journal, ¬ g.Classifies base64 hash

/-- The task that began last is this one, and `since` is what it has done. -/
def Under (journal : List OutboxFact) (who : Option String) (since : List OutboxFact) : Prop :=
  ∃ before, journal = before ++ .began who :: since ∧ ∀ fact ∈ since, ¬ fact.Begins

/-- The running request has seen the effect, or found its record confirmed. -/
def Grounded (journal : List OutboxFact) (key : String) : Prop :=
  ∃ since, Under journal (some key) since ∧ ∃ fact ∈ since, fact.Grounds key

/-- The running task has met no conflict. -/
def Clear (journal : List OutboxFact) (who : Option String) : Prop :=
  ∃ since, Under journal who since ∧ ∀ fact ∈ since, ¬ fact.Conflicts

/-- The last fact is no conflict. -/
def Quiet (journal : List OutboxFact) : Prop := ∀ fact ∈ journal.getLast?, ¬ fact.Conflicts

/-- The laws of the journal. -/
structure Lawful (journal : List OutboxFact) : Prop where
  rising : (journal.filterMap OutboxFact.nonce?).Pairwise (· < ·)
  storedFirst : ∀ a base64 outcome b, journal = a ++ .sent base64 outcome :: b →
    ∃ key record, .put key record ∈ a ∧ record.signedTxBase64 = some base64
  resigned : ∀ a key nonce b, journal = a ++ .reserved key nonce :: b →
    ∀ base64 hash, ¬ Outstanding a key base64 hash
  founded : ∀ a key answer b, journal = a ++ .answered key (.ok answer) :: b →
    answer.confirmed = true → Grounded a key
  refused : ∀ a fact b, journal = a ++ fact :: b → fact.Conflicts →
    b = [] ∨ ∃ next rest, b = next :: rest ∧ (next.Begins ∨ next.Refuses)

/-- The object's invariant. -/
structure OutboxSound (s : OperatorObject) : Prop where
  lawful : Lawful s.journal
  bounded : ∀ nonce ∈ s.journal.filterMap OutboxFact.nonce?, nonce ≤ s.lastNonce.getD 0
  current : ∀ key base64 hash, Outstanding s.journal key base64 hash →
    ∃ record, s.records.get key = some record ∧ record.Holds base64 hash
  stored : ∀ key record base64, s.records.get key = some record →
    record.signedTxBase64 = some base64 →
    ∃ key' record', .put key' record' ∈ s.journal ∧ record'.signedTxBase64 = some base64

/-! ## Appending a fact -/

section Append

variable {journal : List OutboxFact} {fact : OutboxFact} {key base64 hash : String}
  {who : Option String}

/-- A list that ends in one more element, split anywhere. -/
theorem eq_snoc_cases {α : Type} {l a b : List α} {x y : α}
    (h : l ++ [x] = a ++ y :: b) : (b = [] ∧ a = l ∧ y = x) ∨ ∃ c, b = c ++ [x] ∧ l = a ++ y :: c := by
  rcases List.eq_nil_or_concat b with rfl | ⟨c, z, rfl⟩
  · obtain ⟨ha, hy⟩ := List.append_inj' h rfl
    exact .inl ⟨rfl, ha.symm, (List.cons.inj hy).1.symm⟩
  · rw [List.concat_eq_append, ← List.cons_append, ← List.append_assoc] at h
    obtain ⟨hl, hz⟩ := List.append_inj' h rfl
    obtain rfl := (List.cons.inj hz).1
    exact .inr ⟨c, List.concat_eq_append, hl⟩

theorem Outstanding.of_append (h : Outstanding (journal ++ [fact]) key base64 hash) :
    fact.Stores key base64 hash ∨
      (Outstanding journal key base64 hash ∧ ¬ fact.Releases key ∧
        ¬ fact.Classifies base64 hash) := by
  obtain ⟨⟨a, g, b, hsplit, hstores, hreleases⟩, hclassifies⟩ := h
  rcases eq_snoc_cases hsplit with ⟨rfl, rfl, rfl⟩ | ⟨c, rfl, rfl⟩
  · exact .inl hstores
  · refine .inr ⟨⟨⟨a, g, c, rfl, hstores, fun x hx => ?_⟩, fun x hx => ?_⟩, ?_, ?_⟩
    · exact hreleases x (List.mem_append_left _ hx)
    · exact hclassifies x (List.mem_append_left _ hx)
    · exact hreleases fact (by simp)
    · exact hclassifies fact (by simp)

theorem under_began (journal : List OutboxFact) (who : Option String) :
    Under (journal ++ [.began who]) who [] :=
  ⟨journal, rfl, fun _ hx => nomatch hx⟩

theorem Under.append {since : List OutboxFact} (h : Under journal who since)
    (hfact : ¬ fact.Begins) : Under (journal ++ [fact]) who (since ++ [fact]) := by
  obtain ⟨before, rfl, hsince⟩ := h
  refine ⟨before, by simp, fun x hx => ?_⟩
  rcases List.mem_append.mp hx with hx | hx
  · exact hsince x hx
  · exact List.mem_singleton.mp hx ▸ hfact

theorem Grounded.append (h : Grounded journal key) (hfact : ¬ fact.Begins) :
    Grounded (journal ++ [fact]) key := by
  obtain ⟨since, hunder, g, hg, hgrounds⟩ := h
  exact ⟨_, hunder.append hfact, g, List.mem_append_left _ hg, hgrounds⟩

theorem Clear.append (h : Clear journal who) (hfact : ¬ fact.Begins) (hclear : ¬ fact.Conflicts) :
    Clear (journal ++ [fact]) who := by
  obtain ⟨since, hunder, hnone⟩ := h
  refine ⟨_, hunder.append hfact, fun x hx => ?_⟩
  rcases List.mem_append.mp hx with hx | hx
  · exact hnone x hx
  · exact List.mem_singleton.mp hx ▸ hclear

theorem Clear.ground (h : Clear journal (some key)) (hfact : ¬ fact.Begins)
    (hground : fact.Grounds key) : Grounded (journal ++ [fact]) key := by
  obtain ⟨since, hunder, -⟩ := h
  exact ⟨_, hunder.append hfact, fact, by simp, hground⟩

theorem Clear.quiet (h : Clear journal who) : Quiet journal := by
  obtain ⟨since, ⟨before, rfl, -⟩, hclear⟩ := h
  intro fact hfact
  rw [List.getLast?_append_cons, List.getLast?_cons] at hfact
  cases hlast : since.getLast? with
  | none =>
    rw [hlast] at hfact
    cases hfact
    exact id
  | some last =>
    rw [hlast] at hfact
    cases hfact
    exact hclear _ (List.mem_of_getLast? hlast)

theorem quiet_append (h : ¬ fact.Conflicts) : Quiet (journal ++ [fact]) := by
  intro g hg
  rw [List.getLast?_append_cons] at hg
  cases hg
  exact h

/-- One more fact. -/
theorem Lawful.append (h : Lawful journal)
    (hrising : ∀ nonce ∈ fact.nonce?, ∀ old ∈ journal.filterMap OutboxFact.nonce?, old < nonce)
    (hsent : ∀ base64 outcome, fact = .sent base64 outcome →
      ∃ key record, .put key record ∈ journal ∧ record.signedTxBase64 = some base64)
    (hreserved : ∀ key nonce, fact = .reserved key nonce →
      ∀ base64 hash, ¬ Outstanding journal key base64 hash)
    (hanswered : ∀ key answer, fact = .answered key (.ok answer) → answer.confirmed = true →
      Grounded journal key)
    (hnext : Quiet journal ∨ fact.Begins ∨ fact.Refuses) : Lawful (journal ++ [fact]) where
  rising := by
    rw [List.filterMap_append, List.pairwise_append]
    refine ⟨h.rising, ?_, fun old hold nonce hnonce => ?_⟩
    · cases hn : fact.nonce? <;> simp [hn]
    · refine hrising nonce ?_ old hold
      obtain ⟨g, hg, hvalue⟩ := List.mem_filterMap.mp hnonce
      exact List.mem_singleton.mp hg ▸ hvalue
  storedFirst := by
    intro a base64 outcome b hsplit
    rcases eq_snoc_cases hsplit with ⟨rfl, rfl, hfact⟩ | ⟨c, rfl, hjournal⟩
    · exact hsent base64 outcome hfact.symm
    · exact h.storedFirst a base64 outcome c hjournal
  resigned := by
    intro a key nonce b hsplit
    rcases eq_snoc_cases hsplit with ⟨rfl, rfl, hfact⟩ | ⟨c, rfl, hjournal⟩
    · exact hreserved key nonce hfact.symm
    · exact h.resigned a key nonce c hjournal
  founded := by
    intro a key answer b hsplit
    rcases eq_snoc_cases hsplit with ⟨rfl, rfl, hfact⟩ | ⟨c, rfl, hjournal⟩
    · exact hanswered key answer hfact.symm
    · exact h.founded a key answer c hjournal
  refused := by
    intro a g b hsplit hconflict
    rcases eq_snoc_cases hsplit with ⟨rfl, rfl, rfl⟩ | ⟨c, rfl, hjournal⟩
    · exact .inl rfl
    · rcases h.refused a g c hjournal hconflict with rfl | ⟨next, rest, rfl, hallowed⟩
      · right
        refine ⟨fact, [], rfl, ?_⟩
        rcases hnext with hquiet | hallowed
        · refine absurd hconflict (hquiet g ?_)
          rw [hjournal, List.getLast?_append_cons]
          rfl
        · exact hallowed
      · exact .inr ⟨next, rest ++ [fact], rfl, hallowed⟩

end Append

theorem lawful_nil : Lawful [] where
  rising := List.Pairwise.nil
  storedFirst := by
    intro a base64 outcome b hsplit
    cases a <;> cases hsplit
  resigned := by
    intro a key nonce b hsplit
    cases a <;> cases hsplit
  founded := by
    intro a key answer b hsplit
    cases a <;> cases hsplit
  refused := by
    intro a fact b hsplit
    cases a <;> cases hsplit

/-! ## Operations that write -/

section Write

variable {s : OperatorObject} {key : String} {who : Option String}

theorem sound_empty : OutboxSound .empty where
  lawful := lawful_nil
  bounded := by
    intro nonce hnonce
    cases hnonce
  current := by
    rintro key base64 hash ⟨⟨a, fact, b, hsplit, -⟩, -⟩
    cases a <;> cases hsplit
  stored := by
    intro key record base64 hget
    simp [OperatorObject.empty] at hget

/-- A fact about something else than nonces, sends and answers, with new records that account for
every outstanding transaction. -/
theorem OutboxSound.append {fact : OutboxFact} {t : OperatorObject} (h : OutboxSound s)
    (hjournal : t.journal = s.journal ++ [fact])
    (hnonce : ∀ nonce ∈ fact.nonce?, s.lastNonce.getD 0 < nonce ∧ t.lastNonce = some nonce)
    (hlast : fact.nonce? = none → t.lastNonce = s.lastNonce)
    (hsent : ∀ base64 outcome, fact = .sent base64 outcome →
      ∃ key record, .put key record ∈ s.journal ∧ record.signedTxBase64 = some base64)
    (hreserved : ∀ key nonce, fact = .reserved key nonce →
      ∀ base64 hash, ¬ Outstanding s.journal key base64 hash)
    (hanswered : ∀ key answer, fact = .answered key (.ok answer) → answer.confirmed = true →
      Grounded s.journal key)
    (hnext : Quiet s.journal ∨ fact.Begins ∨ fact.Refuses)
    (hcurrent : ∀ key base64 hash, Outstanding (s.journal ++ [fact]) key base64 hash →
      ∃ record, t.records.get key = some record ∧ record.Holds base64 hash)
    (hstored : ∀ key record base64, t.records.get key = some record →
      record.signedTxBase64 = some base64 →
      (∃ old, s.records.get key = some old ∧ old.signedTxBase64 = some base64) ∨
        ∃ key', fact = .put key' record) : OutboxSound t where
  lawful := by
    rw [hjournal]
    refine h.lawful.append (fun nonce hmem old hold => ?_) hsent hreserved hanswered hnext
    exact Nat.lt_of_le_of_lt (h.bounded old hold) (hnonce nonce hmem).1
  bounded := by
    intro nonce hmem
    rw [hjournal, List.filterMap_append, List.mem_append] at hmem
    cases hfact : fact.nonce? with
    | none =>
      rw [hlast hfact]
      rcases hmem with hmem | hmem
      · exact h.bounded nonce hmem
      · simp [hfact] at hmem
    | some new =>
      obtain ⟨hlt, hnew⟩ := hnonce new hfact
      rw [hnew, Option.getD_some]
      rcases hmem with hmem | hmem
      · exact ((h.bounded nonce hmem).trans_lt hlt).le
      · simp only [List.filterMap_cons, hfact, List.filterMap_nil, List.mem_singleton] at hmem
        exact hmem.le
  current := by
    rw [hjournal]
    exact hcurrent
  stored := by
    intro k record base64 hget hsigned
    rw [hjournal]
    rcases hstored k record base64 hget hsigned with ⟨old, hold, holdSigned⟩ | ⟨key', rfl⟩
    · obtain ⟨k', r', hmem, hr'⟩ := h.stored k old base64 hold holdSigned
      exact ⟨k', r', List.mem_append_left _ hmem, hr'⟩
    · exact ⟨key', record, by simp, hsigned⟩

/-- A fact that changes no record and stores no transaction. -/
theorem OutboxSound.log {fact : OutboxFact} (h : OutboxSound s) (hnonce : fact.nonce? = none)
    (hstores : ∀ key base64 hash, ¬ fact.Stores key base64 hash)
    (hsent : ∀ base64 outcome, fact = .sent base64 outcome →
      ∃ key record, .put key record ∈ s.journal ∧ record.signedTxBase64 = some base64)
    (hanswered : ∀ key answer, fact = .answered key (.ok answer) → answer.confirmed = true →
      Grounded s.journal key)
    (hnext : Quiet s.journal ∨ fact.Begins ∨ fact.Refuses) : OutboxSound (s.log [fact]) := by
  refine h.append rfl (by simp [hnonce]) (fun _ => rfl) hsent ?_ hanswered hnext ?_
    fun key record base64 hget hsigned => .inl ⟨record, hget, hsigned⟩
  · rintro key nonce rfl
    cases hnonce
  · intro key base64 hash hout
    rcases hout.of_append with hst | ⟨hold, -⟩
    · exact absurd hst (hstores key base64 hash)
    · exact h.current key base64 hash hold

/-- A record is written that keeps its outstanding transaction, or is confirmed. -/
theorem OutboxSound.put {record : OperatorRecord} (h : OutboxSound s) (hquiet : Quiet s.journal)
    (hkeep : ∀ base64 hash, Outstanding s.journal key base64 hash →
      record.state = .confirmed ∨ record.Holds base64 hash) :
    OutboxSound { s.log [.put key record] with records := s.records.insert key record } := by
  refine h.append rfl (by simp [OutboxFact.nonce?]) (fun _ => rfl) (fun _ _ hf => nomatch hf)
    (fun _ _ hf => nomatch hf) (fun _ _ hf => nomatch hf) (.inl hquiet) ?_ ?_
  · intro k base64 hash hout
    simp only [LookupMap.get_insert]
    rcases hout.of_append with ⟨rfl, hholds⟩ | ⟨hold, hreleases, -⟩
    · exact ⟨record, if_pos rfl, hholds⟩
    · by_cases hk : k = key
      · subst hk
        rcases hkeep base64 hash hold with hconfirmed | hholds
        · exact absurd ⟨rfl, hconfirmed⟩ hreleases
        · exact ⟨record, if_pos rfl, hholds⟩
      · rw [if_neg hk]
        exact h.current k base64 hash hold
  · intro k found base64 hget hsigned
    simp only [LookupMap.get_insert] at hget
    split at hget
    · obtain rfl := Option.some.inj hget
      exact .inr ⟨key, rfl⟩
    · exact .inl ⟨found, hget, hsigned⟩

/-- A record is deleted that is confirmed, or has no outstanding transaction. -/
theorem OutboxSound.remove {why : Removal} (h : OutboxSound s) (hquiet : Quiet s.journal)
    (hnone : why = .confirmed ∨ ∀ base64 hash, ¬ Outstanding s.journal key base64 hash) :
    OutboxSound { s.log [.removed key why] with records := s.records.remove key } := by
  refine h.append rfl (by simp [OutboxFact.nonce?]) (fun _ => rfl) (fun _ _ hf => nomatch hf)
    (fun _ _ hf => nomatch hf) (fun _ _ hf => nomatch hf) (.inl hquiet) ?_ ?_
  · intro k base64 hash hout
    simp only [LookupMap.get_remove]
    rcases hout.of_append with hst | ⟨hold, hreleases, -⟩
    · exact hst.elim
    · by_cases hk : k = key
      · subst hk
        rcases hnone with rfl | hnone
        · exact absurd ⟨rfl, rfl⟩ hreleases
        · exact absurd hold (hnone base64 hash)
      · rw [if_neg hk]
        exact h.current k base64 hash hold
  · intro k found base64 hget hsigned
    simp only [LookupMap.get_remove] at hget
    split at hget
    · cases hget
    · exact .inl ⟨found, hget, hsigned⟩

/-- The next nonce is reserved for a record without a signed transaction. -/
theorem OutboxSound.reserve {record : OperatorRecord} {accessKey : AccessKey} (h : OutboxSound s)
    (hquiet : Quiet s.journal) (hget : s.records.get key = some record)
    (hunsigned : record.signedTxBase64 = none) :
    OutboxSound (s.reserveNonce key accessKey).2 := by
  have hnone : ∀ base64 hash, ¬ Outstanding s.journal key base64 hash := by
    intro base64 hash hout
    obtain ⟨found, hfound, hholds⟩ := h.current key base64 hash hout
    rw [hget] at hfound
    cases hfound
    cases hunsigned.symm.trans hholds.1
  unfold OperatorObject.reserveNonce
  simp only [hget]
  split
  · exact h
  · refine h.append rfl ?_ (fun hf => by cases hf) (fun _ _ hf => by cases hf) ?_
      (fun _ _ hf => by cases hf) (.inl hquiet) ?_ ?_
    · rintro nonce ⟨⟩
      exact ⟨by omega, rfl⟩
    · rintro k nonce hfact
      cases hfact
      exact hnone
    · intro k base64 hash hout
      simp only [LookupMap.get_insert]
      rcases hout.of_append with hst | ⟨hold, -⟩
      · exact hst.elim
      · by_cases hk : k = key
        · subst hk
          exact absurd hold (hnone base64 hash)
        · rw [if_neg hk]
          exact h.current k base64 hash hold
    · intro k found base64 hfound hsigned
      simp only [LookupMap.get_insert] at hfound
      split at hfound
      · obtain rfl := Option.some.inj hfound
        cases hunsigned.symm.trans hsigned
      · exact .inl ⟨found, hfound, hsigned⟩


theorem openExisting_eq_error {existing : OperatorRecord} {payloadSha256 code : String}
    {method : OutboxMethod} (h : openExisting existing payloadSha256 method = .error code) :
    code = "outbox_conflict" ∧ OutboxConflict existing payloadSha256 method := by
  unfold openExisting at h
  split_ifs at h with hpayload hmethod hrenamed hconfirmed hsuspend
  · exact ⟨(Except.error.inj h).symm, .inl hpayload⟩
  · exact ⟨(Except.error.inj h).symm, .inr ⟨hmethod, fun hc => hrenamed hc.1⟩⟩
  · refine ⟨(Except.error.inj h).symm, .inr ⟨hmethod, ?_⟩⟩
    rintro ⟨-, hc | hc⟩
    · exact hconfirmed hc
    · exact hsuspend hc

theorem openExisting_eq_ok {existing record : OperatorRecord} {payloadSha256 : String}
    {method : OutboxMethod} {done : Bool}
    (h : openExisting existing payloadSha256 method = .ok (record, done)) :
    ¬ OutboxConflict existing payloadSha256 method ∧ (done = true → existing.state = .confirmed) ∧
      (done = false → existing.method = method → record = existing.normalize method) ∧
      (done = false → existing.method ≠ method → record.signedTxBase64 = none) := by
  unfold openExisting at h
  split_ifs at h with hpayload hmethod hrenamed hconfirmed hsuspend
  · cases h
    refine ⟨?_, fun _ => hconfirmed, fun hdone => (nomatch hdone), fun hdone => (nomatch hdone)⟩
    rintro (hc | ⟨-, hc⟩)
    · exact hpayload hc
    · exact hc ⟨not_not.mp hrenamed, .inl hconfirmed⟩
  · cases h
    refine ⟨?_, fun hdone => (nomatch hdone), fun _ hc => absurd hc hmethod, fun _ _ => rfl⟩
    rintro (hc | ⟨-, hc⟩)
    · exact hpayload hc
    · exact hc ⟨not_not.mp hrenamed, .inr (not_not.mp hsuspend)⟩
  · cases h
    refine ⟨?_, fun hdone => (nomatch hdone), fun _ _ => rfl, fun _ hc => absurd hc hmethod⟩
    rintro (hc | ⟨hc, -⟩)
    · exact hpayload hc
    · exact hmethod hc


/-- The first transaction of a request. -/
theorem OutboxSound.open {payloadSha256 : String} {method : OutboxMethod} {nowMs : Nat}
    (h : OutboxSound s) (hquiet : Quiet s.journal) :
    OutboxSound (s.openRecord key payloadSha256 method nowMs).2 := by
  -- the opening itself, with any record that keeps the outstanding transaction
  have hopened : ∀ before record, s.records.get key = before →
      (∀ base64, record.signedTxBase64 = some base64 →
        ∃ old, before = some old ∧ old.signedTxBase64 = some base64) →
      (∀ old, before = some old → ∀ base64 hash, old.Holds base64 hash →
        record.Holds base64 hash) →
      OutboxSound { s.log [.opened key payloadSha256 method before] with
        records := s.records.insert key record } := by
    intro before record hbefore hsigned hholds
    refine h.append rfl (by simp [OutboxFact.nonce?]) (fun _ => rfl) (fun _ _ hf => by cases hf)
      (fun _ _ hf => by cases hf) (fun _ _ hf => by cases hf) (.inl hquiet) ?_ ?_
    · intro k base64 hash hout
      simp only [LookupMap.get_insert]
      rcases hout.of_append with hst | ⟨hold, -⟩
      · exact hst.elim
      · obtain ⟨old, hget, hold'⟩ := h.current k base64 hash hold
        by_cases hk : k = key
        · subst hk
          exact ⟨record, if_pos rfl, hholds old (hbefore ▸ hget) base64 hash hold'⟩
        · exact ⟨old, by rw [if_neg hk, hget], hold'⟩
    · intro k found base64 hfound hsig
      simp only [LookupMap.get_insert] at hfound
      split at hfound
      · next hk =>
          obtain rfl := Option.some.inj hfound
          obtain ⟨old, hold, holdSigned⟩ := hsigned base64 hsig
          exact .inl ⟨old, by rw [hk, hbefore, hold], holdSigned⟩
      · exact .inl ⟨found, hfound, hsig⟩
  have hlogged : ∀ before, OutboxSound (s.log [.opened key payloadSha256 method before]) :=
    fun before => h.log rfl (fun _ _ _ => id) (fun _ _ hf => by cases hf)
      (fun _ _ hf => by cases hf) (.inl hquiet)
  unfold OperatorObject.openRecord
  cases hget : s.records.get key with
  | none => exact hopened none _ hget (fun _ hs => by cases hs) fun _ ho => by cases ho
  | some existing =>
    simp only []
    cases hopen : openExisting existing payloadSha256 method with
    | error code => exact hlogged _
    | ok opened =>
      obtain ⟨record, done⟩ := opened
      obtain ⟨hclear, -, hsame, hdropped⟩ := openExisting_eq_ok hopen
      cases done with
      | true => exact hlogged _
      | false =>
        simp only []
        split
        · next hmethod =>
            have hrecord := hsame rfl hmethod
            refine hopened (some existing) record hget (fun base64 hs => ?_) ?_
            · exact ⟨existing, rfl, by rw [hrecord] at hs; exact hs⟩
            · rintro old hold base64 hash hholds
              cases hold
              rw [hrecord]
              exact hholds
        · next hmethod =>
            have hunsigned := hdropped rfl hmethod
            refine (hlogged (some existing)).append rfl (by simp [OutboxFact.nonce?])
              (fun _ => rfl) (fun _ _ hf => by cases hf) (fun _ _ hf => by cases hf)
              (fun _ _ hf => by cases hf) (.inl (quiet_append hclear)) ?_ ?_
            · intro k base64 hash hout
              simp only [OperatorObject.log, LookupMap.get_insert]
              rcases hout.of_append with hst | ⟨hold, hreleases, -⟩
              · exact hst.elim
              · rw [if_neg fun hk => hreleases hk.symm]
                exact (hlogged (some existing)).current k base64 hash hold
            · intro k found base64 hfound hsigned
              simp only [OperatorObject.log, LookupMap.get_insert] at hfound
              split at hfound
              · obtain rfl := Option.some.inj hfound
                cases hunsigned.symm.trans hsigned
              · exact .inl ⟨found, hfound, hsigned⟩


end Write

end Youtick.Bridge
