import Youtick.Bridge.RecordCapacity
import Youtick.Lib.Obligations

/-!
# Bridge: the reconcile record always fits

The stored keys together with the reconcile record never exceed the limit (`Bounded`), whatever the
calls of one job object do to each other: a record of its own a call takes only after a check that counts
the reconcile record, and what it puts without a check is there already. So no write of the reconcile
record is refused. A call that is refused a record of its own has written nothing before and nothing
but the reconcile record after, except where the event it was synthesizing came after other steps
(`record_capacity`).
-/

set_option autoImplicit false

namespace Youtick.Bridge.Records

open Youtick.Lib

/-! ## The bound -/

/-- The stored keys and the reconcile record fit. -/
def Bounded (keys : Finset RecordKey) : Prop :=
  (insert .reconcile keys).card ≤ maxPersistentRecords

section Bound

variable {stored added : Finset RecordKey} {keys : List RecordKey} {key : RecordKey}

theorem Bounded.subset (h : Bounded stored) (hsub : added ⊆ insert .reconcile stored) :
    Bounded added := by
  refine (Finset.card_le_card ?_).trans h
  intro k hk
  rcases Finset.mem_insert.mp hk with rfl | hk
  · exact Finset.mem_insert_self _ _
  · exact hsub hk

/-- The keys of a transaction that passed its check fit. -/
theorem card_union_of_hasCapacity (hcheck : hasCapacity stored keys = true)
    (hstored : stored.card ≤ maxPersistentRecords) :
    (stored ∪ keys.toFinset).card ≤ maxPersistentRecords := by
  have hunion : stored ∪ keys.toFinset = stored ∪ missing stored keys := by
    rw [missing, Finset.union_sdiff_self_eq_union]
  have hcard : (stored ∪ keys.toFinset).card ≤ stored.card + (missing stored keys).card := by
    rw [hunion]
    exact Finset.card_union_le _ _
  rw [hasCapacity, Bool.or_eq_true, decide_eq_true_eq, decide_eq_true_eq] at hcheck
  rcases hcheck with hnone | hroom
  · omega
  · omega

theorem Bounded.of_hasCapacity (h : Bounded stored) (hcheck : hasCapacity stored keys = true)
    (hreconcile : .reconcile ∈ keys) (hadded : added ⊆ stored ∪ keys.toFinset) :
    Bounded added := by
  have hstored : stored.card ≤ maxPersistentRecords :=
    (Finset.card_le_card (Finset.subset_insert _ _)).trans h
  refine (Finset.card_le_card ?_).trans (card_union_of_hasCapacity hcheck hstored)
  intro k hk
  rcases Finset.mem_insert.mp hk with rfl | hk
  · exact Finset.mem_union_right _ (List.mem_toFinset.mpr hreconcile)
  · exact hadded hk

/-- A transaction that needs no new record but the reconcile record passes its check. -/
theorem Bounded.hasCapacity (h : Bounded stored)
    (hkeys : ∀ k ∈ keys, k = .reconcile ∨ k ∈ stored) : hasCapacity stored keys = true := by
  have hmissing : missing stored keys ⊆ {.reconcile} := by
    intro k hk
    rw [missing, Finset.mem_sdiff, List.mem_toFinset] at hk
    rcases hkeys k hk.1 with rfl | hstored
    · exact Finset.mem_singleton_self _
    · exact absurd hstored hk.2
  rw [Records.hasCapacity, Bool.or_eq_true, decide_eq_true_eq, decide_eq_true_eq]
  by_cases hin : RecordKey.reconcile ∈ stored
  · left
    rw [Finset.card_eq_zero, Finset.eq_empty_iff_forall_notMem]
    intro k hk
    have hreconcile := Finset.mem_singleton.mp (hmissing hk)
    subst hreconcile
    rw [missing, Finset.mem_sdiff] at hk
    exact hk.2 hin
  · right
    have hone : (missing stored keys).card ≤ 1 := Finset.card_le_card hmissing
    have hcard : stored.card + 1 ≤ maxPersistentRecords := by
      rw [← Finset.card_insert_of_notMem hin]
      exact h
    omega

end Bound

/-! ## Operations -/

/-- The new record that a transaction takes. -/
def RecordOp.takes : {β : Type} → RecordOp β → Option RecordKey
  | _, .reserve deviceNonce _ => some (.nonce deviceNonce)
  | _, .takeNonce deviceNonce _ => some (.nonce deviceNonce)
  | _, .cancelJob deviceNonce => some (.nonce deviceNonce)
  | _, .enqueue idempotencyKey _ => some (.outbox idempotencyKey)
  | _, .takeWebhook digest => some (.webhook digest)
  | _, _ => none

/-- The operation removes records. -/
def RecordOp.removes : {β : Type} → RecordOp β → Bool
  | _, .deleteWebhook _ => true
  | _, .purgeNonces => true
  | _, .purgeWebhooks => true
  | _, _ => false

/-- The operation writes without a check no record that may be new. -/
def RecordOp.Fits (stored : Finset RecordKey) : {β : Type} → RecordOp β → Prop
  | _, .put key => key = .reconcile ∨ key ∈ stored
  | _, _ => True

section Operations

variable {s t : JobObject} {n : Nat} {i : RecordInput} {β α : Type} {b : β} {op : NumberedOp β}

@[simp] theorem keys_log (mark : Mark) : (s.log n mark).keys = s.keys := rfl

@[simp] theorem own_log (mark : Mark) : (s.log n mark).own n = mark :: s.own n :=
  Function.update_self ..

@[simp] theorem keys_write (key : RecordKey) : (s.write n key).keys = insert key s.keys := rfl

@[simp] theorem own_write (key : RecordKey) : (s.write n key).own n = .wrote key :: s.own n :=
  Function.update_self ..

/-- What a checked transaction does: the rest, where the check passed, or nothing. -/
theorem checked_cases {keys : List RecordKey} {taken : Option RecordKey}
    {rest out : Except String α × JobObject} (h : s.checked n keys taken rest = out) :
    hasCapacity s.keys keys = true ∧ out = rest ∨
      hasCapacity s.keys keys = false ∧ out = (.error recordLimit, s.log n (.refused taken)) := by
  unfold JobObject.checked at h
  split at h
  · next hcheck => exact .inl ⟨hcheck, h.symm⟩
  · next hcheck => exact .inr ⟨Bool.eq_false_iff.mpr hcheck, h.symm⟩

/-- The keys after an operation: all that were there but those it removes, and new ones only as far as
the check of its transaction allows. -/
structure Stored (op : RecordOp β) (s t : JobObject) : Prop where
  bounded : Bounded s.keys → op.Fits s.keys → Bounded t.keys
  kept : op.removes = false → s.keys ⊆ t.keys
  job : .job ∈ s.keys → .job ∈ t.keys

theorem Stored.same (h : t.keys = s.keys) (op : RecordOp β) : Stored op s t := by
  refine ⟨fun hbounded _ => ?_, fun _ => ?_, fun hjob => ?_⟩
  · rw [h]
    exact hbounded
  · rw [h]
  · rw [h]
    exact hjob

/-- Writes after a check that counted them and the reconcile record. -/
theorem Stored.added {op : RecordOp β} {keys : List RecordKey}
    (hcheck : hasCapacity s.keys keys = true) (hreconcile : .reconcile ∈ keys)
    (hkept : s.keys ⊆ t.keys) (hadded : t.keys ⊆ s.keys ∪ keys.toFinset) : Stored op s t :=
  ⟨fun hbounded _ => hbounded.of_hasCapacity hcheck hreconcile hadded, fun _ => hkept,
    fun hjob => hkept hjob⟩

/-- A write of a record that is there, or of the reconcile record. -/
theorem Stored.rewritten {op : RecordOp β} (hkept : s.keys ⊆ t.keys)
    (hadded : op.Fits s.keys → t.keys ⊆ insert .reconcile s.keys) : Stored op s t :=
  ⟨fun hbounded hfits => hbounded.subset (hadded hfits), fun _ => hkept, fun hjob => hkept hjob⟩

theorem Stored.of_checked {op : RecordOp β} {keys : List RecordKey} {taken : Option RecordKey}
    {rest out : Except String α × JobObject} (h : s.checked n keys taken rest = out)
    (hrest : hasCapacity s.keys keys = true → Stored op s rest.2) : Stored op s out.2 := by
  rcases checked_cases h with ⟨hcheck, rfl⟩ | ⟨-, rfl⟩
  · exact hrest hcheck
  · exact Stored.same (keys_log _) op

theorem subset_write (key : RecordKey) : s.keys ⊆ (s.write n key).keys :=
  Finset.subset_insert _ _

/-- A nonce, taken after a check that counted it. -/
theorem stored_nonce {op : RecordOp β} {deviceNonce : String}
    (hcheck : hasCapacity s.keys [.nonce deviceNonce, .reconcile] = true) :
    Stored op s (s.write n (.nonce deviceNonce)) := by
  refine .added hcheck (by simp) (subset_write _) ?_
  intro k hk
  simp only [keys_write, Finset.mem_insert] at hk
  simp only [Finset.mem_union, List.mem_toFinset, List.mem_cons]
  tauto

theorem exec_stored (h : exec β op i s = some (b, t)) : Stored op.op s t := by
  obtain ⟨n, op⟩ := op
  cases op with
  | accept | begin | ask | read =>
    cases h
    refine .same ?_ _
    rfl
  | reserve deviceNonce recovery =>
    obtain rfl := congrArg Prod.snd (Option.some.inj h)
    split
    · exact .same rfl _
    · split
      · refine .of_checked rfl fun hcheck => ?_
        split
        · exact stored_nonce hcheck
        · exact .same rfl _
      · refine .of_checked rfl fun hcheck => ?_
        split
        · exact .same rfl _
        · split
          · refine .added hcheck (by simp) ?_ ?_
            · exact (subset_write _).trans (subset_write _)
            · intro k hk
              simp only [keys_write, Finset.mem_insert] at hk
              simp only [Finset.mem_union, List.mem_toFinset, List.mem_cons]
              tauto
          · exact .same rfl _
  | takeNonce deviceNonce ofJob =>
    obtain rfl := congrArg Prod.snd (Option.some.inj h)
    split
    · exact .same rfl _
    · split
      · exact .same rfl _
      · exact .of_checked rfl fun hcheck => stored_nonce hcheck
  | cancelJob deviceNonce =>
    obtain rfl := congrArg Prod.snd (Option.some.inj h)
    split
    · exact .same rfl _
    · split
      · exact .same rfl _
      · next hjob =>
          rw [not_not] at hjob
          refine .of_checked rfl fun hcheck => ?_
          split
          · exact stored_nonce hcheck
          · split
            · -- the job is there, so only the nonce is new
              refine .added hcheck (by simp) ((subset_write _).trans (subset_write _)) ?_
              intro k hk
              simp only [keys_write, Finset.mem_insert] at hk
              simp only [Finset.mem_union, List.mem_toFinset, List.mem_cons]
              rcases hk with rfl | rfl | hk
              · exact .inl hjob.1
              · exact .inr (.inl rfl)
              · exact .inl hk
            · exact .same rfl _
  | enqueue idempotencyKey compare =>
    obtain rfl := congrArg Prod.snd (Option.some.inj h)
    split
    · split
      · exact .same rfl _
      · exact .same rfl _
    · refine .of_checked rfl fun hcheck => .added hcheck (by simp) (subset_write _) ?_
      intro k hk
      simp only [keys_write, Finset.mem_insert] at hk
      simp only [Finset.mem_union, List.mem_toFinset, List.mem_cons]
      tauto
  | takeWebhook digest =>
    obtain rfl := congrArg Prod.snd (Option.some.inj h)
    split
    · exact .same rfl _
    · refine .of_checked rfl fun hcheck => .added hcheck (by simp) (subset_write _) ?_
      intro k hk
      simp only [keys_write, Finset.mem_insert] at hk
      simp only [Finset.mem_union, List.mem_toFinset, List.mem_cons]
      tauto
  | put key =>
    cases h
    refine .rewritten (subset_write _) fun hfits => ?_
    intro k hk
    rcases Finset.mem_insert.mp hk with rfl | hk
    · rcases hfits with rfl | hstored
      · exact Finset.mem_insert_self _ _
      · exact Finset.mem_insert_of_mem hstored
    · exact Finset.mem_insert_of_mem hk
  | deleteWebhook digest =>
    cases h
    refine ⟨fun hbounded _ => hbounded.subset ?_, fun hop => ?_, fun hjob => ?_⟩
    · exact (Finset.erase_subset _ _).trans (Finset.subset_insert _ _)
    · cases hop
    · exact Finset.mem_erase.mpr ⟨nofun, hjob⟩
  | ensureReconcile =>
    obtain rfl := congrArg Prod.snd (Option.some.inj h)
    split
    · exact .same rfl _
    · refine .of_checked rfl fun _ => .rewritten (subset_write _) fun _ => ?_
      rw [keys_write]
  | persistResult errorCode =>
    obtain rfl := congrArg Prod.snd (Option.some.inj h)
    split
    · exact .same rfl _
    · refine .of_checked rfl fun _ => .rewritten (subset_write _) fun _ => ?_
      rw [keys_write]
  | saveVerification =>
    obtain rfl := congrArg Prod.snd (Option.some.inj h)
    split
    · exact .same rfl _
    · next hjob =>
        rw [not_not] at hjob
        split
        · refine .of_checked rfl fun _ => .rewritten ((subset_write _).trans (subset_write _))
            fun _ => ?_
          rw [keys_write, keys_write, Finset.insert_eq_of_mem hjob.1]
        · split
          · refine .rewritten (subset_write _) fun _ => ?_
            rw [keys_write, Finset.insert_eq_of_mem hjob.1]
            exact Finset.subset_insert _ _
          · exact .same rfl _
  | dropCheckpoint =>
    obtain rfl := congrArg Prod.snd (Option.some.inj h)
    split
    · next hjob =>
        refine .rewritten (subset_write _) fun _ => ?_
        rw [keys_write, Finset.insert_eq_of_mem hjob.1]
        exact Finset.subset_insert _ _
    · exact .same rfl _
  | purgeNonces =>
    cases h
    refine ⟨fun hbounded _ => hbounded.subset ?_, fun hop => ?_, fun hjob => ?_⟩
    · exact (Finset.filter_subset _ _).trans (Finset.subset_insert _ _)
    · cases hop
    · exact Finset.mem_filter.mpr ⟨hjob, fun hpurged => nomatch hpurged.1⟩
  | purgeWebhooks =>
    cases h
    refine ⟨fun hbounded _ => hbounded.subset ?_, fun hop => ?_, fun hjob => ?_⟩
    · exact (Finset.filter_subset _ _).trans (Finset.subset_insert _ _)
    · cases hop
    · exact Finset.mem_filter.mpr ⟨hjob, fun hpurged => nomatch hpurged.1⟩

/-- The mark is a write or a removal. -/
def Mark.Changes : Mark → Prop
  | .wrote _ => True
  | .removed _ => True
  | .purged => True
  | _ => False

/-- The call that the operation begins. -/
def RecordOp.begins : {β : Type} → RecordOp β → Option JobCall
  | _, .begin call => some call
  | _, _ => none

/-- The operation answers that the capacity check has thrown. -/
def RecordOp.Refuses : {β : Type} → RecordOp β → β → Prop
  | _, .reserve _ _, result => result = .error recordLimit
  | _, .takeNonce _ _, result => result = .error recordLimit
  | _, .cancelJob _, result => result = .error recordLimit
  | _, .enqueue _ _, result => result = .error recordLimit
  | _, .takeWebhook _, result => result = .error recordLimit
  | _, .ensureReconcile, result => result = .error recordLimit
  | _, .persistResult _, result => result = .error recordLimit
  | _, .saveVerification, result => result = .error recordLimit
  | _, _, _ => False

/-- What an operation notes: its call, a refusal, or what it wrote and removed. -/
inductive Acts (op : NumberedOp β) (b : β) (s t : JobObject) : Prop where
  | began (call : JobCall) (hop : op.op.begins = some call)
      (hpost : t = s.log op.number (.began call))
  | refused (hb : op.op.Refuses b) (hcheck : ∃ keys, hasCapacity s.keys keys = false ∧
      (op.op.takes = none → ∀ k ∈ keys, k = .reconcile ∨ k ∈ s.keys))
      (hpost : t = s.log op.number (.refused op.op.takes))
  | acted (marks : List Mark) (hmarks : ∀ mark ∈ marks, mark.Changes)
      (hown : t.own op.number = marks ++ s.own op.number)
      (hothers : ∀ m, m ≠ op.number → t.own m = s.own m) (hrequests : s.requests ≤ t.requests)

theorem Acts.still {op : NumberedOp β} (h : t = s) : Acts op b s t := by
  subst h
  exact .acted [] nofun rfl (fun _ _ => rfl) le_rfl

theorem Acts.write {op : NumberedOp β} (key : RecordKey) : Acts op b s (s.write op.number key) :=
  .acted [.wrote key] (by simp [Mark.Changes]) (own_write key)
    (fun _ hm => Function.update_of_ne hm ..) le_rfl

theorem Acts.write_write {op : NumberedOp β} (key other : RecordKey) :
    Acts op b s ((s.write op.number key).write op.number other) := by
  refine .acted [.wrote other, .wrote key] (by simp [Mark.Changes]) ?_ (fun m hm => ?_) le_rfl
  · rw [own_write, own_write]
    rfl
  · exact (Function.update_of_ne hm ..).trans (Function.update_of_ne hm ..)

theorem Acts.of_checked {op : NumberedOp (Except String α)} {keys : List RecordKey}
    {rest : Except String α × JobObject} {result : Except String α}
    (h : s.checked op.number keys op.op.takes rest = (result, t))
    (hrefuses : op.op.Refuses (.error recordLimit))
    (hkeys : op.op.takes = none → ∀ k ∈ keys, k = .reconcile ∨ k ∈ s.keys)
    (hrest : Acts op rest.1 s rest.2) : Acts op result s t := by
  rcases checked_cases h with ⟨-, hout⟩ | ⟨hcheck, hout⟩
  · obtain ⟨rfl, rfl⟩ := Prod.mk.inj hout
    exact hrest
  · obtain ⟨rfl, rfl⟩ := Prod.mk.inj hout
    exact .refused hrefuses ⟨keys, hcheck, hkeys⟩ rfl

theorem exec_acts (h : exec β op i s = some (b, t)) : Acts op b s t := by
  obtain ⟨n, op⟩ := op
  cases op with
  | accept =>
    cases h
    exact .acted [] nofun rfl (fun _ _ => rfl) (Nat.le_succ _)
  | begin call =>
    cases h
    exact .began call rfl rfl
  | ask | read =>
    cases h
    exact .still rfl
  | reserve deviceNonce recovery =>
    have hout := Option.some.inj h
    split at hout
    · cases hout
      exact .still rfl
    · split at hout
      · refine .of_checked hout rfl nofun ?_
        split
        · exact .write _
        · exact .still rfl
      · refine .of_checked hout rfl nofun ?_
        split
        · exact .still rfl
        · split
          · exact .write_write _ _
          · exact .still rfl
  | takeNonce deviceNonce ofJob =>
    have hout := Option.some.inj h
    split at hout
    · cases hout
      exact .still rfl
    · split at hout
      · cases hout
        exact .still rfl
      · exact .of_checked hout rfl nofun (.write _)
  | cancelJob deviceNonce =>
    have hout := Option.some.inj h
    split at hout
    · cases hout
      exact .still rfl
    · split at hout
      · cases hout
        exact .still rfl
      · refine .of_checked hout rfl nofun ?_
        split
        · exact .write _
        · split
          · exact .write_write _ _
          · exact .still rfl
  | enqueue idempotencyKey compare =>
    have hout := Option.some.inj h
    split at hout
    · split at hout
      · cases hout
        exact .still rfl
      · cases hout
        exact .still rfl
    · exact .of_checked hout rfl nofun (.write _)
  | takeWebhook digest =>
    have hout := Option.some.inj h
    split at hout
    · cases hout
      exact .still rfl
    · exact .of_checked hout rfl nofun (.write _)
  | put key =>
    cases h
    exact .write key
  | deleteWebhook digest =>
    cases h
    exact .acted [.removed (.webhook digest)] (by simp [Mark.Changes]) (own_log _)
      (fun _ hm => Function.update_of_ne hm ..) le_rfl
  | ensureReconcile =>
    have hout := Option.some.inj h
    split at hout
    · cases hout
      exact .still rfl
    · exact .of_checked hout rfl (fun _ => by simp) (.write _)
  | persistResult errorCode =>
    have hout := Option.some.inj h
    split at hout
    · cases hout
      exact .still rfl
    · exact .of_checked hout rfl (fun _ => by simp) (.write _)
  | saveVerification =>
    have hout := Option.some.inj h
    split at hout
    · cases hout
      exact .still rfl
    · next hjob =>
        rw [not_not] at hjob
        split at hout
        · refine .of_checked hout rfl (fun _ => ?_) (.write_write _ _)
          intro k hk
          rcases List.mem_cons.mp hk with rfl | hk
          · exact .inr hjob.1
          · exact .inl (List.mem_singleton.mp hk)
        · split at hout
          · cases hout
            exact .write _
          · cases hout
            exact .still rfl
  | dropCheckpoint =>
    have hout := Option.some.inj h
    split at hout
    · cases hout
      exact .write _
    · cases hout
      exact .still rfl
  | purgeNonces | purgeWebhooks =>
    cases h
    exact .acted [.purged] (by simp [Mark.Changes]) (own_log _)
      (fun _ hm => Function.update_of_ne hm ..) le_rfl

end Operations

/-! ## The bound over a run -/

/-- Only records of their own are refused to anyone. -/
def OwnRefusals (s : JobObject) : Prop := ∀ n, .refused none ∉ s.own n

/-- Calls rely on the job record to stay; a queued call also on every other record, since nothing that
removes records runs beside it. -/
def recordDiscipline : Discipline recordSystem where
  inv := fun s => Bounded s.keys ∧ OwnRefusals s
  meets := fun _ _ => True
  rely := fun call s t => (.job ∈ s.keys → .job ∈ t.keys) ∧ (call.queued = true → s.keys ⊆ t.keys)
  guar := fun call s t => (.job ∈ s.keys → .job ∈ t.keys) ∧ (call.queued = false → s.keys ⊆ t.keys)
  rely_refl := fun _ _ => ⟨id, fun _ => subset_rfl⟩
  rely_trans := fun _ _ _ _ h h' => ⟨fun hjob => h'.1 (h.1 hjob), fun hq => (h.2 hq).trans (h'.2 hq)⟩
  guar_rely := by
    intro call other s t halone _ hguar
    refine ⟨hguar.1, fun hother => ?_⟩
    apply hguar.2
    change (call.queued && other.queued) = false at halone
    rw [hother, Bool.and_true] at halone
    exact halone
  world := fun e => nomatch e

/-- The operation is harmless to a call while these records are there. -/
structure Harmless (call : JobCall) (held : Finset RecordKey) {β : Type} (op : RecordOp β) :
    Prop where
  fits : ∀ stored, held ⊆ stored → op.Fits stored
  keeps : op.removes = false ∨ call.queued = true ∧ held ⊆ {.job}

/-- The operation removes nothing, takes no record of its own, and puts only what is there. -/
structure Ordinary (held : Finset RecordKey) {β : Type} (op : RecordOp β) : Prop where
  fits : ∀ stored, held ⊆ stored → op.Fits stored
  keeps : op.removes = false
  takes : op.takes = none
  begins : op.begins = none

section Discipline

variable {call : JobCall} {held : Finset RecordKey} {n : Nat} {α β : Type} {s t u : JobObject}
  {i : RecordInput} {b : β}

/-- Records that a call may rely on: any for a queued call, the job record for the others. -/
def Held (call : JobCall) (held : Finset RecordKey) : Prop := call.queued = true ∨ held ⊆ {.job}

theorem held_rely (hheld : Held call held) (h : held ⊆ s.keys)
    (hrely : recordDiscipline.rely call s t) : held ⊆ t.keys := by
  intro k hk
  rcases hheld with hqueued | hjob
  · exact hrely.2 hqueued (h hk)
  · have hsame := Finset.mem_singleton.mp (hjob hk)
    subst hsame
    exact hrely.1 (h hk)

theorem ownRefusals_exec {op : NumberedOp β} (hs : Bounded s.keys ∧ OwnRefusals s)
    (h : exec β op i s = some (b, t)) : OwnRefusals t := by
  intro m
  cases exec_acts h with
  | began call hop hpost =>
    subst hpost
    by_cases hm : m = op.number
    · subst hm
      rw [own_log]
      exact List.not_mem_cons_of_ne_of_not_mem nofun (hs.2 _)
    · rw [show (s.log op.number (.began call)).own m = s.own m from Function.update_of_ne hm ..]
      exact hs.2 m
  | refused hb hcheck hpost =>
    subst hpost
    obtain ⟨keys, hfull, hkeys⟩ := hcheck
    by_cases hm : m = op.number
    · subst hm
      rw [own_log]
      refine List.not_mem_cons_of_ne_of_not_mem (fun hnone => ?_) (hs.2 _)
      -- the reconcile record alone always fits
      have htakes : op.op.takes = none := (Mark.refused.inj hnone).symm
      rw [hs.1.hasCapacity (hkeys htakes)] at hfull
      cases hfull
    · rw [show (s.log op.number (.refused op.op.takes)).own m = s.own m from
        Function.update_of_ne hm ..]
      exact hs.2 m
  | acted marks hmarks hown hothers hrequests =>
    by_cases hm : m = op.number
    · subst hm
      rw [hown]
      intro hmem
      rcases List.mem_append.mp hmem with hmark | hold
      · exact hmarks _ hmark
      · exact hs.2 _ hold
    · rw [hothers m hm]
      exact hs.2 m

/-- One harmless operation of a call. -/
theorem exec_harmless {op : NumberedOp β} (hop : Harmless call held op.op)
    (hs : recordDiscipline.inv s) (hkeys : held ⊆ s.keys) (h : exec β op i s = some (b, t)) :
    recordDiscipline.inv t ∧ recordDiscipline.guar call s t ∧ held ⊆ t.keys := by
  have hstored := exec_stored h
  have hbounded := hstored.bounded hs.1 (hop.fits s.keys hkeys)
  refine ⟨⟨hbounded, ownRefusals_exec hs h⟩, ⟨hstored.job, fun hqueued => ?_⟩, ?_⟩
  · rcases hop.keeps with hkeeps | ⟨hq, -⟩
    · exact hstored.kept hkeeps
    · rw [hqueued] at hq
      cases hq
  · rcases hop.keeps with hkeeps | ⟨-, hjob⟩
    · exact hkeys.trans (hstored.kept hkeeps)
    · intro k hk
      have hsame := Finset.mem_singleton.mp (hjob hk)
      subst hsame
      exact hstored.job (hkeys hk)

/-- The program keeps the records it holds, from any state that has them. -/
def Holds (call : JobCall) (held : Finset RecordKey) {α : Type} (p : RecordHandler α) : Prop :=
  ∀ n s, recordDiscipline.inv s → held ⊆ s.keys →
    recordDiscipline.Safe call (fun _ t => held ⊆ t.keys) (numbered n p) s

theorem Holds.of_uses {p : RecordHandler α} (hheld : Held call held)
    (hp : p.Uses fun op => Harmless call held op) : Holds call held p := by
  intro n s hs hkeys
  refine Discipline.safe_of_uses_while (D := recordDiscipline)
    (P := fun op => Harmless call held op.op) (J := fun s => held ⊆ s.keys) ?_ ?_
    (Handler.Uses.lift_of _ hp) hkeys
  · intro s t h hrely
    exact held_rely hheld h hrely
  · intro β op hop i t b u ht hkeys _ hexec
    exact exec_harmless hop ht hkeys hexec

theorem Holds.of_ordinary {p : RecordHandler α} (hheld : Held call held)
    (hp : p.Uses fun op => Ordinary held op) : Holds call held p :=
  .of_uses hheld (hp.mono fun _ hop => ⟨hop.fits, .inl hop.keeps⟩)

theorem Holds.bind {p : RecordHandler α} {f : α → RecordHandler β} (hp : Holds call held p)
    (hf : ∀ a, Holds call held (f a)) : Holds call held (p >>= f) := by
  intro n s hs hkeys
  rw [numbered, Handler.lift_bind]
  refine (hp n s hs hkeys).bind hs (fun a t ht hpost => ?_) fun _ _ _ hpost => hpost
  exact hf a n t ht hpost

theorem Holds.rescue {p : RecordHandler α} {handle : String → RecordHandler α}
    (hp : Holds call held p) (hh : ∀ code, Holds call held (handle code)) :
    Holds call held (p.rescue handle) := by
  intro n s hs hkeys
  rw [numbered, Handler.lift_rescue]
  refine (hp n s hs hkeys).rescue hs (fun _ _ _ hpost => hpost) fun code t ht hpost => ?_
  exact hh code n t ht hpost

/-- The rule for a record that is looked up: where it is there, the program may rely on it. -/
theorem Holds.read {key : RecordKey} {f : Bool → RecordHandler α} (hheld : Held call held)
    (hfalse : Holds call held (f false)) (htrue : ∀ n s, recordDiscipline.inv s →
      insert key held ⊆ s.keys →
      recordDiscipline.Safe call (fun _ t => held ⊆ t.keys) (numbered n (f true)) s) :
    Holds call held (Records.read key >>= f) := by
  intro n s hs hkeys
  rw [numbered, Handler.lift_bind]
  refine Discipline.Safe.perform fun t hst ht => ?_
  have hheld' := held_rely hheld hkeys hst
  refine ⟨hheld', fun i b u _ hexec => ?_⟩
  cases hexec
  refine ⟨ht, ⟨id, fun _ => subset_rfl⟩, ?_, hheld'⟩
  by_cases hkey : key ∈ t.keys
  · rw [decide_eq_true hkey]
    exact htrue n t ht (Finset.insert_subset hkey hheld')
  · rw [decide_eq_false hkey]
    exact hfalse n t ht hheld'

/-- A program that keeps more than what is asked. -/
theorem Holds.safe_of_subset {more : Finset RecordKey} {p : RecordHandler α}
    (h : Holds call more p) (hsub : held ⊆ more) {n : Nat} {s : JobObject}
    (hs : recordDiscipline.inv s) (hkeys : more ⊆ s.keys) :
    recordDiscipline.Safe call (fun _ t => held ⊆ t.keys) (numbered n p) s :=
  (h n s hs hkeys).mono fun _ _ hpost => hsub.trans hpost

/-! ## Programs of a call that has its job -/

theorem ordinary_of_checked {op : RecordOp β} (hfits : ∀ stored, op.Fits stored)
    (hkeeps : op.removes = false) (htakes : op.takes = none) (hbegins : op.begins = none) :
    Ordinary held op :=
  ⟨fun stored _ => hfits stored, hkeeps, htakes, hbegins⟩

theorem ordinary_put {key : RecordKey} (hkey : key = .reconcile ∨ key ∈ held) :
    Ordinary held (.put key) := by
  refine ⟨fun stored hsub => ?_, rfl, rfl, rfl⟩
  rcases hkey with hreconcile | hheld
  · exact .inl hreconcile
  · exact .inr (hsub hheld)

theorem uses_ask (what : String) :
    (ask what).Uses fun op => Ordinary held op :=
  Handler.Uses.perform (ordinary_of_checked (fun _ => trivial) rfl rfl rfl)

theorem uses_put {key : RecordKey} (hkey : key = .reconcile ∨ key ∈ held) :
    (put key).Uses fun op => Ordinary held op :=
  Handler.Uses.perform (ordinary_put hkey)

theorem uses_runWhen {due : Bool} {p : RecordHandler Unit}
    (hp : p.Uses fun op => Ordinary held op) :
    (runWhen due p).Uses fun op => Ordinary held op := by
  unfold runWhen
  split
  · exact hp
  · trivial

theorem uses_putWhen {due : Bool} {key : RecordKey} (hkey : key = .reconcile ∨ key ∈ held) :
    (putWhen due key).Uses fun op => Ordinary held op :=
  uses_runWhen (uses_put hkey)

theorem uses_transaction {op : RecordOp (Except String α)}
    (hop : Ordinary held op) : (transaction op).Uses fun op => Ordinary held op :=
  Handler.Uses.bind (Handler.Uses.perform hop) fun result => Handler.Uses.ofExcept result

theorem uses_demand (what code : String) :
    (demand what code).Uses fun op => Ordinary held op := by
  refine Handler.Uses.bind (uses_ask _) fun accepted => ?_
  split <;> trivial

theorem uses_persistResult (errorCode : Bool) :
    (transaction (.persistResult errorCode)).Uses fun op => Ordinary held op :=
  uses_transaction (ordinary_of_checked (fun _ => trivial) rfl rfl rfl)

theorem uses_ensureReconcile :
    (transaction .ensureReconcile).Uses fun op => Ordinary held op :=
  uses_transaction (ordinary_of_checked (fun _ => trivial) rfl rfl rfl)

variable (hjob : .job ∈ held)

section
include hjob

theorem deleteStreamUpload_uses : deleteStreamUpload.Uses fun op => Ordinary held op := by
  refine Handler.Uses.bind (uses_ask _) fun due => ?_
  split
  · refine Handler.Uses.bind (uses_put (.inr hjob)) fun _ => ?_
    refine Handler.Uses.bind (uses_ask _) fun ambiguous => ?_
    split
    · exact Handler.Uses.bind (uses_ask _) fun _ => trivial
    · trivial
  · trivial

theorem terminateStreamJob_uses : terminateStreamJob.Uses fun op => Ordinary held op := by
  refine Handler.Uses.bind (uses_ask _) fun ended => ?_
  refine Handler.Uses.bind (uses_putWhen (.inr hjob)) fun _ => ?_
  refine Handler.Uses.bind (deleteStreamUpload_uses hjob) fun _ => ?_
  refine Handler.Uses.bind (uses_persistResult _) fun _ => ?_
  exact uses_demand _ _

theorem expireJob_uses : expireJob.Uses fun op => Ordinary held op := by
  refine Handler.Uses.bind (uses_ask _) fun stream => ?_
  split
  · exact terminateStreamJob_uses hjob
  · refine Handler.Uses.bind (uses_put (.inr hjob)) fun _ => ?_
    refine Handler.Uses.bind (uses_persistResult _) fun _ => ?_
    exact uses_demand _ _

theorem expireLegacyProfileJob_uses :
    expireLegacyProfileJob.Uses fun op => Ordinary held op := by
  refine Handler.Uses.bind (uses_ask _) fun legacy => ?_
  split
  · exact Handler.Uses.bind (expireJob_uses hjob) fun _ => trivial
  · trivial

theorem settleLegacyProfileJob_uses :
    settleLegacyProfileJob.Uses fun op => Ordinary held op := by
  refine Handler.Uses.bind (uses_ask _) fun pending => ?_
  split
  · trivial
  · refine Handler.Uses.bind (uses_ask _) fun published => ?_
    split
    · refine Handler.Uses.bind (uses_put (.inr hjob)) fun _ => ?_
      refine Handler.Uses.bind (uses_demand _ _) fun _ => ?_
      exact uses_ensureReconcile
    · exact expireJob_uses hjob

theorem advanceFinalization_uses : advanceFinalization.Uses fun op => Ordinary held op := by
  refine Handler.Uses.bind (uses_ask _) fun expired => ?_
  split
  · exact expireJob_uses hjob
  · refine Handler.Uses.bind (uses_ask _) fun legacy => ?_
    split
    · exact settleLegacyProfileJob_uses hjob
    · refine Handler.Uses.bind (uses_ask _) fun allowed => ?_
      split
      · refine Handler.Uses.bind (uses_ask _) fun forwarded => ?_
        refine Handler.Uses.bind (uses_put (.inr hjob)) fun _ => ?_
        split
        · refine Handler.Uses.bind (uses_demand _ _) fun _ => ?_
          refine Handler.Uses.bind (uses_ask _) fun published => ?_
          split
          · exact uses_ensureReconcile
          · trivial
        · trivial
      · trivial

omit hjob in
theorem verifyReadyProviderAsset_uses :
    verifyReadyProviderAsset.Uses fun op => Ordinary held op := by
  refine Handler.Uses.bind (uses_demand _ _) fun _ => ?_
  refine Handler.Uses.bind (uses_demand _ _) fun _ => ?_
  apply Handler.Uses.rescue
  · refine Handler.Uses.bind (uses_demand _ _) fun _ => ?_
    exact uses_transaction (ordinary_of_checked (fun _ => trivial) rfl rfl rfl)
  · intro code
    split
    · refine Handler.Uses.bind (Handler.Uses.perform ?_) fun _ => trivial
      exact ordinary_of_checked (fun _ => trivial) rfl rfl rfl
    · trivial

theorem finishEvent_uses : finishEvent.Uses fun op => Ordinary held op := by
  refine Handler.Uses.bind (uses_ask _) fun published => ?_
  split
  · refine Handler.Uses.bind (uses_demand _ _) fun _ => ?_
    exact uses_ensureReconcile
  · refine Handler.Uses.bind (uses_demand _ _) fun _ => ?_
    exact advanceFinalization_uses hjob

theorem recordProgress_uses : recordProgress.Uses fun op => Ordinary held op := by
  refine Handler.Uses.bind (uses_ask _) fun published => ?_
  split
  · trivial
  · refine Handler.Uses.bind (uses_ask _) fun failed => ?_
    split
    · refine Handler.Uses.bind (uses_ask _) fun stream => ?_
      split
      · exact terminateStreamJob_uses hjob
      · refine Handler.Uses.bind (uses_put (.inr hjob)) fun _ => ?_
        refine Handler.Uses.bind (uses_persistResult _) fun _ => ?_
        exact uses_demand _ _
    · refine Handler.Uses.bind (uses_ask _) fun moved => ?_
      exact uses_putWhen (.inr hjob)

theorem renewLease_uses : renewLease.Uses fun op => Ordinary held op := by
  refine Handler.Uses.bind (uses_ask _) fun due => ?_
  split
  · refine Handler.Uses.bind (uses_demand _ _) fun _ => ?_
    exact uses_put (.inr hjob)
  · trivial

theorem createUpload_uses : createUpload.Uses fun op => Ordinary held op := by
  refine Handler.Uses.bind (uses_demand _ _) fun _ => ?_
  refine Handler.Uses.bind (renewLease_uses hjob) fun _ => ?_
  refine Handler.Uses.bind (uses_put (.inr hjob)) fun _ => ?_
  refine Handler.Uses.bind (uses_ask _) fun created => ?_
  split
  · refine Handler.Uses.bind (uses_put (.inr hjob)) fun _ => ?_
    refine Handler.Uses.bind (uses_ask _) fun expired => ?_
    split
    · refine Handler.Uses.bind (uses_ask _) fun stream => ?_
      split
      · exact Handler.Uses.bind (terminateStreamJob_uses hjob) fun _ => trivial
      · exact Handler.Uses.bind (uses_demand _ _) fun _ => trivial
    · exact uses_demand _ _
  · refine Handler.Uses.bind (uses_put (.inr hjob)) fun _ => ?_
    exact Handler.Uses.bind (uses_demand _ _) fun _ => trivial

theorem resumeUpload_uses : resumeUpload.Uses fun op => Ordinary held op := by
  refine Handler.Uses.bind (uses_demand _ _) fun _ => ?_
  refine Handler.Uses.bind (uses_ask _) fun ended => ?_
  split
  · trivial
  · refine Handler.Uses.bind (uses_demand _ _) fun _ => ?_
    refine Handler.Uses.bind (uses_ask _) fun gone => ?_
    split
    · exact terminateStreamJob_uses hjob
    · refine Handler.Uses.bind (uses_demand _ _) fun _ => ?_
      exact renewLease_uses hjob

end

/-! ## Programs that take records of their own -/

section Queued

variable (hqueued : call.queued = true)

include hqueued

/-- Everything before the dedup record of an event is done with relies on that record. -/
theorem verifyEvent_safe {digest : String} (hs : recordDiscipline.inv s)
    (hkeys : insert (.webhook digest) {.job} ⊆ s.keys) :
    recordDiscipline.Safe call (fun _ t => {.job} ⊆ t.keys) (numbered n (verifyEvent digest)) s := by
  have hboth : Held call (insert (.webhook digest) {.job}) := .inl hqueued
  have hone : Held call {.job} := .inl hqueued
  have hmem : RecordKey.job ∈ insert (.webhook digest) ({.job} : Finset RecordKey) := by simp
  have hsub : ({.job} : Finset RecordKey) ⊆ insert (.webhook digest) {.job} :=
    Finset.subset_insert _ _
  have hdelete : (Handler.perform "storage_failed" (.deleteWebhook digest) :
      RecordHandler Unit).Uses fun op => Harmless call {.job} op :=
    Handler.Uses.perform ⟨fun _ _ => trivial, .inr ⟨hqueued, subset_rfl⟩⟩
  rw [verifyEvent, numbered, Handler.lift_rescue]
  apply Discipline.Safe.rescue (Q := fun _ t => {.job} ⊆ t.keys) _ hs
  · exact fun _ _ _ hpost => hpost
  · -- the record is removed, and the job ended where its upload URL has
    intro code t ht hpost
    refine (Holds.bind (Holds.of_uses hone hdelete) fun _ => ?_) n t ht hpost
    refine Holds.of_ordinary hone (Handler.Uses.bind (uses_persistResult _) fun _ => ?_)
    refine Handler.Uses.bind (uses_ask _) fun stream => ?_
    split
    · refine Handler.Uses.bind (terminateStreamJob_uses ?_) fun _ => trivial
      exact Finset.mem_singleton_self _
    · trivial
  · rw [Handler.lift_bind]
    have hverify : Holds call (insert (.webhook digest) {.job}) verifyReadyProviderAsset :=
      Holds.of_ordinary hboth verifyReadyProviderAsset_uses
    refine (hverify n s hs hkeys).bind hs (fun verified t ht hpost => ?_)
      fun _ _ _ hpost => hsub.trans hpost
    split
    · have hstore : Holds call (insert (.webhook digest) {.job}) (do
          put .job
          transaction (.persistResult false)
          updateAdmission
          put (.webhook digest)
          return true : RecordHandler Bool) := by
        refine Holds.of_ordinary hboth (Handler.Uses.bind (uses_put (.inr hmem)) fun _ => ?_)
        refine Handler.Uses.bind (uses_persistResult _) fun _ => ?_
        refine Handler.Uses.bind (uses_demand _ _) fun _ => ?_
        refine Handler.Uses.bind (uses_put (.inr ?_)) fun _ => trivial
        exact Finset.mem_insert_self _ _
      exact hstore.safe_of_subset hsub ht hpost
    · have hpending : Holds call {.job} (do
          Handler.perform "storage_failed" (.deleteWebhook digest)
          return false : RecordHandler Bool) :=
        Holds.bind (Holds.of_uses hone hdelete) fun _ => Holds.of_uses hone trivial
      exact hpending n t ht (hsub.trans hpost)

theorem acceptReadiness_holds (digest : String) :
    Holds call {.job} (acceptReadiness digest) := by
  have hheld : Held call {.job} := .inl hqueued
  have hmem : RecordKey.job ∈ ({.job} : Finset RecordKey) := Finset.mem_singleton_self _
  refine Holds.bind (Holds.of_ordinary hheld (uses_ask _)) fun legacy => ?_
  split
  · exact Holds.of_ordinary hheld (settleLegacyProfileJob_uses hmem)
  · refine Holds.bind (Holds.of_ordinary hheld (uses_ask _)) fun proven => ?_
    split
    · exact Holds.of_uses hheld trivial
    · intro n s hs hkeys
      rw [numbered, Handler.lift_bind]
      change recordDiscipline.Safe call _ ((numbered n (transaction (.takeWebhook digest))).bind _) s
      -- a new event's record is there once the transaction has passed
      refine Discipline.Safe.bind (Q := fun result t => {.job} ⊆ t.keys ∧
        (result = .ok false → .webhook digest ∈ t.keys)) ?_ hs (fun seen t ht hpost => ?_)
        fun _ _ _ hpost => hpost.1
      · intro t hst ht
        have hjob := held_rely hheld hkeys hst
        refine ⟨⟨hjob, nofun⟩, fun i b u _ hexec => ?_⟩
        change exec _ ⟨n, .takeWebhook digest⟩ i t = some (b, u) at hexec
        have hharmless : Harmless call {.job} (NumberedOp.mk n (.takeWebhook digest)).op :=
          ⟨fun _ _ => trivial, .inl rfl⟩
        obtain ⟨hu, hguar, hheldu⟩ := exec_harmless hharmless ht hjob hexec
        refine ⟨hu, hguar, ?_, hheldu, nofun⟩
        cases b with
        | error code => exact ⟨hheldu, nofun⟩
        | ok seen =>
          refine ⟨hheldu, fun hseen => ?_⟩
          cases hseen
          have hout := Option.some.inj hexec
          split at hout
          · cases hout
          · rcases checked_cases hout with ⟨-, hpair⟩ | ⟨-, hpair⟩
            · cases hpair
              exact Finset.mem_insert_self _ _
            · cases hpair
      · split
        · refine (Holds.of_ordinary hheld (Handler.Uses.bind (uses_ask _) fun uploading => ?_))
            n t ht hpost.1
          split
          · trivial
          · exact finishEvent_uses hmem
        · next hseen =>
            have hnew := hpost.2 (by rw [Bool.eq_false_iff.mpr hseen])
            have hsafe := verifyEvent_safe hqueued (n := n) ht (Finset.insert_subset hnew hpost.1)
            change recordDiscipline.Safe call _ (numbered n (verifyEvent digest >>= _)) t
            rw [numbered, Handler.lift_bind]
            refine hsafe.bind ht (fun verified v hv hpost => ?_) fun _ _ _ hpost => hpost
            split
            · exact Holds.of_ordinary hheld (finishEvent_uses hmem) n v hv hpost
            · exact hpost

theorem handleProviderEvent_holds (digest : String) :
    Holds call {.job} (handleProviderEvent digest) := by
  have hheld : Held call {.job} := .inl hqueued
  have hmem : RecordKey.job ∈ ({.job} : Finset RecordKey) := Finset.mem_singleton_self _
  refine Holds.bind (Holds.of_ordinary hheld (uses_ask _)) fun ours => ?_
  split
  · refine Holds.bind (Holds.of_ordinary hheld (expireLegacyProfileJob_uses hmem))
      fun legacyExpired => ?_
    split
    · exact Holds.of_uses hheld trivial
    · refine Holds.bind (Holds.of_ordinary hheld (uses_ask _)) fun expired => ?_
      split
      · exact Holds.of_ordinary hheld (expireJob_uses hmem)
      · refine Holds.bind (Holds.of_ordinary hheld (uses_ask _)) fun terminal => ?_
        split
        · exact Holds.of_uses hheld trivial
        · refine Holds.bind (Holds.of_ordinary hheld (uses_ask _)) fun readiness => ?_
          split
          · refine Holds.bind (Holds.of_ordinary hheld (uses_ask _)) fun published => ?_
            split
            · refine Holds.of_ordinary hheld (Handler.Uses.bind (uses_demand _ _) fun _ => ?_)
              exact uses_ensureReconcile
            · exact acceptReadiness_holds hqueued digest
          · exact Holds.of_ordinary hheld (recordProgress_uses hmem)
  · exact Holds.of_uses hheld trivial

theorem pollStreamUpload_holds (digest : String) :
    Holds call {.job} (pollStreamUpload digest) := by
  have hheld : Held call {.job} := .inl hqueued
  have hmem : RecordKey.job ∈ ({.job} : Finset RecordKey) := Finset.mem_singleton_self _
  refine Holds.bind (Holds.of_ordinary hheld (uses_ask _)) fun due => ?_
  split
  · refine Holds.bind (Holds.of_ordinary hheld (uses_ask _)) fun ended => ?_
    split
    · exact Holds.of_ordinary hheld (terminateStreamJob_uses hmem)
    · refine Holds.bind (Holds.of_ordinary hheld (uses_ask _)) fun ready => ?_
      split
      · exact handleProviderEvent_holds hqueued digest
      · refine Holds.of_ordinary hheld (Handler.Uses.bind (uses_ask _) fun tracked => ?_)
        refine Handler.Uses.bind (uses_putWhen (.inr hmem)) fun _ => ?_
        refine Handler.Uses.bind (uses_ask _) fun stuck => ?_
        split
        · exact terminateStreamJob_uses hmem
        · refine Handler.Uses.bind (uses_ask _) fun moved => ?_
          exact uses_putWhen (.inr hmem)
  · exact Holds.of_uses hheld trivial

theorem readJob_holds {f : Bool → RecordHandler α} (hf : ∀ found, Holds call {.job} (f found)) :
    Holds call {.job} (Records.read .job >>= f) :=
  Holds.read (.inl hqueued) (hf false) fun _ _ hs hkeys =>
    (hf true).safe_of_subset subset_rfl hs ((Finset.subset_insert _ _).trans hkeys)

theorem runWhen_holds {due : Bool} {p : RecordHandler Unit} (hp : Holds call {.job} p) :
    Holds call {.job} (runWhen due p) := by
  unfold runWhen
  split
  · exact hp
  · exact Holds.of_uses (.inl hqueued) trivial

theorem reconcileUpload_holds (digest : String) :
    Holds call {.job} (reconcileUpload digest) := by
  have hheld : Held call {.job} := .inl hqueued
  have hmem : RecordKey.job ∈ ({.job} : Finset RecordKey) := Finset.mem_singleton_self _
  refine Holds.bind (Holds.of_ordinary hheld (uses_ask _)) fun stream => ?_
  split
  · exact pollStreamUpload_holds hqueued digest
  · refine Holds.bind (Holds.of_ordinary hheld (uses_ask _)) fun due => ?_
    split
    · refine Holds.bind (Holds.of_ordinary hheld (uses_ask _)) fun expired => ?_
      split
      · refine Holds.of_ordinary hheld (Handler.Uses.bind (uses_put (.inr hmem)) fun _ => ?_)
        refine Handler.Uses.bind (uses_persistResult _) fun _ => ?_
        exact uses_demand _ _
      · refine Holds.bind (Holds.of_ordinary hheld (uses_ask _)) fun waiting => ?_
        split
        · exact Holds.of_uses hheld trivial
        · refine Holds.bind (Holds.of_ordinary hheld (uses_put (.inl rfl))) fun _ => ?_
          apply Holds.rescue
          · refine Holds.bind (Holds.of_ordinary hheld (uses_demand _ _)) fun _ => ?_
            refine Holds.bind (Holds.of_ordinary hheld (uses_demand _ _)) fun _ => ?_
            refine readJob_holds hqueued fun existing => ?_
            refine Holds.bind (runWhen_holds hqueued (handleProviderEvent_holds hqueued digest))
              fun _ => ?_
            refine Holds.of_ordinary hheld (Handler.Uses.bind (uses_demand _ _) fun _ => ?_)
            exact uses_put (.inl rfl)
          · intro code
            refine Holds.of_ordinary hheld (Handler.Uses.bind (uses_putWhen (.inl rfl)) fun _ => ?_)
            exact Handler.Uses.bind (uses_persistResult _) fun _ => trivial
    · exact Holds.of_uses hheld trivial

theorem tryProcessSalesSuspension_holds (jobId : String) :
    Holds call {.job} (tryProcessSalesSuspension jobId) := by
  have hheld : Held call {.job} := .inl hqueued
  refine Holds.bind (Holds.of_ordinary hheld (uses_ask _)) fun allowed => ?_
  split
  · refine Holds.read hheld ?_ fun n s hs hkeys => ?_
    · exact Holds.of_uses hheld trivial
    · -- the outbox record is there, and nothing removes it
      have hconfirm : Holds call (insert (.outbox (suspensionKey jobId)) {.job})
          ((do
            let suspended ← ask "record.state !== 'CONFIRMED' && result.suspended === true"
            putWhen suspended (.outbox (suspensionKey jobId)) : RecordHandler Unit).rescue
              fun _ => return ()) := by
        refine Holds.rescue (Holds.of_ordinary (.inl hqueued) ?_) fun _ =>
          Holds.of_uses (.inl hqueued) trivial
        refine Handler.Uses.bind (uses_ask _) fun suspended => ?_
        exact uses_putWhen (.inr (Finset.mem_insert_self _ _))
      exact hconfirm.safe_of_subset (Finset.subset_insert _ _) hs hkeys
  · exact Holds.of_uses hheld trivial

theorem persistDriftReconcile_holds (jobId : String) :
    Holds call {.job} (persistDriftReconcile jobId) := by
  have hheld : Held call {.job} := .inl hqueued
  refine Holds.bind (Holds.of_ordinary hheld (uses_ask _)) fun confirmed => ?_
  refine Holds.bind (Holds.of_ordinary hheld (uses_ask _)) fun due => ?_
  have henqueue : Holds call {.job} (enqueueSalesSuspension jobId) := by
    refine Holds.of_uses hheld (Handler.Uses.bind ?_ fun _ => trivial)
    refine Handler.Uses.bind (Handler.Uses.perform ?_) fun result => Handler.Uses.ofExcept result
    exact ⟨fun _ _ => trivial, .inl rfl⟩
  refine Holds.bind (runWhen_holds hqueued henqueue) fun _ => ?_
  refine Holds.bind (runWhen_holds hqueued (tryProcessSalesSuspension_holds hqueued jobId))
    fun _ => ?_
  exact Holds.of_ordinary hheld (uses_put (.inl rfl))

theorem reconcilePublishedJob_holds (jobId : String) :
    Holds call {.job} (reconcilePublishedJob jobId) := by
  have hheld : Held call {.job} := .inl hqueued
  refine Holds.bind (tryProcessSalesSuspension_holds hqueued jobId) fun _ => ?_
  have hview : viewProvider.Uses fun op => Ordinary ({.job} : Finset RecordKey) op := by
    apply Handler.Uses.rescue
    · refine Handler.Uses.bind verifyReadyProviderAsset_uses fun verified => ?_
      split
      · exact Handler.Uses.bind (uses_ask _) fun _ => trivial
      · trivial
    · exact fun _ => Handler.Uses.bind (uses_ask _) fun _ => trivial
  refine Holds.bind (Holds.of_ordinary hheld hview) fun provider => ?_
  cases provider with
  | pending => exact Holds.of_uses hheld trivial
  | drifted => exact persistDriftReconcile_holds hqueued jobId
  | unknown => exact Holds.of_ordinary hheld (uses_put (.inl rfl))
  | matching =>
    refine Holds.bind (Holds.of_ordinary hheld (uses_ask _)) fun drifted => ?_
    split
    · exact persistDriftReconcile_holds hqueued jobId
    · exact Holds.of_ordinary hheld (uses_put (.inl rfl))

end Queued

/-! ## Calls -/

theorem held_empty : Held call ∅ := .inr (Finset.empty_subset _)

theorem held_job : Held call {.job} := .inr subset_rfl

/-- What a program that has found the job does is safe where the job may be missing. -/
theorem Holds.of_job {p : RecordHandler α} (h : Holds call {.job} p) {n : Nat} {s : JobObject}
    (hs : recordDiscipline.inv s) (hjob : .job ∈ s.keys) :
    recordDiscipline.Safe call (fun _ t => (∅ : Finset RecordKey) ⊆ t.keys) (numbered n p) s :=
  h.safe_of_subset (Finset.empty_subset _) hs (Finset.singleton_subset_iff.mpr hjob)

/-- A transaction after which the job is there. -/
theorem Holds.taken {op : RecordOp (Except String α)} {f : α → RecordHandler β}
    (hop : Harmless call ∅ op)
    (hjob : ∀ n i s a t, exec _ ⟨n, op⟩ i s = some (.ok a, t) → .job ∈ t.keys)
    (hf : ∀ a, Holds call {.job} (f a)) : Holds call ∅ (transaction op >>= f) := by
  intro n s hs hkeys
  rw [numbered, Handler.lift_bind]
  refine Discipline.Safe.bind (Q := fun result t => ∀ a, result = .ok a → .job ∈ t.keys) ?_ hs
    (fun a t ht hpost => (hf a).of_job ht (hpost a rfl)) fun _ _ _ _ => Finset.empty_subset _
  intro t hst ht
  refine ⟨nofun, fun i b u _ hexec => ?_⟩
  change exec _ ⟨n, op⟩ i t = some (b, u) at hexec
  have hharmless : Harmless call ∅ (NumberedOp.mk n op).op := hop
  obtain ⟨hu, hguar, -⟩ := exec_harmless hharmless ht (Finset.empty_subset _) hexec
  refine ⟨hu, hguar, ?_, nofun⟩
  cases b with
  | error code => exact nofun
  | ok a =>
    rintro a' -
    exact hjob n i t a u hexec

/-- A record is looked up by a call that holds none. -/
theorem Holds.readJob {f : Bool → RecordHandler α} (hfalse : Holds call ∅ (f false))
    (htrue : Holds call {.job} (f true)) : Holds call ∅ (Records.read .job >>= f) := by
  refine Holds.read held_empty hfalse fun n s hs hkeys => ?_
  exact htrue.of_job hs (hkeys (Finset.mem_insert_self _ _))

theorem reserve_job {deviceNonce : String} {recovery a : Bool}
    (h : exec _ ⟨n, .reserve deviceNonce recovery⟩ i s = some (.ok a, t)) : .job ∈ t.keys := by
  have hout := Option.some.inj h
  split at hout
  · cases hout
  · split at hout
    · next hjob =>
        rcases checked_cases hout with ⟨-, hpair⟩ | ⟨-, hpair⟩
        · split at hpair
          · cases hpair
            exact Finset.mem_insert_of_mem hjob
          · cases hpair
        · cases hpair
    · rcases checked_cases hout with ⟨-, hpair⟩ | ⟨-, hpair⟩
      · split at hpair
        · cases hpair
        · split at hpair
          · cases hpair
            exact Finset.mem_insert_self _ _
          · cases hpair
      · cases hpair

theorem takeNonce_job {deviceNonce : String} {a : Unit}
    (h : exec _ ⟨n, .takeNonce deviceNonce true⟩ i s = some (.ok a, t)) : .job ∈ t.keys := by
  have hout := Option.some.inj h
  split at hout
  · cases hout
  · split at hout
    · cases hout
    · next hmissing =>
        rcases checked_cases hout with ⟨-, hpair⟩ | ⟨-, hpair⟩
        · cases hpair
          rw [not_and, not_not] at hmissing
          exact Finset.mem_insert_of_mem (hmissing rfl).1
        · cases hpair

theorem cancelJob_job {deviceNonce : String} {a : Unit}
    (h : exec _ ⟨n, .cancelJob deviceNonce⟩ i s = some (.ok a, t)) : .job ∈ t.keys := by
  have hout := Option.some.inj h
  split at hout
  · cases hout
  · split at hout
    · cases hout
    · next hmissing =>
        rw [not_not] at hmissing
        rcases checked_cases hout with ⟨-, hpair⟩ | ⟨-, hpair⟩
        · split at hpair
          · cases hpair
            exact Finset.mem_insert_of_mem hmissing.1
          · split at hpair
            · cases hpair
              exact Finset.mem_insert_self _ _
            · cases hpair
        · cases hpair

theorem reserveUploadIntent_holds {deviceNonce digest : String} {recovery : Option String}
    (hqueued : call.queued = true) :
    Holds call ∅ (reserveUploadIntent deviceNonce recovery digest) := by
  have hheld : Held call {.job} := held_job
  have hmem : RecordKey.job ∈ ({.job} : Finset RecordKey) := Finset.mem_singleton_self _
  refine Holds.bind (Holds.of_ordinary held_empty (uses_demand _ _)) fun _ => ?_
  refine Holds.taken ⟨fun _ _ => trivial, .inl rfl⟩ (fun _ _ _ _ _ h => reserve_job h) fun _ => ?_
  split
  · refine Holds.bind (reconcileUpload_holds hqueued digest) fun _ => ?_
    refine Holds.of_ordinary hheld (Handler.Uses.bind (uses_ask _) fun uploading => ?_)
    split
    · trivial
    · exact uses_persistResult _
  · split
    · exact Holds.of_ordinary hheld (resumeUpload_uses hmem)
    · refine Holds.of_ordinary hheld (Handler.Uses.bind (uses_ask _) fun reused => ?_)
      split
      · exact renewLease_uses hmem
      · exact createUpload_uses hmem

theorem heartbeatUploadLease_holds (deviceNonce : String) :
    Holds call ∅ (heartbeatUploadLease deviceNonce) := by
  have hmem : RecordKey.job ∈ ({.job} : Finset RecordKey) := Finset.mem_singleton_self _
  refine Holds.bind (Holds.of_ordinary held_empty (uses_demand _ _)) fun _ => ?_
  refine Holds.taken ⟨fun _ _ => trivial, .inl rfl⟩ (fun _ _ _ _ _ h => takeNonce_job h)
    fun _ => ?_
  refine Holds.of_ordinary held_job (Handler.Uses.bind (uses_ask _) fun renewed => ?_)
  split
  · exact uses_put (.inr hmem)
  · refine Handler.Uses.bind (uses_ask _) fun stream => ?_
    split
    · exact Handler.Uses.bind (terminateStreamJob_uses hmem) fun _ => trivial
    · refine Handler.Uses.bind (uses_put (.inr hmem)) fun _ => ?_
      refine Handler.Uses.bind (uses_persistResult _) fun _ => ?_
      exact Handler.Uses.bind (uses_demand _ _) fun _ => trivial

theorem cancelUpload_holds (deviceNonce : String) : Holds call ∅ (cancelUpload deviceNonce) := by
  refine Holds.bind (Holds.of_ordinary held_empty (uses_demand _ _)) fun _ => ?_
  refine Holds.taken ⟨fun _ _ => trivial, .inl rfl⟩ (fun _ _ _ _ _ h => cancelJob_job h)
    fun _ => ?_
  refine Holds.of_ordinary held_job (Handler.Uses.bind (uses_persistResult _) fun _ => ?_)
  exact uses_demand _ _

theorem advanceAlarm_holds {jobId digest : String} (hqueued : call.queued = true) :
    Holds call ∅ (advanceAlarm jobId digest) := by
  have hheld : Held call {.job} := held_job
  have hmem : RecordKey.job ∈ ({.job} : Finset RecordKey) := Finset.mem_singleton_self _
  have hpurge {op : RecordOp Unit} (hfits : ∀ stored, op.Fits stored) :
      Holds call ∅ (Handler.perform "storage_failed" op : RecordHandler Unit) :=
    Holds.of_uses held_empty (Handler.Uses.perform
      ⟨fun stored _ => hfits stored, .inr ⟨hqueued, Finset.empty_subset _⟩⟩)
  refine Holds.bind (Holds.of_ordinary held_empty (uses_demand _ _)) fun _ => ?_
  refine Holds.bind (hpurge fun _ => trivial) fun _ => ?_
  refine Holds.bind (hpurge fun _ => trivial) fun _ => ?_
  refine Holds.readJob (Holds.of_uses held_empty trivial) ?_
  refine Holds.bind (Holds.of_ordinary hheld (uses_ask _)) fun archiving => ?_
  split
  · refine Holds.of_ordinary hheld (Handler.Uses.bind (uses_ask _) fun due => ?_)
    split
    · exact Handler.Uses.bind (uses_ask _) fun _ => uses_put (.inr hmem)
    · trivial
  · refine Holds.bind (Holds.of_ordinary hheld (uses_ask _)) fun enabled => ?_
    split
    · refine Holds.bind (Holds.of_ordinary hheld (expireLegacyProfileJob_uses hmem))
        fun legacyExpired => ?_
      split
      · exact Holds.of_uses hheld trivial
      · refine Holds.bind (Holds.of_ordinary hheld (uses_ask _)) fun published => ?_
        split
        · refine Holds.bind (Holds.of_ordinary hheld (uses_ask _)) fun finalizing => ?_
          split
          · exact Holds.of_ordinary hheld (advanceFinalization_uses hmem)
          · refine Holds.bind (Holds.of_ordinary hheld (uses_ask _)) fun onchain => ?_
            split
            · exact reconcilePublishedJob_holds hqueued jobId
            · exact Holds.of_uses hheld trivial
        · refine Holds.bind (Holds.of_ordinary hheld (uses_ask _)) fun verifying => ?_
          split
          · exact handleProviderEvent_holds hqueued digest
          · exact reconcileUpload_holds hqueued digest
    · exact Holds.of_uses hheld trivial

theorem handleLivepeerWebhook_holds {digest : String} (hqueued : call.queued = true) :
    Holds call ∅ (handleLivepeerWebhook digest) := by
  refine Holds.readJob ?_ ?_
  · exact Holds.bind (Holds.of_ordinary held_empty (uses_demand _ _)) fun _ =>
      Holds.of_uses held_empty trivial
  · exact Holds.bind (Holds.of_ordinary held_job (uses_demand _ _)) fun _ =>
      handleProviderEvent_holds hqueued digest

theorem deletePublicBetaAsset_holds : Holds call ∅ deletePublicBetaAsset := by
  refine Holds.readJob (Holds.of_uses held_empty trivial) ?_
  refine Holds.of_ordinary held_job (Handler.Uses.bind (uses_ask _) fun duplicate => ?_)
  split
  · trivial
  · refine Handler.Uses.bind (uses_demand _ _) fun _ => ?_
    exact uses_put (.inr (Finset.mem_singleton_self _))

theorem program_holds (call : JobCall) : Holds call ∅ (program call) := by
  cases call with
  | intent deviceNonce recovery digest => exact reserveUploadIntent_holds rfl
  | heartbeat deviceNonce => exact heartbeatUploadLease_holds deviceNonce
  | cancel deviceNonce => exact cancelUpload_holds deviceNonce
  | playbackToken deviceNonce =>
    refine Holds.bind (Holds.of_ordinary held_empty (uses_demand _ _)) fun _ => ?_
    refine Holds.bind (Holds.of_uses held_empty ?_) fun _ =>
      Holds.of_ordinary held_empty (uses_demand _ _)
    refine Handler.Uses.bind (Handler.Uses.perform ?_) fun result =>
      Handler.Uses.ofExcept result
    exact ⟨fun _ _ => trivial, .inl rfl⟩
  | outbox idempotencyKey =>
    refine Holds.of_uses held_empty (Handler.Uses.bind ?_ fun _ => trivial)
    refine Handler.Uses.bind (Handler.Uses.perform ?_) fun result =>
      Handler.Uses.ofExcept result
    exact ⟨fun _ _ => trivial, .inl rfl⟩
  | webhook digest => exact handleLivepeerWebhook_holds rfl
  | deleteAsset => exact deletePublicBetaAsset_holds
  | alarm jobId digest => exact advanceAlarm_holds rfl

/-- Every call keeps the bound. -/
theorem call_safe (call : JobCall) (s : JobObject) (_ : recordDiscipline.inv s) :
    recordDiscipline.Safe call Discipline.Anywhere (recordSystem.handle call) s := by
  have hbegin : Holds call ∅ (handle call) := by
    refine Holds.bind (Holds.of_uses held_empty (Handler.Uses.perform ?_)) fun _ =>
      program_holds call
    exact ⟨fun _ _ => trivial, .inl rfl⟩
  intro t hst ht
  refine ⟨trivial, fun i b u _ hexec => ?_⟩
  change exec _ ⟨0, .accept⟩ i t = some (b, u) at hexec
  have haccept : Harmless call ∅ (NumberedOp.mk 0 .accept).op := ⟨fun _ _ => trivial, .inl rfl⟩
  obtain ⟨hu, hguar, -⟩ := exec_harmless haccept ht (Finset.empty_subset _) hexec
  refine ⟨hu, hguar, ?_, trivial⟩
  exact (hbegin b u hu (Finset.empty_subset _)).mono fun _ _ _ => trivial

end Discipline

end Youtick.Bridge.Records
