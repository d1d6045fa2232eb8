import Youtick.Bridge.OperatorJournal
import Youtick.Bridge.OperatorRequests

/-!
# Bridge: runs of the operator object

Every request and every alarm keeps `OutboxSound` with each of its operations, whatever happens to
it: `operatorDiscipline` is the discipline, and one lemma for each part of the program shows it
safe. While a task runs, nothing else writes records or the journal, so what a part knows of them
stays true until its own next operation.
-/

set_option autoImplicit false

namespace Youtick.Bridge

open Youtick.Lib

/-! ## One operation -/

/-- The journal grows, and a conflict leaves the records and the nonce counter alone. -/
def OutboxStep (s t : OperatorObject) : Prop :=
  ∃ facts, t.journal = s.journal ++ facts ∧ ((∃ fact ∈ facts, fact.Conflicts) →
    t.records = s.records ∧ t.lastNonce = s.lastNonce)

theorem OutboxStep.quiet {s t : OperatorObject} (h : t.journal = s.journal) : OutboxStep s t :=
  ⟨[], by rw [h, List.append_nil], fun ⟨_, hmem, _⟩ => nomatch hmem⟩

theorem OutboxStep.single {s t : OperatorObject} {fact : OutboxFact}
    (h : t.journal = s.journal ++ [fact]) (hfact : ¬ fact.Conflicts) : OutboxStep s t := by
  refine ⟨[fact], h, ?_⟩
  rintro ⟨g, hg, hconflict⟩
  exact absurd (List.mem_singleton.mp hg ▸ hconflict) hfact

theorem OutboxStep.same {s t : OperatorObject} {fact : OutboxFact}
    (h : t.journal = s.journal ++ [fact]) (hrecords : t.records = s.records)
    (hnonce : t.lastNonce = s.lastNonce) : OutboxStep s t :=
  ⟨[fact], h, fun _ => ⟨hrecords, hnonce⟩⟩

/-- What the first transaction of a request leaves. -/
theorem openRecord_spec {s u : OperatorObject} {key payloadSha256 : String} {method : OutboxMethod}
    {nowMs : Nat} {result : Result (OperatorRecord × Bool)}
    (h : s.openRecord key payloadSha256 method nowMs = (result, u)) :
    OutboxStep s u ∧ (∀ code, result = .error code → code = "outbox_conflict") ∧
      ∀ record done, result = .ok (record, done) → u.records.get key = some record ∧
        (Clear s.journal (some key) → Clear u.journal (some key)) ∧
        (done = true → Clear s.journal (some key) → Grounded u.journal key) := by
  unfold OperatorObject.openRecord at h
  cases hget : s.records.get key with
  | none =>
    rw [hget] at h
    cases h
    refine ⟨OutboxStep.single rfl id, fun _ hr => (by cases hr), ?_⟩
    rintro record done hr
    cases hr
    exact ⟨LookupMap.get_insert_self _ _ _, fun hclear => hclear.append id id,
      fun hdone => (by cases hdone)⟩
  | some existing =>
    simp only [hget] at h
    cases hopen : openExisting existing payloadSha256 method with
    | error code =>
      rw [hopen] at h
      cases h
      refine ⟨OutboxStep.same rfl rfl rfl, ?_, fun _ _ hr => (by cases hr)⟩
      rintro _ ⟨⟩
      exact (openExisting_eq_error hopen).1
    | ok opened =>
      obtain ⟨record, done⟩ := opened
      obtain ⟨hallowed, hconfirmed, -, -⟩ := openExisting_eq_ok hopen
      have hfree : ¬ (OutboxFact.opened key payloadSha256 method (some existing)).Conflicts :=
        hallowed
      rw [hopen] at h
      cases done with
      | true =>
        cases h
        refine ⟨OutboxStep.same rfl rfl rfl, fun _ hr => (by cases hr), ?_⟩
        rintro _ _ ⟨⟩
        have hrecord : record = existing := by
          unfold openExisting at hopen
          split_ifs at hopen <;> cases hopen
          rfl
        refine ⟨hrecord ▸ hget, fun hclear => hclear.append id hfree, fun _ hclear => ?_⟩
        exact hclear.ground id ⟨rfl, hconfirmed rfl⟩
      | false =>
        simp only [Prod.mk.injEq] at h
        obtain ⟨rfl, rfl⟩ := h
        refine ⟨?_, fun _ hr => (by cases hr), ?_⟩
        · split
          · exact OutboxStep.single rfl hfree
          · refine ⟨[.opened key payloadSha256 method (some existing), .rekeyed key], ?_, ?_⟩
            · simp [OperatorObject.log]
            · rintro ⟨fact, hmem, hconflict⟩
              simp only [List.mem_cons, List.not_mem_nil, or_false] at hmem
              rcases hmem with rfl | rfl
              · exact absurd hconflict hfree
              · exact hconflict.elim
        · rintro _ _ ⟨⟩
          refine ⟨?_, fun hclear => ?_, fun hdone => (by cases hdone)⟩
          · split <;> exact LookupMap.get_insert_self _ _ _
          · split
            · exact hclear.append id hfree
            · exact (hclear.append id hfree).append id id

/-- What the reservation of a nonce leaves. -/
theorem reserveNonce_spec {s u : OperatorObject} {key : String} {accessKey : AccessKey}
    {result : Result OperatorRecord} {record : OperatorRecord}
    (hget : s.records.get key = some record) (hunsigned : record.signedTxBase64 = none)
    (h : s.reserveNonce key accessKey = (result, u)) :
    OutboxStep s u ∧ (Clear s.journal (some key) → Clear u.journal (some key)) ∧
      ∃ reserved, result = .ok reserved ∧ u.records.get key = some reserved ∧
        reserved.signedTxBase64 = none := by
  unfold OperatorObject.reserveNonce at h
  simp only [hget] at h
  split at h
  · cases h
    exact ⟨OutboxStep.quiet rfl, id, record, rfl, hget, hunsigned⟩
  · cases h
    exact ⟨OutboxStep.single rfl id, fun hclear => hclear.append id id, _, rfl,
      LookupMap.get_insert_self _ _ _, hunsigned⟩

theorem exec_step {β : Type} {op : OperatorOp β} {i : OperatorInput} {s u : OperatorObject} {b : β}
    (h : OperatorOp.exec β op i s = some (b, u)) : OutboxStep s u := by
  cases op with
  | openRecord key payloadSha256 method => exact (openRecord_spec (Option.some.inj h)).1
  | reserveNonce key accessKey =>
    have hres := Option.some.inj h
    unfold OperatorObject.reserveNonce at hres
    split at hres
    · cases hres
      exact OutboxStep.quiet rfl
    · split at hres
      · cases hres
        exact OutboxStep.quiet rfl
      · cases hres
        exact OutboxStep.single rfl id
  | begin key | effectCheck key | queryTransaction hash | sendTransaction base64
  | putRecord key record | deleteRecord key why | respond key result =>
    cases h
    exact OutboxStep.single rfl id
  | now | preflight | ticketStatus | readAccessKey | startScan | readScan | putScan scan
  | listRecords after limit | commitArchive =>
    cases h
    exact OutboxStep.quiet rfl

/-! ## The discipline -/

/-- Nothing but the archive scan differs. -/
def SameOutbox (s t : OperatorObject) : Prop :=
  t.records = s.records ∧ t.lastNonce = s.lastNonce ∧ t.journal = s.journal

theorem OutboxSound.congr {s t : OperatorObject} (h : OutboxSound s) (hst : SameOutbox s t) :
    OutboxSound t := by
  obtain ⟨hrecords, hlast, hjournal⟩ := hst
  obtain ⟨records, lastNonce, scan, journal⟩ := t
  cases hrecords
  cases hlast
  cases hjournal
  exact ⟨h.lawful, h.bounded, h.current, h.stored⟩

/-- Tasks run one at a time; while one runs, nothing else writes records or the journal. -/
def operatorDiscipline (signer : OperatorSigner) : Discipline (operatorSystem signer) where
  inv := OutboxSound
  meets := fun _ _ => True
  rely := fun _ => SameOutbox
  guar := fun _ => OutboxStep
  rely_refl := fun _ _ => ⟨rfl, rfl, rfl⟩
  rely_trans := fun _ _ _ _ hst htu =>
    ⟨htu.1.trans hst.1, htu.2.1.trans hst.2.1, htu.2.2.trans hst.2.2⟩
  guar_rely := fun _ _ _ _ hsolo => nomatch hsolo
  world := by
    rintro e s t hs ht
    cases ht
    exact ⟨hs.congr ⟨rfl, rfl, rfl⟩, fun _ => ⟨rfl, rfl, rfl⟩⟩

section Safe

variable {signer : OperatorSigner} {task : OperatorTask} {key : String} {τ : Type}

/-- How a part of a request may fail: with the refusal, with a failed storage, or without a
conflict; and a failed transaction is the only one there was. -/
def Failed (key code : String) (t : OperatorObject) : Prop :=
  (code = "outbox_conflict" ∨ code = storageError ∨ Clear t.journal (some key)) ∧
    (code = finalizeFailed → Clear t.journal (some key) ∧
      ∀ base64 hash, ¬ Outstanding t.journal key base64 hash)

/-- Where a part of a request ends. -/
def Ends (key : String) (Q : τ → OperatorObject → Prop) :
    Except String τ → OperatorObject → Prop
  | .ok a, t => Q a t
  | .error code, t => Failed key code t

theorem failed_of_clear {code : String} {t : OperatorObject} (h : Clear t.journal (some key))
    (hcode : code ≠ finalizeFailed) : Failed key code t :=
  ⟨.inr (.inr h), fun hc => absurd hc hcode⟩

/-- The rule for the next operation of a part. -/
theorem safe_perform {β : Type} {op : OperatorOp β} {code : String} {f : β → OperatorHandler τ}
    {Q : τ → OperatorObject → Prop} {s : OperatorObject} (hcode : code ≠ finalizeFailed)
    (hbefore : code = storageError ∨ Clear s.journal (some key))
    (h : ∀ t i b u, SameOutbox s t → OutboxSound t → OperatorOp.exec β op i t = some (b, u) →
      OutboxSound u ∧ (code = storageError ∨ Clear u.journal (some key)) ∧
        (operatorDiscipline signer).Safe task (Ends key Q) (f b) u) :
    (operatorDiscipline signer).Safe task (Ends key Q) (Handler.perform code op >>= f) s := by
  refine Discipline.Safe.perform fun t hst ht => ⟨?_, fun i b u _ hx => ?_⟩
  · refine ⟨?_, fun hc => absurd hc hcode⟩
    rw [hst.2.2]
    exact .inr hbefore
  · obtain ⟨hu, hafter, hnext⟩ := h t i b u hst ht hx
    exact ⟨hu, exec_step hx, hnext, ⟨.inr hafter, fun hc => absurd hc hcode⟩⟩

/-- The rule for an operation whose failure is replaced by a default answer. -/
theorem safe_rescue {β : Type} {op : OperatorOp β} {code : String} {default : β}
    {Q : β → OperatorObject → Prop} {s : OperatorObject}
    (hbefore : ∀ t, SameOutbox s t → Q default t)
    (h : ∀ t i b u, SameOutbox s t → OutboxSound t → OperatorOp.exec β op i t = some (b, u) →
      OutboxSound u ∧ Q b u ∧ Q default u) :
    (operatorDiscipline signer).Safe task (Ends key Q)
      ((Handler.perform code op).rescue fun _ => .done default) s := by
  intro t hst ht
  refine ⟨hbefore t hst, fun i b u _ hx => ?_⟩
  obtain ⟨hu, hq, hd⟩ := h t i b u hst ht hx
  exact ⟨hu, exec_step hx, hq, hd⟩

/-- The rule for two parts in a row. -/
theorem safe_bind {υ : Type} {p : OperatorHandler υ} {f : υ → OperatorHandler τ}
    {P : υ → OperatorObject → Prop} {Q : τ → OperatorObject → Prop} {s : OperatorObject}
    (hs : OutboxSound s) (hp : (operatorDiscipline signer).Safe task (Ends key P) p s)
    (hf : ∀ a t, OutboxSound t → P a t →
      (operatorDiscipline signer).Safe task (Ends key Q) (f a) t) :
    (operatorDiscipline signer).Safe task (Ends key Q) (p >>= f) s :=
  Discipline.Safe.bind hp hs (fun a t ht hpa => hf a t ht hpa) fun _ _ _ he => he

/-! ## The parts of a request -/

/-- The request knows the stored record and has met no conflict. -/
structure Holding (key : String) (record : OperatorRecord) (s : OperatorObject) : Prop where
  get : s.records.get key = some record
  clear : Clear s.journal (some key)

/-- A request ends with an answer it may give. -/
def Answers (key : String) (answer : OutboxAnswer) (t : OperatorObject) : Prop :=
  Clear t.journal (some key) ∧ (answer.confirmed = true → Grounded t.journal key)

namespace Holding

variable {record : OperatorRecord} {s t : OperatorObject}

theorem congr (h : Holding key record s) (hst : SameOutbox s t) : Holding key record t :=
  ⟨hst.1 ▸ h.get, hst.2.2 ▸ h.clear⟩

theorem log {fact : OutboxFact} (h : Holding key record s) (hbegins : ¬ fact.Begins)
    (hconflicts : ¬ fact.Conflicts) : Holding key record (s.log [fact]) :=
  ⟨h.get, h.clear.append hbegins hconflicts⟩

theorem put (h : Holding key record s) (record' : OperatorRecord) :
    Holding key record' { s.log [.put key record'] with
      records := s.records.insert key record' } :=
  ⟨LookupMap.get_insert_self _ _ _, h.clear.append id id⟩

/-- The one transaction that can be outstanding is the record's. -/
theorem holds (h : Holding key record s) (hs : OutboxSound s) {base64 hash : String}
    (hout : Outstanding s.journal key base64 hash) : record.Holds base64 hash := by
  obtain ⟨found, hfound, hholds⟩ := hs.current key base64 hash hout
  rw [h.get] at hfound
  cases hfound
  exact hholds

end Holding

variable {request : OperatorRequest} {s : OperatorObject} {record : OperatorRecord}

/-- The part runs safely from `s` and ends as `Ends` says. -/
abbrev Runs (signer : OperatorSigner) (task : OperatorTask) (key : String)
    (Q : τ → OperatorObject → Prop) (p : OperatorHandler τ) (s : OperatorObject) : Prop :=
  (operatorDiscipline signer).Safe task (Ends key Q) p s

theorem isConfirmed_runs (hclear : Clear s.journal (some request.idempotencyKey)) :
    Runs signer task request.idempotencyKey (fun b t => t.records = s.records ∧
      t.journal = s.journal ++ [.effect request.idempotencyKey b]) (isConfirmed request) s := by
  change Runs _ _ _ _ (Handler.perform networkError _ >>= Handler.done) s
  refine safe_perform (by decide) (.inr hclear) fun t i b u hst ht hx => ?_
  cases hx
  have hclear' : Clear t.journal (some request.idempotencyKey) := hst.2.2 ▸ hclear
  refine ⟨ht.log rfl (fun _ _ _ => id) (fun _ _ hf => nomatch hf) (fun _ _ hf => nomatch hf)
    (.inl hclear'.quiet), .inr (hclear'.append id id), hst.1, ?_⟩
  change t.journal ++ _ = _
  rw [hst.2.2]

/-- The same for a request that knows its record. -/
theorem isConfirmed_holding (h : Holding request.idempotencyKey record s) :
    Runs signer task request.idempotencyKey (fun b t => Holding request.idempotencyKey record t ∧
      t.journal = s.journal ++ [.effect request.idempotencyKey b] ∧
      (b = true → Grounded t.journal request.idempotencyKey)) (isConfirmed request) s := by
  refine (isConfirmed_runs h.clear).mono fun x t hx => ?_
  cases x with
  | error code => exact hx
  | ok b =>
    obtain ⟨hrecords, hjournal⟩ := hx
    refine ⟨⟨hrecords ▸ h.get, ?_⟩, hjournal, ?_⟩
    · rw [hjournal]
      exact h.clear.append id id
    · rintro rfl
      rw [hjournal]
      exact h.clear.ground id ⟨rfl, rfl⟩

theorem persistConfirmed_runs (h : Holding request.idempotencyKey record s)
    (hground : Grounded s.journal request.idempotencyKey) :
    Runs signer task request.idempotencyKey (fun _ t => Clear t.journal (some request.idempotencyKey) ∧
      Grounded t.journal request.idempotencyKey) (persistConfirmed request record) s := by
  refine safe_perform (by decide) (.inl rfl) fun t i nowMs u hst ht hx => ?_
  cases hx
  have h' := h.congr hst
  have hground' : Grounded t.journal request.idempotencyKey := hst.2.2 ▸ hground
  refine ⟨ht, .inl rfl, ?_⟩
  dsimp only
  split
  · refine safe_perform (by decide) (.inl rfl) fun v j _ w hsv hv hx => ?_
    cases hx
    have hclear : Clear v.journal (some request.idempotencyKey) := (h'.congr hsv).clear
    refine ⟨hv.remove hclear.quiet (.inl rfl), .inl rfl, hclear.append id id, ?_⟩
    exact Grounded.append (hsv.2.2 ▸ hground') id
  · refine safe_perform (by decide) (.inl rfl) fun v j _ w hsv hv hx => ?_
    cases hx
    have hclear : Clear v.journal (some request.idempotencyKey) := (h'.congr hsv).clear
    have hground'' : Grounded v.journal request.idempotencyKey := hsv.2.2 ▸ hground'
    refine ⟨hv.put hclear.quiet fun _ _ _ => .inl rfl, .inl rfl, ?_⟩
    split
    · refine safe_perform (by decide) (.inl rfl) fun x j _ y hsx hx' hx => ?_
      cases hx
      refine ⟨hx'.congr ⟨rfl, rfl, rfl⟩, .inl rfl, ?_, ?_⟩
      · change Clear x.journal _
        rw [hsx.2.2]
        exact hclear.append id id
      · change Grounded x.journal _
        rw [hsx.2.2]
        exact hground''.append id
    · exact ⟨hclear.append id id, hground''.append id⟩

theorem succeed_runs (hs : OutboxSound s) (h : Holding request.idempotencyKey record s)
    (hground : Grounded s.journal request.idempotencyKey) :
    Runs signer task request.idempotencyKey (Answers request.idempotencyKey)
      (succeed request record) s := by
  refine safe_bind hs (persistConfirmed_runs h hground) fun confirmed t ht hpost => ?_
  exact ⟨hpost.1, fun _ => hpost.2⟩

/-- A transaction that cannot land was the only outstanding one. -/
theorem Holding.none_of_classified {fact : OutboxFact} (h : Holding key record s)
    (hs : OutboxSound s) (hmem : fact ∈ s.journal)
    (hfact : ∀ base64 hash, record.Holds base64 hash → fact.Classifies base64 hash) :
    ∀ base64 hash, ¬ Outstanding s.journal key base64 hash :=
  fun base64 hash hout => hout.2 fact hmem (hfact base64 hash (h.holds hs hout))

/-- The answer of a look-up; a look-up that fails answers nothing. -/
theorem queryTransaction_runs {hash : String} (h : Holding key record s) :
    Runs signer task key (fun status t => Holding key record t ∧
        (status.Unlandable → .queried hash status ∈ t.journal))
      ((Handler.perform networkError (.queryTransaction hash)).rescue fun _ => .done .unknown) s := by
  refine safe_rescue (fun t hst => ⟨h.congr hst, ?_⟩) fun t i b u hst ht hx => ?_
  · rintro (hc | hc) <;> cases hc
  · cases hx
    have h' := h.congr hst
    refine ⟨ht.log rfl (fun _ _ _ => id) (fun _ _ hf => nomatch hf) (fun _ _ hf => nomatch hf)
      (.inl h'.clear.quiet), ⟨h'.log id id, fun _ => ?_⟩, h'.log id id, ?_⟩
    · simp [OperatorObject.log]
    · rintro (hc | hc) <;> cases hc

theorem poll_runs {hash : String} (hhash : record.txHash = some hash) (rounds : Nat)
    {s : OperatorObject} (hs : OutboxSound s) (h : Holding request.idempotencyKey record s) :
    Runs signer task request.idempotencyKey (fun b t => Holding request.idempotencyKey record t ∧
        (b = true → Grounded t.journal request.idempotencyKey))
      (pollOperatorFinality request hash rounds) s := by
  induction rounds generalizing s with
  | zero => exact ⟨h, fun hb => nomatch hb⟩
  | succ rounds ih =>
    refine safe_bind hs (queryTransaction_runs h) fun status t ht ⟨ht', hstatus⟩ => ?_
    refine safe_bind (P := fun b u => Holding request.idempotencyKey record u ∧
      (∃ more, u.journal = t.journal ++ more) ∧
        (b = true → Grounded u.journal request.idempotencyKey)) ht ?_ fun b u hu hpost => ?_
    · refine safe_rescue (fun u htu => ⟨ht'.congr htu, ⟨[], ?_⟩, fun hb => nomatch hb⟩)
        fun u i b v htu hu hx => ?_
      · rw [htu.2.2, List.append_nil]
      · cases hx
        have hu' := ht'.congr htu
        have hmore : ∃ more, (u.log [.effect request.idempotencyKey i.holds]).journal
            = t.journal ++ more := ⟨_, by rw [← htu.2.2]; rfl⟩
        refine ⟨hu.log rfl (fun _ _ _ => id) (fun _ _ hf => nomatch hf)
          (fun _ _ hf => nomatch hf) (.inl hu'.clear.quiet), ⟨hu'.log id id, hmore, ?_⟩,
          hu'.log id id, hmore, fun hb => nomatch hb⟩
        exact fun hb => hu'.clear.ground id ⟨rfl, hb⟩
    · obtain ⟨hu', ⟨more, hmore⟩, hground⟩ := hpost
      split
      · next hb => exact ⟨hu', fun _ => hground hb⟩
      · split
        · next hunlandable =>
            have hmem : .queried hash status ∈ u.journal := by
              rw [hmore]
              exact List.mem_append_left _ (hstatus hunlandable)
            refine ⟨.inr (.inr hu'.clear), fun _ => ⟨hu'.clear, ?_⟩⟩
            refine hu'.none_of_classified hu hmem fun base64 hash' hholds => ?_
            exact ⟨Option.some.inj (hhash.symm.trans hholds.2), hunlandable⟩
        · exact ih hu hu'

theorem reconcileBroadcast_runs {hash : String} (hhash : record.txHash = some hash)
    (hs : OutboxSound s) (h : Holding request.idempotencyKey record s) :
    Runs signer task request.idempotencyKey (Answers request.idempotencyKey)
      (reconcileBroadcast request record hash) s := by
  refine safe_bind hs (poll_runs hhash 3 hs h) fun b t ht ⟨ht', hground⟩ => ?_
  split
  · next hb => exact succeed_runs ht ht' (hground hb)
  · exact ⟨ht'.clear, fun hb => nomatch hb⟩

/-- After the part the request knows a record without a signed transaction. -/
theorem reserve_runs (h : Holding request.idempotencyKey record s)
    (hunsigned : record.signedTxBase64 = none) :
    Runs signer task request.idempotencyKey (fun reserved t =>
        Holding request.idempotencyKey reserved t ∧ reserved.signedTxBase64 = none)
      (reserve request record) s := by
  unfold reserve
  split
  · exact ⟨h, hunsigned⟩
  · refine safe_perform (by decide) (.inr h.clear) fun t i accessKey u hst ht hx => ?_
    cases hx
    have ht' := h.congr hst
    refine ⟨ht, .inr ht'.clear, ?_⟩
    refine safe_perform (by decide) (.inl rfl) fun u j result v htu hu hx => ?_
    have hu' := ht'.congr htu
    have hx' := Option.some.inj hx
    obtain ⟨-, hclear, reserved, rfl, hget, hreserved⟩ := reserveNonce_spec hu'.get hunsigned hx'
    have hsound : OutboxSound (u.reserveNonce request.idempotencyKey i.accessKey).2 :=
      hu.reserve hu'.clear.quiet hu'.get hunsigned
    rw [hx'] at hsound
    exact ⟨hsound, .inl rfl, ⟨hget, hclear hu'.clear⟩, hreserved⟩

/-- After the part the request knows a record with a stored signed transaction. -/
theorem signRecord_runs (hs : OutboxSound s) (h : Holding request.idempotencyKey record s) :
    Runs signer task request.idempotencyKey (fun signed t =>
        Holding request.idempotencyKey signed t) (signRecord signer request record) s := by
  unfold signRecord
  split
  · exact h
  · next hsigned =>
      have hunsigned : record.signedTxBase64 = none := by simpa using hsigned
      refine safe_bind hs (reserve_runs h hunsigned) fun reserved t ht ⟨ht', hreserved⟩ => ?_
      split
      · refine safe_perform (by decide) (.inl rfl) fun u i _ v htu hu hx => ?_
        cases hx
        have hu' := ht'.congr htu
        refine ⟨hu.put hu'.clear.quiet fun base64 hash hout => ?_, .inl rfl, hu'.put _⟩
        exact nomatch hreserved.symm.trans (hu'.holds hu hout).1
      · exact failed_of_clear ht'.clear (by decide)

theorem markBroadcast_runs (h : Holding request.idempotencyKey record s) :
    Runs signer task request.idempotencyKey (fun marked t =>
        Holding request.idempotencyKey marked t) (markBroadcast request record) s := by
  unfold markBroadcast
  split
  · refine safe_perform (by decide) (.inl rfl) fun t i _ u hst ht hx => ?_
    cases hx
    have ht' := h.congr hst
    exact ⟨ht.put ht'.clear.quiet fun base64 hash hout => .inr (ht'.holds ht hout), .inl rfl,
      ht'.put _⟩
  · exact h

/-- The transaction is sent, which the record holds; a send that fails answers nothing. -/
theorem sendTransaction_runs {base64 : String} (hbase64 : record.signedTxBase64 = some base64)
    (h : Holding key record s) :
    Runs signer task key (fun outcome t => Holding key record t ∧
        (outcome.Unlandable → .sent base64 outcome ∈ t.journal))
      ((Handler.perform networkError (.sendTransaction base64)).rescue fun _ => .done .unknown)
      s := by
  refine safe_rescue (fun t hst => ⟨h.congr hst, ?_⟩) fun t i b u hst ht hx => ?_
  · rintro (hc | hc) <;> cases hc
  · cases hx
    have h' := h.congr hst
    refine ⟨ht.log rfl (fun _ _ _ => id) ?_ (fun _ _ hf => nomatch hf)
      (.inl h'.clear.quiet), ⟨h'.log id id, fun _ => ?_⟩, h'.log id id, ?_⟩
    · rintro b o hf
      cases hf
      exact ht.stored key record base64 h'.get hbase64
    · simp [OperatorObject.log]
    · rintro (hc | hc) <;> cases hc


/-- A record whose transaction cannot land drops it. -/
theorem clear_runs {fact : OutboxFact} {f : Unit → OperatorHandler τ}
    {Q : τ → OperatorObject → Prop} (h : Holding key record s) (hmem : fact ∈ s.journal)
    (hfact : ∀ base64 hash, record.Holds base64 hash → fact.Classifies base64 hash)
    (hf : ∀ t, OutboxSound t → Holding key record.clearSigned t → Runs signer task key Q (f ()) t) :
    Runs signer task key Q
      (Handler.perform storageError (.putRecord key record.clearSigned) >>= f) s := by
  refine safe_perform (by decide) (.inl rfl) fun t i _ u hst ht hx => ?_
  cases hx
  have ht' := h.congr hst
  have hnone := ht'.none_of_classified ht (hst.2.2 ▸ hmem) hfact
  have hsound : OutboxSound { t.log [.put key record.clearSigned] with
      records := t.records.insert key record.clearSigned } :=
    ht.put ht'.clear.quiet fun base64 hash hout => absurd hout (hnone base64 hash)
  exact ⟨hsound, .inl rfl, hf _ hsound (ht'.put _)⟩

theorem settleBroadcast_runs {base64 : String} {outcome : TxOutcome} (hs : OutboxSound s)
    (h : Holding request.idempotencyKey record s) (hbase64 : record.signedTxBase64 = some base64)
    (hsent : outcome.Unlandable → .sent base64 outcome ∈ s.journal) :
    Runs signer task request.idempotencyKey (Answers request.idempotencyKey)
      (settleBroadcast request record outcome) s := by
  have hclassifies : ∀ b h, record.Holds b h → outcome.Unlandable →
      (OutboxFact.sent base64 outcome).Classifies b h := fun b h hholds hunlandable =>
    ⟨Option.some.inj (hbase64.symm.trans hholds.1), hunlandable⟩
  have hfailed : outcome.Unlandable → Failed request.idempotencyKey finalizeFailed s :=
    fun hunlandable => ⟨.inr (.inr h.clear), fun _ => ⟨h.clear,
      h.none_of_classified hs (hsent hunlandable) fun b h hh => hclassifies b h hh hunlandable⟩⟩
  unfold settleBroadcast
  split
  · split
    · next hunlandable => exact hfailed hunlandable
    · split
      · next hash hhash => exact reconcileBroadcast_runs hhash hs h
      · exact failed_of_clear h.clear (by decide)
  · split
    · next hfail => exact hfailed (.inl hfail)
    · split
      · next hnonce =>
          have hunlandable : outcome.Unlandable := .inr hnonce
          refine clear_runs h (hsent hunlandable) (fun b h hh => hclassifies b h hh hunlandable)
            fun t ht ht' => ?_
          exact ⟨ht'.clear, fun hb => nomatch hb⟩
      · exact ⟨h.clear, fun hb => nomatch hb⟩

theorem submit_runs (hs : OutboxSound s) (h : Holding request.idempotencyKey record s) :
    Runs signer task request.idempotencyKey (Answers request.idempotencyKey)
      (submit signer request record) s := by
  unfold submit
  split
  · exact failed_of_clear h.clear (by decide)
  · refine safe_bind hs (signRecord_runs hs h) fun signed t ht ht' => ?_
    refine safe_bind ht (markBroadcast_runs ht') fun marked u hu hu' => ?_
    split
    · exact failed_of_clear hu'.clear (by decide)
    · next base64 hbase64 =>
        refine safe_bind hu (sendTransaction_runs hbase64 hu') fun outcome v hv ⟨hv', hsent⟩ => ?_
        refine safe_perform (by decide) (.inl rfl) fun w i _ x hvw hw hx => ?_
        cases hx
        have hw' := hv'.congr hvw
        let sent := { marked with state := .broadcast }
        have hsound : OutboxSound { w.log [.put request.idempotencyKey sent] with
            records := w.records.insert request.idempotencyKey sent } :=
          hw.put hw'.clear.quiet fun base64 hash hout => .inr (hw'.holds hw hout)
        refine ⟨hsound, .inl rfl, ?_⟩
        refine safe_bind hsound (isConfirmed_holding (hw'.put _)) fun confirmed y hy hpost => ?_
        obtain ⟨hy', hjournal, hground⟩ := hpost
        split
        · next hc => exact succeed_runs hy hy' (hground hc)
        · refine settleBroadcast_runs hy hy' hbase64 fun hunlandable => ?_
          rw [hjournal]
          refine List.mem_append_left _ (List.mem_append_left _ ?_)
          rw [hvw.2.2]
          exact hsent hunlandable

theorem recoverBroadcast_runs {hash : String} (hhash : record.txHash = some hash)
    (h : Holding request.idempotencyKey record s) :
    Runs signer task request.idempotencyKey (Answers request.idempotencyKey)
      (recoverBroadcast signer request record hash) s := by
  refine safe_perform (by decide) (.inr h.clear) fun t i status u hst ht hx => ?_
  cases hx
  have ht' := h.congr hst
  have hsound : OutboxSound (t.log [.queried hash i.txAnswer.outcome]) :=
    ht.log rfl (fun _ _ _ => id) (fun _ _ hf => nomatch hf) (fun _ _ hf => nomatch hf)
      (.inl ht'.clear.quiet)
  refine ⟨hsound, .inr (ht'.log id id).clear, ?_⟩
  refine safe_bind hsound (isConfirmed_holding (ht'.log id id)) fun confirmed v hv hpost => ?_
  obtain ⟨hv', hjournal, hground⟩ := hpost
  have hmem : .queried hash i.txAnswer.outcome ∈ v.journal := by
    rw [hjournal]
    exact List.mem_append_left _ (List.mem_append_right _ (List.mem_singleton.mpr rfl))
  have hclassifies : i.txAnswer.outcome.Unlandable → ∀ b h, record.Holds b h →
      (OutboxFact.queried hash i.txAnswer.outcome).Classifies b h := fun hunlandable b h hholds =>
    ⟨Option.some.inj (hhash.symm.trans hholds.2), hunlandable⟩
  split
  · next hc => exact succeed_runs hv hv' (hground hc)
  · split
    · next hfail =>
        exact ⟨.inr (.inr hv'.clear), fun _ => ⟨hv'.clear,
          hv'.none_of_classified hv hmem (hclassifies (.inl hfail))⟩⟩
    · split
      · next hnonce =>
          exact clear_runs hv' hmem (hclassifies (.inr hnonce)) fun w hw hw' => submit_runs hw hw'
      · exact submit_runs hv hv'

theorem advanceRecord_runs (hs : OutboxSound s) (h : Holding request.idempotencyKey record s) :
    Runs signer task request.idempotencyKey (Answers request.idempotencyKey)
      (advanceRecord signer request record) s := by
  unfold advanceRecord
  split
  · exact submit_runs hs h
  · next hash hhash =>
      split
      · exact submit_runs hs h
      · split
        · exact reconcileBroadcast_runs hhash hs h
        · exact recoverBroadcast_runs hhash h

theorem processOperatorOutbox_runs (hclear : Clear s.journal (some request.idempotencyKey)) :
    Runs signer task request.idempotencyKey (Answers request.idempotencyKey)
      (processOperatorOutbox signer request) s := by
  unfold processOperatorOutbox
  split
  · exact failed_of_clear hclear (by decide)
  · refine safe_perform (by decide) (.inl rfl) fun t i opened u hst ht hx => ?_
    have hx' := Option.some.inj hx
    have hclear' : Clear t.journal (some request.idempotencyKey) := hst.2.2 ▸ hclear
    obtain ⟨-, herror, hok⟩ := openRecord_spec hx'
    have hsound : OutboxSound (t.openRecord request.idempotencyKey request.payloadSha256
        request.method i.nowMs).2 := ht.open hclear'.quiet
    rw [hx'] at hsound
    refine ⟨hsound, .inl rfl, ?_⟩
    split
    · next code =>
        exact ⟨.inl (herror code rfl), fun hc => nomatch (herror code rfl).symm.trans hc⟩
    · next record =>
        obtain ⟨-, hafter, hground⟩ := hok record true rfl
        exact ⟨hafter hclear', fun _ => hground rfl hclear'⟩
    · next record =>
        obtain ⟨hget, hafter, -⟩ := hok record false rfl
        have hholding : Holding request.idempotencyKey record u := ⟨hget, hafter hclear'⟩
        refine safe_bind hsound (isConfirmed_holding hholding) fun confirmed v hv hpost => ?_
        obtain ⟨hv', -, hground'⟩ := hpost
        split
        · next hc => exact succeed_runs hv hv' (hground' hc)
        · exact advanceRecord_runs hv hv'


/-! ## Requests and alarms -/

theorem deleteFailed_runs {f : Unit → OperatorHandler τ} {Q : τ → OperatorObject → Prop}
    (hclear : Clear s.journal (some key))
    (hnone : ∀ base64 hash, ¬ Outstanding s.journal key base64 hash)
    (hf : ∀ t, Clear t.journal (some key) →
      (∀ base64 hash, ¬ Outstanding t.journal key base64 hash) → Runs signer task key Q (f ()) t) :
    Runs signer task key Q
      (Handler.perform storageError (.deleteRecord key .failed) >>= f) s := by
  refine safe_perform (by decide) (.inl rfl) fun t i _ u hst ht hx => ?_
  cases hx
  have hclear' : Clear t.journal (some key) := hst.2.2 ▸ hclear
  have hnone' : ∀ base64 hash, ¬ Outstanding t.journal key base64 hash := hst.2.2 ▸ hnone
  refine ⟨ht.remove hclear'.quiet (.inr hnone'), .inl rfl, hf _ (hclear'.append id id) ?_⟩
  intro base64 hash hout
  rcases hout.of_append with hst | ⟨hold, -⟩
  · exact hst
  · exact hnone' base64 hash hold

theorem watchFailure_runs (hclear : Clear s.journal (some request.idempotencyKey))
    (hnone : ∀ base64 hash, ¬ Outstanding s.journal request.idempotencyKey base64 hash) :
    Runs signer task request.idempotencyKey (Answers request.idempotencyKey)
      (watchFailure request) s := by
  refine safe_perform (by decide) (.inr hclear) fun t i status u hst ht hx => ?_
  cases hx
  have hclear' : Clear t.journal (some request.idempotencyKey) := hst.2.2 ▸ hclear
  have hnone' : ∀ base64 hash, ¬ Outstanding t.journal request.idempotencyKey base64 hash :=
    hst.2.2 ▸ hnone
  refine ⟨ht, .inr hclear', ?_⟩
  split
  · exact failed_of_clear hclear' (by decide)
  · split
    · exact deleteFailed_runs hclear' hnone' fun u hu _ => failed_of_clear hu (by decide)
    · exact ⟨.inr (.inr hclear'), fun _ => ⟨hclear', hnone'⟩⟩

theorem releaseFailure_runs (hclear : Clear s.journal (some request.idempotencyKey))
    (hnone : ∀ base64 hash, ¬ Outstanding s.journal request.idempotencyKey base64 hash) :
    Runs signer task request.idempotencyKey (Answers request.idempotencyKey)
      (releaseFailure request) s :=
  deleteFailed_runs hclear hnone fun _ hu hnone' => ⟨.inr (.inr hu), fun _ => ⟨hu, hnone'⟩⟩

theorem processGuarded_runs (hclear : Clear s.journal (some request.idempotencyKey)) :
    Runs signer task request.idempotencyKey (Answers request.idempotencyKey)
      (processGuarded signer request) s := by
  unfold processGuarded
  split
  · exact failed_of_clear hclear (by decide)
  · split
    · refine safe_perform (by decide) (.inr hclear) fun t i _ u hst ht hx => ?_
      cases hx
      have hclear' : Clear t.journal (some request.idempotencyKey) := hst.2.2 ▸ hclear
      exact ⟨ht, .inr hclear', processOperatorOutbox_runs hclear'⟩
    · exact processOperatorOutbox_runs hclear

theorem processSettlement_runs {onFailure : OperatorHandler OutboxAnswer} (hs : OutboxSound s)
    (hclear : Clear s.journal (some request.idempotencyKey))
    (hfailure : ∀ t, Clear t.journal (some request.idempotencyKey) →
      (∀ base64 hash, ¬ Outstanding t.journal request.idempotencyKey base64 hash) →
      Runs signer task request.idempotencyKey (Answers request.idempotencyKey) onFailure t) :
    Runs signer task request.idempotencyKey (Answers request.idempotencyKey)
      (processSettlement signer request onFailure) s := by
  unfold processSettlement
  split
  · exact failed_of_clear hclear (by decide)
  · refine safe_bind hs (isConfirmed_runs hclear) fun settled t ht ⟨_, hjournal⟩ => ?_
    have hclear' : Clear t.journal (some request.idempotencyKey) := by
      rw [hjournal]
      exact hclear.append id id
    split
    · next hsettled =>
        refine ⟨hclear', fun _ => ?_⟩
        rw [hjournal]
        exact hclear.ground id ⟨rfl, hsettled⟩
    · refine Discipline.Safe.rescue (processOperatorOutbox_runs hclear') ht
        (fun _ _ _ ha => ha) fun error u _ hfailed => ?_
      split
      · next herror =>
          obtain ⟨hu, hnone⟩ := hfailed.2 herror
          exact hfailure u hu hnone
      · exact hfailed

theorem processCall_runs (hs : OutboxSound s)
    (hclear : Clear s.journal (some request.idempotencyKey)) :
    Runs signer task request.idempotencyKey (Answers request.idempotencyKey)
      (processCall signer request) s := by
  unfold processCall
  split
  · exact processGuarded_runs hclear
  · exact processGuarded_runs hclear
  · exact processSettlement_runs hs hclear fun _ => watchFailure_runs
  · exact processSettlement_runs hs hclear fun _ => releaseFailure_runs

/-- An operation whose answer ends the task, or goes on with it. -/
theorem safe_last {β : Type} {op : OperatorOp β} {code : String} {f : β → OperatorHandler τ}
    (h : ∀ t i b u, SameOutbox s t → OutboxSound t → OperatorOp.exec β op i t = some (b, u) →
      OutboxSound u ∧ (operatorDiscipline signer).Safe task Discipline.Anywhere (f b) u) :
    (operatorDiscipline signer).Safe task Discipline.Anywhere (Handler.perform code op >>= f) s :=
  Discipline.Safe.perform_anywhere fun t hst ht i b u _ hx =>
    ⟨(h t i b u hst ht hx).1, exec_step hx, (h t i b u hst ht hx).2⟩

theorem handleRequest_safe (request : OperatorRequest) (s : OperatorObject) :
    (operatorDiscipline signer).Safe task Discipline.Anywhere (handleRequest signer request) s := by
  refine safe_last fun t i _ u hst ht hx => ?_
  cases hx
  have hclear : Clear (t.log [.began (some request.idempotencyKey)]).journal
      (some request.idempotencyKey) := ⟨[], under_began _ _, fun _ hf => nomatch hf⟩
  have hsound : OutboxSound (t.log [.began (some request.idempotencyKey)]) :=
    ht.log rfl (fun _ _ _ => id) (fun _ _ hf => nomatch hf) (fun _ _ hf => nomatch hf)
      (.inr (.inl trivial))
  refine ⟨hsound, ?_⟩
  -- what the response may say
  let Q : Except String (Result OutboxAnswer) → OperatorObject → Prop
    | .ok (.ok answer), v => Answers request.idempotencyKey answer v
    | .ok (.error code), v => Failed request.idempotencyKey code v
    | .error code, v => Failed request.idempotencyKey code v
  refine Discipline.Safe.bind (Q := Q) ?_ hsound (fun result v hv hpost => ?_)
    fun _ _ _ _ => trivial
  · refine Discipline.Safe.rescue (Q := Q) ?_ hsound (fun _ _ _ hpost => hpost)
      fun code v _ hfailed => hfailed
    exact Discipline.Safe.bind (processCall_runs hsound hclear) hsound
      (fun answer v _ hanswers => hanswers) fun code v _ hfailed => hfailed
  · change (operatorDiscipline signer).Safe task Discipline.Anywhere
      (Handler.perform networkError (.respond request.idempotencyKey result) >>= Handler.done) v
    refine safe_last fun w j _ x hvw hw hx => ?_
    cases hx
    refine ⟨hw.log rfl (fun _ _ _ => id) (fun _ _ hf => nomatch hf) ?_ ?_, trivial⟩
    · rintro k answer hf hconfirmed
      cases hf
      rw [hvw.2.2]
      exact hpost.2 hconfirmed
    · rw [hvw.2.2]
      cases result with
      | ok answer => exact .inl hpost.1.quiet
      | error code =>
        rcases hpost.1 with hcode | hcode | hclear
        · exact .inr (.inr (.inl hcode))
        · exact .inr (.inr (.inr hcode))
        · exact .inl hclear.quiet


/-- An alarm meets no conflict, wherever it ends. -/
def AlarmClear (_ : Except String τ) (t : OperatorObject) : Prop := Clear t.journal none

/-- The rule for the next operation of an alarm. -/
theorem alarm_perform {β : Type} {op : OperatorOp β} {code : String} {f : β → OperatorHandler τ}
    (hclear : Clear s.journal none)
    (h : ∀ t i b u, Clear t.journal none → OutboxSound t →
      OperatorOp.exec β op i t = some (b, u) → OutboxSound u ∧ Clear u.journal none ∧
        (operatorDiscipline signer).Safe task AlarmClear (f b) u) :
    (operatorDiscipline signer).Safe task AlarmClear (Handler.perform code op >>= f) s := by
  refine Discipline.Safe.perform fun t hst ht => ?_
  have ht' : Clear t.journal none := hst.2.2 ▸ hclear
  refine ⟨ht', fun i b u _ hx => ?_⟩
  obtain ⟨hu, hu', hnext⟩ := h t i b u ht' ht hx
  exact ⟨hu, exec_step hx, hnext, hu'⟩

theorem putArchived_runs {f : Unit → OperatorHandler τ} {record : OperatorRecord}
    (hclear : Clear s.journal none) (hstate : record.state = .confirmed)
    (hf : ∀ t, Clear t.journal none →
      (operatorDiscipline signer).Safe task AlarmClear (f ()) t) :
    (operatorDiscipline signer).Safe task AlarmClear
      (Handler.perform storageError (.putRecord key record) >>= f) s := by
  refine alarm_perform hclear fun t i _ u ht' ht hx => ?_
  cases hx
  have hu : Clear (t.log [.put key record]).journal none := ht'.append id id
  exact ⟨ht.put ht'.quiet fun _ _ _ => .inl hstate, hu, hf _ hu⟩

theorem advanceOperatorArchive_runs {env : OperatorEnv} {archive : RecordArchive}
    (hs : OutboxSound s) (hclear : Clear s.journal none) (hstate : record.state = .confirmed) :
    (operatorDiscipline signer).Safe task AlarmClear
      (advanceOperatorArchive env key record archive) s := by
  unfold advanceOperatorArchive
  dsimp only
  refine Discipline.Safe.rescue (Q := AlarmClear) ?_ hs (fun _ _ _ h => h)
    fun error t _ ht' => ?_
  · unfold archiveRecord
    split
    · exact hclear
    · refine alarm_perform hclear fun t i _ u ht' ht hx => ?_
      cases hx
      refine ⟨ht, ht', alarm_perform ht' fun u j _ v hu' hu hx => ?_⟩
      cases hx
      exact ⟨hu, hu', putArchived_runs hu' hstate fun _ hv => hv⟩
  · refine alarm_perform ht' fun u j _ v hu' hu hx => ?_
    cases hx
    exact ⟨hu, hu', putArchived_runs hu' hstate fun _ hv => hv⟩

theorem putScan_runs {scan : Option ArchiveScan} (hclear : Clear s.journal none) :
    (operatorDiscipline signer).Safe task AlarmClear
      (Handler.perform storageError (.putScan scan)) s := by
  change (operatorDiscipline signer).Safe task AlarmClear
    (Handler.perform storageError (.putScan scan) >>= Handler.done) s
  refine alarm_perform hclear fun t i _ u ht' ht hx => ?_
  cases hx
  exact ⟨ht.congr ⟨rfl, rfl, rfl⟩, ht', ht'⟩

theorem scanBatch_runs {env : OperatorEnv} {nowMs : Nat} {last : Option String} {full : Bool}
    (records : List (String × OperatorRecord)) (earliest : Option Nat) (hs : OutboxSound s)
    (hclear : Clear s.journal none) :
    (operatorDiscipline signer).Safe task AlarmClear
      (scanBatch env nowMs earliest last full records) s := by
  induction records generalizing earliest with
  | nil =>
    unfold scanBatch
    split_ifs <;> exact putScan_runs hclear
  | cons entry rest ih =>
    obtain ⟨key, record⟩ := entry
    unfold scanBatch
    split
    · exact ih earliest
    · split
      · exact ih earliest
      · next hdue =>
          split
          · exact ih _
          · have hstate : record.state = .confirmed := by
              by_contra hne
              exact hdue (.inl hne)
            exact Discipline.Safe.bind (advanceOperatorArchive_runs hs hclear hstate) hs
              (fun _ _ _ ht' => putScan_runs ht') fun _ _ _ ht' => ht'

theorem alarm_safe (env : OperatorEnv) (s : OperatorObject) :
    (operatorDiscipline signer).Safe task Discipline.Anywhere
      (advanceOperatorArchiveScan env) s := by
  refine safe_last fun t i _ u hst ht hx => ?_
  cases hx
  have hclear : Clear (t.log [.began none]).journal none :=
    ⟨[], under_began _ _, fun _ hf => nomatch hf⟩
  have hsound : OutboxSound (t.log [.began none]) :=
    ht.log rfl (fun _ _ _ => id) (fun _ _ hf => nomatch hf) (fun _ _ hf => nomatch hf)
      (.inr (.inl trivial))
  refine ⟨hsound, Discipline.Safe.mono (Q := AlarmClear) ?_ fun _ _ _ => trivial⟩
  split
  · exact hclear
  · refine alarm_perform hclear fun v j _ w hv' hv hx => ?_
    cases hx
    refine ⟨hv, hv', ?_⟩
    split
    · exact hv'
    · refine alarm_perform hv' fun w k _ x hw' hw hx => ?_
      cases hx
      refine ⟨hw, hw', ?_⟩
      split
      · exact hw'
      · refine alarm_perform hw' fun x l _ y hx' hxs hx => ?_
        cases hx
        refine ⟨hxs, hx', ?_⟩
        split
        · exact putScan_runs hx'
        · exact scanBatch_runs _ _ hxs hx'


end Safe

/-! ## Every run -/

/-- In every run of the operator object the journal is lawful, and a request that contradicts the
stored record changes neither the records nor the nonce counter. -/
theorem operator_outbox_lawful {signer : OperatorSigner}
    {tr : List (Transition (Config OperatorObject OperatorOp String Unit OperatorTask)
      (Event OperatorInput OperatorTask OperatorWorld))}
    {c : Config OperatorObject OperatorOp String Unit OperatorTask}
    (h : Trace (ExecStep (operatorSystem signer).next) ⟨.empty, []⟩ tr c) :
    Lawful c.shared.journal ∧ ∀ x ∈ tr, OutboxStep x.pre.shared x.post.shared := by
  have hhandle : ∀ task s, (operatorDiscipline signer).inv s →
      (operatorDiscipline signer).Safe task Discipline.Anywhere
        ((operatorSystem signer).handle task) s := by
    intro task s _
    cases task with
    | request request => exact handleRequest_safe request s
    | alarm env => exact alarm_safe env s
  obtain ⟨hsound, hmoves⟩ := Discipline.run hhandle (Discipline.sound_idle sound_empty) h
    fun _ _ _ _ _ _ _ => trivial
  refine ⟨hsound.inv.lawful, fun x hx => ?_⟩
  obtain ⟨-, hmove⟩ := hmoves x hx
  cases hmove with
  | still heq => exact OutboxStep.quiet (by rw [heq])
  | world w _ henv =>
    exact OutboxStep.quiet (congrArg OperatorObject.journal (Option.some.inj henv)).symm
  | acted r hstep => exact hstep

/-! ### A renamed method -/

/-- A sales suspension under the V1 method is cut off after its transaction is stored; the same
request under V2 drops the transaction and reserves the next nonce. -/
def renamedRun : List (Event OperatorInput OperatorTask OperatorWorld) :=
  let env : OperatorEnv := ⟨true, true, false, false, true, false⟩
  let request : OperatorRequest := ⟨env, .suspendSales, "job:suspend-sales", "hash", "args", true⟩
  let input : OperatorInput := ⟨1, ⟨6, "block"⟩, .success, false, none, ""⟩
  [.start (.request request), .run 0 input, .run 0 input, .run 0 input, .run 0 input,
    .run 0 input, .run 0 input, .stop 0,
    .start (.request { request with env := { env with marketV2 := true } }), .run 0 input,
    .run 0 input, .run 0 input, .run 0 input, .run 0 input]

def exampleSigner : OperatorSigner where
  sign := fun tx => ⟨"signed " ++ decimal tx.nonce, "hash " ++ decimal tx.nonce⟩

def suspension (state : RecordState) (nonce : Option Nat) : OperatorRecord where
  state := state
  method := .suspendLivepeerSales
  payloadSha256 := "hash"
  createdAtMs := 1
  nonce := nonce
  blockHash := nonce.map fun _ => "block"
  signedTxBase64 := nonce.map fun nonce => "signed " ++ decimal nonce
  txHash := nonce.map fun nonce => "hash " ++ decimal nonce
  confirmedAtMs := none
  archive := none

def renamedJournal : List OutboxFact :=
  [.began (some "job:suspend-sales"),
    .opened "job:suspend-sales" "hash" .suspendLivepeerSales none,
    .effect "job:suspend-sales" false, .reserved "job:suspend-sales" 7,
    .put "job:suspend-sales" (suspension .signed (some 7)),
    .began (some "job:suspend-sales"),
    .opened "job:suspend-sales" "hash" .suspendSales (some (suspension .signed (some 7))),
    .rekeyed "job:suspend-sales", .effect "job:suspend-sales" false]

theorem renamedRun_journal :
    (execTrace (operatorSystem exampleSigner).next ⟨.empty, []⟩ renamedRun).map
        (fun r => r.2.shared.journal)
      = some (renamedJournal ++ [.reserved "job:suspend-sales" 8]) := by
  rfl

theorem renamedRun_trace : ∃ tr c, Trace (ExecStep (operatorSystem exampleSigner).next)
    ⟨.empty, []⟩ tr c ∧
      c.shared.journal = renamedJournal ++ [.reserved "job:suspend-sales" 8] := by
  obtain ⟨⟨tr, c⟩, hrun, hjournal⟩ := Option.map_eq_some_iff.mp renamedRun_journal
  exact ⟨tr, c, trace_of_execTrace _ hrun, hjournal⟩

/-- The record is re-signed although no node has said anything about its first transaction. -/
theorem resigned_without_answer : ∃ tr c,
    Trace (ExecStep (operatorSystem exampleSigner).next) ⟨.empty, []⟩ tr c ∧
      c.shared.journal = renamedJournal ++ [.reserved "job:suspend-sales" 8] ∧
      (∃ fact ∈ renamedJournal, fact.Stores "job:suspend-sales" "signed 7" "hash 7") ∧
      ∀ fact ∈ renamedJournal, ¬ fact.Classifies "signed 7" "hash 7" := by
  obtain ⟨tr, c, htrace, hjournal⟩ := renamedRun_trace
  refine ⟨tr, c, htrace, hjournal, ?_, ?_⟩
  · exact ⟨.put "job:suspend-sales" (suspension .signed (some 7)), by simp [renamedJournal],
      rfl, rfl, rfl⟩
  · intro fact hmem
    simp only [renamedJournal, List.mem_cons, List.not_mem_nil, or_false] at hmem
    rcases hmem with rfl | rfl | rfl | rfl | rfl | rfl | rfl | rfl | rfl <;> exact id

theorem operator_outbox_lawful_renamed :
    Lawful (renamedJournal ++ [.reserved "job:suspend-sales" 8]) := by
  obtain ⟨tr, c, htrace, hjournal⟩ := renamedRun_trace
  exact hjournal ▸ (operator_outbox_lawful htrace).1

end Youtick.Bridge
