import Youtick.Bridge.SponsorRelayBooks

/-!
# Bridge: runs of the sponsored upload relay

Every part of a relay keeps the books, and gives a record up only where that is justified. What
breaks this is a relay that is cut off between sending and recording: its record still says
`signed`, its quote grows old, and the next relay gives it up although its transaction can still land
(`sent_record_given_up`).
-/

set_option autoImplicit false

namespace Youtick.Bridge.SponsorRelay

open Youtick.Lib

/-! ## The program -/

section Program

variable {parse : String → Result SponsoredDelegate} {env : RelayEnv} {task : RelayTask} {τ : Type}
  {s : RelayObject} {input : SponsoredDelegate} {r : SponsorRelayRecord} {tx : RelayTransaction}

/-- Requests and alarms run alone. Only the write that records a broadcast runs while a sent
transaction is not recorded. -/
def relayDiscipline (parse : String → Result SponsoredDelegate) (env : RelayEnv) :
    Discipline (relaySystem parse env) where
  inv := RelaySound
  meets := fun op s => Recorded s ∨ op.records = true
  rely := fun _ => Waits
  guar := fun _ s t => ∀ k, Drops s t k → Justified s k
  rely_refl := fun _ => Waits.refl
  rely_trans := fun _ _ _ _ => Waits.trans
  guar_rely := fun _ _ _ _ halone => nomatch halone
  world := by
    intro change s t hs h
    obtain ⟨chain, hchange, rfl⟩ := Option.map_eq_some_iff.mp h
    obtain ⟨hextends, hsound⟩ := RelayChain.change_inv hchange
    have hwaits : Waits s { s with chain := chain } := ⟨rfl, rfl, rfl, hextends⟩
    exact ⟨hs.waits hwaits (hsound hs.chain), fun _ => hwaits⟩

/-- A part of a relay that ends with a value leaves `P`; nothing is asked of its errors. -/
def Ends {α : Type} (P : α → RelayObject → Prop) : Except String α → RelayObject → Prop
  | .ok a, s => P a s
  | .error _, _ => True

/-- The rule for an operation. -/
theorem perform_safe {β : Type} {P : τ → RelayObject → Prop} {code : String} {op : RelayOp β}
    {f : β → Handler RelayOp String τ}
    (h : ∀ t i b u, Waits s t → RelaySound t → (Recorded t ∨ op.records = true) →
      RelayOp.exec β op i t = some (b, u) → RelaySound u ∧ (∀ k, Drops t u k → Justified t k) ∧
        (relayDiscipline parse env).Safe task (Ends P) (f b) u) :
    (relayDiscipline parse env).Safe task (Ends P) (Handler.perform code op >>= f) s := by
  refine Discipline.Safe.perform fun t hst ht => ⟨trivial, fun i b u hmeets hexec => ?_⟩
  obtain ⟨hu, hdrops, hnext⟩ := h t i b u hst ht hmeets hexec
  exact ⟨hu, hdrops, hnext, trivial⟩

/-- The rule for an operation that only asks. -/
theorem read_safe {β : Type} {P : τ → RelayObject → Prop} {code : String} {op : RelayOp β}
    {f : β → Handler RelayOp String τ} (hop : op.reads = true)
    (h : ∀ t i b, Waits s t → RelaySound t → RelayOp.exec β op i t = some (b, t) →
      (relayDiscipline parse env).Safe task (Ends P) (f b) t) :
    (relayDiscipline parse env).Safe task (Ends P) (Handler.perform code op >>= f) s := by
  refine perform_safe fun t i b u hst ht _ hexec => ?_
  obtain rfl := exec_reads hop hexec
  exact ⟨ht, fun k hdrops => absurd hdrops (Waits.refl u).not_drops, h u i b hst ht hexec⟩

/-- The rule for a check that throws. -/
theorem check_safe {P : τ → RelayObject → Prop} {x : Except String PUnit.{1}}
    {f : PUnit.{1} → Handler RelayOp String τ}
    (h : (relayDiscipline parse env).Safe task (Ends P) (f ⟨⟩) s) :
    (relayDiscipline parse env).Safe task (Ends P) (Handler.ofExcept x >>= f) s :=
  Discipline.Safe.ofExcept (fun _ _ => h) fun _ _ => trivial

theorem Drops.of_delete {k k' : String}
    (h : Drops s { s with records := s.records.remove k } k') : k' = k := by
  rcases h with ⟨hsome, hnone⟩ | hreleased
  · by_contra hne
    change (s.records.remove k).get k' = none at hnone
    rw [LookupMap.get_remove, if_neg hne] at hnone
    exact hsome hnone
  · exact absurd (List.self_eq_append_right.mp hreleased) (List.cons_ne_nil _ _)

/-- The job of the record exists. -/
theorem settleWithJob_safe {job : JobView} {answer : Option RelayTransaction}
    (hjob : (s.chain.jobs.get input.request.jobId).isSome) :
    (relayDiscipline parse env).Safe task (Ends fun _ _ => True)
      (settleWithJob input job answer) s := by
  unfold settleWithJob
  refine check_safe ?_
  refine perform_safe fun t i b u hst ht _ hexec => ?_
  have hjustified : Justified t input.request.jobId := .inl (hst.chain.jobs _ hjob)
  cases hexec
  refine ⟨ht.delete hjustified, fun k hdrops => ?_, ?_⟩
  · obtain rfl := hdrops.of_delete
    exact hjustified
  · -- remembering the job is tried, and changes nothing here
    intro v huv hv
    refine ⟨trivial, fun i b w _ hexec => ?_⟩
    cases hexec
    exact ⟨hv, fun k hdrops => absurd hdrops (Waits.refl v).not_drops, trivial, trivial⟩

/-- A relay is given up where that is justified as soon as every broadcast is recorded. -/
theorem releaseAndDelete_safe
    (hjustified : ∀ t, Waits s t → RelaySound t → Recorded t → Justified t input.request.jobId) :
    (relayDiscipline parse env).Safe task (Ends fun _ _ => True) (releaseAndDelete input) s := by
  unfold releaseAndDelete
  refine perform_safe fun t i b u hst ht hmeets hexec => ?_
  have hj := hjustified t hst ht (hmeets.resolve_right nofun)
  cases hexec
  refine ⟨ht.log (fun _ _ => nofun) fun _ _ => nofun, fun k hdrops => ?_, ?_⟩
  · rcases hdrops with ⟨hsome, hnone⟩ | hreleased
    · exact absurd hnone hsome
    · have hsame := List.append_cancel_left hreleased
      cases hsame
      exact hj
  · have hlogged : Justified (t.log (.released input.request.jobId)) input.request.jobId := by
      refine hj.imp_right fun hnone tx hsigned => hnone tx ?_
      rcases List.mem_append.mp hsigned with hold | hnew
      · exact hold
      · cases List.mem_singleton.mp hnew
    refine perform_safe (f := Handler.done) fun v i b w htv hv _ hexec => ?_
    cases hexec
    have hj' := hlogged.waits htv
    refine ⟨hv.delete hj', fun k hdrops => ?_, trivial⟩
    obtain rfl := hdrops.of_delete
    exact hj'

/-- The record stands under its job. -/
def Stores (k : String) (r : SponsorRelayRecord) (s : RelayObject) : Prop :=
  s.records.get k = some r

theorem Stores.waits {k : String} {t : RelayObject} (h : Stores k r s) (hst : Waits s t) :
    Stores k r t := by
  unfold Stores
  rw [hst.records]
  exact h

/-- What is received and not closed would be held by the record. -/
theorem RelaySound.justified {k : String} (hs : RelaySound s) (hstored : Stores k r s)
    (hheld : ∀ tx, r.signedTx = some tx → tx ∈ s.chain.received → tx ∈ s.chain.closed) :
    Justified s k := by
  by_cases hjob : (s.chain.jobs.get k).isSome
  · exact .inl hjob
  · refine .inr fun tx hsigned hland => ?_
    rcases hs.tracked k tx hsigned hland.1 with hclosed | hexists | ⟨r₁, hget, hheld₁⟩
    · exact hland.2 hclosed
    · exact hjob hexists
    · obtain rfl := Option.some.inj (hstored.symm.trans hget)
      exact hland.2 (hheld tx hheld₁ hland.1)

/-- A write of a record deletes and releases nothing. -/
theorem not_drops_put {k k' : String} {r' : SponsorRelayRecord} :
    ¬ Drops s { s with records := s.records.insert k r' } k' := by
  rintro (⟨hsome, hnone⟩ | hreleased)
  · change (s.records.insert k r').get k' = none at hnone
    rw [LookupMap.get_insert] at hnone
    split at hnone
    · cases hnone
    · exact hsome hnone
  · exact List.cons_ne_nil _ _ (List.self_eq_append_right.mp hreleased)

/-- A closed transaction is taken out of its record. -/
theorem putClear_safe {P : τ → RelayObject → Prop} {code : String}
    {f : Unit → Handler RelayOp String τ} {k : String}
    (hstored : Stores k r s) (hheld : ∀ tx, r.signedTx = some tx → tx ∈ s.chain.closed)
    (h : ∀ t, Stores k r.clear t → (relayDiscipline parse env).Safe task (Ends P) (f ()) t) :
    (relayDiscipline parse env).Safe task (Ends P)
      (Handler.perform code (.putRecord k r.clear) >>= f) s := by
  refine perform_safe fun t i b u hst ht _ hexec => ?_
  cases hexec
  refine ⟨ht.put nofun nofun nofun ?_, fun k' hdrops => absurd hdrops not_drops_put,
    h _ (LookupMap.get_insert_self _ _ _)⟩
  intro r₁ tx hget hsigned _
  obtain rfl := Option.some.inj ((hstored.waits hst).symm.trans hget)
  exact .inl (hst.chain.closed (hheld tx hsigned))

/-- A record that was broadcast ends, waits, or goes on without its transaction. -/
theorem reconcileRelay_safe (hstored : Stores input.request.jobId r s)
    (hheld : r.signedTx = some tx) :
    (relayDiscipline parse env).Safe task
      (Ends fun x t => ∀ r', x = .inr r' → Stores input.request.jobId r' t ∧ r'.signedTx = none)
      (reconcileRelay input r tx) s := by
  unfold reconcileRelay
  refine perform_safe fun t i observed u hst ht _ hexec => ?_
  obtain ⟨htu, hchain, hfinal⟩ := exec_query hexec
  refine ⟨ht.waits htu (hchain ht.chain), fun k hdrops => absurd hdrops htu.not_drops, ?_⟩
  have hstored' := (hstored.waits hst).waits htu
  refine read_safe rfl fun v i job huv hv hread => ?_
  have hstored'' := hstored'.waits huv
  cases job with
  | some job =>
    have hexists := exec_readJob hread (Option.some_ne_none job)
    refine Discipline.Safe.bind (settleWithJob_safe hexists) hv ?_ fun _ _ _ _ => trivial
    intro answer w _ _ r' hr'
    cases hr'
  | none =>
    dsimp only
    have hclosed : observed ≠ .unknown → ∀ tx', r.signedTx = some tx' → tx' ∈ v.chain.closed := by
      intro hknown tx' htx'
      obtain rfl := Option.some.inj (hheld.symm.trans htx')
      exact huv.chain.closed (hfinal hknown)
    split
    · next hended =>
        have hknown : observed ≠ .unknown := by
          rintro rfl
          exact hended.elim nofun nofun
        refine Discipline.Safe.bind (releaseAndDelete_safe ?_) hv (fun _ _ _ _ => trivial)
          fun _ _ _ _ => trivial
        intro w hvw hw _
        refine hw.justified (hstored''.waits hvw) fun tx' htx' _ => ?_
        exact hvw.chain.closed (hclosed hknown tx' htx')
    · split
      · intro r' hr'
        cases hr'
      · next hunknown =>
          refine putClear_safe hstored'' (hclosed hunknown) fun w hw r' hr' => ?_
          cases hr'
          exact ⟨hw, rfl⟩

/-- The record gets a nonce. -/
theorem reserveRelay_safe {relayerKey : AccessKey} (hs : RelaySound s)
    (hstored : Stores input.request.jobId r s) (hnone : r.signedTx = none) :
    (relayDiscipline parse env).Safe task
      (Ends fun r' t => RelaySound t ∧ Stores input.request.jobId r' t ∧ r'.signedTx = none)
      (reserveRelay input r relayerKey) s := by
  unfold reserveRelay
  split
  · exact ⟨hs, hstored, hnone⟩
  · next hmissing =>
      refine perform_safe fun t i result u hst ht _ hexec => ?_
      have hget := hstored.waits hst
      have hexec := Option.some.inj hexec
      unfold RelayObject.reserveNonce at hexec
      rw [hget] at hexec
      dsimp only at hexec
      rw [if_neg hmissing] at hexec
      cases hexec
      have hsound := ht.reserve (n := max (t.lastNonce.getD 0) relayerKey.nonce + 1) hget hnone
        (by omega) relayerKey.blockHash .reserved
      refine ⟨hsound, fun k hdrops => ?_, hsound, LookupMap.get_insert_self _ _ _, hnone⟩
      rcases hdrops with ⟨hsome, hgone⟩ | hreleased
      · exact absurd ⟨hsome, hgone⟩ fun h => not_drops_put (.inl h)
      · cases List.append_cancel_left hreleased

/-- The record gets a signed transaction, or has one. -/
theorem signRelay_safe {relayerKey : AccessKey} (hs : RelaySound s)
    (hstored : Stores input.request.jobId r s) :
    (relayDiscipline parse env).Safe task
      (Ends fun out t => Stores input.request.jobId out.1 t ∧ out.1.signedTx = some out.2)
      (signRelay input r relayerKey) s := by
  unfold signRelay
  cases hsigned : r.signedTx with
  | some tx => exact ⟨hstored, hsigned⟩
  | none =>
    dsimp only
    refine Discipline.Safe.bind (reserveRelay_safe hs hstored hsigned) hs ?_
      fun _ _ _ _ => trivial
    rintro r' t - ⟨ht, hstored', hnone'⟩
    cases hnonce : r'.nonce with
    | none => trivial
    | some nonce =>
      cases hblock : r'.blockHash with
      | none => trivial
      | some blockHash =>
        dsimp only
        refine perform_safe fun v i b u htv hv _ hexec => ?_
        cases hexec
        have hget := hstored'.waits htv
        have hreserved := hv.reserved _ r' nonce hget hnonce
        refine ⟨hv.log (fun _ _ => nofun) fun k tx hfact => ?_, fun k hdrops => ?_, ?_⟩
        · -- the transaction has the nonce that waits in the record
          cases hfact
          refine ⟨hreserved, fun hreceived => ?_⟩
          exact hv.unused _ r' nonce hget hnonce hnone' _ hreceived rfl
        · rcases hdrops with ⟨hsome, hgone⟩ | hreleased
          · exact absurd hgone hsome
          · cases List.append_cancel_left hreleased
        · refine perform_safe fun x i b u hux hx _ hexec => ?_
          cases hexec
          refine ⟨hx.put ?_ ?_ nofun ?_, fun k hdrops => absurd hdrops not_drops_put,
            LookupMap.get_insert_self _ _ _, rfl⟩
          · intro tx htx
            cases htx
            refine ⟨rfl, ?_⟩
            rw [hux.journal]
            exact List.mem_append_right _ (List.mem_singleton_self _)
          · intro n hn
            cases hn
            rw [hux.journal]
            exact List.mem_append_left _ hreserved
          · intro r₁ tx hget₁ hheld₁
            rw [hux.records] at hget₁
            obtain rfl := Option.some.inj (Eq.trans hget.symm hget₁)
            rw [hnone'] at hheld₁
            cases hheld₁

/-- The record is still there, and an answer other than `unknown` is final. -/
def Answered (k : String) (r : SponsorRelayRecord) (tx : RelayTransaction)
    (x : Except String TxOutcome) (t : RelayObject) : Prop :=
  Stores k r t ∧ ∀ outcome, x = .ok outcome → outcome ≠ .unknown → tx ∈ t.chain.closed

/-- The transaction is sent, and whatever the node answers the record says so next. -/
theorem sendRelay_safe (hstored : Stores input.request.jobId r s) (hheld : r.signedTx = some tx) :
    (relayDiscipline parse env).Safe task (Ends fun _ _ => True) (sendRelay input r tx) s := by
  unfold sendRelay
  refine read_safe rfl fun t₁ _ height hst₁ _ _ => ?_
  refine read_safe rfl fun t₂ _ nowMs ht₁₂ ht₂ _ => check_safe ?_
  have hstored₂ := (hstored.waits hst₁).waits ht₁₂
  -- an error of the send counts as unknown, and the record is still there
  have hsent : (relayDiscipline parse env).Safe task
      (Answered input.request.jobId r tx)
      (Handler.perform "near_finalize_pending" (.sendTransaction input.request.jobId tx)) t₂ := by
    intro t₃ ht₂₃ ht₃
    have hstored₃ := hstored₂.waits ht₂₃
    refine ⟨⟨hstored₃, nofun⟩, fun i outcome u _ hexec => ?_⟩
    change RelayOp.exec _ (.sendTransaction input.request.jobId tx) i t₃ = _ at hexec
    obtain ⟨chain, rfl, hextends, hchain, hfinal⟩ := exec_send hexec
    refine ⟨ht₃.send hstored₃ hheld hextends (hchain ht₃.chain), fun k hdrops => ?_,
      ⟨hstored₃, ?_⟩, ⟨hstored₃, nofun⟩⟩
    · rcases hdrops with ⟨hsome, hgone⟩ | hreleased
      · exact absurd hgone hsome
      · cases List.append_cancel_left hreleased
    · intro outcome' heq
      cases heq
      exact hfinal
  have hanswered : (relayDiscipline parse env).Safe task
      (Answered input.request.jobId r tx)
      ((Handler.perform "near_finalize_pending" (.sendTransaction input.request.jobId tx)).rescue
        fun _ => .done .unknown) t₂ := by
    refine Discipline.Safe.rescue hsent ht₂ (fun _ _ _ hq => hq) fun _ t _ hq => ⟨hq.1, ?_⟩
    intro outcome heq hknown
    cases heq
    exact absurd rfl hknown
  refine Discipline.Safe.bind hanswered ht₂ ?_ fun _ _ _ _ => trivial
  rintro outcome t₄ - ⟨hstored₄, hclosed₄⟩
  refine perform_safe fun t₅ i b u ht₄₅ ht₅ _ hexec => ?_
  cases hexec
  have hstored₅ := hstored₄.waits ht₄₅
  refine ⟨ht₅.put (ht₅.holds _ r · hstored₅) (ht₅.reserved _ r · hstored₅)
    (ht₅.unused _ r · hstored₅) ?_, fun k hdrops => absurd hdrops not_drops_put, ?_⟩
  · intro r₁ tx₁ hget hheld₁ _
    obtain rfl := Option.some.inj (hstored₅.symm.trans hget)
    exact .inr (.inr hheld₁)
  refine read_safe rfl fun t₆ _ job ht₅₆ ht₆ hread => ?_
  have hmarked₆ : Stores input.request.jobId { r with state := .broadcast } t₆ := by
    refine Stores.waits ?_ ht₅₆
    exact LookupMap.get_insert_self _ _ _
  have hclosed₆ : outcome ≠ .unknown → ∀ tx', r.signedTx = some tx' → tx' ∈ t₆.chain.closed := by
    intro hknown tx' htx'
    obtain rfl := Option.some.inj (hheld.symm.trans htx')
    exact ht₅₆.chain.closed (ht₄₅.chain.closed (hclosed₄ outcome rfl hknown))
  cases job with
  | some job => exact settleWithJob_safe (exec_readJob hread (Option.some_ne_none job))
  | none =>
    dsimp only
    split
    · next hended =>
        have hknown : outcome ≠ .unknown := by
          rintro rfl
          exact hended.elim nofun nofun
        refine Discipline.Safe.bind (releaseAndDelete_safe ?_) ht₆ (fun _ _ _ _ => trivial)
          fun _ _ _ _ => trivial
        intro w hw₆ hw _
        refine hw.justified (hmarked₆.waits hw₆) fun tx' htx' _ => ?_
        exact hw₆.chain.closed (hclosed₆ hknown tx' htx')
    · split
      · next hinvalid =>
          have hknown : outcome ≠ .unknown := by
            rw [hinvalid]
            exact nofun
          exact putClear_safe hmarked₆ (hclosed₆ hknown) fun _ _ => trivial
      · trivial

/-- A transaction that opens a record keeps the others. -/
theorem openRecord_safe {P : τ → RelayObject → Prop} {code : String}
    {f : Result SponsorRelayRecord → Handler RelayOp String τ}
    (h : ∀ t result, RelaySound t → (∀ r, result = .ok r → Stores input.request.jobId r t) →
      (relayDiscipline parse env).Safe task (Ends P) (f result) t) :
    (relayDiscipline parse env).Safe task (Ends P)
      (Handler.perform code (.openRecord input) >>= f) s := by
  refine perform_safe fun t i result u hst ht _ hexec => ?_
  have hexec := Option.some.inj hexec
  unfold RelayObject.openRecord at hexec
  cases hget : t.records.get input.request.jobId with
  | some existing =>
    rw [hget] at hexec
    dsimp only at hexec
    split at hexec
    · cases hexec
      refine ⟨ht, fun k hdrops => absurd hdrops (Waits.refl t).not_drops, h t _ ht ?_⟩
      intro r hr
      cases hr
    · cases hexec
      refine ⟨ht, fun k hdrops => absurd hdrops (Waits.refl t).not_drops, h t _ ht fun r hr => ?_⟩
      cases hr
      exact hget
  | none =>
    rw [hget] at hexec
    cases hexec
    have hopened := ht.create hget input i.nowMs
    refine ⟨hopened, fun k hdrops => absurd hdrops not_drops_put, h _ _ hopened fun r hr => ?_⟩
    cases hr
    exact LookupMap.get_insert_self _ _ _

theorem startRelay_safe :
    (relayDiscipline parse env).Safe task (Ends fun _ _ => True) (startRelay env input) s := by
  unfold startRelay
  refine read_safe rfl fun _ _ _ _ _ _ => ?_
  refine read_safe rfl fun _ _ creatorKey _ _ _ => ?_
  refine read_safe rfl fun _ _ relayerKey _ _ _ => ?_
  refine read_safe rfl fun _ _ balance _ _ _ => ?_
  refine read_safe rfl fun _ _ nowMs _ _ _ => ?_
  refine check_safe (check_safe (check_safe (check_safe ?_)))
  refine read_safe rfl fun _ _ limited _ _ _ => check_safe (check_safe ?_)
  refine read_safe rfl fun _ _ admitted _ _ _ => check_safe ?_
  refine openRecord_safe fun t opened ht hopened => ?_
  refine Discipline.Safe.ofExcept (fun r hr => ?_) fun _ _ => trivial
  refine Discipline.Safe.bind (signRelay_safe ht (hopened r hr)) ht ?_ fun _ _ _ _ => trivial
  rintro ⟨r', tx⟩ v - ⟨hstored, hheld⟩
  exact sendRelay_safe hstored hheld

/-- A record that is given up was not broadcast. -/
theorem relayOrGiveUp_safe {stored : Option SponsorRelayRecord}
    (hstored : ∀ r, stored = some r → Stores input.request.jobId r s ∧
      (r.state = .broadcast → r.signedTx = none)) :
    (relayDiscipline parse env).Safe task (Ends fun _ _ => True)
      (relayOrGiveUp env input stored) s := by
  unfold relayOrGiveUp
  refine read_safe rfl fun t _ nowMs hst ht _ => ?_
  split
  · exact startRelay_safe
  · cases stored with
    | none => trivial
    | some r =>
      obtain ⟨hget, hbroadcast⟩ := hstored r rfl
      rw [if_pos Option.isSome_some]
      refine Discipline.Safe.bind (releaseAndDelete_safe ?_) ht (fun _ _ _ _ => trivial)
        fun _ _ _ _ => trivial
      intro v htv hv hrecorded
      have hgetv := (hget.waits hst).waits htv
      refine hv.justified hgetv fun tx htx hreceived => ?_
      -- a transaction that was received would be recorded as broadcast
      rw [hbroadcast (hrecorded _ r tx hgetv htx hreceived)] at htx
      cases htx

theorem relayDelegate_safe :
    (relayDiscipline parse env).Safe task (Ends fun _ _ => True) (relayDelegate env input) s := by
  unfold relayDelegate
  refine read_safe rfl fun t _ existing hst ht hread => ?_
  cases existing with
  | some job => exact settleWithJob_safe (exec_readJob hread (Option.some_ne_none job))
  | none =>
    dsimp only
    refine read_safe rfl fun u _ stored htu hu hget => ?_
    cases stored with
    | none => exact relayOrGiveUp_safe fun r hr => absurd hr (Option.some_ne_none r).symm
    | some r =>
      have hstored : Stores input.request.jobId r u :=
        congrArg Prod.fst (Option.some.inj hget)
      dsimp only
      split
      · trivial
      · split
        · next tx hstate hheld =>
            refine Discipline.Safe.bind (reconcileRelay_safe hstored hheld) hu ?_
              fun _ _ _ _ => trivial
            intro out v hv hout
            cases out with
            | inl answer => trivial
            | inr r' =>
              refine relayOrGiveUp_safe fun r₁ hr₁ => ?_
              cases hr₁
              exact ⟨(hout r' rfl).1, fun _ => (hout r' rfl).2⟩
        · next hnot =>
            refine relayOrGiveUp_safe fun r₁ hr₁ => ?_
            cases hr₁
            refine ⟨hstored, fun hstate => ?_⟩
            cases hsigned : r.signedTx with
            | none => rfl
            | some tx => exact absurd hsigned (hnot tx hstate)

theorem relaySponsoredUpload_safe {body : String} :
    (relayDiscipline parse env).Safe task (Ends fun _ _ => True)
      (relaySponsoredUpload parse env body) s := by
  unfold relaySponsoredUpload
  exact Discipline.Safe.ofExcept (fun _ _ => relayDelegate_safe) fun _ _ => trivial

/-- Requests and alarms are safe. -/
theorem handle_safe (hs : RelaySound s) :
    (relayDiscipline parse env).Safe task Discipline.Anywhere
      ((relaySystem parse env).handle task) s := by
  have hrelay : ∀ (body : String) (t : RelayObject), RelaySound t →
      (relayDiscipline parse env).Safe task (Ends fun _ _ => True)
        (relaySponsoredUpload parse env body >>= fun _ => Handler.done ()) t := by
    intro body t ht
    exact Discipline.Safe.bind relaySponsoredUpload_safe ht (fun _ _ _ _ => trivial)
      fun _ _ _ _ => trivial
  refine Discipline.Safe.mono (Q := Ends fun _ _ => True) ?_ fun _ _ _ => trivial
  cases task with
  | request body => exact hrelay body s hs
  | alarm =>
    refine read_safe rfl fun t _ first _ ht _ => ?_
    cases first with
    | none => trivial
    | some record =>
      dsimp only
      split
      · exact Discipline.Safe.rescue (hrelay record.signedDelegateBase64 t ht) ht
          (fun _ _ _ _ => trivial) fun _ _ _ _ => trivial
      · trivial

end Program

/-! ## Runs -/

abbrev RelayConfig : Type 1 := Config RelayObject RelayOp String Unit RelayTask
abbrev RelayEvent : Type := Event RelayInput RelayTask ChainChange
abbrev RelayTransition : Type 1 := Transition RelayConfig RelayEvent

/-- While a sent transaction is not recorded, nothing but the write that records it runs. -/
def RecordsBroadcasts (x : RelayTransition) : Prop :=
  ∀ (task : RelayTask) {β : Type} (op : RelayOp β) (i : RelayInput),
    x.pre.Executes x.label task op i → Recorded x.pre.shared ∨ op.records = true

section Runs

variable {parse : String → Result SponsoredDelegate} {env : RelayEnv}
  {nonces : LookupMap (String × String) Nat} {jobs : LookupMap String JobView}
  {tr : List RelayTransition} {c : RelayConfig}

theorem relaySound_start : RelaySound (start nonces jobs) where
  holds := by
    intro k r tx hget
    rw [start, LookupMap.get_empty] at hget
    cases hget
  reserved := by
    intro k r n hget
    rw [start, LookupMap.get_empty] at hget
    cases hget
  signed := fun _ _ hsigned => absurd hsigned List.not_mem_nil
  unused := fun _ _ _ _ _ _ _ hreceived => absurd hreceived List.not_mem_nil
  tracked := fun _ _ hsigned => absurd hsigned List.not_mem_nil
  increasing := List.Pairwise.nil
  last := fun _ hreserved => absurd hreserved List.not_mem_nil
  received := fun _ hreceived => absurd hreceived List.not_mem_nil
  chain := ⟨fun _ hexecuted => absurd hexecuted List.not_mem_nil, List.nodup_nil⟩

/-- In every run in which no relay is cut off between sending and recording: a record goes, or its
reservation, only when its job exists or no transaction that was signed for it can still land;
the reserved nonces increase; and no delegate action is executed twice. -/
theorem relay_given_up_justified
    (h : Trace (ExecStep (relaySystem parse env).next) ⟨start nonces jobs, []⟩ tr c)
    (hrecorded : ∀ x ∈ tr, RecordsBroadcasts x) :
    (∀ x ∈ tr, ∀ k, Drops x.pre.shared x.post.shared k → Justified x.pre.shared k) ∧
      ((reservations c.shared.journal).map Prod.snd).Pairwise (· < ·) ∧
      c.shared.chain.executed.Nodup := by
  obtain ⟨hsound, hall⟩ := Discipline.run (D := relayDiscipline parse env)
    (fun task s hs => handle_safe hs) (Discipline.sound_idle relaySound_start) h
    fun x hx => hrecorded x hx
  refine ⟨fun x hx k hdrops => ?_, List.pairwise_map.mpr hsound.inv.increasing,
    hsound.inv.chain.once⟩
  obtain ⟨-, hmoves⟩ := hall x hx
  cases hmoves with
  | still hsame =>
    rw [hsame] at hdrops
    exact absurd hdrops (Waits.refl _).not_drops
  | world change _ hchange =>
    obtain ⟨chain, hnext, hpost⟩ := Option.map_eq_some_iff.mp hchange
    rw [← hpost] at hdrops
    exact absurd hdrops
      (Waits.not_drops ⟨rfl, rfl, rfl, (RelayChain.change_inv hnext).1⟩)
  | acted task hguar => exact hguar k hdrops

end Runs

/-! ### Two relays that are cut off -/

def exampleRequest : PaidJobRequest where
  creatorId := "creator.testnet"
  jobId := "job-001"
  title := "Opening night"
  priceUsdc := "5000000"
  expectedSourceBytes := "734003200"
  profileId := "paid-media-livepeer-v1"
  profileConfigSha256 := "96197f502ab9777df0e1c1360803461c3f7e2809495ad575bfe338bc69f5bf77"
  uploadPublicKey := "ed25519:2fApc9eqPFt4CZdCTqMV4e81HvvqoyaZzCFLXpr7CrE9"
  uploadKeyExpiresAtMs := "1791446400000"

def exampleQuote : UploadQuote where
  domain := "youtick.sponsored-upload-quote"
  version := "1"
  network := "testnet"
  contractId := "market-v2.youtick.testnet"
  creatorId := "creator.testnet"
  jobId := "job-001"
  requestSha256 := "5e84431a684cf60e628e8612bb111ad53288a237c0523a9193922e3d600f1f88"
  expectedSourceBytes := "734003200"
  uploadFeeUsdc := "500000"
  sponsorFeeUsdc := "100000"
  totalFeeUsdc := "600000"
  delegateReceiverId := "3e2210e1184b45b64c8a434c0a7e7b23cc04ea7eb7a6c3c32520d03d4afcb8af"
  delegateMethod := "ft_transfer_call"
  delegateGas := "100000000000000"
  delegateDepositYocto := "1"
  issuedAtMs := "1791360000000"
  quoteBlockHeight := "187001000"
  maxDelegateBlockHeight := "187001200"
  expiresAtMs := "1791360120000"
  quoteKeyVersion := 1
  quoteId := "5e84431a684cf60e628e8612bb111ad53288a237c0523a9193922e3d600f1f88"

def exampleDelegate : SponsoredDelegate where
  signedDelegateBase64 := "delegate"
  signedDelegateSha256 := "5e84431a684cf60e628e8612bb111ad53288a237c0523a9193922e3d600f1f88"
  publicKey := "ed25519:HThEz8tn3BGzcaKCWf1UY7f7i5sigQBLPiqewabeXxr3"
  nonce := 187000000000001
  maxBlockHeight := 187001200
  request := exampleRequest
  quote := exampleQuote
  hasPlaybackSession := false

def exampleParse (_ : String) : Result SponsoredDelegate := .ok exampleDelegate

def exampleEnv : RelayEnv where
  usdcContractId := "3e2210e1184b45b64c8a434c0a7e7b23cc04ea7eb7a6c3c32520d03d4afcb8af"
  mutationsEnabled := true

/-- Every check passes, and the node does not answer in time. -/
def exampleInput (nowMs : Nat) : RelayInput where
  nowMs := nowMs
  height := 187001010
  job := none
  creatorKey := ⟨187000000000000, .fullAccess⟩
  relayerKey := ⟨7, "block"⟩
  balance := 1000000
  refusal := none
  txAnswer := .error "TIMEOUT_ERROR"
  landing := none

/-- A request that is cut off after some operations, and an alarm when its quote has expired. -/
def cutOffRun (operations : Nat) : List RelayEvent :=
  .start (.request "delegate") ::
    List.replicate operations (.run 0 (exampleInput 1791360001000)) ++
    .stop 0 :: .start .alarm :: List.replicate 6 (.run 0 (exampleInput 1791360200000))

def exampleTransaction : RelayTransaction := ⟨"creator.testnet", 8, "block", exampleDelegate⟩

/-- Cut off after the transaction was sent: the record is deleted while it can land. -/
theorem cutOffRun_sent :
    (execTrace (relaySystem exampleParse exampleEnv).next ⟨start .empty .empty, []⟩
      (cutOffRun 17)).map (fun r => r.1.getLast?.map fun x =>
        ((x.pre.shared.records.get "job-001").isSome, (x.post.shared.records.get "job-001").isSome,
          (x.pre.shared.chain.jobs.get "job-001").isSome,
          decide (.signed "job-001" exampleTransaction ∈ x.pre.shared.journal),
          decide (x.pre.shared.chain.CanLand exampleTransaction))) =
      some (some (true, false, false, true, true)) := by
  decide +kernel

/-- A relay is cut off after sending its transaction. When the quote has expired its record is
deleted, and the transaction can still land. -/
theorem sent_record_given_up : ∃ parse env nonces jobs tr c,
    Trace (ExecStep (relaySystem parse env).next) ⟨start nonces jobs, []⟩ tr c ∧
      ∃ x ∈ tr, ∃ k, Drops x.pre.shared x.post.shared k ∧ ¬ Justified x.pre.shared k := by
  obtain ⟨⟨tr, c⟩, hrun, hlast⟩ := Option.map_eq_some_iff.mp cutOffRun_sent
  obtain ⟨x, hx, hfacts⟩ := Option.map_eq_some_iff.mp hlast
  simp only [Prod.mk.injEq, decide_eq_true_eq] at hfacts
  obtain ⟨hbefore, hafter, hjob, hsigned, hland⟩ := hfacts
  refine ⟨_, _, _, _, tr, c, trace_of_execTrace _ hrun, x, List.mem_of_getLast? hx, "job-001",
    .inl ⟨?_, Option.isNone_iff_eq_none.mp (Option.isSome_eq_false_iff.mp hafter)⟩, ?_⟩
  · exact Option.isSome_iff_ne_none.mp hbefore
  · rintro (hexists | hnone)
    · rw [hjob] at hexists
      cases hexists
    · exact hnone exampleTransaction hsigned hland

/-- Cut off before the transaction was sent: the record is deleted as well. -/
theorem cutOffRun_signed :
    (execTrace (relaySystem exampleParse exampleEnv).next ⟨start .empty .empty, []⟩
      (cutOffRun 14)).map (fun r =>
        (decide (∀ x ∈ r.1, x.pre.shared.chain.received = []),
          r.1.getLast?.map fun x => ((x.pre.shared.records.get "job-001").isSome,
            (x.post.shared.records.get "job-001").isSome))) = some (true, some (true, false)) := by
  decide +kernel

/-- The record of a transaction that was never sent is deleted with good reason. -/
theorem signed_record_given_up : ∃ tr c,
    Trace (ExecStep (relaySystem exampleParse exampleEnv).next) ⟨start .empty .empty, []⟩ tr c ∧
      ∃ x ∈ tr, x.pre.shared.records.get "job-001" ≠ none ∧
        x.post.shared.records.get "job-001" = none ∧ Justified x.pre.shared "job-001" := by
  obtain ⟨⟨tr, c⟩, hrun, hfacts⟩ := Option.map_eq_some_iff.mp cutOffRun_signed
  obtain ⟨hnothing, hlast⟩ := Prod.mk.inj hfacts
  obtain ⟨x, hx, hdeleted⟩ := Option.map_eq_some_iff.mp hlast
  obtain ⟨hbefore, hafter⟩ := Prod.mk.inj hdeleted
  have htrace := trace_of_execTrace _ hrun
  have hsome := Option.isSome_iff_ne_none.mp hbefore
  have hnone := Option.isNone_iff_eq_none.mp (Option.isSome_eq_false_iff.mp hafter)
  have hjustified := (relay_given_up_justified htrace fun y hy _ _ _ _ _ => .inl
    fun k r tx _ _ hreceived => by
      rw [of_decide_eq_true hnothing y hy] at hreceived
      cases hreceived).1 x (List.mem_of_getLast? hx) "job-001" (.inl ⟨hsome, hnone⟩)
  exact ⟨tr, c, htrace, x, List.mem_of_getLast? hx, hsome, hnone, hjustified⟩

end Youtick.Bridge.SponsorRelay
