import Youtick.Bridge.OperatorArchive

/-!
# Bridge: runs with the archive

A request starts a scan after a record that it stored as confirmed, when none is stored. So no
confirmed record is lost in a run, unless one is stored behind the cursor of a scan that will not
come back, or a request is cut off between its record and the scan it starts.
-/

set_option autoImplicit false

namespace Youtick.Bridge

open Youtick.Lib

/-! ## Requests -/

/-- The next operation starts a scan. -/
def startsScan {τ : Type} : OperatorHandler τ → Bool
  | .act .startScan _ _ => true
  | _ => false

/-- What a request does: it leaves the scan to the alarm, and with the archive enabled it goes on to
start one after a record that is confirmed and unarchived. -/
def OperatorOp.Careful (enabled : Bool) {α β : Type} :
    OperatorOp β → (β → OperatorHandler α) → Prop
  | .putScan _, _ => False
  | .putRecord _ record, next =>
    record.Dated ∧ (enabled = true → record.Unarchived → startsScan (next ()) = true)
  | _, _ => True

section Requests

variable {signer : OperatorSigner} {request : OperatorRequest} {record : OperatorRecord}
  {key : String} {enabled : Bool} {τ υ : Type}

theorem startsScan_bind {p : OperatorHandler τ} (f : τ → OperatorHandler υ)
    (h : startsScan p = true) : startsScan (p >>= f) = true := by
  cases p with
  | done a => cases h
  | raise e => cases h
  | act op next onError =>
    cases op <;> first | rfl | cases h

theorem startsScan_rescue {p : OperatorHandler τ} (handle : String → OperatorHandler τ)
    (h : startsScan p = true) : startsScan (p.rescue handle) = true := by
  cases p with
  | done a => cases h
  | raise e => cases h
  | act op next onError =>
    cases op <;> first | rfl | cases h

theorem OperatorOp.Careful.mono {α β γ : Type} {op : OperatorOp β} {next : β → OperatorHandler α}
    {later : β → OperatorHandler γ} (h : op.Careful enabled next)
    (hlater : ∀ b, startsScan (next b) = true → startsScan (later b) = true) :
    op.Careful enabled later := by
  cases op with
  | putRecord key record => exact ⟨h.1, fun henabled hun => hlater () (h.2 henabled hun)⟩
  | putScan scan => exact h
  | now | begin key | preflight | openRecord key payloadSha256 method | effectCheck key
  | ticketStatus | queryTransaction hash | readAccessKey | reserveNonce key accessKey
  | sendTransaction base64 | deleteRecord key why | startScan | readScan
  | listRecords after limit | commitArchive | respond key result => trivial

/-- The handler goes on carefully after each of its operations. -/
abbrev IsCareful (enabled : Bool) (p : OperatorHandler τ) : Prop :=
  p.Continues (OperatorOp.Careful enabled)

theorem IsCareful.bind {p : OperatorHandler τ} {f : τ → OperatorHandler υ} (hp : IsCareful enabled p)
    (hf : ∀ a, IsCareful enabled (f a)) : IsCareful enabled (p >>= f) :=
  Handler.Continues.bind (fun _ _ h => h.mono fun _ => startsScan_bind f) hp hf

theorem IsCareful.rescue {p : OperatorHandler τ} {handle : String → OperatorHandler τ}
    (hp : IsCareful enabled p) (hh : ∀ e, IsCareful enabled (handle e)) :
    IsCareful enabled (p.rescue handle) :=
  Handler.Continues.rescue (fun _ _ h => h.mono fun _ => startsScan_rescue handle) hp hh

/-- An operation by itself, when it is careful whatever follows. -/
theorem IsCareful.single {β : Type} {op : OperatorOp β} {code : String}
    (h : op.Careful enabled (.done : β → OperatorHandler β)) :
    IsCareful enabled (Handler.perform code op) :=
  ⟨h, fun _ => trivial, trivial⟩

/-- A record that is not confirmed may be stored whatever follows. -/
theorem careful_put {next : Unit → OperatorHandler τ} (h : record.state ≠ .confirmed) :
    (OperatorOp.putRecord key record).Careful enabled next :=
  ⟨fun hstate => absurd hstate h, fun _ hun => absurd hun.1 h⟩

theorem isConfirmed_careful : IsCareful request.env.archiveEnabled (isConfirmed request) := IsCareful.single trivial

theorem persistConfirmed_careful :
    IsCareful request.env.archiveEnabled (persistConfirmed request record) := by
  unfold persistConfirmed
  refine Handler.Continues.perform trivial fun nowMs => ?_
  dsimp only
  split
  · exact Handler.Continues.perform trivial fun _ => trivial
  · refine Handler.Continues.perform ⟨fun _ => rfl, fun henabled hun => ?_⟩ fun _ => ?_
    · -- the record that was stored is unarchived, so a scan is started
      rw [if_pos ⟨henabled, _, rfl, hun.2 _ rfl⟩]
      rfl
    · split
      · exact Handler.Continues.perform trivial fun _ => trivial
      · trivial

theorem succeed_careful :
    IsCareful request.env.archiveEnabled (succeed request record) :=
  (persistConfirmed_careful).bind fun _ => trivial

theorem pollOperatorFinality_careful (hash : String) (rounds : Nat) :
    IsCareful request.env.archiveEnabled (pollOperatorFinality request hash rounds) := by
  induction rounds with
  | zero => trivial
  | succ rounds ih =>
    refine IsCareful.bind ?_ fun status => IsCareful.bind ?_ fun confirmed => ?_
    · refine IsCareful.rescue ?_ fun _ => trivial
      exact IsCareful.single trivial
    · exact isConfirmed_careful.rescue fun _ => trivial
    · split
      · trivial
      · split
        · trivial
        · exact ih

theorem reconcileBroadcast_careful (hash : String) :
    IsCareful request.env.archiveEnabled (reconcileBroadcast request record hash) := by
  refine (pollOperatorFinality_careful hash 3).bind fun confirmed => ?_
  split
  · exact succeed_careful
  · trivial

theorem reserve_careful : IsCareful request.env.archiveEnabled (reserve request record) := by
  unfold reserve
  split
  · trivial
  · refine Handler.Continues.perform trivial fun accessKey => ?_
    refine Handler.Continues.perform trivial fun result => ?_
    cases result with
    | error code => trivial
    | ok reserved => trivial

theorem signRecord_careful : IsCareful request.env.archiveEnabled (signRecord signer request record) := by
  unfold signRecord
  split
  · trivial
  · refine reserve_careful.bind fun reserved => ?_
    split
    · exact Handler.Continues.perform (careful_put fun h => nomatch h) fun _ => trivial
    · trivial

theorem markBroadcast_careful : IsCareful request.env.archiveEnabled (markBroadcast request record) := by
  unfold markBroadcast
  split
  · exact Handler.Continues.perform (careful_put fun h => nomatch h) fun _ => trivial
  · trivial

theorem settleBroadcast_careful
    (outcome : TxOutcome) : IsCareful request.env.archiveEnabled (settleBroadcast request record outcome) := by
  unfold settleBroadcast
  split
  · split
    · trivial
    · split
      · exact reconcileBroadcast_careful _
      · trivial
  · split
    · trivial
    · split
      · exact Handler.Continues.perform (careful_put fun h => nomatch h) fun _ => trivial
      · trivial

theorem submit_careful :
    IsCareful request.env.archiveEnabled (submit signer request record) := by
  unfold submit
  split
  · trivial
  · refine signRecord_careful.bind fun signed => markBroadcast_careful.bind fun marked => ?_
    split
    · trivial
    · refine IsCareful.bind ?_ fun outcome => ?_
      · refine IsCareful.rescue ?_ fun _ => trivial
        exact IsCareful.single trivial
      · refine Handler.Continues.perform (careful_put fun h => nomatch h) fun _ => ?_
        refine isConfirmed_careful.bind fun confirmed => ?_
        split
        · exact succeed_careful
        · exact settleBroadcast_careful outcome

theorem advanceRecord_careful :
    IsCareful request.env.archiveEnabled (advanceRecord signer request record) := by
  unfold advanceRecord
  split
  · exact submit_careful
  · split
    · exact submit_careful
    · split
      · exact reconcileBroadcast_careful _
      · unfold recoverBroadcast
        refine Handler.Continues.perform trivial fun status => ?_
        refine isConfirmed_careful.bind fun confirmed => ?_
        split
        · exact succeed_careful
        · split
          · trivial
          · split
            · refine Handler.Continues.perform (careful_put fun h => nomatch h) fun _ => ?_
              exact submit_careful
            · exact submit_careful

theorem processOperatorOutbox_careful :
    IsCareful request.env.archiveEnabled (processOperatorOutbox signer request) := by
  unfold processOperatorOutbox
  split
  · trivial
  · refine Handler.Continues.perform trivial fun result => ?_
    split
    · trivial
    · trivial
    · refine isConfirmed_careful.bind fun confirmed => ?_
      split
      · exact succeed_careful
      · exact advanceRecord_careful

theorem processGuarded_careful :
    IsCareful request.env.archiveEnabled (processGuarded signer request) := by
  unfold processGuarded
  split
  · trivial
  · split
    · exact Handler.Continues.perform trivial fun _ => processOperatorOutbox_careful
    · exact processOperatorOutbox_careful

theorem processSettlement_careful
    {onFailure : OperatorHandler OutboxAnswer} (hfailure : IsCareful request.env.archiveEnabled onFailure) :
    IsCareful request.env.archiveEnabled (processSettlement signer request onFailure) := by
  unfold processSettlement
  split
  · trivial
  · refine isConfirmed_careful.bind fun settled => ?_
    split
    · trivial
    · refine (processOperatorOutbox_careful).rescue fun error => ?_
      split
      · exact hfailure
      · trivial

theorem watchFailure_careful : IsCareful request.env.archiveEnabled (watchFailure request) := by
  refine Handler.Continues.perform trivial fun status => ?_
  split
  · trivial
  · split
    · exact Handler.Continues.perform trivial fun _ => trivial
    · trivial

theorem processCall_careful :
    IsCareful request.env.archiveEnabled (processCall signer request) := by
  unfold processCall
  split
  · exact processGuarded_careful
  · exact processGuarded_careful
  · exact processSettlement_careful watchFailure_careful
  · exact processSettlement_careful (Handler.Continues.perform trivial fun _ => trivial)

theorem handleRequest_careful :
    IsCareful request.env.archiveEnabled (handleRequest signer request) := by
  refine Handler.Continues.perform trivial fun _ => ?_
  refine IsCareful.bind ?_ fun result => IsCareful.single trivial
  refine IsCareful.rescue (IsCareful.bind (processCall_careful) fun answer => ?_) ?_
  · trivial
  · exact fun _ => trivial

end Requests

/-! ## One operation of a request -/

/-- The operation stores this record. -/
def OperatorOp.Stores {β : Type} : OperatorOp β → String → OperatorRecord → Prop
  | .putRecord key record, k, r => key = k ∧ record = r
  | _, _, _ => False

/-- The record is not confirmed, or one with the same archive entry was there before. -/
def Carried (s : OperatorObject) (key : String) (record : OperatorRecord) : Prop :=
  record.state ≠ .confirmed ∨ ∃ before, s.records.get key = some before ∧
    before.state = record.state ∧ before.archive = record.archive

section Operations

variable {s u : OperatorObject} {key : String} {record : OperatorRecord} {enabled : Bool}

theorem Carried.of_get (h : s.records.get key = some record) : Carried s key record :=
  .inr ⟨record, h, rfl, rfl⟩

theorem Carried.of_insert {k : String} {stored : OperatorRecord}
    (hstored : Carried s key stored)
    (h : (s.records.insert key stored).get k = some record) : Carried s k record := by
  rw [LookupMap.get_insert] at h
  split at h
  · next heq =>
      cases h
      exact heq ▸ hstored
  · exact Carried.of_get h

theorem openRecord_carried {payloadSha256 k : String} {method : OutboxMethod} {nowMs : Nat}
    (hget : (s.openRecord key payloadSha256 method nowMs).2.records.get k = some record) :
    Carried s k record := by
  unfold OperatorObject.openRecord at hget
  cases hfound : s.records.get key with
  | none =>
    rw [hfound] at hget
    refine Carried.of_insert (.inl fun hstate => ?_) hget
    cases hstate
  | some existing =>
    simp only [hfound] at hget
    cases hopen : openExisting existing payloadSha256 method with
    | error code =>
      rw [hopen] at hget
      exact Carried.of_get hget
    | ok opened =>
      obtain ⟨stored, done⟩ := opened
      rw [hopen] at hget
      cases done with
      | true => exact Carried.of_get hget
      | false =>
        -- a renamed record starts again; the others keep their state
        have hstored : Carried s key stored := by
          unfold openExisting at hopen
          split_ifs at hopen <;> cases hopen
          · exact .inl fun hstate => by cases hstate
          · exact .inr ⟨existing, hfound, rfl, rfl⟩
        dsimp only at hget
        split at hget
        · exact Carried.of_insert hstored hget
        · exact Carried.of_insert hstored hget

theorem reserveNonce_carried {k : String} {accessKey : AccessKey}
    (hget : (s.reserveNonce key accessKey).2.records.get k = some record) : Carried s k record := by
  unfold OperatorObject.reserveNonce at hget
  split at hget
  · exact Carried.of_get hget
  · split at hget
    · exact Carried.of_get hget
    · refine Carried.of_insert (.inl fun hstate => ?_) hget
      cases hstate

/-- Every record after an operation is the one it stores, or carried over. -/
theorem exec_carried {β : Type} {op : OperatorOp β} {i : OperatorInput} {b : β}
    (h : OperatorOp.exec β op i s = some (b, u)) (hget : u.records.get key = some record) :
    op.Stores key record ∨ Carried s key record := by
  cases op with
  | openRecord k payloadSha256 method =>
    have hu : (s.openRecord k payloadSha256 method i.nowMs).2 = u :=
      congrArg Prod.snd (Option.some.inj h)
    exact .inr (openRecord_carried (hu.symm ▸ hget))
  | reserveNonce k accessKey =>
    have hu : (s.reserveNonce k accessKey).2 = u := congrArg Prod.snd (Option.some.inj h)
    exact .inr (reserveNonce_carried (hu.symm ▸ hget))
  | putRecord k stored =>
    cases h
    change (s.records.insert k stored).get key = some record at hget
    rw [LookupMap.get_insert] at hget
    split at hget
    · next heq =>
        cases hget
        exact .inl ⟨heq.symm, rfl⟩
    · exact .inr (Carried.of_get hget)
  | deleteRecord k why =>
    cases h
    change (s.records.remove k).get key = some record at hget
    rw [LookupMap.get_remove] at hget
    split at hget
    · cases hget
    · exact .inr (Carried.of_get hget)
  | begin k | effectCheck k | queryTransaction hash | sendTransaction base64 | respond k result
  | now | preflight | ticketStatus | readAccessKey | startScan | readScan | putScan scan
  | listRecords after limit | commitArchive =>
    cases h
    exact .inr (Carried.of_get hget)

theorem Carried.unarchived (h : Carried s key record) (hun : record.Unarchived) :
    ∃ before, s.records.get key = some before ∧ before.Unarchived := by
  rcases h with hstate | ⟨before, hget, hstate, harchive⟩
  · exact absurd hun.1 hstate
  · refine ⟨before, hget, hstate.trans hun.1, ?_⟩
    rw [harchive]
    exact hun.2

theorem Carried.dated (h : Carried s key record) (hs : s.ScanSound) : record.Dated := by
  intro hconfirmed
  rcases h with hstate | ⟨before, hget, hstate, harchive⟩
  · exact absurd hconfirmed hstate
  · rw [← harchive]
    exact hs.dated key before hget (hstate.trans hconfirmed)

/-- A request leaves the stored scan, or starts one. -/
theorem exec_scan {α β : Type} {op : OperatorOp β} {next : β → OperatorHandler α}
    {i : OperatorInput} {b : β} (hop : op.Careful enabled next)
    (h : OperatorOp.exec β op i s = some (b, u)) :
    u.scan = s.scan ∨ u.scan = some (s.scan.getD ⟨none, none⟩) := by
  cases op with
  | openRecord k payloadSha256 method =>
    have hu : (s.openRecord k payloadSha256 method i.nowMs).2 = u :=
      congrArg Prod.snd (Option.some.inj h)
    refine .inl ?_
    rw [← hu]
    dsimp only [OperatorObject.openRecord]
    split
    · rfl
    · split
      · rfl
      · rfl
      · dsimp only
        split <;> rfl
  | reserveNonce k accessKey =>
    have hu : (s.reserveNonce k accessKey).2 = u := congrArg Prod.snd (Option.some.inj h)
    refine .inl ?_
    rw [← hu]
    dsimp only [OperatorObject.reserveNonce]
    split
    · rfl
    · split <;> rfl
  | putScan scan => exact hop.elim
  | startScan =>
    cases h
    exact .inr rfl
  | putRecord k stored | deleteRecord k why | begin k | effectCheck k | queryTransaction hash
  | sendTransaction base64 | respond k result | now | preflight | ticketStatus | readAccessKey
  | readScan | listRecords after limit | commitArchive =>
    cases h
    exact .inl rfl

theorem exec_scanSound {α β : Type} {op : OperatorOp β} {next : β → OperatorHandler α}
    {i : OperatorInput} {b : β} (hs : s.ScanSound) (hop : op.Careful enabled next)
    (hmeets : ¬ op.StoresBehind s) (h : OperatorOp.exec β op i s = some (b, u)) :
    u.ScanSound := by
  constructor
  · intro k r hget
    rcases exec_carried h hget with hstores | hcarried
    · cases op with
      | putRecord key record => exact hstores.2 ▸ hop.1
      | _ => exact hstores.elim
    · exact hcarried.dated hs
  · intro scan hmem k r hget hun
    -- the scan is the stored one, or a fresh one that comes to every key
    have hscan : s.scan = some scan ∨ scan = ⟨none, none⟩ := by
      rcases exec_scan hop h with hsame | hstarted
      · exact .inl (hsame ▸ hmem)
      · rw [hstarted] at hmem
        cases hold : s.scan with
        | none => exact .inr (by rw [hold] at hmem; exact (Option.some.inj hmem).symm)
        | some old => exact .inl (by rw [hold] at hmem; exact congrArg some (Option.some.inj hmem))
    rcases hscan with hscan | rfl
    · rcases exec_carried h hget with hstores | hcarried
      · cases op with
        | putRecord key record =>
          obtain ⟨rfl, rfl⟩ := hstores
          by_contra hmiss
          exact hmeets ⟨hun, scan, hscan, hmiss⟩
        | _ => exact hstores.elim
      · obtain ⟨before, hbefore, hun'⟩ := hcarried.unarchived hun
        exact hs.visits scan hscan k before hbefore hun'
    · exact ArchiveScan.fresh_visits k

/-- The operation stores a confirmed record that has to be archived. -/
def OperatorOp.Confirms {β : Type} : OperatorOp β → Prop
  | .putRecord _ record => record.Unarchived
  | _ => False

/-- Without a scan an operation of a request leaves a record unarchived only when it confirms it. -/
theorem exec_settled {α β : Type} {op : OperatorOp β} {next : β → OperatorHandler α}
    {i : OperatorInput} {b : β} (hop : op.Careful true next) (hs : s.Settled)
    (h : OperatorOp.exec β op i s = some (b, u)) :
    u.Settled ∨ op.Confirms ∧ s.scan = none ∧ startsScan (next b) = true := by
  by_cases hconfirms : op.Confirms
  · cases op with
    | putRecord key record =>
      cases hscan : s.scan with
      | none => exact .inr ⟨hconfirms, rfl, hop.2 rfl hconfirms⟩
      | some scan =>
        cases h
        exact .inl (OperatorObject.settled_of_scan hscan)
    | _ => exact hconfirms.elim
  · refine .inl fun hnone k r hget hun => ?_
    have hscan : s.scan = none := by
      rcases exec_scan hop h with hsame | hstarted
      · rw [← hsame, hnone]
      · rw [hnone] at hstarted
        cases hstarted
    rcases exec_carried h hget with hstores | hcarried
    · cases op with
      | putRecord key record =>
        obtain ⟨rfl, rfl⟩ := hstores
        exact hconfirms hun
      | _ => exact hstores.elim
    · obtain ⟨before, hbefore, hun'⟩ := hcarried.unarchived hun
      exact hs hscan k before hbefore hun'

end Operations

/-! ## Runs -/

abbrev OperatorConfig : Type 1 := Config OperatorObject OperatorOp String Unit OperatorTask

abbrev OperatorEvent : Type := Event OperatorInput OperatorTask OperatorWorld

abbrev OperatorTransition : Type 1 := Transition OperatorConfig OperatorEvent

/-- Requests run with the archive enabled. -/
def ArchiveEnabled (x : OperatorTransition) : Prop :=
  match x.label with
  | .start (.request request) => request.env.archiveEnabled = true
  | _ => True

/-- The step stores a confirmed record under a key that the stored scan has passed. -/
def ConfirmsBehind (x : OperatorTransition) : Prop :=
  ∃ op ∈ x.pre.operation x.label, op.2.StoresBehind x.pre.shared

/-- The step ends a request, by a crash or a failed storage, after it has stored a confirmed record
and before it has started a scan. -/
def CutsOff (x : OperatorTransition) : Prop :=
  match x.label with
  | .stop k | .throwBefore k => ∃ p ∈ x.pre.pool[k]?, startsScan p.2 = true
  | .throwAfter _ _ => ∃ op ∈ x.pre.operation x.label, op.2.Confirms
  | _ => False

section Decidable

variable {β : Type} (op : OperatorOp β) (s : OperatorObject) (x : OperatorTransition)

instance : Decidable (op.StoresBehind s) := by
  cases op <;> unfold OperatorOp.StoresBehind <;> infer_instance

instance : Decidable op.Confirms := by
  cases op <;> unfold OperatorOp.Confirms <;> infer_instance

instance : Decidable (ArchiveEnabled x) := by
  unfold ArchiveEnabled
  split <;> infer_instance

instance : Decidable (ConfirmsBehind x) := by
  unfold ConfirmsBehind
  infer_instance

instance : Decidable (CutsOff x) := by
  unfold CutsOff
  split <;> infer_instance

end Decidable

/-- What holds along a run: the scan is sound, requests are careful, and a record that waits without
a scan belongs to the request that starts one next. -/
structure ArchiveTracked (signer : OperatorSigner) (c : OperatorConfig) : Prop where
  sound : (archiveDiscipline signer).Sound c
  careful : ∀ p ∈ c.pool, ∀ request, p.1 = .request request → IsCareful true p.2
  settled : c.shared.Settled ∨ ∃ p ∈ c.pool, startsScan p.2 = true

section Runs

variable {signer : OperatorSigner} {c d : OperatorConfig} {e : OperatorEvent}

theorem handle_archives (task : OperatorTask) (s : OperatorObject) :
    (archiveDiscipline signer).Safe task Discipline.Anywhere
      ((operatorSystem signer).handle task) s := by
  cases task with
  | alarm env => exact advanceOperatorArchiveScan_archives
  | request request =>
    have hcareful : IsCareful request.env.archiveEnabled (handleRequest signer request) :=
      handleRequest_careful
    refine Discipline.safe_of_uses (P := fun op => op.Careful false Handler.done) ?_
      (hcareful.uses fun op next h => ?_)
    · intro β op hop i t b u ht hm hx
      exact ⟨exec_scanSound ht hop hm hx, trivial⟩
    · cases op with
      | putRecord key record => exact ⟨h.1, fun hfalse => (nomatch hfalse)⟩
      | putScan scan => exact h
      | _ => trivial

/-- One task runs at a time. -/
theorem ArchiveTracked.only (hc : ArchiveTracked signer c) {k : Nat}
    {p q : OperatorTask × OperatorHandler Unit} (hp : p ∈ c.pool) (hq : c.pool[k]? = some q) :
    p = q := by
  have halone := hc.sound.alone
  have hmem := List.mem_of_getElem? hq
  generalize c.pool = pool at hp hmem halone
  rcases pool with _ | ⟨a, _ | ⟨b, rest⟩⟩
  · exact absurd hp List.not_mem_nil
  · rw [List.mem_singleton] at hp hmem
    rw [hp, hmem]
  · have hsolo := (List.pairwise_cons.mp halone).1 b List.mem_cons_self
    cases hsolo

/-- An operation leaves every confirmed record archived or scanned for, unless it confirms one and
its request goes on to start the scan. -/
theorem ArchiveTracked.acted (hc : ArchiveTracked signer c) {k : Nat} {task : OperatorTask}
    {β : Type} {op : OperatorOp β} {next : β → OperatorHandler Unit}
    {onError : OperatorHandler Unit} {i : OperatorInput} {b : β} {u : OperatorObject}
    (hk : c.pool[k]? = some (task, .act op next onError)) (hmeets : ¬ op.StoresBehind c.shared)
    (hx : OperatorOp.exec β op i c.shared = some (b, u)) :
    u.Settled ∨ op.Confirms ∧ c.shared.scan = none ∧ startsScan (next b) = true := by
  rcases hc.settled with hsettled | ⟨p, hp, hstarts⟩
  · cases task with
    | alarm env =>
      have hsafe := hc.sound.safe _ (List.mem_of_getElem? hk)
      have hrun := (hsafe c.shared ((archiveDiscipline signer).rely_refl _ _) hc.sound.inv).2
      exact .inl ((hrun i b u hmeets hx).2.1 hsettled)
    | request request =>
      have hcareful := hc.careful _ (List.mem_of_getElem? hk) request rfl
      exact exec_settled hcareful.1 hsettled hx
  · -- the request that confirmed a record starts its scan
    cases hc.only hp hk
    cases op with
    | startScan =>
      cases hx
      exact .inl (OperatorObject.settled_of_scan rfl)
    | _ => cases hstarts

theorem ArchiveTracked.step (hc : ArchiveTracked signer c) (henabled : ArchiveEnabled ⟨c, e, d⟩)
    (hbehind : ¬ ConfirmsBehind ⟨c, e, d⟩)
    (hcut : c.shared.scan = none → ¬ CutsOff ⟨c, e, d⟩)
    (h : (operatorSystem signer).next c e = some d) : ArchiveTracked signer d := by
  have hmeets : (archiveDiscipline signer).Meets ⟨c, e, d⟩ := by
    intro task β op i hx hstores
    exact hbehind ⟨⟨β, op⟩, hx.operation, hstores⟩
  obtain ⟨hsound, -⟩ := Discipline.Sound.step (fun task s _ => handle_archives task s) hc.sound
    hmeets h
  -- a record that waits without a scan is not left by its request
  have hwaits : ∀ p ∈ c.pool, startsScan p.2 = true → c.shared.Settled ∨ ¬ CutsOff ⟨c, e, d⟩ := by
    intro p _ _
    by_cases hscan : c.shared.scan = none
    · exact .inr (hcut hscan)
    · exact .inl fun hnone => absurd hnone hscan
  cases e with
  | start task =>
    simp only [System.next] at h
    split at h
    · cases h
      refine ⟨hsound, ?_, ?_⟩
      · intro p hp request hreq
        rcases List.mem_append.mp hp with hp | hp
        · exact hc.careful p hp request hreq
        · rw [List.mem_singleton] at hp
          subst hp
          cases hreq
          have htrue : request.env.archiveEnabled = true := henabled
          exact htrue ▸ handleRequest_careful
      · rcases hc.settled with hsettled | ⟨p, hp, hstarts⟩
        · exact .inl hsettled
        · exact .inr ⟨p, List.mem_append_left _ hp, hstarts⟩
    · cases h
  | run k i =>
    simp only [System.next] at h
    split at h
    · next task β op next onError hk =>
        obtain ⟨⟨b, u⟩, hx, rfl⟩ := Option.map_eq_some_iff.mp h
        have hop := hmeets task op i ⟨k, next, onError, hk, .inl rfl⟩
        have hlt : k < c.pool.length := (List.getElem?_eq_some_iff.mp hk).1
        refine ⟨hsound, ?_, ?_⟩
        · intro p hp request hreq
          rcases List.mem_or_eq_of_mem_set hp with hp | rfl
          · exact hc.careful p hp request hreq
          · exact (hc.careful _ (List.mem_of_getElem? hk) request hreq).2.1 b
        · rcases hc.acted hk hop hx with hsettled | ⟨-, -, hstarts⟩
          · exact .inl hsettled
          · exact .inr ⟨(task, next b), List.mem_set hlt _, hstarts⟩
    · cases h
  | throwBefore k =>
    simp only [System.next] at h
    split at h
    · next task β op next onError hk =>
        cases h
        refine ⟨hsound, ?_, ?_⟩
        · intro p hp request hreq
          rcases List.mem_or_eq_of_mem_set hp with hp | rfl
          · exact hc.careful p hp request hreq
          · exact (hc.careful _ (List.mem_of_getElem? hk) request hreq).2.2
        · rcases hc.settled with hsettled | ⟨p, hp, hstarts⟩
          · exact .inl hsettled
          · rcases hwaits p hp hstarts with hsettled | hkept
            · exact .inl hsettled
            · cases hc.only hp hk
              exact absurd ⟨_, hk, hstarts⟩ hkept
    · cases h
  | throwAfter k i =>
    simp only [System.next] at h
    split at h
    · next task β op next onError hk =>
        obtain ⟨⟨b, u⟩, hx, rfl⟩ := Option.map_eq_some_iff.mp h
        have hexec : c.Executes (.throwAfter k i : OperatorEvent) task op i :=
          ⟨k, next, onError, hk, .inr rfl⟩
        refine ⟨hsound, ?_, ?_⟩
        · intro p hp request hreq
          rcases List.mem_or_eq_of_mem_set hp with hp | rfl
          · exact hc.careful p hp request hreq
          · exact (hc.careful _ (List.mem_of_getElem? hk) request hreq).2.2
        · rcases hc.acted hk (hmeets task op i hexec) hx with hsettled | ⟨hconfirms, hnone, -⟩
          · exact .inl hsettled
          · exact absurd ⟨⟨β, op⟩, hexec.operation, hconfirms⟩ (hcut hnone)
    · cases h
  | stop k =>
    cases h
    refine ⟨hsound, ?_, ?_⟩
    · intro p hp
      exact hc.careful p (List.mem_of_mem_eraseIdx hp)
    · rcases hc.settled with hsettled | ⟨p, hp, hstarts⟩
      · exact .inl hsettled
      · rcases hwaits p hp hstarts with hsettled | hkept
        · exact .inl hsettled
        · cases hk : c.pool[k]? with
          | none =>
            refine .inr ⟨p, ?_, hstarts⟩
            rw [List.getElem?_eq_none_iff] at hk
            rw [List.eraseIdx_of_length_le hk]
            exact hp
          | some q =>
            cases hc.only hp hk
            exact absurd ⟨_, hk, hstarts⟩ hkept
  | world w =>
    cases h
    exact ⟨hsound, hc.careful, .inl (OperatorObject.settled_of_scan rfl)⟩

end Runs

/-! ### A scan that has passed the key -/

def archivedEnv : OperatorEnv := ⟨true, true, false, false, true, true⟩

def archivedRequest (key : String) : OperatorRequest :=
  ⟨archivedEnv, .suspendSales, key, "hash", "args", true⟩

def confirmedInput : OperatorInput := ⟨1, ⟨6, "block"⟩, .success, true, none, "sha"⟩

/-- A task that runs to its end, alone and without a failure. -/
def taskRun (task : OperatorTask) (operations : Nat) : List OperatorEvent :=
  .start task :: List.replicate operations (.run 0 confirmedInput) ++ [.stop 0]

/-- The scan archives `b`; then `a` is confirmed, and the scan ends. -/
def missedRun : List OperatorEvent :=
  taskRun (.request (archivedRequest "b")) 7 ++ taskRun (.alarm archivedEnv) 8 ++
    taskRun (.request (archivedRequest "a")) 7 ++ taskRun (.alarm archivedEnv) 5

theorem missedRun_end :
    (execTrace (operatorSystem exampleSigner).next ⟨.empty, []⟩ missedRun).map
        (fun r => (decide (∀ x ∈ r.1, ArchiveEnabled x),
          decide (∀ x ∈ r.1, x.pre.shared.scan = none → ¬ CutsOff x), r.2.pool.length,
          r.2.shared.scan.isSome,
          (r.2.shared.records.get "a").map fun record => decide record.Unarchived))
      = some (true, true, 0, false, some true) := by
  decide +kernel

/-- The keys in order: `a` is confirmed and archived, then `b` is confirmed, and both are archived. -/
def visitedRun : List OperatorEvent :=
  taskRun (.request (archivedRequest "a")) 7 ++ taskRun (.alarm archivedEnv) 8 ++
    taskRun (.request (archivedRequest "b")) 7 ++ taskRun (.alarm archivedEnv) 8

theorem visitedRun_end :
    (execTrace (operatorSystem exampleSigner).next ⟨.empty, []⟩ visitedRun).map
        (fun r => (decide (∀ x ∈ r.1, ArchiveEnabled x), decide (∀ x ∈ r.1, ¬ ConfirmsBehind x),
          decide (∀ x ∈ r.1, x.pre.shared.scan = none → ¬ CutsOff x), r.2.pool.length))
      = some (true, true, true, 0) := by
  decide +kernel

end Youtick.Bridge
