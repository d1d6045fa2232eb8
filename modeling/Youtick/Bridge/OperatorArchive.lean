import Youtick.Bridge.OperatorRuns

/-!
# Bridge: the archive scan

A confirmed record waits in the outbox until the alarm has copied it to the archive. The scan walks
the keys with a stored cursor, one record or one batch for each alarm, and a confirmation starts a
scan when none is stored. `NoneLost` says that no confirmed record is left out. The alarm keeps it
with every operation (`archiveDiscipline`), whatever happens to it.
-/

set_option autoImplicit false

namespace Youtick.Bridge

open Youtick.Lib

/-! ## What a scan still visits -/

/-- The record is confirmed and has no committed archive entry. -/
def OperatorRecord.Unarchived (record : OperatorRecord) : Prop :=
  record.state = .confirmed ∧ ∀ archive ∈ record.archive, archive.status ≠ .committed

instance (record : OperatorRecord) : Decidable record.Unarchived := by
  unfold OperatorRecord.Unarchived
  infer_instance

/-- A confirmed record has an archive entry. -/
def OperatorRecord.Dated (record : OperatorRecord) : Prop :=
  record.state = .confirmed → record.archive.isSome = true

/-- The scan has not passed the key, or another pass from the first key follows it. -/
def ArchiveScan.Visits (scan : ArchiveScan) (key : String) : Prop :=
  (∀ last ∈ scan.after, last < key) ∨ scan.earliestRetryAtMs.isSome = true

instance (scan : ArchiveScan) (key : String) : Decidable (scan.Visits key) := by
  unfold ArchiveScan.Visits
  infer_instance

namespace OperatorObject

/-- Every confirmed record is archived, or the stored scan still comes to it. -/
def NoneLost (object : OperatorObject) : Prop :=
  ∀ key record, object.records.get key = some record → record.state = .confirmed →
    (∃ archive ∈ record.archive, archive.status = .committed) ∨
      ∃ scan ∈ object.scan, scan.Visits key

/-- Without a scan every confirmed record is archived. -/
def Settled (object : OperatorObject) : Prop :=
  object.scan = none → ∀ key record, object.records.get key = some record → ¬ record.Unarchived

/-- A stored scan comes to every record that still has to be archived. -/
structure ScanSound (object : OperatorObject) : Prop where
  dated : ∀ key record, object.records.get key = some record → record.Dated
  visits : ∀ scan ∈ object.scan, ∀ key record, object.records.get key = some record →
    record.Unarchived → scan.Visits key

end OperatorObject

theorem OperatorRecord.committed_of_not_unarchived {record : OperatorRecord}
    (h : ¬ record.Unarchived) (hstate : record.state = .confirmed) :
    ∃ archive ∈ record.archive, archive.status = .committed := by
  by_contra hnone
  refine h ⟨hstate, fun archive hmem hcommitted => hnone ⟨archive, hmem, hcommitted⟩⟩

theorem OperatorObject.ScanSound.noneLost {object : OperatorObject} (h : object.ScanSound)
    (hsettled : object.Settled) : object.NoneLost := by
  intro key record hget hstate
  by_cases hun : record.Unarchived
  · cases hscan : object.scan with
    | none => exact absurd hun (hsettled hscan key record hget)
    | some scan => exact .inr ⟨scan, rfl, h.visits scan hscan key record hget hun⟩
  · exact .inl (record.committed_of_not_unarchived hun hstate)

theorem OperatorObject.scanSound_empty : OperatorObject.empty.ScanSound where
  dated := fun key record hget => by
    rw [OperatorObject.empty, LookupMap.get_empty] at hget
    cases hget
  visits := fun _ hscan => (nomatch hscan)

namespace OperatorObject.ScanSound

variable {s t : OperatorObject}

/-- A record is stored that every stored scan comes to. -/
theorem put (h : s.ScanSound) {key : String} {record : OperatorRecord}
    (hrecords : t.records = s.records.insert key record) (hscan : t.scan = s.scan)
    (hdated : record.Dated)
    (hvisits : record.Unarchived → ∀ scan ∈ s.scan, scan.Visits key) : t.ScanSound := by
  constructor
  · intro k r hget
    rw [hrecords, LookupMap.get_insert] at hget
    split at hget
    · cases hget
      exact hdated
    · exact h.dated k r hget
  · intro scan hmem k r hget hun
    rw [hscan] at hmem
    rw [hrecords, LookupMap.get_insert] at hget
    split at hget
    · next heq =>
        cases hget
        exact heq ▸ hvisits hun scan hmem
    · exact h.visits scan hmem k r hget hun

/-- The scan changes to one that comes to every record that waits. -/
theorem rescan (h : s.ScanSound) (hrecords : t.records = s.records)
    (hvisits : ∀ scan ∈ t.scan, ∀ key record, s.records.get key = some record →
      record.Unarchived → scan.Visits key) : t.ScanSound :=
  ⟨fun k r hget => h.dated k r (hrecords ▸ hget),
    fun scan hmem k r hget => hvisits scan hmem k r (hrecords ▸ hget)⟩

theorem congr (h : s.ScanSound) (hrecords : t.records = s.records) (hscan : t.scan = s.scan) :
    t.ScanSound :=
  h.rescan hrecords fun scan hmem => h.visits scan (hscan ▸ hmem)

end OperatorObject.ScanSound

theorem ArchiveScan.fresh_visits (key : String) : (⟨none, none⟩ : ArchiveScan).Visits key :=
  .inl fun _ hlast => (nomatch hlast)

/-- A scan is started when none is stored. -/
theorem OperatorObject.ScanSound.started {s : OperatorObject} (h : s.ScanSound) :
    OperatorObject.ScanSound { s with scan := some (s.scan.getD ⟨none, none⟩) } := by
  refine h.rescan rfl fun scan hmem key record hget hun => ?_
  cases Option.some.inj hmem
  cases hscan : s.scan with
  | none => exact ArchiveScan.fresh_visits key
  | some old => exact h.visits old hscan key record hget hun

/-! ## One batch of keys -/

/-- A sorted list, cut off after `n` entries: an entry is in it or behind all of it. -/
theorem mem_take_or_behind {α : Type} {r : α → α → Prop} {l : List α} (hl : l.Pairwise r) {a : α}
    (ha : a ∈ l) (n : Nat) :
    a ∈ l.take n ∨ (l.take n).length = n ∧ ∀ b ∈ l.take n, r b a := by
  rw [← List.take_append_drop n l] at ha hl
  rcases List.mem_append.mp ha with hin | hout
  · exact .inl hin
  · refine .inr ⟨?_, fun b hb => (List.pairwise_append.mp hl).2.2 b hb a hout⟩
    have hlen : 0 < (l.drop n).length := List.length_pos_of_mem hout
    rw [List.length_drop] at hlen
    rw [List.length_take]
    omega

theorem le_last_key {α : Type} {l : List (String × α)}
    (hl : l.Pairwise fun a b => a.1 < b.1) {a : String × α} (ha : a ∈ l) :
    ∃ last ∈ l.getLast?.map Prod.fst, a.1 ≤ last := by
  have hne : l ≠ [] := List.ne_nil_of_mem ha
  refine ⟨(l.getLast hne).1, by rw [List.getLast?_eq_some_getLast hne]; rfl, ?_⟩
  rw [← List.dropLast_append_getLast hne] at ha hl
  rcases List.mem_append.mp ha with hin | hlast
  · exact ((List.pairwise_append.mp hl).2.2 a hin _ (List.mem_singleton.mpr rfl)).le
  · rw [List.mem_singleton.mp hlast]

/-- `listRecords` before it is cut off. -/
theorem OperatorObject.listRecords_eq (s : OperatorObject) (after : Option String) (limit : Nat) :
    ∃ all : List (String × OperatorRecord), s.listRecords after limit = all.take limit ∧
      all.Pairwise (fun a b => a.1 < b.1) ∧ (∀ entry ∈ all, s.records.get entry.1 = some entry.2) ∧
      ∀ key record, s.records.get key = some record → (∀ last ∈ after, last < key) →
        (key, record) ∈ all := by
  refine ⟨_, rfl, ?_, ?_, ?_⟩
  · rw [List.pairwise_filterMap]
    refine (keysInOrder_sorted _).imp fun {k k'} hlt => ?_
    intro a ha b hb
    obtain ⟨_, -, rfl⟩ := Option.map_eq_some_iff.mp ha
    obtain ⟨_, -, rfl⟩ := Option.map_eq_some_iff.mp hb
    exact hlt
  · intro entry hentry
    obtain ⟨k, -, hk⟩ := List.mem_filterMap.mp hentry
    obtain ⟨record, hget, rfl⟩ := Option.map_eq_some_iff.mp hk
    exact hget
  · intro key record hget hafter
    refine List.mem_filterMap.mpr ⟨key, ?_, Option.map_eq_some_iff.mpr ⟨record, hget, rfl⟩⟩
    rw [mem_keysInOrder, Finset.mem_filter, LookupMap.mem_keys]
    exact ⟨⟨record, hget⟩, hafter⟩

/-! ## The alarm -/

/-- The record is stored as confirmed and unarchived behind the cursor of the stored scan. -/
def OperatorOp.StoresBehind {β : Type} : OperatorOp β → OperatorObject → Prop
  | .putRecord key record, s => record.Unarchived ∧ ∃ scan ∈ s.scan, ¬ scan.Visits key
  | _, _ => False

/-- Tasks run one at a time; a scan that is stored stays while a task waits. -/
def archiveDiscipline (signer : OperatorSigner) : Discipline (operatorSystem signer) where
  inv := OperatorObject.ScanSound
  meets := fun op s => ¬ op.StoresBehind s
  rely := fun _ s t => t.records = s.records ∧ (t.scan = s.scan ∨ s.scan = none)
  guar := fun task s t =>
    match task with
    | .request _ => True
    | .alarm _ => s.Settled → t.Settled
  rely_refl := fun _ _ => ⟨rfl, .inl rfl⟩
  rely_trans := fun _ s t u hst htu => by
    refine ⟨htu.1.trans hst.1, ?_⟩
    rcases hst.2 with hsame | hnone
    · rcases htu.2 with hsame' | hnone
      · exact .inl (hsame'.trans hsame)
      · exact .inr (hsame ▸ hnone)
    · exact .inr hnone
  guar_rely := fun _ _ _ _ hsolo => nomatch hsolo
  world := by
    rintro e s t hs ht
    cases ht
    refine ⟨hs.started, fun _ => ⟨rfl, ?_⟩⟩
    cases hscan : s.scan with
    | none => exact .inr rfl
    | some scan => exact .inl rfl

section Alarm

variable {signer : OperatorSigner} {env : OperatorEnv} {s : OperatorObject} {scan : ArchiveScan}
  {key : String} {τ : Type}

/-- The scan is still stored, and only the record of the key has changed since `s`. -/
def OnlyRecord (scan : ArchiveScan) (key : String) (s t : OperatorObject) : Prop :=
  t.scan = some scan ∧ ∀ k, k ≠ key → t.records.get k = s.records.get k

theorem OnlyRecord.trans {t u : OperatorObject} (hst : OnlyRecord scan key s t)
    (htu : OnlyRecord scan key t u) : OnlyRecord scan key s u :=
  ⟨htu.1, fun k hk => (htu.2 k hk).trans (hst.2 k hk)⟩

theorem OnlyRecord.of_rely {t : OperatorObject} (hscan : s.scan = some scan)
    (h : t.records = s.records ∧ (t.scan = s.scan ∨ s.scan = none)) : OnlyRecord scan key s t := by
  refine ⟨?_, fun k _ => by rw [h.1]⟩
  rcases h.2 with hsame | hnone
  · rw [hsame, hscan]
  · rw [hscan] at hnone
    cases hnone

/-- Where the archiving of one record ends: it is archived, or there is a time to try again. -/
def RecordArchived (scan : ArchiveScan) (key : String) (s : OperatorObject) :
    Except String (Option Nat) → OperatorObject → Prop
  | .ok retryAtMs, t => OnlyRecord scan key s t ∧ (retryAtMs = none →
      ∀ record, t.records.get key = some record → ¬ record.Unarchived)
  | .error _, t => OnlyRecord scan key s t

/-- The rule for an operation of the alarm while its scan is stored. -/
theorem scanning_perform {β : Type} {op : OperatorOp β} {code : String}
    {f : β → OperatorHandler τ} {Q : Except String τ → OperatorObject → Prop}
    (hscan : s.scan = some scan) (hbefore : ∀ t, OnlyRecord scan key s t → Q (.error code) t)
    (h : ∀ t i b u, OnlyRecord scan key s t → t.records = s.records → t.ScanSound →
      ¬ op.StoresBehind t → OperatorOp.exec β op i t = some (b, u) → u.ScanSound ∧ u.Settled ∧
        Q (.error code) u ∧ (archiveDiscipline signer).Safe (.alarm env) Q (f b) u) :
    (archiveDiscipline signer).Safe (.alarm env) Q (Handler.perform code op >>= f) s := by
  refine Discipline.Safe.perform fun t hst ht => ?_
  have honly : OnlyRecord scan key s t := OnlyRecord.of_rely hscan hst
  refine ⟨hbefore t honly, fun i b u hm hx => ?_⟩
  obtain ⟨hu, hsettled, herror, hnext⟩ := h t i b u honly hst.1 ht hm hx
  exact ⟨hu, fun _ => hsettled, hnext, herror⟩

theorem OperatorObject.settled_of_scan (hscan : s.scan = some scan) : s.Settled := by
  intro hnone
  rw [hscan] at hnone
  cases hnone

/-- An operation that only reads. -/
theorem scanning_read {k : String} {β : Type} {op : OperatorOp β} {code : String}
    {f : β → OperatorHandler τ} {Q : Except String τ → OperatorObject → Prop}
    (hread : ∀ i t b u, OperatorOp.exec β op i t = some (b, u) → u = t)
    (hscan : s.scan = some scan) (hbefore : ∀ t, OnlyRecord scan k s t → Q (.error code) t)
    (h : ∀ t i b, OnlyRecord scan k s t → t.records = s.records → t.ScanSound →
      OperatorOp.exec β op i t = some (b, t) →
        (archiveDiscipline signer).Safe (.alarm env) Q (f b) t) :
    (archiveDiscipline signer).Safe (.alarm env) Q (Handler.perform code op >>= f) s := by
  refine scanning_perform hscan hbefore fun t i b u honly hrecords ht _ hx => ?_
  cases hread i t b u hx
  exact ⟨ht, OperatorObject.settled_of_scan honly.1, hbefore t honly, h t i b honly hrecords ht hx⟩

/-- The archive entry of a record is written back. -/
theorem putArchive_archives {record : OperatorRecord} {s₀ : OperatorObject}
    {retryAtMs : Option Nat} (hs : OnlyRecord scan key s₀ s) (harchive : record.archive.isSome = true)
    (hdone : retryAtMs = none → ¬ record.Unarchived) :
    (archiveDiscipline signer).Safe (.alarm env) (RecordArchived scan key s₀)
      (Handler.perform storageError (.putRecord key record) >>= fun _ => .done retryAtMs) s := by
  refine scanning_perform hs.1 (fun t ht => hs.trans ht) fun t i _ u honly _ ht hm hx => ?_
  cases hx
  have hput : OnlyRecord scan key s₀ { t.log [.put key record] with
      records := t.records.insert key record } := by
    refine hs.trans ⟨honly.1, fun k hk => ?_⟩
    change (t.records.insert key record).get k = s.records.get k
    rw [LookupMap.get_insert_of_ne _ _ hk, honly.2 k hk]
  refine ⟨ht.put rfl rfl (fun _ => harchive) fun hun visited hmem => ?_,
    OperatorObject.settled_of_scan honly.1, hput, hput, fun hnone stored hget => ?_⟩
  · by_contra hmiss
    exact hm ⟨hun, visited, hmem, hmiss⟩
  · change (t.records.insert key record).get key = some stored at hget
    rw [LookupMap.get_insert_self] at hget
    cases hget
    exact hdone hnone

theorem advanceOperatorArchive_archives {record : OperatorRecord} {archive : RecordArchive}
    (hs : s.ScanSound) (hscan : s.scan = some scan) :
    (archiveDiscipline signer).Safe (.alarm env) (RecordArchived scan key s)
      (advanceOperatorArchive env key record archive) s := by
  have hself : OnlyRecord scan key s s := ⟨hscan, fun _ _ => rfl⟩
  unfold advanceOperatorArchive
  dsimp only
  refine Discipline.Safe.rescue (Q := RecordArchived scan key s) ?_ hs (fun _ _ _ h => h)
    fun error t _ honly => ?_
  · -- the archive row is written, then the record is marked
    unfold archiveRecord
    split
    · exact hself
    · refine scanning_read (fun i t b u hx => by cases hx; rfl) hscan (fun t ht => ht) ?_
      intro t i sha honly hrecords ht hx
      refine scanning_read (fun i t b u hx => by cases hx; rfl) honly.1
        (fun u hu => honly.trans hu) ?_
      intro u j nowMs honly' hrecords' hu hx'
      refine putArchive_archives (honly.trans honly') rfl fun _ hun => ?_
      exact hun.2 _ rfl rfl
  · -- an error puts the record off
    refine scanning_read (fun i t b u hx => by cases hx; rfl) honly.1
      (fun u hu => OnlyRecord.trans honly hu) ?_
    intro u j nowMs honly' hrecords' hu hx'
    exact putArchive_archives (OnlyRecord.trans honly honly') rfl fun hnone => (nomatch hnone)

/-- The alarm ends with a scan that comes to every record that waits, or with none. -/
theorem putScan_archives {next : Option ArchiveScan}
    (h : ∀ k record, s.records.get k = some record → record.Unarchived →
      ∃ following ∈ next, following.Visits k) :
    (archiveDiscipline signer).Safe (.alarm env) Discipline.Anywhere
      (Handler.perform storageError (.putScan next)) s := by
  change (archiveDiscipline signer).Safe (.alarm env) Discipline.Anywhere
    (Handler.perform storageError (.putScan next) >>= Handler.done) s
  refine Discipline.Safe.perform_anywhere fun t hst ht i _ u _ hx => ?_
  cases hx
  have hwaits : ∀ k record, t.records.get k = some record → record.Unarchived →
      ∃ following ∈ next, following.Visits k := by
    intro k record hget
    rw [hst.1] at hget
    exact h k record hget
  refine ⟨ht.rescan rfl fun following hmem k record hget hun => ?_, fun _ hnone => ?_, trivial⟩
  · obtain ⟨other, hother, hvisits⟩ := hwaits k record hget hun
    have hsame : other = following := Option.some.inj (hother.symm.trans hmem)
    exact hsame ▸ hvisits
  · intro k record hget hun
    obtain ⟨following, hmem, -⟩ := hwaits k record hget hun
    have hnone' : next = none := hnone
    rw [hnone'] at hmem
    cases hmem

/-- The records that wait: a retry is noted, or they are in the rest of the batch, or behind it. -/
def Awaited (s : OperatorObject) (earliest : Option Nat) (rest : List (String × OperatorRecord))
    (full : Bool) (last : Option String) : Prop :=
  ∀ k record, s.records.get k = some record → record.Unarchived →
    earliest.isSome = true ∨ (k, record) ∈ rest ∨ full = true ∧ ∀ l ∈ last, l < k

theorem Awaited.skip {earliest later : Option Nat} {record : OperatorRecord}
    {rest : List (String × OperatorRecord)} {full : Bool} {last : Option String}
    (h : Awaited s earliest ((key, record) :: rest) full last)
    (hlater : earliest.isSome = true → later.isSome = true)
    (hskip : ¬ record.Unarchived ∨ later.isSome = true) : Awaited s later rest full last := by
  intro k r hget hun
  rcases h k r hget hun with hsome | hmem | hbehind
  · exact .inl (hlater hsome)
  · rcases List.mem_cons.mp hmem with heq | hmem
    · cases heq
      rcases hskip with hnot | hsome
      · exact absurd hun hnot
      · exact .inl hsome
    · exact .inr (.inl hmem)
  · exact .inr (.inr hbehind)

/-- One batch. What carries the induction is that no record that waits is skipped without a time to
try it again; the batch is sorted, so what is left of it lies behind the new cursor. -/
theorem scanBatch_archives {nowMs : Nat} {last : Option String} {full : Bool}
    (records : List (String × OperatorRecord)) (earliest : Option Nat) (hs : s.ScanSound)
    (hscan : s.scan = some scan) (hsorted : records.Pairwise fun a b => a.1 < b.1)
    (hstored : ∀ entry ∈ records, s.records.get entry.1 = some entry.2)
    (hlast : ∀ entry ∈ records, ∃ l ∈ last, entry.1 ≤ l)
    (hawaited : Awaited s earliest records full last) :
    (archiveDiscipline signer).Safe (.alarm env) Discipline.Anywhere
      (scanBatch env nowMs earliest last full records) s := by
  induction records generalizing earliest with
  | nil =>
    unfold scanBatch
    split
    · refine putScan_archives fun k record hget hun => ⟨_, rfl, ?_⟩
      rcases hawaited k record hget hun with hsome | hmem | hbehind
      · exact .inr hsome
      · exact absurd hmem List.not_mem_nil
      · exact .inl hbehind.2
    · next hfull =>
        split
        · exact putScan_archives fun k record _ _ => ⟨_, rfl, .inl fun _ hl => by cases hl⟩
        · next hearliest =>
            refine putScan_archives fun k record hget hun => ?_
            rcases hawaited k record hget hun with hsome | hmem | hbehind
            · exact absurd hsome hearliest
            · exact absurd hmem List.not_mem_nil
            · exact absurd hbehind.1 hfull
  | cons entry rest ih =>
    obtain ⟨key, record⟩ := entry
    have hget := hstored _ List.mem_cons_self
    obtain ⟨hfirst, hrest⟩ := List.pairwise_cons.mp hsorted
    have hnext : ∀ later, Awaited s later rest full last →
        (archiveDiscipline signer).Safe (.alarm env) Discipline.Anywhere
          (scanBatch env nowMs later last full rest) s := fun later hlater =>
      ih later hrest (fun e he => hstored e (List.mem_cons_of_mem _ he))
        (fun e he => hlast e (List.mem_cons_of_mem _ he)) hlater
    unfold scanBatch
    split
    · next harchive =>
        -- a confirmed record has an archive entry
        refine hnext earliest (hawaited.skip id (.inl fun hun => ?_))
        have hsome := hs.dated key record hget hun.1
        rw [harchive] at hsome
        cases hsome
    · next archive harchive =>
        split
        · next hdone =>
            refine hnext earliest (hawaited.skip id (.inl fun hun => ?_))
            rcases hdone with hstate | hcommitted
            · exact hstate hun.1
            · exact hun.2 archive harchive hcommitted
        · split
          · exact hnext _ (hawaited.skip (fun _ => rfl) (.inr rfl))
          · refine Discipline.Safe.bind (advanceOperatorArchive_archives hs hscan) hs
              (fun retryAtMs t _ hdone => ?_) fun _ _ _ _ => trivial
            obtain ⟨honly, hmarked⟩ := hdone
            refine putScan_archives fun k r hk hun => ⟨_, rfl, ?_⟩
            by_cases hkey : k = key
            · -- the record of this alarm is archived, or its retry is noted
              subst hkey
              cases retryAtMs with
              | none => exact absurd hun (hmarked rfl r hk)
              | some retryAtMs => exact .inr rfl
            · rw [honly.2 k hkey] at hk
              rcases hawaited k r hk hun with hsome | hmem | hbehind
              · refine .inr ?_
                cases retryAtMs with
                | none => exact hsome
                | some retryAtMs => rfl
              · rcases List.mem_cons.mp hmem with heq | hmem
                · cases heq
                  exact absurd rfl hkey
                · exact .inl fun l hl => Option.some.inj hl ▸ hfirst _ hmem
              · obtain ⟨l, hl, hle⟩ := hlast _ List.mem_cons_self
                refine .inl fun l' hl' => ?_
                cases Option.some.inj hl'
                exact lt_of_le_of_lt hle (hbehind.2 l hl)

/-- What a batch leaves out lies behind its last key, and then the batch is full. -/
theorem Awaited.listed (hs : s.ScanSound) (hscan : s.scan = some scan) (limit : Nat) :
    Awaited s (if scan.after = none then none else scan.earliestRetryAtMs)
      (s.listRecords scan.after limit) ((s.listRecords scan.after limit).length == limit)
      ((s.listRecords scan.after limit).getLast?.map Prod.fst) := by
  obtain ⟨all, htake, hsorted, -, hall⟩ := s.listRecords_eq scan.after limit
  rw [htake]
  intro k record hget hun
  by_cases hafter : ∀ last ∈ scan.after, last < k
  · refine .inr ?_
    rcases mem_take_or_behind hsorted (hall k record hget hafter) limit with hmem | ⟨hlen, hbehind⟩
    · exact .inl hmem
    · refine .inr ⟨beq_iff_eq.mpr hlen, fun l hl => ?_⟩
      obtain ⟨entry, hentry, rfl⟩ := Option.map_eq_some_iff.mp hl
      exact hbehind entry (List.mem_of_getLast? hentry)
  · have hsome := (hs.visits scan hscan k record hget hun).resolve_left hafter
    refine .inl ?_
    split
    · next hnone =>
        refine absurd ?_ hafter
        rw [hnone]
        exact fun _ hl => (nomatch hl)
    · exact hsome

theorem advanceOperatorArchiveScan_archives :
    (archiveDiscipline signer).Safe (.alarm env) Discipline.Anywhere
      (advanceOperatorArchiveScan env) s := by
  unfold advanceOperatorArchiveScan
  refine Discipline.Safe.perform_anywhere fun t _ ht i _ u _ hx => ?_
  cases hx
  refine ⟨ht.congr rfl rfl, fun h => h, ?_⟩
  split
  · trivial
  · refine Discipline.Safe.perform_anywhere fun v _ hv j stored w _ hx => ?_
    cases hx
    refine ⟨hv, fun h => h, ?_⟩
    split
    · trivial
    · next scan hscan =>
        refine scanning_read (k := "") (fun i t b u hx => by cases hx; rfl) hscan
          (fun _ _ => trivial) fun t i nowMs honly _ ht _ => ?_
        split
        · trivial
        · refine scanning_read (k := "") (fun i t b u hx => by cases hx; rfl) honly.1
            (fun _ _ => trivial) fun t i records honly _ ht hx => ?_
          cases hx
          obtain ⟨all, htake, hsorted, hstored, -⟩ :=
            t.listRecords_eq scan.after archiveScanBatch
          have hawaited := Awaited.listed ht honly.1 archiveScanBatch
          split
          · next hempty =>
              refine putScan_archives fun k record hget hun => ?_
              have hnil := List.isEmpty_iff.mp hempty
              rw [hnil] at hawaited
              rcases hawaited k record hget hun with hsome | hmem | hbehind
              · split at hsome
                · cases hsome
                · obtain ⟨earliest, hearliest⟩ := Option.isSome_iff_exists.mp hsome
                  refine ⟨⟨none, some earliest⟩, ?_, .inr rfl⟩
                  rw [hearliest]
                  rfl
              · exact absurd hmem List.not_mem_nil
              · exact absurd hbehind.1 (by decide)
          · refine scanBatch_archives _ _ ht honly.1 ?_ ?_ ?_ hawaited
            · rw [htake]
              exact hsorted.take
            · intro entry hentry
              rw [htake] at hentry
              exact hstored entry (List.mem_of_mem_take hentry)
            · intro entry hentry
              rw [htake] at hentry ⊢
              exact le_last_key (hsorted.take) hentry

end Alarm

end Youtick.Bridge
