import Youtick.ReadModel.Catalog
import Youtick.Relayer.JsonText

/-!
# Read model: runs of catalogue refreshes

Any number of refreshes run over one database, interleaved between any two statements and cut off
anywhere, also between a commit and its answer. Whatever they do, the stored head and rows are one
verified snapshot, and a later one extends the one before (`catalog_verified`).

A refresh compares its snapshot with rows it read earlier. What carries the comparison to the moment
of the commit is `publications_eq_of_mark`: two stored snapshots with one height, revision and hash
have the same rows, because the revision is a digest of them.
-/

set_option autoImplicit false

namespace Youtick.ReadModel

open Youtick.Lib Youtick.PaymentService Youtick.Relayer

/-! ## The text of a snapshot -/

namespace Publication

theorem spelled_toJson (row : Publication) : row.toJson.Spelled :=
  ⟨trivial, trivial, trivial, trivial, JsValue.spelled_decimal _, trivial, trivial,
    JsValue.spelled_decimal _, trivial⟩

theorem toJson_injective {a b : Publication} (h : a.toJson = b.toJson) : a = b := by
  simp only [toJson, JsValue.object.injEq, List.cons.injEq, Prod.mk.injEq, JsValue.string.injEq,
    JsValue.number.injEq, true_and, and_true] at h
  obtain ⟨hid, hcreator, htitle, hprice, hgeneration, hplayback, havailability, hpublished⟩ := h
  cases a
  cases b
  simp only [Publication.mk.injEq]
  exact ⟨JsString.ofString_injective hid, JsString.ofString_injective hcreator, htitle,
    JsString.ofString_injective hprice, decimal_injective hgeneration,
    JsString.ofString_injective hplayback,
    Availability.text_injective (JsString.ofString_injective havailability),
    decimal_injective hpublished⟩

end Publication

theorem spelled_rows (rows : List Publication) :
    JsValue.Spelled (.array (rows.map Publication.toJson)) := by
  change JsValue.SpelledItems (rows.map Publication.toJson)
  induction rows with
  | nil => trivial
  | cons row rows ih => exact ⟨row.spelled_toJson, ih⟩

theorem catalogText_injective {a b : List Publication} (h : catalogText a = catalogText b) :
    a = b := by
  have harray := JsValue.stringify_injective (spelled_rows a) (spelled_rows b) h
  exact List.map_injective_iff.mpr (fun _ _ => Publication.toJson_injective)
    (JsValue.array.inj harray)

/-! ## Verified snapshots -/

section Runs

variable (sha256 : Bytes → Bytes) (refreshes : Set Refresh)

/-- A snapshot that a refresh of the set verifies. -/
def Verified (snapshot : Snapshot) : Prop :=
  ∃ refresh ∈ refreshes, currentCatalogEnabled refresh.env = true ∧
    fetchCurrentCatalog sha256 refresh = .ok snapshot

/-- No two of the snapshots have different texts with one digest. -/
def CollisionFree : Prop :=
  ∀ a b, Verified sha256 refreshes a → Verified sha256 refreshes b →
    sha256 (utf8 (catalogText a.publications)) = sha256 (utf8 (catalogText b.publications)) →
    catalogText a.publications = catalogText b.publications

variable {sha256 refreshes}

theorem fetch_spec {refresh : Refresh} {snapshot : Snapshot}
    (h : fetchCurrentCatalog sha256 refresh = .ok snapshot) :
    1 ≤ snapshot.blockHeight ∧ (snapshot.publications.map (·.publicationId)).Nodup ∧
      snapshot.contentRevision = contentRevision sha256 snapshot.publications := by
  simp only [fetchCurrentCatalog, bind_eq_ok, expect_eq_ok, require_eq_ok, pure_eq_ok] at h
  obtain ⟨height, -, -, hheight, hash, -, counted, -, count, -, -, -, values, -, publications, -,
    -, ⟨hnodup, -⟩, nanosec, -, -, -, -, -, rfl⟩ := h
  refine ⟨hheight, ?_, rfl⟩
  have hperm := (List.mergeSort_perm publications publicationOrder).map (·.publicationId)
  exact hperm.nodup_iff.mpr hnodup

/-- The revision of a verified snapshot determines its rows. -/
theorem publications_eq_of_revision (hsha : CollisionFree sha256 refreshes) {a b : Snapshot}
    (ha : Verified sha256 refreshes a) (hb : Verified sha256 refreshes b)
    (h : a.contentRevision = b.contentRevision) : a.publications = b.publications := by
  obtain ⟨_, -, -, hfetch⟩ := id ha
  obtain ⟨_, -, -, hfetch'⟩ := id hb
  rw [(fetch_spec hfetch).2.2, (fetch_spec hfetch').2.2] at h
  exact catalogText_injective (hsha a b ha hb (hex_injective h))

/-! ## Stored snapshots -/

/-- The row of a snapshot under an identifier. -/
def findRow (rows : List Publication) (id : String) : Option Publication :=
  rows.find? fun row => decide (row.publicationId = id)

theorem findRow_eq_some {rows : List Publication} {id : String} {row : Publication}
    (hnodup : (rows.map (·.publicationId)).Nodup) :
    findRow rows id = some row ↔ row ∈ rows ∧ row.publicationId = id := by
  induction rows with
  | nil => simp [findRow]
  | cons first rows ih =>
    rw [List.map_cons, List.nodup_cons] at hnodup
    simp only [findRow, List.find?_cons]
    by_cases hfirst : first.publicationId = id
    · simp only [hfirst, decide_true, Option.some.injEq, List.mem_cons]
      constructor
      · rintro rfl
        exact ⟨.inl rfl, hfirst⟩
      · rintro ⟨rfl | hmem, hid⟩
        · rfl
        · exact absurd (List.mem_map.mpr ⟨row, hmem, hid.trans hfirst.symm⟩) hnodup.1
    · simp only [hfirst, decide_false, List.mem_cons]
      rw [← findRow, ih hnodup.2]
      constructor
      · rintro ⟨hmem, hid⟩
        exact ⟨.inr hmem, hid⟩
      · rintro ⟨rfl | hmem, hid⟩
        · exact absurd hid hfirst
        · exact ⟨hmem, hid⟩

theorem findRow_id {rows : List Publication} {id : String} {row : Publication}
    (h : findRow rows id = some row) : row.publicationId = id := by
  have hfound := List.find?_some h
  simpa using hfound

/-- The tables of a scope hold exactly this snapshot. -/
def Stores (tables : CatalogTables) (snapshot : Snapshot) : Prop :=
  (∃ checkedAtMs, tables.state = some {
      verifiedBlockHeight := snapshot.blockHeight
      verifiedBlockHash := snapshot.blockHash
      sourceBlockTimestampMs := snapshot.sourceBlockTimestampMs
      checkedAtMs := checkedAtMs
      publicationCount := snapshot.publications.length
      contentRevision := snapshot.contentRevision }) ∧
    ∀ id, tables.publications.get id = findRow snapshot.publications id

variable (sha256 refreshes) in
/-- Nothing is stored, or one verified snapshot of the scope is. -/
def Shown (scope : Scope) (tables : CatalogTables) : Prop :=
  tables = .empty ∨
    ∃ snapshot, Verified sha256 refreshes snapshot ∧ snapshot.scope = scope ∧
      Stores tables snapshot

/-- The head and the rows of a scope agree with each other. -/
def Agrees (sha256 : Bytes → Bytes) (tables : CatalogTables) : Prop :=
  ∀ head ∈ tables.state, head.publicationCount = tables.publications.keys.card ∧
    ∃ rows : List Publication, head.contentRevision = contentRevision sha256 rows ∧
      ∀ id, tables.publications.get id = findRow rows id

theorem stores_unique (hsha : CollisionFree sha256 refreshes) {scope : Scope}
    {tables : CatalogTables} {a b : Snapshot} (ha : Verified sha256 refreshes a)
    (hb : Verified sha256 refreshes b) (hsa : a.scope = scope) (hsb : b.scope = scope)
    (h : Stores tables a) (h' : Stores tables b) : a = b := by
  obtain ⟨⟨_, hstate⟩, -⟩ := h
  obtain ⟨⟨_, hstate'⟩, -⟩ := h'
  rw [hstate] at hstate'
  simp only [Option.some.injEq, CatalogState.mk.injEq] at hstate'
  obtain ⟨hheight, hhash, htime, -, -, hrevision⟩ := hstate'
  have hrows := publications_eq_of_revision hsha ha hb hrevision
  obtain ⟨scopeA, heightA, hashA, rowsA, timeA, revisionA⟩ := a
  obtain ⟨scopeB, heightB, hashB, rowsB, timeB, revisionB⟩ := b
  simp only at hheight hhash htime hrevision hrows hsa hsb
  subst hheight hhash htime hrevision hrows hsa hsb
  rfl

theorem agrees_of_stores {tables : CatalogTables} {snapshot : Snapshot}
    (hverified : Verified sha256 refreshes snapshot) (h : Stores tables snapshot) :
    Agrees sha256 tables := by
  obtain ⟨_, -, -, hfetch⟩ := hverified
  obtain ⟨-, hnodup, hrevision⟩ := fetch_spec hfetch
  obtain ⟨⟨checkedAtMs, hstate⟩, hrows⟩ := h
  intro head hhead
  rw [hstate] at hhead
  cases hhead
  refine ⟨?_, snapshot.publications, hrevision, hrows⟩
  have hkeys : tables.publications.keys = (snapshot.publications.map (·.publicationId)).toFinset := by
    ext id
    rw [LookupMap.mem_keys, List.mem_toFinset, List.mem_map]
    constructor
    · rintro ⟨row, hrow⟩
      rw [hrows id, findRow_eq_some hnodup] at hrow
      exact ⟨row, hrow⟩
    · rintro ⟨row, hrow⟩
      exact ⟨row, (hrows id).trans ((findRow_eq_some hnodup).mpr hrow)⟩
  rw [hkeys, List.toFinset_card_of_nodup hnodup, List.length_map]

/-- One mark, one set of rows. -/
theorem publications_eq_of_mark (hsha : CollisionFree sha256 refreshes) {scope scope' : Scope}
    {s t : CatalogTables} (hs : Shown sha256 refreshes scope s)
    (ht : Shown sha256 refreshes scope' t) (h : headMark s.state = headMark t.state) :
    s.publications = t.publications ∧ (s.state = none ↔ t.state = none) := by
  rcases hs with rfl | ⟨a, ha, -, ⟨checkedA, hstateA⟩, hrowsA⟩ <;>
    rcases ht with rfl | ⟨b, hb, -, ⟨checkedB, hstateB⟩, hrowsB⟩
  · exact ⟨rfl, Iff.rfl⟩
  · obtain ⟨_, -, -, hfetch⟩ := hb
    rw [hstateB] at h
    have hheight := (fetch_spec hfetch).1
    have hzero : 0 = b.blockHeight := (HeadMark.mk.inj h).1
    omega
  · obtain ⟨_, -, -, hfetch⟩ := ha
    rw [hstateA] at h
    have hheight := (fetch_spec hfetch).1
    have hzero : a.blockHeight = 0 := (HeadMark.mk.inj h).1
    omega
  · rw [hstateA, hstateB] at h
    have hrows := publications_eq_of_revision hsha ha hb (HeadMark.mk.inj h).2.1
    refine ⟨LookupMap.ext_get fun id => ?_, by rw [hstateA, hstateB]; simp⟩
    rw [hrowsA id, hrowsB id, hrows]


/-! ## One commit -/

/-- What the next stored snapshot keeps of the one before. -/
def Extends (s t : CatalogTables) : Prop :=
  (∀ old ∈ s.state, ∃ head ∈ t.state, old.verifiedBlockHeight ≤ head.verifiedBlockHeight) ∧
    ∀ id, ∀ old ∈ s.publications.get id, ∃ row ∈ t.publications.get id, row.Later old

theorem Extends.refl (s : CatalogTables) : Extends s s :=
  ⟨fun old hold => ⟨old, hold, Nat.le_refl _⟩,
    fun _ old hold => ⟨old, hold, ⟨rfl, rfl, rfl, rfl, rfl, rfl⟩, Nat.le_refl _, Nat.le_refl _⟩⟩

/-- The upserts of a batch, one after the other. -/
theorem upserts_spec {scope : Scope} {rows : List Publication} {db db' : CatalogDb}
    (hnodup : (rows.map (·.publicationId)).Nodup)
    (h : runBatch db (rows.map (.upsertPublication scope)) = some db') :
    (∀ other, other ≠ scope → db' other = db other) ∧
      (db' scope).state = (db scope).state ∧
      ∀ id, (db' scope).publications.get id
        = (findRow rows id).or ((db scope).publications.get id) := by
  induction rows generalizing db with
  | nil =>
    obtain rfl : db = db' := Option.some.inj h
    exact ⟨fun _ _ => rfl, rfl, fun _ => rfl⟩
  | cons row rows ih =>
    rw [List.map_cons, List.nodup_cons] at hnodup
    rw [runBatch, List.map_cons, List.foldlM_cons] at h
    obtain ⟨mid, hrow, hrest⟩ := Option.bind_eq_some_iff.mp h
    obtain ⟨hother, hstate, hget⟩ := ih hnodup.2 hrest
    simp only [CatalogStatement.run] at hrow
    split at hrow
    · obtain rfl := Option.some.inj hrow
      refine ⟨fun other hne => ?_, ?_, fun id => ?_⟩
      · rw [hother other hne, Function.update_of_ne hne]
      · rw [hstate, Function.update_self]
      · rw [hget id, Function.update_self, LookupMap.get_insert]
        by_cases hid : id = row.publicationId
        · subst hid
          have hrest : findRow rows row.publicationId = none := by
            rw [findRow, List.find?_eq_none]
            intro other hmem heq
            exact hnodup.1 (List.mem_map.mpr ⟨other, hmem, of_decide_eq_true heq⟩)
          rw [hrest, if_pos rfl, findRow, List.find?_cons_of_pos (by simp)]
          rfl
        · rw [if_neg hid, findRow, findRow, List.find?_cons_of_neg (by simpa using Ne.symm hid)]
    · cases hrow

theorem changedRows_nodup {previous : LookupMap String Publication} {rows : List Publication}
    (hnodup : (rows.map (·.publicationId)).Nodup) :
    ((changedRows previous rows).map (·.publicationId)).Nodup :=
  hnodup.sublist (List.filter_sublist.map _)

theorem findRow_changedRows {previous : LookupMap String Publication} {rows : List Publication}
    (hnodup : (rows.map (·.publicationId)).Nodup) {id : String} {row : Publication} :
    findRow (changedRows previous rows) id = some row ↔
      findRow rows id = some row ∧ previous.get id ≠ some row := by
  rw [findRow_eq_some (changedRows_nodup hnodup), findRow_eq_some hnodup, changedRows,
    List.mem_filter, decide_eq_true_eq]
  constructor
  · rintro ⟨⟨hmem, hchanged⟩, rfl⟩
    exact ⟨⟨hmem, rfl⟩, hchanged⟩
  · rintro ⟨⟨hmem, rfl⟩, hchanged⟩
    exact ⟨⟨hmem, hchanged⟩, rfl⟩

/-- A candidate without conflict has a later version of every stored row. -/
theorem later_of_not_conflict {candidate : List Publication} {old : Publication}
    (h : ¬ publicationConflict candidate old) :
    ∃ row, findRow candidate old.publicationId = some row ∧ row.Later old := by
  unfold publicationConflict at h
  rw [← findRow] at h
  cases hfind : findRow candidate old.publicationId with
  | none =>
    rw [hfind] at h
    exact absurd trivial h
  | some row =>
    rw [hfind] at h
    simp only [not_or, not_not, Nat.not_lt] at h
    exact ⟨row, rfl, h.2.2, h.1, h.2.1⟩

/-- A committed batch stores the snapshot and extends what was stored. -/
theorem commit_spec (hsha : CollisionFree sha256 refreshes) {db db' : CatalogDb}
    {previous : CatalogTables} {snapshot : Snapshot} {checkedAtMs : Nat}
    {statements : List CatalogStatement} (hverified : Verified sha256 refreshes snapshot)
    (hdb : ∀ scope, Shown sha256 refreshes scope (db scope))
    (hprevious : Shown sha256 refreshes snapshot.scope previous)
    (hcompare : compareCatalog previous snapshot checkedAtMs = .ok statements)
    (hbatch : runBatch db statements = some db') :
    (∀ scope, Shown sha256 refreshes scope (db' scope)) ∧
      ∀ scope, Extends (db scope) (db' scope) := by
  have hnodup : (snapshot.publications.map (·.publicationId)).Nodup := by
    obtain ⟨_, -, -, hfetch⟩ := hverified
    exact (fetch_spec hfetch).2.1
  simp only [compareCatalog, bind_eq_ok, require_eq_ok, pure_eq_ok] at hcompare
  obtain ⟨-, hhead, -, -, -, hrows, -, -, rfl⟩ := hcompare
  rw [catalogStatements, runBatch, List.foldlM_cons] at hbatch
  obtain ⟨mid, hmid, hupserts⟩ := Option.bind_eq_some_iff.mp hbatch
  simp only [CatalogStatement.run] at hmid
  split at hmid
  · next hguard =>
      obtain rfl := Option.some.inj hmid
      obtain ⟨hother, hstate, hget⟩ := upserts_spec (changedRows_nodup hnodup) hupserts
      rw [Function.update_self] at hstate hget
      -- the rows at the commit are the rows that were read
      obtain ⟨hsame, hnone⟩ := publications_eq_of_mark hsha (hdb snapshot.scope) hprevious hguard.1
      have hold : ∀ id, ∀ old ∈ (db snapshot.scope).publications.get id,
          old.publicationId = id ∧ ∃ row, findRow snapshot.publications id = some row ∧
            row.Later old := by
        intro id old hget
        have hid : old.publicationId = id := by
          rcases hdb snapshot.scope with hempty | ⟨stored, -, -, -, hstored⟩
          · rw [hempty] at hget
            simp [CatalogTables.empty] at hget
          · exact findRow_id ((hstored id).symm.trans hget)
        rw [hsame] at hget
        obtain ⟨row, hrow, hlater⟩ := later_of_not_conflict
          (hrows id (LookupMap.mem_keys.mpr ⟨old, hget⟩) old hget)
        exact ⟨hid, row, hid ▸ hrow, hlater⟩
      have hfinal : ∀ id, (db' snapshot.scope).publications.get id
          = findRow snapshot.publications id := by
        intro id
        rw [hget id]
        cases hfind : findRow snapshot.publications id with
        | none =>
          have hchanged : findRow (changedRows previous.publications snapshot.publications) id
              = none := by
            rw [Option.eq_none_iff_forall_ne_some]
            intro row hrow
            rw [((findRow_changedRows hnodup).mp hrow).1] at hfind
            cases hfind
          rw [hchanged, Option.none_or, Option.eq_none_iff_forall_ne_some]
          intro old hget
          obtain ⟨-, row, hrow, -⟩ := hold id old hget
          rw [hfind] at hrow
          cases hrow
        | some row =>
          by_cases hchanged : previous.publications.get id = some row
          · have hnot : findRow (changedRows previous.publications snapshot.publications) id
                = none := by
              rw [Option.eq_none_iff_forall_ne_some]
              intro row' hrow'
              obtain ⟨hfind', hne⟩ := (findRow_changedRows hnodup).mp hrow'
              rw [hfind] at hfind'
              cases hfind'
              exact hne hchanged
            rw [hnot, Option.none_or, hsame, hchanged]
          · rw [(findRow_changedRows hnodup).mpr ⟨hfind, hchanged⟩]
            rfl
      constructor
      · intro scope
        by_cases hscope : scope = snapshot.scope
        · subst hscope
          exact .inr ⟨snapshot, hverified, rfl, ⟨checkedAtMs, hstate⟩, hfinal⟩
        · rw [hother scope hscope, Function.update_of_ne hscope]
          exact hdb scope
      · intro scope
        by_cases hscope : scope = snapshot.scope
        · subst hscope
          refine ⟨fun old hmem => ⟨_, hstate, ?_⟩, fun id old hmem => ?_⟩
          · have hmark : headMark previous.state = headMark (some old) := by
              rw [← hguard.1, hmem]
            cases hprev : previous.state with
            | none =>
              rw [hnone.mpr hprev] at hmem
              cases hmem
            | some head =>
              have hheight : old.verifiedBlockHeight = head.verifiedBlockHeight := by
                rw [hprev] at hmark
                exact (HeadMark.mk.inj hmark).1.symm
              have hconflict := hhead head hprev
              simp only [snapshotConflict, not_or, Nat.not_lt] at hconflict
              rw [hheight]
              exact hconflict.1
          · obtain ⟨-, row, hrow, hlater⟩ := hold id old hmem
            exact ⟨row, (hfinal id).trans hrow, hlater⟩
        · rw [hother scope hscope, Function.update_of_ne hscope]
          exact Extends.refl _
  · cases hmid

/-! ## Runs -/

variable (sha256 refreshes) in
/-- Refreshes rely on nothing but the invariant; every operation extends the stored snapshots. -/
def catalogDiscipline : Discipline (catalogSystem sha256 refreshes) where
  inv := fun db => ∀ scope, Shown sha256 refreshes scope (db scope)
  meets := fun _ _ => True
  rely := fun _ _ _ => True
  guar := fun _ s t => ∀ scope, Extends (s scope) (t scope)
  rely_refl := fun _ _ => trivial
  rely_trans := fun _ _ _ _ _ _ => trivial
  guar_rely := fun _ _ _ _ _ _ _ => trivial
  world := fun e => nomatch e

theorem refresh_safe (hsha : CollisionFree sha256 refreshes) (r : {r // r ∈ refreshes})
    (db : CatalogDb) :
    (catalogDiscipline sha256 refreshes).Safe r Discipline.Anywhere
      ((catalogSystem sha256 refreshes).handle r) db := by
  change (catalogDiscipline sha256 refreshes).Safe r Discipline.Anywhere
    (refreshCurrentCatalog sha256 r.1) db
  unfold refreshCurrentCatalog
  split
  · next henabled =>
      split
      · trivial
      · next snapshot hfetch =>
          have hverified : Verified sha256 refreshes snapshot := ⟨r.1, r.2, henabled, hfetch⟩
          refine Discipline.Safe.perform_anywhere fun s _ hs i previous t _ hread => ?_
          obtain ⟨rfl, rfl⟩ := Prod.mk.inj (Option.some.inj hread)
          refine ⟨hs, fun _ => Extends.refl _, ?_⟩
          have hprevious := hs snapshot.scope
          split
          · trivial
          · next statements hcompare =>
              refine Discipline.Safe.bind (Q := Discipline.Anywhere) ?_ hs
                (fun _ _ _ _ => trivial) fun _ _ _ _ => trivial
              refine Discipline.Safe.rescue (Q := Discipline.Anywhere) ?_ hs
                (fun _ _ _ _ => trivial) fun error u hu _ => ?_
              · refine Discipline.Safe.perform_anywhere fun u _ hu j _ v _ hbatch => ?_
                obtain ⟨db', hrun, hout⟩ := Option.map_eq_some_iff.mp hbatch
                obtain ⟨-, rfl⟩ := Prod.mk.inj hout
                obtain ⟨hinv, hext⟩ := commit_spec hsha hverified hu hprevious hcompare hrun
                exact ⟨hinv, hext, trivial⟩
              · refine Discipline.Safe.perform_anywhere fun v _ hv j found w _ hread => ?_
                obtain ⟨rfl, rfl⟩ := Prod.mk.inj (Option.some.inj hread)
                refine ⟨hv, fun _ => Extends.refl _, ?_⟩
                split <;> trivial
  · trivial


/-- In every state of every run each scope shows nothing or one verified snapshot, and every event
extends what was stored before it. -/
theorem catalog_shown (hsha : CollisionFree sha256 refreshes)
    {tr : List (Transition (Config CatalogDb CatalogOp String RefreshAnswer {r // r ∈ refreshes})
      (Event Unit {r // r ∈ refreshes} Empty))}
    {c : Config CatalogDb CatalogOp String RefreshAnswer {r // r ∈ refreshes}}
    (h : Trace (ExecStep (catalogSystem sha256 refreshes).next) ⟨fun _ => .empty, []⟩ tr c) :
    (∀ scope, Shown sha256 refreshes scope (c.shared scope)) ∧
    ∀ x ∈ tr, ∀ scope, Extends (x.pre.shared scope) (x.post.shared scope) := by
  have hstart : (catalogDiscipline sha256 refreshes).inv fun _ => .empty := fun _ => .inl rfl
  obtain ⟨hsound, hmoves⟩ := Discipline.run (fun r s _ => refresh_safe hsha r s)
    (Discipline.sound_idle hstart) h fun _ _ _ _ _ _ _ => trivial
  refine ⟨hsound.inv, ?_⟩
  intro x hx scope
  obtain ⟨-, hmove⟩ := hmoves x hx
  cases hmove with
  | still heq =>
    rw [heq]
    exact Extends.refl _
  | world w => exact nomatch w
  | acted r hguar => exact hguar scope

end Runs

/-! ### A first snapshot -/

/-- A refresh that finds no publication. -/
def emptyRefresh : Refresh where
  env := ⟨"true", "true", "public-testnet", "testnet", "m.testnet", "m.testnet", true⟩
  block :=
    { height := .number "7"
      hash := .string (.ofString "11111111111111111111111111111111")
      timestampNanosec := .string (.ofString "9000000") }
  count := ⟨7, "11111111111111111111111111111111", .number "0"⟩
  pages := []
  fetchedAtMs := 10
  checkedAtMs := 11

def emptySnapshot : Snapshot where
  scope := ⟨"testnet", "m.testnet"⟩
  blockHeight := 7
  blockHash := "11111111111111111111111111111111"
  publications := []
  sourceBlockTimestampMs := 9
  contentRevision := contentRevision id []

theorem fetch_emptyRefresh : fetchCurrentCatalog id emptyRefresh = .ok emptySnapshot := by
  simp only [fetchCurrentCatalog, bind_eq_ok, expect_eq_ok, require_eq_ok, pure_eq_ok]
  refine ⟨7, by decide, ⟨⟩, by decide, "11111111111111111111111111111111", by decide,
    .number "0", rfl, 0, by decide, ⟨⟩, by decide, [], rfl, [], rfl, ⟨⟩, by decide, "9000000",
    by decide, ⟨⟩, by decide, ⟨⟩, by decide, ?_⟩
  rw [List.mergeSort_nil]
  rfl

theorem refresh_emptyRefresh :
    refreshCurrentCatalog id emptyRefresh = applyCurrentCatalog emptySnapshot 11 := by
  rw [refreshCurrentCatalog, if_pos (by decide), fetch_emptyRefresh]
  rfl

def firstHead : CatalogState where
  verifiedBlockHeight := 7
  verifiedBlockHash := "11111111111111111111111111111111"
  sourceBlockTimestampMs := 9
  checkedAtMs := 11
  publicationCount := 0
  contentRevision := contentRevision id []

theorem compare_empty : compareCatalog .empty emptySnapshot 11
    = .ok (catalogStatements .empty emptySnapshot 11) := by
  have hkeys : ∀ id ∈ CatalogTables.empty.publications.keys,
      ∀ old ∈ CatalogTables.empty.publications.get id,
        ¬ publicationConflict emptySnapshot.publications old := by
    intro id _ old hold
    simp [CatalogTables.empty] at hold
  rw [compareCatalog, require, if_pos (by rintro _ ⟨⟩), require, if_pos (by decide), require, if_pos hkeys]
  rfl

theorem runBatch_empty : runBatch (fun _ => .empty) (catalogStatements .empty emptySnapshot 11)
    = some (Function.update (fun _ => .empty) emptySnapshot.scope
        { CatalogTables.empty with state := some firstHead }) := by
  rfl

theorem apply_emptySnapshot : ∃ f e,
    applyCurrentCatalog emptySnapshot 11 = .act (.readCatalog emptySnapshot.scope) f e ∧
      ∃ next onError,
        f .empty = .act (.batch (catalogStatements .empty emptySnapshot 11)) next onError := by
  refine ⟨_, _, rfl, ?_⟩
  simp only [Handler.bind, compare_empty]
  exact ⟨_, _, rfl⟩

end Youtick.ReadModel
