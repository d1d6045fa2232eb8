import Youtick.Lib.Fallible
import Youtick.ReadModel.CatalogApi
import Youtick.ReadModel.CatalogRuns

/-!
# Read model: following the cursors

A reader follows the cursors of the catalogue API while refreshes go on. As long as it is served it
reads the list of its filter in order (`follow_spec`): a page ends where its cursor says, the cursor
is read as it was made (`parse_encodeCursor`), and in one revision the list is one list, because the
revision is a digest of the rows. When it is refused, that is for the form of the request, for a
catalogue that is missing or stale, or for another revision (`Refusal`).
-/

set_option autoImplicit false

namespace Youtick.ReadModel

open Youtick.Lib Youtick.PaymentService Youtick.Relayer

/-! ## The text of a cursor -/

/-- A text of identifier characters; JSON writes it as it is. -/
def PlainText (text : String) : Prop := ∀ c ∈ text.toList, MarketV2.isIdentifierChar c = true

theorem identifierChar_ascii {c : Char} (h : MarketV2.isIdentifierChar c = true) :
    33 ≤ c.toNat ∧ c.toNat < 128 ∧ c ≠ '"' ∧ c ≠ '\\' := by
  simp only [MarketV2.isIdentifierChar, isAsciiAlphanumeric, isAsciiDigit, isAsciiUppercase,
    Bool.or_eq_true, Bool.and_eq_true, decide_eq_true_eq, beq_iff_eq] at h
  have hnat : ∀ d : Char, c = d → c.toNat = d.toNat := fun d hd => congrArg Char.toNat hd
  have hle : ∀ a b : Char, a ≤ b → a.toNat ≤ b.toNat := fun a b hab => hab
  refine ⟨?_, ?_, ?_, ?_⟩
  · rcases h with ((((((⟨h, -⟩ | ⟨h, -⟩) | ⟨h, -⟩) | rfl) | rfl) | rfl) | rfl)
    · exact le_trans (by decide) (hle _ _ h)
    · exact le_trans (by decide) (hle _ _ h)
    · exact le_trans (by decide) (hle _ _ h)
    all_goals decide
  · rcases h with ((((((⟨-, h⟩ | ⟨-, h⟩) | ⟨-, h⟩) | rfl) | rfl) | rfl) | rfl)
    · exact lt_of_le_of_lt (hle _ _ h) (by decide)
    · exact lt_of_le_of_lt (hle _ _ h) (by decide)
    · exact lt_of_le_of_lt (hle _ _ h) (by decide)
    all_goals decide
  · rintro rfl
    revert h
    decide
  · rintro rfl
    revert h
    decide

theorem escapedPoint_plain {c : Char} (h : MarketV2.isIdentifierChar c = true) :
    escapedPoint (.scalar c) = [c] := by
  obtain ⟨hlow, -, hquote, hslash⟩ := identifierChar_ascii h
  have htab : c ≠ '\t' := by rintro rfl; exact absurd hlow (by decide)
  have hfeed : c ≠ '\n' := by rintro rfl; exact absurd hlow (by decide)
  have hreturn : c ≠ '\r' := by rintro rfl; exact absurd hlow (by decide)
  rw [escapedPoint, if_neg hquote, if_neg hslash, if_neg (by omega), if_neg htab, if_neg hfeed,
    if_neg (by omega), if_neg hreturn, if_neg (by omega)]

theorem quoted_plain {text : String} (h : PlainText text) :
    quoted (.ofString text) = '"' :: text.toList ++ ['"'] := by
  have hpoints : (text.toList.map CodePoint.scalar).flatMap escapedPoint = text.toList := by
    unfold PlainText at h
    generalize text.toList = chars at h
    induction chars with
    | nil => rfl
    | cons c cs ih =>
      rw [List.map_cons, List.flatMap_cons, escapedPoint_plain (h c List.mem_cons_self),
        ih fun d hd => h d (List.mem_cons_of_mem _ hd)]
      rfl
  rw [quoted, JsString.ofString, hpoints]

/-- The values a cursor of the API is made of. -/
structure CursorOk (scope : Scope) (creator : Option String) (cursor : CatalogCursor) : Prop where
  network : scope.network = "testnet"
  contract : PlainText scope.contractId ∧ scope.contractId.toList.length ≤ 64
  creator : ∀ account ∈ creator, PlainText account ∧ account.toList.length ≤ 64
  revision : isHexText 64 cursor.revision = true
  positive : 1 ≤ cursor.time
  safe : cursor.time ≤ maxSafe
  id : isIdText cursor.id = true

theorem plain_of_isHexText {n : Nat} {text : String} (h : isHexText n text = true) :
    PlainText text ∧ text.toList.length = n := by
  simp only [isHexText, Bool.and_eq_true, decide_eq_true_eq] at h
  refine ⟨?_, h.1⟩
  intro c hc
  have hhex := List.all_eq_true.mp h.2 c hc
  simp only [isHexChar, Bool.or_eq_true, Bool.and_eq_true, decide_eq_true_eq] at hhex
  simp only [MarketV2.isIdentifierChar, isAsciiAlphanumeric, Bool.or_eq_true, Bool.and_eq_true,
    decide_eq_true_eq]
  rcases hhex with hdigit | ⟨hlow, hhigh⟩
  · exact .inl (.inl (.inl (.inl (.inl (.inl hdigit)))))
  · exact .inl (.inl (.inl (.inl (.inr ⟨hlow, hhigh.trans (by decide)⟩))))

theorem plain_of_isWord {low high : Nat} {text : String}
    (h : isWord MarketV2.isIdentifierChar low high text = true) :
    PlainText text ∧ text.toList.length ≤ high := by
  simp only [isWord, Bool.and_eq_true, decide_eq_true_eq] at h
  exact ⟨List.all_eq_true.mp h.2, h.1.2⟩

theorem plain_of_isAccountText {text : String} (h : isAccountText text = true) :
    PlainText text ∧ text.toList.length ≤ 64 := by
  simp only [isAccountText, isWord, Bool.and_eq_true, decide_eq_true_eq] at h
  obtain ⟨⟨⟨⟨-, hlength⟩, hall⟩, -⟩, -⟩ := h
  refine ⟨?_, hlength⟩
  intro c hc
  have hchar := List.all_eq_true.mp hall c hc
  simp only [isAccountChar, isAccountSeparator, Bool.or_eq_true, Bool.and_eq_true,
    decide_eq_true_eq] at hchar
  simp only [MarketV2.isIdentifierChar, isAsciiAlphanumeric, Bool.or_eq_true, Bool.and_eq_true,
    decide_eq_true_eq]
  tauto

theorem decimal_length {n : Nat} (hpos : 1 ≤ n) (hsafe : n ≤ maxSafe) :
    (decimal n).toList.length ≤ 16 ∧ (decimal n).toList.all isAsciiDigit = true := by
  have htext : isPositiveDecimal 15 (decimal n) = true :=
    isPositiveDecimal_decimal hpos (lt_of_le_of_lt hsafe (by decide))
  obtain ⟨first, rest, htext', -, -, hlength, -⟩ := isPositiveDecimal_iff.mp htext
  refine ⟨?_, decimal_all_digits n⟩
  rw [htext', List.length_cons]
  omega

/-- The text of the creator in a scope. -/
def creatorChars : Option String → List Char
  | none => "null".toList
  | some account => '"' :: account.toList ++ ['"']

/-- The JSON text of a cursor. -/
theorem cursor_chars {scope : Scope} {creator : Option String} {cursor : CatalogCursor}
    (h : CursorOk scope creator cursor) :
    (cursorValue scope creator cursor).chars =
      Char.ofNat 0x7b :: "\"scope\":[2,\"testnet\",\"".toList ++ scope.contractId.toList ++
        "\",".toList ++ creatorChars creator ++ "],\"revision\":\"".toList ++
        cursor.revision.toList ++ "\",\"time\":".toList ++ (decimal cursor.time).toList ++
        ",\"id\":\"".toList ++ cursor.id.toList ++ ['"', Char.ofNat 0x7d] := by
  have hkeys : ∀ key ∈ ["scope", "revision", "time", "id", "testnet"],
      quoted (.ofString key) = '"' :: key.toList ++ ['"'] := by
    intro key hkey
    apply quoted_plain
    apply List.all_eq_true.mp
    revert key
    decide
  have hscope := hkeys "scope" (by simp)
  have hrevision := hkeys "revision" (by simp)
  have htime := hkeys "time" (by simp)
  have hid := hkeys "id" (by simp)
  have hnetwork := hkeys "testnet" (by simp)
  have hcontract := quoted_plain h.contract.1
  have hhex := quoted_plain (plain_of_isHexText h.revision).1
  have hplace := quoted_plain (plain_of_isWord h.id).1
  have hcreator : (creatorValue creator).chars = creatorChars creator := by
    cases hc : creator with
    | none => rfl
    | some account => exact quoted_plain (h.creator account hc).1
  simp only [cursorValue, scopeValue, h.network, JsValue.chars, JsValue.charsOfFields,
    JsValue.charsOfItems, hscope, hrevision, htime, hid, hnetwork, hcontract, hhex, hplace,
    hcreator]
  simp only [List.cons_append, List.append_assoc, List.nil_append]
  rfl

theorem cursor_text {scope : Scope} {creator : Option String} {cursor : CatalogCursor}
    (h : CursorOk scope creator cursor) :
    (∀ c ∈ (cursorValue scope creator cursor).chars, c.toNat < 128) ∧
      (cursorValue scope creator cursor).chars.length ≤ 700 := by
  obtain ⟨hdigits, hall⟩ := decimal_length h.positive h.safe
  obtain ⟨hrevision, hhexLength⟩ := plain_of_isHexText h.revision
  obtain ⟨hid, hidLength⟩ := plain_of_isWord h.id
  have hascii {l : List Char} (hall : l.all (fun c => decide (c.toNat < 128)) = true) :
      ∀ c ∈ l, c.toNat < 128 := fun c hc => of_decide_eq_true (List.all_eq_true.mp hall c hc)
  have hplain : ∀ text : String, PlainText text → ∀ c ∈ text.toList, c.toNat < 128 := by
    intro text htext c hc
    exact (identifierChar_ascii (htext c hc)).2.1
  have hcreator : (∀ c ∈ creatorChars creator, c.toNat < 128) ∧
      (creatorChars creator).length ≤ 66 := by
    cases hc : creator with
    | none => exact ⟨hascii (by decide), by decide⟩
    | some account =>
      obtain ⟨haccount, hlength⟩ := h.creator account hc
      constructor
      · intro c hmem
        simp only [creatorChars, List.cons_append, List.mem_cons, List.mem_append,
          List.not_mem_nil, or_false] at hmem
        rcases hmem with rfl | hmem | rfl
        · decide
        · exact hplain account haccount c hmem
        · decide
      · simp only [creatorChars, List.length_append, List.length_cons, List.length_nil]
        omega
  have htime : ∀ c ∈ (decimal cursor.time).toList, c.toNat < 128 := by
    intro c hc
    have hdigit := List.all_eq_true.mp hall c hc
    simp only [isAsciiDigit, Bool.and_eq_true, decide_eq_true_eq] at hdigit
    exact lt_of_le_of_lt (show c.toNat ≤ '9'.toNat from hdigit.2) (by decide)
  rw [cursor_chars h]
  constructor
  · simp only [List.mem_append, or_imp, forall_and]
    refine ⟨⟨⟨⟨⟨⟨⟨⟨⟨⟨?_, ?_⟩, ?_⟩, ?_⟩, ?_⟩, ?_⟩, ?_⟩, ?_⟩, ?_⟩, ?_⟩, ?_⟩
    · exact hascii (by decide)
    · exact hplain _ h.contract.1
    · exact hascii (by decide)
    · exact hcreator.1
    · exact hascii (by decide)
    · exact hplain _ hrevision
    · exact hascii (by decide)
    · exact htime
    · exact hascii (by decide)
    · exact hplain _ hid
    · exact hascii (by decide)
  · have hcontract := h.contract.2
    have hcreatorLength := hcreator.2
    simp only [List.length_append, List.length_cons, List.length_nil, String.length_toList] at *
    have hpieces : "\"scope\":[2,\"testnet\",\"".length = 22 ∧ "\",".length = 2 ∧
        "],\"revision\":\"".length = 14 ∧ "\",\"time\":".length = 9 ∧
        ",\"id\":\"".length = 7 := by decide
    omega

/-! ## Reading a cursor back -/

theorem encodeCursor_ok {scope : Scope} {creator : Option String} {cursor : CatalogCursor}
    (h : CursorOk scope creator cursor) : encodeCursor (cursorValue scope creator cursor) =
      .ok (Base64.urlEncode (utf8 (cursorValue scope creator cursor).stringify)) := by
  obtain ⟨hascii, -⟩ := cursor_text h
  have hlatin : (cursorValue scope creator cursor).stringify.toList.all
      (fun c => decide (c.toNat < 256)) = true := by
    rw [JsValue.stringify, String.toList_ofList, List.all_eq_true]
    intro c hc
    exact decide_eq_true ((hascii c hc).trans (by decide))
  unfold encodeCursor
  simp only [require, if_pos hlatin]
  rw [JsValue.stringify, utf8_ofList_of_ascii hascii, String.toList_ofList]
  rfl

theorem scopeValue_spelled (scope : Scope) (creator : Option String) :
    (scopeValue scope creator).Spelled := by
  refine ⟨⟨by decide, by decide⟩, trivial, trivial, ?_, trivial⟩
  cases creator <;> trivial

theorem scopeValue_injective {scope scope' : Scope} {creator creator' : Option String}
    (h : (scopeValue scope creator).stringify = (scopeValue scope' creator').stringify) :
    scope = scope' ∧ creator = creator' := by
  have hvalue := JsValue.stringify_injective (scopeValue_spelled scope creator)
    (scopeValue_spelled scope' creator') h
  simp only [scopeValue, JsValue.array.injEq, List.cons.injEq, JsValue.string.injEq, and_true,
    true_and] at hvalue
  obtain ⟨hnetwork, hcontract, hcreator⟩ := hvalue
  obtain ⟨network, contractId⟩ := scope
  obtain ⟨network', contractId'⟩ := scope'
  obtain rfl : network = network' := JsString.ofString_injective hnetwork
  obtain rfl : contractId = contractId' := JsString.ofString_injective hcontract
  refine ⟨rfl, ?_⟩
  cases creator <;> cases creator'
  · rfl
  · cases hcreator
  · cases hcreator
  · rw [JsString.ofString_injective (JsValue.string.inj hcreator)]

section Api

variable {readJson : Bytes → Option JsValue}

/-- `JSON.parse` reads back what `JSON.stringify` wrote of a cursor. -/
def ReadsCursors (readJson : Bytes → Option JsValue) : Prop :=
  ∀ scope creator cursor, cursor.time ≤ maxSafe →
    readJson (utf8 (cursorValue scope creator cursor).stringify) =
      some (cursorValue scope creator cursor)

theorem safeInteger_decimal {n : Nat} (hpos : 1 ≤ n) (hsafe : n ≤ maxSafe) :
    safeInteger (.number (decimal n)) = some n := by
  have htext : isPositiveDecimal 15 (decimal n) = true :=
    isPositiveDecimal_decimal hpos (lt_of_le_of_lt hsafe (by decide))
  rw [safeInteger, digitsValue_decimal, if_pos ⟨.inr htext, hsafe⟩]

theorem property_cons (key : JsString) (value : JsValue) (rest : List (JsString × JsValue))
    (name : String) : property ((key, value) :: rest) name =
      if key = .ofString name then some value else property rest name := by
  by_cases hkey : key = .ofString name <;> simp [property, hkey]

theorem ofString_eq_iff {a b : String} : JsString.ofString a = .ofString b ↔ a = b :=
  ⟨JsString.ofString_injective, congrArg _⟩

/-- The object of a cursor is read for its own filter only, and then as it was made. -/
theorem cursorFields_cursorValue {scope scope' : Scope} {creator creator' : Option String}
    {cursor : CatalogCursor} (h : CursorOk scope creator cursor)
    {fields : List (JsString × JsValue)}
    (hfields : (cursorValue scope creator cursor).fields? = some fields) :
    cursorFields scope' creator' fields =
      if scope = scope' ∧ creator = creator' then
        .ok (some cursor.revision, cursor.time, cursor.id)
      else .error invalidCursor := by
  obtain rfl := Option.some.inj hfields
  have hrevision : (matchText (.string (.ofString cursor.revision))).any (isHexText 64) = true := by
    simp only [matchText, JsString.text?_ofString, Option.any_some]
    exact h.revision
  have htime := safeInteger_decimal h.positive h.safe
  have hid : matchedText (.string (.ofString cursor.id)) isIdText = some cursor.id := by
    simp only [matchedText, JsValue.string?, Option.bind_eq_bind, Option.bind_some,
      JsString.text?_ofString, if_pos h.id]
  unfold cursorFields
  simp only [property_cons, ofString_eq_iff, String.reduceEq, if_true, if_false, expect_some,
    ok_bind, Option.bind_some, htime, hid, require_pos hrevision, require_pos h.positive]
  by_cases hsame : scope = scope' ∧ creator = creator'
  · obtain ⟨rfl, rfl⟩ := id hsame
    rw [require_pos rfl, ok_bind, if_pos hsame, JsValue.string?, Option.bind_some,
      JsString.text?_ofString]
    rfl
  · have hother : ¬ (scopeValue scope creator).stringify =
        (scopeValue scope' creator').stringify := by
      intro heq
      exact hsame (scopeValue_injective heq)
    rw [require_neg hother, error_bind, if_neg hsame]

/-- A cursor of the API is read for its own filter only, and then as it was made. -/
theorem parse_encodeCursor (hread : ReadsCursors readJson) {scope : Scope}
    {creator : Option String} (scope' : Scope) (creator' : Option String) {cursor : CatalogCursor}
    {encoded : String}
    (h : CursorOk scope creator cursor)
    (hencoded : encodeCursor (cursorValue scope creator cursor) = .ok encoded) :
    parseCatalogCursor readJson scope' creator' encoded =
      if scope = scope' ∧ creator = creator' then
        .ok (some cursor.revision, cursor.time, cursor.id)
      else .error invalidCursor := by
  rw [encodeCursor_ok h] at hencoded
  obtain rfl := Except.ok.inj hencoded
  obtain ⟨hascii, hshort⟩ := cursor_text h
  have hbytes : (utf8 (cursorValue scope creator cursor).stringify).length ≤ 700 := by
    rw [JsValue.stringify, utf8_ofList_of_ascii hascii, List.length_map]
    exact hshort
  have hnonempty : 1 ≤ (utf8 (cursorValue scope creator cursor).stringify).length := by
    rw [JsValue.stringify, utf8_ofList_of_ascii hascii, List.length_map, cursor_chars h]
    simp
  have hvalue := hread scope creator cursor h.safe
  generalize utf8 (cursorValue scope creator cursor).stringify = bytes at hbytes hnonempty hvalue
  have hlength := Base64.length_urlEncode bytes
  have hword : isUrlWord 1 1024 (Base64.urlEncode bytes) = true := by
    simp only [isUrlWord, isWord, Bool.and_eq_true, decide_eq_true_eq, List.all_eq_true,
      Bool.or_eq_true, beq_iff_eq]
    refine ⟨⟨by omega, by omega⟩, ?_⟩
    intro c hc
    rcases Base64.mem_urlEncode hc with halnum | rfl | rfl
    · exact .inl (.inl halnum)
    · exact .inr rfl
    · exact .inl (.inr rfl)
  have hfields : ∃ fields, (cursorValue scope creator cursor).fields? = some fields := ⟨_, rfl⟩
  obtain ⟨fields, hfields⟩ := hfields
  unfold parseCatalogCursor
  rw [require_pos ⟨by omega, hword⟩, ok_bind, Base64.urlDecode_urlEncode, expect_some, ok_bind,
    hvalue, expect_some, ok_bind, hfields, expect_some, ok_bind,
    cursorFields_cursorValue h hfields]

end Api

/-! ## The order of the pages -/

/-- A row comes before another one in the pages. -/
def comesBefore (a b : Publication) : Bool := beyond a.place b

theorem beyond_iff {place : Nat × String} {row : Publication} : beyond place row = true ↔
    row.publishedAtMs < place.1 ∨
      (row.publishedAtMs = place.1 ∧ row.publicationId < place.2) := by
  simp only [beyond, Bool.or_eq_true, Bool.and_eq_true, decide_eq_true_eq]

theorem comesBefore_iff {a b : Publication} : comesBefore a b = true ↔
    b.publishedAtMs < a.publishedAtMs ∨
      (b.publishedAtMs = a.publishedAtMs ∧ b.publicationId < a.publicationId) :=
  beyond_iff

theorem newerFirst_iff {a b : Publication} : newerFirst a b = true ↔
    b.publishedAtMs < a.publishedAtMs ∨
      (b.publishedAtMs = a.publishedAtMs ∧ b.publicationId ≤ a.publicationId) := by
  simp only [newerFirst, Bool.or_eq_true, Bool.and_eq_true, decide_eq_true_eq]

theorem comesBefore_irrefl (a : Publication) : comesBefore a a = false := by
  rw [← Bool.not_eq_true, comesBefore_iff]
  rintro (hlt | ⟨-, hlt⟩)
  · exact lt_irrefl _ hlt
  · exact lt_irrefl _ hlt

theorem comesBefore_asymm (a b : Publication) (h : comesBefore a b = true) :
    comesBefore b a = false := by
  rw [← Bool.not_eq_true, comesBefore_iff]
  rw [comesBefore_iff] at h
  rintro (hlt | ⟨heq, hlt⟩)
  · rcases h with hlt' | ⟨heq', -⟩ <;> omega
  · rcases h with hlt' | ⟨-, hlt'⟩
    · omega
    · exact lt_asymm hlt hlt'

theorem newerFirst_trans (a b c : Publication) (hab : newerFirst a b = true)
    (hbc : newerFirst b c = true) : newerFirst a c = true := by
  rw [newerFirst_iff] at *
  rcases hab with hab | ⟨hab, hid⟩ <;> rcases hbc with hbc | ⟨hbc, hid'⟩
  · exact .inl (hbc.trans hab)
  · exact .inl (hbc ▸ hab)
  · exact .inl (hab ▸ hbc)
  · exact .inr ⟨hbc.trans hab, hid'.trans hid⟩

theorem newerFirst_total (a b : Publication) : (newerFirst a b || newerFirst b a) = true := by
  rw [Bool.or_eq_true, newerFirst_iff, newerFirst_iff]
  rcases lt_trichotomy a.publishedAtMs b.publishedAtMs with hlt | heq | hgt
  · exact .inr (.inl hlt)
  · rcases le_total a.publicationId b.publicationId with hle | hle
    · exact .inr (.inr ⟨heq, hle⟩)
    · exact .inl (.inr ⟨heq.symm, hle⟩)
  · exact .inl (.inl hgt)

/-- The pages' order is strict when no identifier repeats. -/
theorem orderedRows_sorted {rows : List Publication} (creator : Option String)
    (hnodup : (rows.map (·.publicationId)).Nodup) :
    (orderedRows creator rows).Pairwise fun a b => comesBefore a b = true := by
  have hsorted := List.pairwise_mergeSort newerFirst_trans newerFirst_total
    (rows.filter (matchesFilter creator))
  have hfiltered : ((rows.filter (matchesFilter creator)).map (·.publicationId)).Nodup :=
    hnodup.sublist (List.filter_sublist.map _)
  have hperm := (List.mergeSort_perm (rows.filter (matchesFilter creator)) newerFirst).map
    (·.publicationId)
  have hdistinct : (orderedRows creator rows).Pairwise
      fun a b => a.publicationId ≠ b.publicationId :=
    List.pairwise_map.mp (hperm.nodup_iff.mpr hfiltered)
  refine (hsorted.and hdistinct).imp ?_
  rintro a b ⟨hle, hne⟩
  rw [newerFirst_iff] at hle
  rw [comesBefore_iff]
  rcases hle with hlt | ⟨heq, hid⟩
  · exact .inl hlt
  · exact .inr ⟨heq, lt_of_le_of_ne hid hne.symm⟩

theorem mem_orderedRows {creator : Option String} {rows : List Publication} {row : Publication} :
    row ∈ orderedRows creator rows ↔ row ∈ rows ∧ matchesFilter creator row = true := by
  rw [orderedRows, List.mem_mergeSort, List.mem_filter]

/-! ## The rows of a stored snapshot -/

section Stored

variable {sha256 : Bytes → Bytes} {refreshes : Set Refresh} {scope : Scope}
  {tables : CatalogTables} {snapshot : Snapshot}

/-- What a verified row is known to be. -/
structure RowOk (row : Publication) : Prop where
  id : isIdText row.publicationId = true
  positive : 1 ≤ row.publishedAtMs
  safe : row.publishedAtMs ≤ maxSafe

theorem safeInteger_le {value : JsValue} {n : Nat} (h : safeInteger value = some n) :
    n ≤ maxSafe := by
  cases value with
  | number text =>
    simp only [safeInteger] at h
    split at h
    · next hsafe =>
        obtain rfl := Option.some.inj h
        exact hsafe.2
    · cases h
  | _ => cases h

theorem normalizePublication_ok {value : JsValue} {row : Publication}
    (h : normalizePublication value = .ok row) : RowOk row := by
  simp only [normalizePublication, bind_eq_ok, expect_eq_ok, require_eq_ok, pure_eq_ok] at h
  obtain ⟨fields, -, id, hid, creator, -, title, -, -, -, price, -, -, -, generation, -, -, -,
    playback, -, state, -, availability, -, publishedAtMs, hpublished, -, hpositive, rfl⟩ := h
  obtain ⟨idValue, -, hword⟩ := Option.bind_eq_some_iff.mp hid
  obtain ⟨timeValue, -, hinteger⟩ := Option.bind_eq_some_iff.mp hpublished
  have hspec := matchedText_spec hword
  refine ⟨?_, hpositive, safeInteger_le hinteger⟩
  simp only [isIdText, isWord, Bool.and_eq_true, decide_eq_true_eq] at hspec ⊢
  exact ⟨⟨hspec.1.1, hspec.1.2.trans (by decide)⟩, hspec.2⟩

/-- What the catalogue API relies on in a verified snapshot. -/
theorem fetch_rows {refresh : Refresh} (h : fetchCurrentCatalog sha256 refresh = .ok snapshot) :
    (∀ row ∈ snapshot.publications, RowOk row) ∧ snapshot.sourceBlockTimestampMs ≤ maxSafe := by
  simp only [fetchCurrentCatalog, bind_eq_ok, expect_eq_ok, require_eq_ok, pure_eq_ok] at h
  obtain ⟨height, -, -, -, hash, -, counted, -, count, -, -, -, values, -, publications, hrows,
    -, -, nanosec, -, -, ⟨hsafe, -, -⟩, -, -, rfl⟩ := h
  refine ⟨?_, hsafe⟩
  intro row hrow
  obtain ⟨value, -, hvalue⟩ := (Fallible.mapM_eq_ok hrows).2 row (List.mem_mergeSort.mp hrow)
  exact normalizePublication_ok hvalue

theorem mem_storedRows {row : Publication} :
    row ∈ storedRows tables ↔ ∃ id, tables.publications.get id = some row := by
  rw [storedRows, List.mem_filterMap]
  constructor
  · rintro ⟨id, -, hrow⟩
    exact ⟨id, hrow⟩
  · rintro ⟨id, hrow⟩
    exact ⟨id, mem_keysInOrder.mpr (LookupMap.mem_keys.mpr ⟨row, hrow⟩), hrow⟩

theorem storedRows_congr {tables' : CatalogTables}
    (h : tables.publications = tables'.publications) : storedRows tables = storedRows tables' := by
  rw [storedRows, storedRows, h]

theorem storedRows_of_stores (hverified : Verified sha256 refreshes snapshot)
    (hstores : Stores tables snapshot) :
    ((storedRows tables).map (·.publicationId)).Nodup ∧
      (storedRows tables).length = snapshot.publications.length ∧
      ∀ row, row ∈ storedRows tables ↔ row ∈ snapshot.publications := by
  have hagrees := agrees_of_stores hverified hstores
  obtain ⟨_, -, -, hfetch⟩ := hverified
  obtain ⟨-, hnodup, -⟩ := fetch_spec hfetch
  obtain ⟨⟨checkedAtMs, hstate⟩, hrows⟩ := hstores
  have hids : (storedRows tables).map (·.publicationId) = keysInOrder tables.publications.keys := by
    rw [storedRows, List.map_filterMap]
    refine (List.filterMap_congr ?_).trans List.filterMap_some
    intro id hid
    obtain ⟨row, hrow⟩ := LookupMap.mem_keys.mp (mem_keysInOrder.mp hid)
    rw [hrow, Option.map_some, findRow_id ((hrows id).symm.trans hrow)]
  refine ⟨?_, ?_, ?_⟩
  · rw [hids]
    exact (keysInOrder_sorted _).nodup
  · rw [← List.length_map (f := (·.publicationId)), hids, length_keysInOrder]
    exact ((hagrees _ hstate).1).symm
  · intro row
    rw [mem_storedRows]
    constructor
    · rintro ⟨id, hrow⟩
      rw [hrows id, findRow_eq_some hnodup] at hrow
      exact hrow.1
    · intro hmem
      exact ⟨row.publicationId, (hrows _).trans ((findRow_eq_some hnodup).mpr ⟨hmem, rfl⟩)⟩

end Stored

/-! ## A reader -/

/-- One request of a reader: the stored catalogue it meets, its time and its limit. -/
structure Visit where
  tables : CatalogTables
  nowMs : Nat
  limit : Option String

/-- How following the cursors ends: at a page without a cursor, at an error, or with the requests
used up. -/
inductive Ending where
  | ended
  | refused (code : String)
  | waiting (cursor : Option String)

structure Walk where
  pages : List (List Publication)
  ending : Ending

def Walk.items (walk : Walk) : List Publication := walk.pages.flatten

/-- The path of a filter. -/
def filterPath : Option String → CatalogPath
  | none => .publications
  | some account => .creator (some account)

/-- Follow `next_cursor`, one request after the other. -/
def follow (readJson : Bytes → Option JsValue) (env : CatalogEnv) (creator : Option String) :
    Option String → List Visit → Walk
  | cursor, [] => ⟨[], .waiting cursor⟩
  | cursor, visit :: rest =>
    match currentCatalogResponse readJson env (filterPath creator) ⟨visit.limit, cursor⟩
      visit.tables visit.nowMs with
    | .error code => ⟨[], .refused code⟩
    | .ok (.page _ _ items (some next)) =>
      let walk := follow readJson env creator (some next) rest
      ⟨items :: walk.pages, walk.ending⟩
    | .ok (.page _ _ items none) => ⟨[items], .ended⟩
    | .ok (.publication _ _) => ⟨[], .ended⟩
    | .ok .notFound => ⟨[], .refused "not_found"⟩

/-- The stored head is at most three minutes old, and at most five seconds ahead. -/
def Fresh (tables : CatalogTables) (nowMs : Nat) : Prop :=
  ∃ state ∈ tables.state, nowMs ≤ state.sourceBlockTimestampMs + 180000 ∧
    state.sourceBlockTimestampMs ≤ nowMs + 5000

/-- The request itself is well formed. -/
def WellFormed (creator : Option String) (limit : Option String) : Prop :=
  (∀ account ∈ creator, isAccountText account = true) ∧
    ∃ n, 1 ≤ n ∧ n ≤ 50 ∧ parseLimit limit = .ok n

def revisionOf (tables : CatalogTables) : Option String := tables.state.map (·.contentRevision)

/-- Why a request is refused, in the order of the checks. -/
inductive Refusal (env : CatalogEnv) (creator : Option String) (revision : Option String)
    (visit : Visit) : String → Prop
  | disabled (hdisabled : currentCatalogEnabled env = false) :
      Refusal env creator revision visit catalogUnavailable
  | malformed (henabled : currentCatalogEnabled env = true)
      (hform : ¬ WellFormed creator visit.limit) :
      Refusal env creator revision visit invalidRequest
  | unavailable (henabled : currentCatalogEnabled env = true)
      (hform : WellFormed creator visit.limit) (hfresh : ¬ Fresh visit.tables visit.nowMs) :
      Refusal env creator revision visit catalogUnavailable
  | changed (henabled : currentCatalogEnabled env = true)
      (hform : WellFormed creator visit.limit) (hfresh : Fresh visit.tables visit.nowMs)
      (hrevision : revisionOf visit.tables ≠ revision) :
      Refusal env creator revision visit catalogChanged

/-- None of the refusals applies. -/
structure Accepted (env : CatalogEnv) (creator : Option String) (revision : Option String)
    (visit : Visit) : Prop where
  enabled : currentCatalogEnabled env = true
  form : WellFormed creator visit.limit
  fresh : Fresh visit.tables visit.nowMs
  revision : revisionOf visit.tables = revision

theorem accepted_or_refused (env : CatalogEnv) (creator : Option String) (revision : Option String)
    (visit : Visit) :
    Accepted env creator revision visit ∨ ∃ code, Refusal env creator revision visit code := by
  by_cases henabled : currentCatalogEnabled env = true
  · by_cases hform : WellFormed creator visit.limit
    · by_cases hfresh : Fresh visit.tables visit.nowMs
      · by_cases hrevision : revisionOf visit.tables = revision
        · exact .inl ⟨henabled, hform, hfresh, hrevision⟩
        · exact .inr ⟨_, .changed henabled hform hfresh hrevision⟩
      · exact .inr ⟨_, .unavailable henabled hform hfresh⟩
    · exact .inr ⟨_, .malformed henabled hform⟩
  · exact .inr ⟨_, .disabled (Bool.not_eq_true _ ▸ henabled)⟩

/-! ## One request -/

section Requests

variable {sha256 : Bytes → Bytes} {refreshes : Set Refresh} {readJson : Bytes → Option JsValue}
  {env : CatalogEnv} {creator : Option String} {revision : Option String} {visit : Visit}
  {cursor : Option String}

/-- The scope of a configuration. -/
def envScope (env : CatalogEnv) : Scope := ⟨env.readModelNetwork, env.readModelContractId⟩

theorem parseLimit_spec {limit : Option String} {n : Nat} (h : parseLimit limit = .ok n) :
    1 ≤ n ∧ n ≤ 50 := by
  cases limit with
  | none =>
    obtain rfl := Except.ok.inj h
    decide
  | some text =>
    simp only [parseLimit, bind_eq_ok, require_eq_ok, pure_eq_ok] at h
    obtain ⟨-, ⟨htext, hle⟩, rfl⟩ := h
    exact ⟨digitsValue_pos htext, hle⟩

theorem parseLimit_error {limit : Option String} {code : String}
    (h : parseLimit limit = .error code) : code = invalidRequest := by
  cases limit with
  | none => cases h
  | some text =>
    by_cases htext : isPositiveDecimal 1 text = true ∧ digitsValue text.toList ≤ 50
    · rw [parseLimit, require_pos htext] at h
      cases h
    · rw [parseLimit, require_neg htext] at h
      cases h
      rfl

theorem pathCreator_filterPath (hcreator : ∀ account ∈ creator, isAccountText account = true) :
    pathCreator (filterPath creator) = .ok creator := by
  cases hc : creator with
  | none => rfl
  | some account =>
    rw [filterPath, pathCreator, pathPart, expect_some, ok_bind,
      require_pos (hcreator account hc)]
    rfl

theorem pathCreator_filterPath_error {account : String} (h : ¬ isAccountText account = true) :
    pathCreator (filterPath (some account)) = .error invalidRequest := by
  rw [filterPath, pathCreator, pathPart, expect_some, ok_bind, require_neg h]
  rfl

/-- What a stored catalogue gives a request for a filter's page. -/
theorem response_eq (readJson : Bytes → Option JsValue) (creator : Option String) (visit : Visit)
    (cursor : Option String) (henabled : currentCatalogEnabled env = true) :
    currentCatalogResponse readJson env (filterPath creator) ⟨visit.limit, cursor⟩ visit.tables
      visit.nowMs = (do
        let creator ← pathCreator (filterPath creator)
        let limit ← parseLimit visit.limit
        let state ← readyCatalog visit.tables visit.nowMs
        let place ← cursorPlace readJson (envScope env) creator state.contentRevision cursor
        catalogPage (envScope env)
          { network := env.readModelNetwork
            contractId := env.readModelContractId
            catalog := state
            servedAtMs := visit.nowMs
            freshness :=
              if state.sourceBlockTimestampMs + 90000 < visit.nowMs then "stale" else "fresh" }
          creator limit place (storedRows visit.tables)) := by
  unfold currentCatalogResponse
  rw [require_pos henabled, ok_bind]
  cases creator <;> rfl

/-- A stored catalogue is served exactly when it is fresh. -/
theorem readyCatalog_of_shown {scope : Scope} {tables : CatalogTables} {nowMs : Nat}
    (hshown : Shown sha256 refreshes scope tables) :
    (∀ state, tables.state = some state → Fresh tables nowMs →
      readyCatalog tables nowMs = .ok state) ∧
    (¬ Fresh tables nowMs → readyCatalog tables nowMs = .error catalogUnavailable) := by
  constructor
  · rintro state hstate ⟨fresh, hfresh, hold, hahead⟩
    obtain rfl := Option.some.inj (hstate.symm.trans hfresh)
    rcases hshown with rfl | ⟨snapshot, hverified, -, hstores⟩
    · cases hstate
    · obtain ⟨-, hcount, -⟩ := storedRows_of_stores hverified hstores
      obtain ⟨⟨checkedAtMs, hstored⟩, -⟩ := hstores
      obtain ⟨_, -, -, hfetch⟩ := hverified
      obtain rfl := Option.some.inj (hstate.symm.trans hstored)
      rw [readyCatalog, hstate, expect_some, ok_bind,
        require_pos ⟨hold, hahead, (fetch_rows hfetch).2, hcount⟩]
      rfl
  · intro hfresh
    unfold readyCatalog
    cases hstate : tables.state with
    | none => rfl
    | some state =>
      rw [expect_some, ok_bind, require_neg, error_bind]
      rintro ⟨hold, hahead, -, -⟩
      exact hfresh ⟨state, hstate, hold, hahead⟩

/-- The requests that are refused whatever their cursor says. -/
theorem response_refused (readJson : Bytes → Option JsValue)
    (creator revision cursor : Option String)
    {scope : Scope} (hshown : Shown sha256 refreshes scope visit.tables)
    (h : currentCatalogEnabled env = false ∨ ¬ WellFormed creator visit.limit ∨
      ¬ Fresh visit.tables visit.nowMs) :
    ∃ code, Refusal env creator revision visit code ∧ code ≠ catalogChanged ∧
      currentCatalogResponse readJson env (filterPath creator) ⟨visit.limit, cursor⟩ visit.tables
        visit.nowMs = .error code := by
  by_cases henabled : currentCatalogEnabled env = true
  · by_cases hform : WellFormed creator visit.limit
    · have hfresh : ¬ Fresh visit.tables visit.nowMs := by
        rcases h with h | h | h
        · cases henabled.symm.trans h
        · exact absurd hform h
        · exact h
      refine ⟨_, .unavailable henabled hform hfresh, by decide, ?_⟩
      obtain ⟨hcreator, n, -, -, hlimit⟩ := hform
      rw [response_eq _ _ _ _ henabled, pathCreator_filterPath hcreator, ok_bind, hlimit, ok_bind,
        (readyCatalog_of_shown hshown).2 hfresh]
      rfl
    · refine ⟨_, .malformed henabled hform, by decide, ?_⟩
      rw [response_eq _ _ _ _ henabled]
      by_cases hcreator : ∀ account ∈ creator, isAccountText account = true
      · rw [pathCreator_filterPath hcreator, ok_bind]
        cases hlimit : parseLimit visit.limit with
        | error code =>
          rw [parseLimit_error hlimit]
          rfl
        | ok n =>
          obtain ⟨hlow, hhigh⟩ := parseLimit_spec hlimit
          exact absurd ⟨hcreator, n, hlow, hhigh, hlimit⟩ hform
      · obtain ⟨account, hsome, haccount⟩ :
            ∃ account ∈ creator, ¬ isAccountText account = true := by
          simpa using hcreator
        obtain rfl : creator = some account := hsome
        rw [pathCreator_filterPath_error haccount]
        rfl
  · rw [Bool.not_eq_true] at henabled
    refine ⟨_, .disabled henabled, by decide, ?_⟩
    unfold currentCatalogResponse
    rw [require_neg (by rw [henabled]; decide)]
    rfl

/-! ## One page -/

/-- The cursor of the page whose rows end a beginning of the list; none at the start. -/
def Marks (scope : Scope) (creator : Option String) (revision : String)
    (front : List Publication) (cursor : Option String) : Prop :=
  match front.getLast? with
  | none => cursor = none
  | some last =>
    CursorOk scope creator ⟨revision, last.publishedAtMs, last.publicationId⟩ ∧
      ∃ encoded, cursor = some encoded ∧ encodeCursor (cursorValue scope creator
        ⟨revision, last.publishedAtMs, last.publicationId⟩) = .ok encoded

/-- The cursor is read as the place it marks, in its own revision. -/
theorem cursorPlace_of_marks (hread : ReadsCursors readJson) {scope : Scope} {revision : String}
    {front : List Publication} (h : Marks scope creator revision front cursor) :
    cursorPlace readJson scope creator revision cursor = .ok (front.getLast?.map (·.place)) ∧
      ∀ other, other ≠ revision → front ≠ [] →
        cursorPlace readJson scope creator other cursor = .error catalogChanged := by
  unfold Marks at h
  cases hlast : front.getLast? with
  | none =>
    rw [hlast] at h
    obtain rfl := h
    refine ⟨rfl, ?_⟩
    intro other _ hne
    exact absurd (List.getLast?_eq_none_iff.mp hlast) hne
  | some last =>
    rw [hlast] at h
    obtain ⟨hok, encoded, rfl, hencoded⟩ := h
    have hparse := parse_encodeCursor hread scope creator hok hencoded
    rw [if_pos ⟨rfl, rfl⟩] at hparse
    constructor
    · rw [cursorPlace, hparse, ok_bind]
      dsimp only
      rw [require_pos rfl]
      rfl
    · intro other hother _
      rw [cursorPlace, hparse, ok_bind]
      dsimp only
      rw [require_neg (by simpa using hother.symm)]
      rfl

/-- A page is the beginning of what is left, and its cursor marks its end when there is more. -/
theorem catalogPage_eq (metadata : CatalogMetadata) {limit : Nat} {scope : Scope}
    {front left rows : List Publication} (hrows : orderedRows creator rows = front ++ left)
    (hsorted : (front ++ left).Pairwise fun a b => comesBefore a b = true)
    (hok : ∀ row ∈ left, CursorOk scope creator
      ⟨metadata.catalog.contentRevision, row.publishedAtMs, row.publicationId⟩)
    (hlimit : 1 ≤ limit) :
    ∃ next, catalogPage scope metadata creator limit (front.getLast?.map (·.place)) rows =
        .ok (.page metadata creator (left.take limit) next) ∧
      (left.length ≤ limit → next = none) ∧
      (limit < left.length → next.isSome = true ∧
        Marks scope creator metadata.catalog.contentRevision (front ++ left.take limit) next) := by
  have hleft : (orderedRows creator rows).filter
      (fun row => (front.getLast?.map (·.place)).all fun last => beyond last row) = left := by
    have hafter : (fun row => (front.getLast?.map (·.place)).all fun last => beyond last row) =
        fun row => front.getLast?.all fun last => comesBefore last row := by
      funext row
      cases front.getLast? <;> rfl
    rw [hrows, hafter, ← Keyset.after]
    cases hlast : front.getLast? with
    | none =>
      rw [List.getLast?_eq_none_iff.mp hlast, List.nil_append, Keyset.after_none]
    | some last => exact Keyset.after_last comesBefore_irrefl comesBefore_asymm hsorted hlast
  unfold catalogPage
  dsimp only
  rw [hleft]
  cases hlast : (left.take limit).getLast? with
  | none =>
    refine ⟨none, rfl, fun _ => rfl, ?_⟩
    intro hlt
    have hlength := congrArg List.length (List.getLast?_eq_none_iff.mp hlast)
    rw [List.length_take, List.length_nil] at hlength
    omega
  | some last =>
    have hmem : last ∈ left := List.mem_of_mem_take (List.mem_of_getLast? hlast)
    by_cases hlt : limit < left.length
    · obtain ⟨encoded, hencoded⟩ : ∃ encoded, encodeCursor (cursorValue scope creator
          ⟨metadata.catalog.contentRevision, last.publishedAtMs, last.publicationId⟩) =
            .ok encoded := ⟨_, encodeCursor_ok (hok last hmem)⟩
      refine ⟨some encoded, ?_, fun hle => absurd hlt (Nat.not_lt.mpr hle), fun _ => ⟨rfl, ?_⟩⟩
      · rw [nextCursor, if_pos (decide_eq_true hlt), hencoded]
        rfl
      · have hend : (front ++ left.take limit).getLast? = some last := by
          rw [List.getLast?_append, hlast]
          rfl
        rw [Marks, hend]
        exact ⟨hok last hmem, encoded, rfl, hencoded⟩
    · refine ⟨none, ?_, fun _ => rfl, fun hlt' => absurd hlt' hlt⟩
      rw [nextCursor, if_neg (by rw [decide_eq_true_eq]; exact hlt)]
      rfl

end Requests

/-! ## The pages of one revision -/

section Pages

variable {sha256 : Bytes → Bytes} {refreshes : Set Refresh} {readJson : Bytes → Option JsValue}
  {env : CatalogEnv} {creator : Option String} {visit : Visit} {cursor : Option String}

/-- What is fixed while a reader follows the cursors of one revision: the list it reads. -/
structure Listing (env : CatalogEnv) (creator : Option String) (revision : String)
    (ordered : List Publication) : Prop where
  sorted : ordered.Pairwise fun a b => comesBefore a b = true
  cursors : currentCatalogEnabled env = true →
    (∀ account ∈ creator, isAccountText account = true) → ∀ row ∈ ordered,
      CursorOk (envScope env) creator ⟨revision, row.publishedAtMs, row.publicationId⟩

/-- What a visit may find: nothing or a verified snapshot, and in this revision this list. -/
def Meets (sha256 : Bytes → Bytes) (refreshes : Set Refresh) (scope : Scope)
    (creator : Option String) (revision : String) (ordered : List Publication) (visit : Visit) :
    Prop :=
  Shown sha256 refreshes scope visit.tables ∧
    (revisionOf visit.tables = some revision →
      orderedRows creator (storedRows visit.tables) = ordered)

/-- One request at a place of the list: the next page with its cursor, or the error of its
refusal. -/
theorem response_spec (hread : ReadsCursors readJson) {revision : String}
    {front left : List Publication} (hlisting : Listing env creator revision (front ++ left))
    (hmeets : Meets sha256 refreshes (envScope env) creator revision (front ++ left) visit)
    (hmarks : Marks (envScope env) creator revision front cursor)
    (hfirst : front = [] → revisionOf visit.tables = some revision) :
    (Accepted env creator (some revision) visit ∧ ∃ metadata limit next, 1 ≤ limit ∧
      currentCatalogResponse readJson env (filterPath creator) ⟨visit.limit, cursor⟩ visit.tables
        visit.nowMs = .ok (.page metadata creator (left.take limit) next) ∧
      (left.length ≤ limit → next = none) ∧
      (limit < left.length → next.isSome = true ∧
        Marks (envScope env) creator revision (front ++ left.take limit) next)) ∨
    ∃ code, Refusal env creator (some revision) visit code ∧
      currentCatalogResponse readJson env (filterPath creator) ⟨visit.limit, cursor⟩ visit.tables
        visit.nowMs = .error code := by
  obtain ⟨hshown, hsame⟩ := hmeets
  by_cases hfixed : currentCatalogEnabled env = false ∨ ¬ WellFormed creator visit.limit ∨
      ¬ Fresh visit.tables visit.nowMs
  · obtain ⟨code, hrefusal, -, hresponse⟩ := response_refused readJson creator (some revision)
      cursor hshown hfixed
    exact .inr ⟨code, hrefusal, hresponse⟩
  · simp only [not_or, not_not, Bool.not_eq_false] at hfixed
    obtain ⟨henabled, hform, hfresh⟩ := hfixed
    obtain ⟨hcreator, limit, hlow, -, hlimit⟩ := id hform
    obtain ⟨state, hstate, -⟩ := id hfresh
    have hrevision : revisionOf visit.tables = some state.contentRevision := by
      rw [revisionOf, hstate, Option.map_some]
    have hplace := cursorPlace_of_marks hread hmarks
    have hready := (readyCatalog_of_shown hshown).1 state hstate hfresh
    have hresponse := response_eq readJson creator visit cursor henabled
    rw [pathCreator_filterPath hcreator, ok_bind, hlimit, ok_bind, hready, ok_bind] at hresponse
    by_cases hequal : state.contentRevision = revision
    · subst hequal
      rw [hplace.1, ok_bind] at hresponse
      have hok : ∀ row ∈ left, CursorOk (envScope env) creator
          ⟨state.contentRevision, row.publishedAtMs, row.publicationId⟩ := by
        intro row hrow
        exact hlisting.cursors henabled hcreator row (List.mem_append_right _ hrow)
      obtain ⟨next, hpage, hlast, hmore⟩ := catalogPage_eq
        ⟨env.readModelNetwork, env.readModelContractId, state, visit.nowMs,
          if state.sourceBlockTimestampMs + 90000 < visit.nowMs then "stale" else "fresh"⟩
        (hsame hrevision) hlisting.sorted hok hlow
      exact .inl ⟨⟨henabled, hform, hfresh, hrevision⟩, _, limit, next, hlow,
        hresponse.trans hpage, hlast, hmore⟩
    · have hne : front ≠ [] := by
        intro hnil
        exact hequal (Option.some.inj (hrevision.symm.trans (hfirst hnil)))
      rw [hplace.2 _ hequal hne, error_bind] at hresponse
      refine .inr ⟨_, .changed henabled hform hfresh ?_, hresponse⟩
      rw [hrevision]
      exact fun heq => hequal (Option.some.inj heq)

/-- How following the cursors from a place of the list ends. -/
structure Walk.Follows (env : CatalogEnv) (creator revision : Option String)
    (left : List Publication) (visits : List Visit) (walk : Walk) : Prop where
  accepted : ∀ visit ∈ visits.take walk.pages.length, Accepted env creator revision visit
  items : walk.items <+: left
  ending : match walk.ending with
    | .ended => walk.items = left
    | .refused code => ∃ visit, visits[walk.pages.length]? = some visit ∧
        Refusal env creator revision visit code
    | .waiting _ => walk.pages.length = visits.length ∧ visits.length ≤ walk.items.length

/-- One more page at the front. -/
theorem Walk.Follows.cons {revision : Option String} {page left : List Publication}
    {rest : List Visit} {walk : Walk} (haccepted : Accepted env creator revision visit) (hpage : page ≠ [])
    (h : walk.Follows env creator revision left rest) :
    (Walk.mk (page :: walk.pages) walk.ending).Follows env creator revision (page ++ left)
      (visit :: rest) := by
  have hitems : (Walk.mk (page :: walk.pages) walk.ending).items = page ++ walk.items := rfl
  refine ⟨?_, ?_, ?_⟩
  · intro other hother
    rw [List.length_cons, List.take_succ_cons] at hother
    rcases List.mem_cons.mp hother with rfl | hother
    · exact haccepted
    · exact h.accepted other hother
  · rw [hitems]
    exact (List.prefix_append_right_inj page).mpr h.items
  · have hending := h.ending
    rw [hitems]
    dsimp only
    cases hkind : walk.ending with
    | ended =>
      rw [hkind] at hending
      exact congrArg (page ++ ·) hending
    | refused code =>
      rw [hkind] at hending
      obtain ⟨other, hother, hrefusal⟩ := hending
      refine ⟨other, ?_, hrefusal⟩
      rw [List.length_cons, List.getElem?_cons_succ]
      exact hother
    | waiting cursor =>
      rw [hkind] at hending
      obtain ⟨hpages, hlength⟩ := hending
      have hone := List.length_pos_of_ne_nil hpage
      rw [List.length_cons, List.length_cons, List.length_append]
      exact ⟨congrArg (· + 1) hpages, by omega⟩

/-- The induction is on the requests; a page with a cursor has a row, so a reader who goes on for as
many requests as there are rows comes to the end. -/
theorem follow_spec (hread : ReadsCursors readJson) {revision : String}
    {ordered : List Publication} (hlisting : Listing env creator revision ordered)
    (visits : List Visit) {front left : List Publication} {cursor : Option String}
    (hordered : ordered = front ++ left)
    (hmeets : ∀ visit ∈ visits,
      Meets sha256 refreshes (envScope env) creator revision ordered visit)
    (hmarks : Marks (envScope env) creator revision front cursor)
    (hfirst : front = [] → ∀ visit ∈ visits.head?, revisionOf visit.tables = some revision) :
    (follow readJson env creator cursor visits).Follows env creator (some revision) left
      visits := by
  induction visits generalizing front left cursor with
  | nil =>
    refine ⟨?_, List.nil_prefix, rfl, Nat.le_refl _⟩
    intro visit hvisit
    cases hvisit
  | cons visit rest ih =>
    subst hordered
    have hhead := hmeets visit List.mem_cons_self
    rcases response_spec hread hlisting hhead hmarks fun hnil => hfirst hnil visit rfl with
      ⟨haccepted, metadata, limit, next, hlow, hresponse, hlast, hmore⟩ |
      ⟨code, hrefusal, hresponse⟩
    · by_cases hlt : limit < left.length
      · obtain ⟨hsome, hnext⟩ := hmore hlt
        obtain ⟨encoded, rfl⟩ := Option.isSome_iff_exists.mp hsome
        have hfollow : follow readJson env creator cursor (visit :: rest) =
            ⟨left.take limit :: (follow readJson env creator (some encoded) rest).pages,
              (follow readJson env creator (some encoded) rest).ending⟩ := by
          rw [follow, hresponse]
        have hpage : left.take limit ≠ [] := by
          intro hnil
          have hlength := congrArg List.length hnil
          rw [List.length_take, List.length_nil] at hlength
          omega
        have hwalk : (follow readJson env creator (some encoded) rest).Follows env creator
            (some revision) (left.drop limit) rest := by
          refine ih ?_ ?_ hnext ?_
          · rw [List.append_assoc, List.take_append_drop]
          · intro other hother
            exact hmeets other (List.mem_cons_of_mem _ hother)
          · intro hnil
            exact absurd (List.append_eq_nil_iff.mp hnil).2 hpage
        have hcons := hwalk.cons haccepted hpage
        rw [List.take_append_drop] at hcons
        rw [hfollow]
        exact hcons
      · have hnone := hlast (Nat.not_lt.mp hlt)
        subst hnone
        have hfollow : follow readJson env creator cursor (visit :: rest) =
            ⟨[left.take limit], .ended⟩ := by
          rw [follow, hresponse]
        have hall : left.take limit = left := List.take_of_length_le (Nat.not_lt.mp hlt)
        have hitems : (Walk.mk [left] .ended).items = left := List.append_nil left
        rw [hfollow, hall]
        refine ⟨?_, ?_, hitems⟩
        · intro other hother
          obtain rfl := List.mem_singleton.mp hother
          exact haccepted
        · rw [hitems]
    · have hfollow : follow readJson env creator cursor (visit :: rest) =
          ⟨[], .refused code⟩ := by
        rw [follow, hresponse]
      rw [hfollow]
      refine ⟨?_, List.nil_prefix, visit, rfl, hrefusal⟩
      intro other hother
      cases hother

/-! ## Replies -/

/-- What a page says, whatever is stored. -/
theorem response_page {query : CatalogQuery} {tables : CatalogTables} {nowMs : Nat}
    {metadata : CatalogMetadata} {creatorId next : Option String} {items : List Publication}
    (h : currentCatalogResponse readJson env (filterPath creator) query tables nowMs =
      .ok (.page metadata creatorId items next)) :
    creatorId = creator ∧ currentCatalogEnabled env = true ∧
      (∀ account ∈ creator, isAccountText account = true) ∧
      tables.state = some metadata.catalog ∧
      (∀ row ∈ items, row ∈ storedRows tables ∧ matchesFilter creator row = true) ∧
      ∀ encoded ∈ next, ∃ last, items.getLast? = some last ∧
        encodeCursor (cursorValue (envScope env) creator
          ⟨metadata.catalog.contentRevision, last.publishedAtMs, last.publicationId⟩) =
            .ok encoded := by
  have henabled : currentCatalogEnabled env = true := by
    by_contra hdisabled
    unfold currentCatalogResponse at h
    rw [require_neg hdisabled] at h
    cases h
  have hcreator : ∀ account ∈ creator, isAccountText account = true := by
    rintro account rfl
    by_contra haccount
    rw [response_eq readJson (some account) ⟨tables, nowMs, query.limit⟩ query.cursor henabled,
      pathCreator_filterPath_error haccount] at h
    cases h
  rw [response_eq readJson creator ⟨tables, nowMs, query.limit⟩ query.cursor henabled,
    pathCreator_filterPath hcreator, ok_bind] at h
  simp only [bind_eq_ok] at h
  obtain ⟨limit, -, state, hready, place, -, hpage⟩ := h
  simp only [readyCatalog, bind_eq_ok, expect_eq_ok, require_eq_ok, pure_eq_ok] at hready
  obtain ⟨stored, hstored, -, -, rfl⟩ := hready
  unfold catalogPage at hpage
  dsimp only at hpage
  obtain ⟨cursor, hcursor, hpage⟩ := bind_eq_ok.mp hpage
  rw [pure_eq_ok] at hpage
  cases hpage
  refine ⟨rfl, henabled, hcreator, hstored, ?_, ?_⟩
  · intro row hrow
    exact mem_orderedRows.mp (List.mem_of_mem_filter (List.mem_of_mem_take hrow))
  · rintro encoded rfl
    generalize (List.take limit _).getLast? = last at hcursor
    cases last with
    | none => cases hcursor
    | some last =>
      rw [nextCursor] at hcursor
      split at hcursor
      · obtain ⟨made, hmade, hsome⟩ := bind_eq_ok.mp hcursor
        rw [pure_eq_ok] at hsome
        obtain rfl := Option.some.inj hsome
        exact ⟨last, rfl, hmade⟩
      · cases hcursor

/-- The cursor after a stored row is one the API can read. -/
theorem cursorOk_of_shown (hdigest : ∀ bytes, (sha256 bytes).length = 32) {scope : Scope}
    {tables : CatalogTables} {state : CatalogState} {row : Publication}
    (hshown : Shown sha256 refreshes scope tables) (hstate : tables.state = some state)
    (hrow : row ∈ storedRows tables) (henabled : currentCatalogEnabled env = true)
    (hcreator : ∀ account ∈ creator, isAccountText account = true) :
    CursorOk (envScope env) creator
      ⟨state.contentRevision, row.publishedAtMs, row.publicationId⟩ := by
  rcases hshown with rfl | ⟨snapshot, hverified, -, hstores⟩
  · cases hstate
  · obtain ⟨-, -, hmem⟩ := storedRows_of_stores hverified hstores
    obtain ⟨⟨checkedAtMs, hstored⟩, -⟩ := hstores
    obtain rfl := Option.some.inj (hstored.symm.trans hstate)
    obtain ⟨_, -, -, hfetch⟩ := hverified
    have hok := (fetch_rows hfetch).1 row ((hmem row).mp hrow)
    have hrevision : isHexText 64 snapshot.contentRevision = true := by
      rw [(fetch_spec hfetch).2.2, contentRevision]
      simp only [isHexText, Bool.and_eq_true, decide_eq_true_eq]
      exact ⟨by rw [hex_length, hdigest], hex_all _⟩
    simp only [currentCatalogEnabled, Bool.and_eq_true, beq_iff_eq] at henabled
    obtain ⟨⟨⟨⟨⟨-, hnetwork⟩, hsame⟩, haccount⟩, -⟩, -⟩ := henabled
    have hcontract : isAccountText env.readModelContractId = true := by
      rw [hsame]
      exact haccount
    exact {
      network := hnetwork
      contract := plain_of_isAccountText hcontract
      creator := fun account hmem => plain_of_isAccountText (hcreator account hmem)
      revision := hrevision
      positive := hok.positive
      safe := hok.safe
      id := hok.id }

end Pages

/-! ## Reading the whole list -/

section Reading

variable {sha256 : Bytes → Bytes} {refreshes : Set Refresh} {readJson : Bytes → Option JsValue}

variable (sha256 refreshes) in
/-- The tables of a scope in a state that some run of refreshes reaches. -/
def Reached (scope : Scope) (tables : CatalogTables) : Prop :=
  ∃ (tr : List (Transition
      (Config CatalogDb CatalogOp String RefreshAnswer {r // r ∈ refreshes})
      (Event Unit {r // r ∈ refreshes} Empty)))
    (c : Config CatalogDb CatalogOp String RefreshAnswer {r // r ∈ refreshes}),
    Trace (ExecStep (catalogSystem sha256 refreshes).next) ⟨fun _ => .empty, []⟩ tr c ∧
      tables = c.shared scope

theorem shown_of_reached (hsha : CollisionFree sha256 refreshes) {scope : Scope}
    {tables : CatalogTables} (h : Reached sha256 refreshes scope tables) :
    Shown sha256 refreshes scope tables := by
  obtain ⟨tr, c, htrace, rfl⟩ := h
  exact (catalog_shown hsha htrace).1 scope

theorem nodup_storedRows {scope : Scope} {tables : CatalogTables}
    (h : Shown sha256 refreshes scope tables) :
    ((storedRows tables).map (·.publicationId)).Nodup := by
  rcases h with rfl | ⟨snapshot, hverified, -, hstores⟩
  · have hnone : storedRows CatalogTables.empty = [] := by
      rw [List.eq_nil_iff_forall_not_mem]
      intro row hrow
      obtain ⟨id, hget⟩ := mem_storedRows.mp hrow
      rw [CatalogTables.empty, LookupMap.get_empty] at hget
      cases hget
    rw [hnone]
    exact List.nodup_nil
  · exact (storedRows_of_stores hverified hstores).1

/-- One revision, one list of rows. -/
theorem storedRows_of_revision (hsha : CollisionFree sha256 refreshes) {scope : Scope}
    {s t : CatalogTables} (hs : Shown sha256 refreshes scope s)
    (ht : Shown sha256 refreshes scope t) {revision : String}
    (hrevision : revisionOf s = some revision) (hrevision' : revisionOf t = some revision) :
    storedRows s = storedRows t := by
  rcases hs with rfl | ⟨a, ha, -, ⟨checkedA, hstateA⟩, hrowsA⟩
  · cases hrevision
  · rcases ht with rfl | ⟨b, hb, -, ⟨checkedB, hstateB⟩, hrowsB⟩
    · cases hrevision'
    · rw [revisionOf, hstateA] at hrevision
      rw [revisionOf, hstateB] at hrevision'
      have hsame := (Option.some.inj hrevision).trans (Option.some.inj hrevision').symm
      have hrows := publications_eq_of_revision hsha ha hb hsame
      apply storedRows_congr
      apply LookupMap.ext_get
      intro id
      rw [hrowsA, hrowsB, hrows]

/-- Following the cursors from the first page on. -/
theorem follow_reads (hdigest : ∀ bytes, (sha256 bytes).length = 32)
    (hsha : CollisionFree sha256 refreshes) (hread : ReadsCursors readJson) {env : CatalogEnv}
    {creator : Option String} {first : Visit} {rest : List Visit}
    (hreached : ∀ visit ∈ first :: rest, Reached sha256 refreshes (envScope env) visit.tables) :
    (follow readJson env creator none (first :: rest)).Follows env creator
      (revisionOf first.tables) (orderedRows creator (storedRows first.tables)) (first :: rest) := by
  have hshown : ∀ visit ∈ first :: rest, Shown sha256 refreshes (envScope env) visit.tables :=
    fun visit hvisit => shown_of_reached hsha (hreached visit hvisit)
  have hfirst := hshown first List.mem_cons_self
  cases hstate : first.tables.state with
  | none =>
    -- nothing is stored, so the first request is refused
    have hfresh : ¬ Fresh first.tables first.nowMs := by
      rintro ⟨state, hsome, -⟩
      rw [hstate] at hsome
      cases hsome
    obtain ⟨code, hrefusal, -, hresponse⟩ := response_refused readJson creator
      (revisionOf first.tables) none hfirst (.inr (.inr hfresh))
    have hfollow : follow readJson env creator none (first :: rest) = ⟨[], .refused code⟩ := by
      rw [follow, hresponse]
    rw [hfollow]
    refine ⟨?_, List.nil_prefix, first, rfl, hrefusal⟩
    intro visit hvisit
    cases hvisit
  | some state =>
    have hrevision : revisionOf first.tables = some state.contentRevision := by
      rw [revisionOf, hstate, Option.map_some]
    rw [hrevision]
    have hmeets : ∀ visit ∈ first :: rest, Meets sha256 refreshes (envScope env) creator
        state.contentRevision (orderedRows creator (storedRows first.tables)) visit := by
      intro visit hvisit
      refine ⟨hshown visit hvisit, ?_⟩
      intro hvisited
      rw [storedRows_of_revision hsha (hshown visit hvisit) hfirst hvisited hrevision]
    refine follow_spec hread ⟨orderedRows_sorted creator (nodup_storedRows hfirst), ?_⟩ (first :: rest)
      (List.nil_append _).symm hmeets rfl ?_
    · intro henabled hcreator row hrow
      exact cursorOk_of_shown hdigest hfirst hstate (mem_orderedRows.mp hrow).1 henabled hcreator
    · rintro - visit hvisit
      obtain rfl := Option.some.inj hvisit
      exact hrevision

/-- Following the cursors reads every row of the filter once, in order, unless a request is refused,
and that only for its own form, an unavailable catalogue or a changed revision; a cursor is read as
the place and the revision it was made of; and no page has a row of another filter, while the cursor
of another filter is refused. -/
theorem catalog_paging (hdigest : ∀ bytes, (sha256 bytes).length = 32)
    (hsha : CollisionFree sha256 refreshes) (hread : ReadsCursors readJson) :
    (∀ env creator first rest,
      (∀ visit ∈ first :: rest, Reached sha256 refreshes (envScope env) visit.tables) →
      ∃ ordered : List Publication,
        (ordered.Pairwise fun a b => comesBefore a b = true) ∧
        (∀ row, row ∈ ordered ↔ (∃ id, first.tables.publications.get id = some row) ∧
          matchesFilter creator row = true) ∧
        (follow readJson env creator none (first :: rest)).Follows env creator
          (revisionOf first.tables) ordered (first :: rest)) ∧
    (∀ env creator query tables nowMs metadata creatorId items next,
      Reached sha256 refreshes (envScope env) tables →
      currentCatalogResponse readJson env (filterPath creator) query tables nowMs =
        .ok (.page metadata creatorId items next) →
      (∀ row ∈ items, matchesFilter creator row = true) ∧
      ∀ encoded ∈ next, ∃ last, items.getLast? = some last ∧
        tables.state = some metadata.catalog ∧
        parseCatalogCursor readJson (envScope env) creator encoded =
          .ok (some metadata.catalog.contentRevision, last.publishedAtMs, last.publicationId) ∧
        ∀ env' creator' visit, Reached sha256 refreshes (envScope env') visit.tables →
          ¬ (envScope env = envScope env' ∧ creator = creator') →
          ∃ code, currentCatalogResponse readJson env' (filterPath creator')
              ⟨visit.limit, some encoded⟩ visit.tables visit.nowMs = .error code ∧
            (code = invalidCursor ∨
              Refusal env' creator' (revisionOf visit.tables) visit code)) := by
  constructor
  · intro env creator first rest hreached
    have hfirst := shown_of_reached hsha (hreached first List.mem_cons_self)
    refine ⟨orderedRows creator (storedRows first.tables), ?_, ?_,
      follow_reads hdigest hsha hread hreached⟩
    · exact orderedRows_sorted creator (nodup_storedRows hfirst)
    · intro row
      rw [mem_orderedRows, mem_storedRows]
  · intro env creator query tables nowMs metadata creatorId items next hreached hpage
    have hshown := shown_of_reached hsha hreached
    obtain ⟨rfl, henabled, hcreator, hstate, hitems, hnext⟩ := response_page hpage
    refine ⟨fun row hrow => (hitems row hrow).2, ?_⟩
    intro encoded hsome
    obtain ⟨last, hlast, hencoded⟩ := hnext encoded hsome
    have hok := cursorOk_of_shown hdigest hshown hstate
      (hitems last (List.mem_of_getLast? hlast)).1 henabled hcreator
    have hparse := fun scope' creator' => parse_encodeCursor hread scope' creator' hok hencoded
    refine ⟨last, hlast, hstate, ?_, ?_⟩
    · rw [hparse, if_pos ⟨rfl, rfl⟩]
    · intro env' creator' visit hvisited hother
      have hshown' := shown_of_reached hsha hvisited
      by_cases hfixed : currentCatalogEnabled env' = false ∨ ¬ WellFormed creator' visit.limit ∨
          ¬ Fresh visit.tables visit.nowMs
      · obtain ⟨code, hrefusal, -, hresponse⟩ := response_refused readJson creator'
          (revisionOf visit.tables) (some encoded) hshown' hfixed
        exact ⟨code, hresponse, .inr hrefusal⟩
      · simp only [not_or, not_not, Bool.not_eq_false] at hfixed
        obtain ⟨henabled', ⟨hcreator', limit, -, -, hlimit⟩, hfresh⟩ := hfixed
        obtain ⟨state, hstate', -⟩ := id hfresh
        have hready := (readyCatalog_of_shown hshown').1 state hstate' hfresh
        have hresponse := response_eq readJson creator' visit (some encoded) henabled'
        rw [pathCreator_filterPath hcreator', ok_bind, hlimit, ok_bind, hready, ok_bind,
          cursorPlace, hparse, if_neg hother, error_bind, error_bind] at hresponse
        exact ⟨invalidCursor, hresponse, .inl rfl⟩

end Reading

/-! ### Two rows of one time -/

/-- A first refresh that is cut off when its batch is committed. -/
theorem reached_of_commit {sha256 : Bytes → Bytes} {refreshes : Set Refresh} {refresh : Refresh}
    {snapshot : Snapshot} {statements : List CatalogStatement} {db : CatalogDb}
    (hmem : refresh ∈ refreshes) (henabled : currentCatalogEnabled refresh.env = true)
    (hfetch : fetchCurrentCatalog sha256 refresh = .ok snapshot)
    (hcompare : compareCatalog .empty snapshot refresh.checkedAtMs = .ok statements)
    (hbatch : runBatch (fun _ => .empty) statements = some db) (scope : Scope) :
    Reached sha256 refreshes scope (db scope) := by
  have hrefresh : refreshCurrentCatalog sha256 refresh =
      applyCurrentCatalog snapshot refresh.checkedAtMs := by
    rw [refreshCurrentCatalog, if_pos henabled, hfetch]
  obtain ⟨f, e, hread, next, onError, hnext⟩ : ∃ f e,
      applyCurrentCatalog snapshot refresh.checkedAtMs = .act (.readCatalog snapshot.scope) f e ∧
        ∃ next onError, f .empty = .act (.batch statements) next onError := by
    refine ⟨_, _, rfl, ?_⟩
    simp only [Handler.bind, hcompare]
    exact ⟨_, _, rfl⟩
  have hstart : ExecStep (catalogSystem sha256 refreshes).next ⟨fun _ => .empty, []⟩
      (.start ⟨refresh, hmem⟩)
      ⟨fun _ => .empty, [(⟨refresh, hmem⟩, .act (.readCatalog snapshot.scope) f e)]⟩ := by
    rw [← hread, ← hrefresh]
    rfl
  have hrun : ExecStep (catalogSystem sha256 refreshes).next
      ⟨fun _ => .empty, [(⟨refresh, hmem⟩, .act (.readCatalog snapshot.scope) f e)]⟩
      (.run 0 ()) ⟨fun _ => .empty, [(⟨refresh, hmem⟩, .act (.batch statements) next onError)]⟩ := by
    rw [← hnext]
    rfl
  have hcommit : ExecStep (catalogSystem sha256 refreshes).next
      ⟨fun _ => .empty, [(⟨refresh, hmem⟩, .act (.batch statements) next onError)]⟩
      (.throwAfter 0 ()) ⟨db, [(⟨refresh, hmem⟩, onError)]⟩ := by
    simp only [ExecStep, System.next, List.getElem?_cons_zero, catalogSystem, CatalogOp.exec, hbatch]
    rfl
  exact ⟨_, _, .snoc (.snoc (.snoc .nil hstart) hrun) hcommit, rfl⟩

namespace Vectors

def digest (_ : Bytes) : Bytes := List.replicate 32 7

def firstRow : Publication where
  publicationId := "a"
  creatorId := "c.testnet"
  title := .ofString "A"
  priceUsdc := "2000000"
  generation := 1
  playbackId := "play-a"
  availability := .active
  publishedAtMs := 5

def secondRow : Publication := { firstRow with publicationId := "b", playbackId := "play-b" }

def twoRows : Refresh where
  env := ⟨"true", "true", "public-testnet", "testnet", "m.testnet", "m.testnet", true⟩
  block :=
    { height := .number "7"
      hash := .string (.ofString "11111111111111111111111111111111")
      timestampNanosec := .string (.ofString "9000000") }
  count := ⟨7, "11111111111111111111111111111111", .number "2"⟩
  pages :=
    [⟨7, "11111111111111111111111111111111", .array [firstRow.toJson, secondRow.toJson]⟩]
  fetchedAtMs := 10
  checkedAtMs := 11

def snapshot : Snapshot where
  scope := ⟨"testnet", "m.testnet"⟩
  blockHeight := 7
  blockHash := "11111111111111111111111111111111"
  publications := [firstRow, secondRow]
  sourceBlockTimestampMs := 9
  contentRevision := contentRevision digest [firstRow, secondRow]

theorem normalize_rows : [firstRow.toJson, secondRow.toJson].mapM normalizePublication =
    .ok [firstRow, secondRow] := by decide +kernel

theorem fetch_twoRows : fetchCurrentCatalog digest twoRows = .ok snapshot := by
  have hsort : [firstRow, secondRow].mergeSort publicationOrder = [firstRow, secondRow] := by
    apply List.mergeSort_of_pairwise
    decide
  simp only [fetchCurrentCatalog, bind_eq_ok, expect_eq_ok, require_eq_ok, pure_eq_ok]
  refine ⟨7, by decide, ⟨⟩, by decide, "11111111111111111111111111111111", by decide,
    .number "2", rfl, 2, by decide, ⟨⟩, by decide, [firstRow.toJson, secondRow.toJson], rfl,
    [firstRow, secondRow], normalize_rows, ⟨⟩, by decide, "9000000", by decide, ⟨⟩, by decide, ⟨⟩,
    by decide, ?_⟩
  rw [hsort]
  rfl

theorem compare_snapshot :
    compareCatalog .empty snapshot 11 = .ok (catalogStatements .empty snapshot 11) := by
  have hkeys : ∀ id ∈ CatalogTables.empty.publications.keys,
      ∀ old ∈ CatalogTables.empty.publications.get id,
        ¬ publicationConflict snapshot.publications old := by
    intro id _ old hold
    rw [CatalogTables.empty, LookupMap.get_empty] at hold
    cases hold
  rw [compareCatalog, require, if_pos (by rintro _ ⟨⟩), require, if_pos (by decide), require,
    if_pos hkeys]
  rfl

/-- The two rows are stored. -/
theorem reached_twoRows : ∃ tables, Reached digest {twoRows} snapshot.scope tables ∧
    tables.state.map (·.sourceBlockTimestampMs) = some 9 ∧
    tables.publications.get "a" = some firstRow ∧ tables.publications.get "b" = some secondRow := by
  have hstored : ((runBatch (fun _ => .empty) (catalogStatements .empty snapshot 11)).map
      fun db => ((db snapshot.scope).state.map (·.sourceBlockTimestampMs),
        (db snapshot.scope).publications.get "a", (db snapshot.scope).publications.get "b")) =
      some (some 9, some firstRow, some secondRow) := by decide +kernel
  obtain ⟨db, hbatch, hfound⟩ := Option.map_eq_some_iff.mp hstored
  obtain ⟨htime, hrows⟩ := Prod.mk.inj hfound
  obtain ⟨hfirst, hsecond⟩ := Prod.mk.inj hrows
  have henabled : currentCatalogEnabled twoRows.env = true := by decide
  exact ⟨_, reached_of_commit (Set.mem_singleton twoRows) henabled fetch_twoRows compare_snapshot
    hbatch _, htime, hfirst, hsecond⟩

theorem readsCursors : ReadsCursors fun bytes => (decodeUtf8 bytes).bind JsValue.readBack := by
  intro scope creator cursor _
  dsimp only
  rw [decodeUtf8_utf8, Option.bind_some]
  exact JsValue.readBack_stringify
    ⟨scopeValue_spelled scope creator, trivial, JsValue.spelled_decimal cursor.time, trivial, trivial⟩

/-- There is one snapshot, so no two with one digest. -/
theorem collisionFree : CollisionFree digest {twoRows} := by
  rintro a b ⟨refresh, rfl, -, hfetch⟩ ⟨refresh', rfl, -, hfetch'⟩ -
  rw [Except.ok.inj (hfetch.symm.trans hfetch')]

end Vectors

/-- Three minutes after its block a stored catalogue is refused, whatever changed. -/
theorem stale_catalog_refused : ∃ tables,
    Reached Vectors.digest {Vectors.twoRows} Vectors.snapshot.scope tables ∧
      tables.publications.get "a" = some Vectors.firstRow ∧
      follow (fun _ => none) Vectors.twoRows.env none none [⟨tables, 180010, none⟩] =
        ⟨[], .refused catalogUnavailable⟩ := by
  obtain ⟨tables, hreached, htime, hfirst, -⟩ := Vectors.reached_twoRows
  refine ⟨tables, hreached, hfirst, ?_⟩
  have hfresh : ¬ Fresh tables 180010 := by
    rintro ⟨state, hstate, hold, -⟩
    rw [Option.mem_def.mp hstate, Option.map_some] at htime
    have htime' : state.sourceBlockTimestampMs = 9 := Option.some.inj htime
    omega
  have hready := (readyCatalog_of_shown (shown_of_reached Vectors.collisionFree hreached)).2 hfresh
  have henabled : currentCatalogEnabled Vectors.twoRows.env = true := by decide
  have hresponse := response_eq (fun _ => none) none ⟨tables, 180010, none⟩ none henabled
  rw [pathCreator_filterPath (by rintro _ ⟨⟩), ok_bind, parseLimit, ok_bind, hready,
    error_bind] at hresponse
  rw [follow, hresponse]

/-- Two pages of one row each, with the same time. -/
theorem catalog_paging_twoRows : ∃ tables ordered,
    Vectors.firstRow ∈ ordered ∧ Vectors.secondRow ∈ ordered ∧
      (ordered.Pairwise fun a b => comesBefore a b = true) ∧
      (follow (fun bytes => (decodeUtf8 bytes).bind JsValue.readBack) Vectors.twoRows.env none none
        [⟨tables, 10, some "1"⟩, ⟨tables, 20, some "1"⟩]).Follows Vectors.twoRows.env none
          (revisionOf tables) ordered [⟨tables, 10, some "1"⟩, ⟨tables, 20, some "1"⟩] := by
  obtain ⟨tables, hreached, -, hfirst, hsecond⟩ := Vectors.reached_twoRows
  have hdigest : ∀ bytes, (Vectors.digest bytes).length = 32 := fun _ => List.length_replicate
  obtain ⟨ordered, hsorted, hmem, hfollows⟩ :=
    (catalog_paging hdigest Vectors.collisionFree Vectors.readsCursors).1 Vectors.twoRows.env none
      ⟨tables, 10, some "1"⟩ [⟨tables, 20, some "1"⟩] (by
        intro visit hvisit
        simp only [List.mem_cons, List.not_mem_nil, or_false] at hvisit
        rcases hvisit with rfl | rfl
        · exact hreached
        · exact hreached)
  exact ⟨tables, ordered, (hmem _).mpr ⟨⟨_, hfirst⟩, rfl⟩, (hmem _).mpr ⟨⟨_, hsecond⟩, rfl⟩,
    hsorted, hfollows⟩

end Youtick.ReadModel
