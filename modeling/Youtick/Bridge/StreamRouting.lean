import Youtick.Lib.Base64
import Youtick.Lib.Panic
import Youtick.Relayer.JsonText

/-!
# Bridge: the route of a Stream upload

`streamUploadMetadata` sends the job id and the generation of an upload three times in the tus
metadata: plain, as JSON, and in the name. `streamWebhookRoute` reads them back from the `meta` of a
webhook, in whichever of these shapes it has them. It finds the upload in any of the shapes alone or
together, and a route only where all the shapes that are there name it
(`stream_route_round_trip`).

`JSON.parse` is a parameter, which has to read back what `JSON.stringify` wrote.
-/

set_option autoImplicit false

namespace Youtick.Bridge

open Youtick.Lib
open Youtick.PaymentService (isPositiveDecimal)
open Youtick.Relayer (JsValue JsString property)

/-! ## The metadata of an upload -/

inductive MediaSourceType where
  | mp4
  | mov
  | avi
  | webm
  | wmv
  | mkv
  | flv

/-- `MEDIA_SOURCE_FORMATS`: the file name and the MIME type. -/
def mediaSourceFormat : MediaSourceType → String × String
  | .mp4 => ("source.mp4", "video/mp4")
  | .mov => ("source.mov", "video/quicktime")
  | .avi => ("source.avi", "video/x-msvideo")
  | .webm => ("source.webm", "video/webm")
  | .wmv => ("source.wmv", "video/x-ms-wmv")
  | .mkv => ("source.mkv", "video/x-matroska")
  | .flv => ("source.flv", "video/x-flv")

/-- The parts of `CreateUploadInput` that go into the metadata. -/
structure StreamUpload where
  jobId : String
  generation : Nat
  sourceType : MediaSourceType
  uploadExpiresAtMs : Option Nat

/-- A decimal with leading zeros up to a width. -/
def padded (width n : Nat) : String :=
  String.ofList (List.replicate (width - (decimal n).toList.length) '0') ++ decimal n

/-- Year, month and day of a day after 1 January 1970. -/
def civil (days : Nat) : Nat × Nat × Nat :=
  let shifted := days + 719468
  let era := shifted / 146097
  let day := shifted % 146097
  let year := (day - day / 1460 + day / 36524 - day / 146096) / 365
  let ordinal := day - (365 * year + year / 4 - year / 100)
  let month := (5 * ordinal + 2) / 153
  (year + 400 * era + (if month < 10 then 0 else 1), if month < 10 then month + 3 else month - 9,
    ordinal - (153 * month + 2) / 5 + 1)

/-- `new Date(ms).toISOString()` -/
def toISOString (ms : Nat) : Result String := do
  require (ms ≤ 8640000000000000) "Invalid time value"
  let (year, month, day) := civil (ms / 86400000)
  let time := ms % 86400000
  let yearText := if year ≤ 9999 then padded 4 year else "+" ++ padded 6 year
  return yearText ++ "-" ++ padded 2 month ++ "-" ++ padded 2 day ++ "T" ++
    padded 2 (time / 3600000) ++ ":" ++ padded 2 (time / 60000 % 60) ++ ":" ++
    padded 2 (time / 1000 % 60) ++ "." ++ padded 3 (time % 1000) ++ "Z"

/-- `{ jobId, generation }` -/
def routeValue (jobId : String) (generation : Nat) : JsValue :=
  .object [(.ofString "jobId", .string (.ofString jobId)),
    (.ofString "generation", .number (decimal generation))]

/-- `youtick-<job>-g<generation>` -/
def routeName (jobId : String) (generation : Nat) : String :=
  "youtick-" ++ jobId ++ "-g" ++ decimal generation

/-- One pair of the header; a bare key has no value. -/
def metadataPair : String × Option String → String
  | (key, none) => key
  | (key, some value) => key ++ " " ++ Base64.encode (utf8 value)

/-- The pairs of the header, in their order. -/
def metadataEntries (input : StreamUpload) (maxDurationSeconds : Nat) (expiry : Option String) :
    List (String × Option String) :=
  [("name", some (routeName input.jobId input.generation)), ("requiresignedurls", none),
    ("maxDurationSeconds", some (decimal maxDurationSeconds))] ++
  (match expiry with
    | none => []
    | some text => [("expiry", some text)]) ++
  [("filename", some (mediaSourceFormat input.sourceType).1),
    ("filetype", some (mediaSourceFormat input.sourceType).2),
    ("jobid", some input.jobId), ("generation", some (decimal input.generation)),
    ("meta", some (routeValue input.jobId input.generation).stringify)]

/-- The upload's expiry, when it has one. -/
def expiryText : Option Nat → Result (Option String)
  | none => .ok none
  | some ms => do
      let text ← toISOString ms
      return some text

/-- `streamUploadMetadata` -/
def streamUploadMetadata (input : StreamUpload) (maxDurationSeconds : Nat) : Result String := do
  let expiry ← expiryText input.uploadExpiresAtMs
  return ",".intercalate ((metadataEntries input maxDurationSeconds expiry).map metadataPair)

/-! ## The header as tus metadata -/

/-- A pair of tus metadata: a key and, after a blank, the base64 of its value. -/
def tusPair (pair : List Char) : Option (String × Option String) :=
  match pair.splitOn ' ' with
  | [key] => some (String.ofList key, none)
  | [key, value] => do
      let bytes ← Base64.standardDecode (String.ofList value)
      let text ← decodeUtf8 bytes
      return (String.ofList key, some text)
  | _ => none

def tusMetadata (header : String) : Option (List (String × Option String)) :=
  (header.toList.splitOn ',').mapM tusPair

/-! ## The route of a webhook -/

structure WebhookRoute where
  jobId : String
  generation : Nat
  deriving DecidableEq

/-- A job id and a generation as they were found; a missing one is `undefined`. -/
structure RouteCandidate where
  jobId : Option JsValue
  generation : Option JsValue

/-- `a ?? b` -/
def coalesce : Option JsValue → Option JsValue → Option JsValue
  | none, b => b
  | some .null, b => b
  | a, _ => a

/-- `^[1-9][0-9]{0,15}$` -/
def isGenerationText (text : String) : Bool := isPositiveDecimal 15 text

/-- The characters `.` of a regular expression does not match. -/
def isLineTerminator (c : Char) : Bool :=
  c == '\n' || c == '\r' || c.toNat == 0x2028 || c.toNat == 0x2029

/-- `/^youtick-(.+)-g([1-9][0-9]{0,15})$/`: the groups of a match. The second group has no `-`, so
the greedy first one reaches to the last `-g`. -/
def matchRouteName (name : String) : Option (String × String) := do
  let rest ← stripPrefix name "youtick-"
  let digits := String.ofList (rest.toList.reverse.takeWhile isAsciiDigit).reverse
  match rest.toList.reverse.dropWhile isAsciiDigit with
  | 'g' :: '-' :: job =>
    if job ≠ [] ∧ job.all (fun c => !isLineTerminator c) = true ∧ isGenerationText digits = true
    then some (String.ofList job.reverse, digits) else none
  | _ => none

/-- A positive safe integer by its text; as a number it is written in at most sixteen digits. -/
def safeGeneration (text : String) : Option Nat :=
  if isGenerationText text = true ∧ digitsValue text.toList < 2 ^ 53 then
    some (digitsValue text.toList)
  else none

/-- The generation of a candidate, if it is a positive safe integer. -/
def candidateGeneration : Option JsValue → Option Nat
  | some (.number text) => safeGeneration text
  | some (.string s) => s.text?.bind safeGeneration
  | _ => none

/-- The route of a candidate. A job id with a lone surrogate is not valid. -/
def candidateRoute (isValidJobId : String → Bool) (candidate : RouteCandidate) :
    Option WebhookRoute := do
  let jobId ← (candidate.jobId.bind JsValue.string?).bind JsString.text?
  let generation ← candidateGeneration candidate.generation
  if isValidJobId jobId = true then some ⟨jobId, generation⟩ else none

section Route

variable (parse : String → Option JsValue) (isValidJobId : String → Bool)

/-- The plain shape, when one of its keys is there. -/
def plainCandidate (fields : List (JsString × JsValue)) : List RouteCandidate :=
  let plainJob := coalesce (coalesce (property fields "jobid") (property fields "jobId"))
    (property fields "job_id")
  let generation := property fields "generation"
  if plainJob.isSome ∨ generation.isSome then [⟨plainJob, generation⟩] else []

/-- The value of `meta`: a text is parsed, and one that is no JSON is `null`. -/
def nestedValue : JsValue → JsValue
  | .string s => (s.text?.bind parse).getD .null
  | value => value

/-- The nested shape, when there is a `meta`; one that is no object has neither property. -/
def nestedCandidate (fields : List (JsString × JsValue)) : List RouteCandidate :=
  match property fields "meta" with
  | none => []
  | some value =>
    let object := ((nestedValue parse value).fields?).getD []
    [⟨property object "jobId", property object "generation"⟩]

/-- The name, when it is a string. -/
def nameCandidate (fields : List (JsString × JsValue)) : List RouteCandidate :=
  match property fields "name" with
  | some (.string s) =>
    match s.text?.bind matchRouteName with
    | some (job, generation) =>
      [⟨some (.string (.ofString job)), some (.string (.ofString generation))⟩]
    | none => [⟨some .null, some .null⟩]
  | _ => []

/-- The loop over the candidates, with the route so far. -/
def agreedRoute : Option WebhookRoute → List RouteCandidate → Option WebhookRoute
  | route, [] => route
  | route, candidate :: rest =>
    match candidateRoute isValidJobId candidate with
    | none => none
    | some next =>
      if route.isSome ∧ route ≠ some next then none else agreedRoute (some next) rest

def streamWebhookRoute (fields : List (JsString × JsValue)) : Option WebhookRoute :=
  agreedRoute isValidJobId none
    (plainCandidate fields ++ nestedCandidate parse fields ++ nameCandidate fields)

end Route

/-- `JOB_ID_PATTERN` -/
def isJobId (text : String) : Bool :=
  Nat.ble 1 text.toList.length && Nat.ble text.toList.length 128 &&
    text.toList.all fun c => isAsciiAlphanumeric c || ['.', '_', ':', '-'].contains c

/-! ## Texts -/

theorem safeGeneration_decimal {generation : Nat} (hpos : 1 ≤ generation)
    (hsafe : generation < 2 ^ 53) : safeGeneration (decimal generation) = some generation := by
  have htext : isGenerationText (decimal generation) = true :=
    PaymentService.isPositiveDecimal_decimal hpos (hsafe.trans (by decide))
  have hvalue := PaymentService.digitsValue_decimal generation
  rw [safeGeneration, hvalue, if_pos ⟨htext, hsafe⟩]

theorem safeGeneration_eq_some {text : String} {generation : Nat}
    (h : safeGeneration text = some generation) :
    text = decimal generation ∧ 1 ≤ generation ∧ generation < 2 ^ 53 := by
  unfold safeGeneration at h
  split at h
  · next hsafe =>
      obtain rfl := Option.some.inj h
      exact ⟨(PaymentService.decimal_digitsValue hsafe.1).symm,
        PaymentService.digitsValue_pos hsafe.1, hsafe.2⟩
  · cases h

/-- The groups of a match spell the name; there is one way to split it. -/
theorem matchRouteName_iff {name job digits : String} :
    matchRouteName name = some (job, digits) ↔
      name = "youtick-" ++ job ++ "-g" ++ digits ∧ job ≠ "" ∧
        (∀ c ∈ job.toList, isLineTerminator c = false) ∧ isGenerationText digits = true := by
  unfold matchRouteName
  constructor
  · intro h
    obtain ⟨rest, hrest, h⟩ := Option.bind_eq_some_iff.mp h
    have hname := stripPrefix_eq_some.mp hrest
    have hsplit := List.takeWhile_append_dropWhile (p := isAsciiDigit) (l := rest.toList.reverse)
    generalize rest.toList.reverse.takeWhile isAsciiDigit = tail at h hsplit
    split at h
    · next reversed hhead =>
        obtain ⟨⟨hne, hline, hdigits⟩, heq⟩ := Option.ite_none_right_eq_some.mp h
        obtain ⟨rfl, rfl⟩ := Prod.mk.inj (Option.some.inj heq)
        rw [hhead] at hsplit
        have hchars := congrArg List.reverse hsplit
        rw [List.reverse_reverse] at hchars
        refine ⟨?_, ?_, ?_, hdigits⟩
        · apply String.toList_inj.mp
          rw [hname, String.toList_append, ← hchars]
          simp
        · intro hempty
          have hnil := congrArg String.toList hempty
          rw [String.toList_ofList] at hnil
          exact hne (List.reverse_eq_nil_iff.mp hnil)
        · intro c hc
          rw [String.toList_ofList, List.mem_reverse] at hc
          exact Bool.not_eq_true' _ ▸ List.all_eq_true.mp hline c hc
    · cases h
  · rintro ⟨rfl, hne, hline, hdigits⟩
    have hstrip : stripPrefix ("youtick-" ++ job ++ "-g" ++ digits) "youtick-" =
        some (job ++ "-g" ++ digits) := by
      rw [stripPrefix_eq_some]
      simp only [String.append_assoc]
    have hall := (PaymentService.all_digits_of_isPositiveDecimal hdigits).2
    have hreversed : (job ++ "-g" ++ digits).toList.reverse =
        digits.toList.reverse ++ 'g' :: '-' :: job.toList.reverse := by
      simp [String.toList_append]
    have hdigit : ∀ c ∈ digits.toList.reverse, isAsciiDigit c = true := by
      intro c hc
      exact List.all_eq_true.mp hall c (List.mem_reverse.mp hc)
    have htake : (digits.toList.reverse ++ 'g' :: '-' :: job.toList.reverse).takeWhile
        isAsciiDigit = digits.toList.reverse := by
      rw [List.takeWhile_append_of_pos hdigit]
      exact List.append_nil _
    have hdrop : (digits.toList.reverse ++ 'g' :: '-' :: job.toList.reverse).dropWhile
        isAsciiDigit = 'g' :: '-' :: job.toList.reverse := by
      rw [List.dropWhile_append_of_pos hdigit]
      rfl
    rw [hstrip, Option.bind_eq_bind, Option.bind_some, hreversed, htake, hdrop]
    change (if job.toList.reverse ≠ [] ∧
        (job.toList.reverse.all fun c => !isLineTerminator c) = true ∧
        isGenerationText (String.ofList digits.toList.reverse.reverse) = true then
      some (String.ofList job.toList.reverse.reverse, String.ofList digits.toList.reverse.reverse)
      else none) = some (job, digits)
    rw [if_pos, List.reverse_reverse, String.ofList_toList, List.reverse_reverse,
      String.ofList_toList]
    refine ⟨?_, ?_, ?_⟩
    · intro hnil
      apply hne
      apply String.toList_inj.mp
      rw [List.reverse_eq_nil_iff.mp hnil]
      rfl
    · rw [List.all_eq_true]
      intro c hc
      rw [hline c (List.mem_reverse.mp hc)]
      rfl
    · rw [List.reverse_reverse, String.ofList_toList]
      exact hdigits

/-! ## The metadata read back -/

theorem not_mem_encode {c : Char} (hletter : Base64.sextet c = none) (hpadding : c ≠ '=')
    (bytes : Bytes) : c ∉ (Base64.encode bytes).toList := by
  intro hmem
  rcases Base64.mem_encode hmem with h | h
  · rw [hletter] at h
    cases h
  · exact hpadding h

theorem tusPair_metadataPair {entry : String × Option String} (hkey : ' ' ∉ entry.1.toList) :
    tusPair (metadataPair entry).toList = some entry := by
  obtain ⟨key, value⟩ := entry
  cases value with
  | none =>
    have hsplit : key.toList.splitOn ' ' = [key.toList] := by
      have hjoined : ([' '].intercalate [key.toList]).splitOn ' ' = [key.toList] :=
        List.splitOn_intercalate ' ' (by simpa using hkey) (by simp)
      simpa using hjoined
    rw [metadataPair, tusPair, hsplit]
    dsimp only
    rw [String.ofList_toList]
  | some text =>
    have htail : ' ' ∉ (Base64.encode (utf8 text)).toList :=
      not_mem_encode (by decide) (by decide) _
    have hsplit : (key ++ " " ++ Base64.encode (utf8 text)).toList.splitOn ' ' =
        [key.toList, (Base64.encode (utf8 text)).toList] := by
      have hjoined : ([' '].intercalate
          [key.toList, (Base64.encode (utf8 text)).toList]).splitOn ' ' =
          [key.toList, (Base64.encode (utf8 text)).toList] :=
        List.splitOn_intercalate ' ' (by simpa using ⟨hkey, htail⟩) (by simp)
      simpa [String.toList_append] using hjoined
    rw [metadataPair, tusPair, hsplit]
    dsimp only
    rw [String.ofList_toList, Base64.standardDecode_encode, String.ofList_toList]
    simp [decodeUtf8_utf8]

theorem mapM_tusPair {entries : List (String × Option String)}
    (hkeys : ∀ entry ∈ entries, ' ' ∉ entry.1.toList) :
    (entries.map fun entry => (metadataPair entry).toList).mapM tusPair = some entries := by
  induction entries with
  | nil => rfl
  | cons entry rest ih =>
    rw [List.map_cons, List.mapM_cons, tusPair_metadataPair (hkeys entry List.mem_cons_self),
      ih fun other hmem => hkeys other (List.mem_cons_of_mem _ hmem)]
    rfl

theorem tusMetadata_entries {entries : List (String × Option String)} (hne : entries ≠ [])
    (hkeys : ∀ entry ∈ entries, ' ' ∉ entry.1.toList ∧ ',' ∉ entry.1.toList) :
    tusMetadata (",".intercalate (entries.map metadataPair)) = some entries := by
  have hcomma : ∀ part ∈ entries.map fun entry => (metadataPair entry).toList, ',' ∉ part := by
    intro part hpart
    obtain ⟨⟨key, value⟩, hmem, rfl⟩ := List.mem_map.mp hpart
    have hkey := (hkeys _ hmem).2
    cases value with
    | none => exact hkey
    | some text =>
      have htail : ',' ∉ (Base64.encode (utf8 text)).toList :=
        not_mem_encode (by decide) (by decide) _
      simp only [metadataPair, String.toList_append, List.mem_append, not_or]
      exact ⟨⟨hkey, by decide⟩, htail⟩
  have hchars : (",".intercalate (entries.map metadataPair)).toList =
      [','].intercalate (entries.map fun entry => (metadataPair entry).toList) := by
    rw [String.toList_intercalate, List.map_map]
    rfl
  rw [tusMetadata, hchars, List.splitOn_intercalate ',' hcomma (by simpa using hne)]
  exact mapM_tusPair fun entry hmem => (hkeys entry hmem).1

theorem metadataEntries_keys (input : StreamUpload) (maxDurationSeconds : Nat)
    (expiry : Option String) : ∀ entry ∈ metadataEntries input maxDurationSeconds expiry,
      ' ' ∉ entry.1.toList ∧ ',' ∉ entry.1.toList := by
  have hkeys : ∀ key ∈ ["name", "requiresignedurls", "maxDurationSeconds", "expiry", "filename",
      "filetype", "jobid", "generation", "meta"], ' ' ∉ key.toList ∧ ',' ∉ key.toList := by
    decide
  intro entry hmem
  apply hkeys
  cases expiry with
  | none =>
    simp only [metadataEntries, List.append_nil, List.mem_append, List.mem_cons,
      List.not_mem_nil, or_false] at hmem
    rcases hmem with (rfl | rfl | rfl) | (rfl | rfl | rfl | rfl | rfl) <;> simp
  | some text =>
    simp only [metadataEntries, List.mem_append, List.mem_cons, List.not_mem_nil,
      or_false] at hmem
    rcases hmem with ((rfl | rfl | rfl) | rfl) | (rfl | rfl | rfl | rfl | rfl) <;> simp

/-! ## The shapes that agree -/

/-- A generation as a number or as its decimal text. -/
def NamesGeneration (value : Option JsValue) (generation : Nat) : Prop :=
  value = some (.number (decimal generation)) ∨
    value = some (.string (.ofString (decimal generation)))

theorem NamesGeneration.isSome {value : Option JsValue} {generation : Nat}
    (h : NamesGeneration value generation) : value.isSome = true := by
  rcases h with rfl | rfl
  · rfl
  · rfl

/-- The candidate has this route's job id and generation. -/
def RouteCandidate.Names (candidate : RouteCandidate) (route : WebhookRoute) : Prop :=
  candidate.jobId = some (.string (.ofString route.jobId)) ∧
    NamesGeneration candidate.generation route.generation

/-- A valid job id and a positive safe integer. -/
def WebhookRoute.Valid (isValidJobId : String → Bool) (route : WebhookRoute) : Prop :=
  isValidJobId route.jobId = true ∧ 1 ≤ route.generation ∧ route.generation < 2 ^ 53

section Agreed

variable {parse : String → Option JsValue} {isValidJobId : String → Bool}
  {candidate : RouteCandidate} {route : WebhookRoute}

theorem candidateGeneration_iff {value : Option JsValue} {generation : Nat} :
    candidateGeneration value = some generation ↔
      NamesGeneration value generation ∧ 1 ≤ generation ∧ generation < 2 ^ 53 := by
  constructor
  · intro h
    unfold candidateGeneration at h
    split at h
    · next text =>
        obtain ⟨rfl, hrange⟩ := safeGeneration_eq_some h
        exact ⟨.inl rfl, hrange⟩
    · next s =>
        obtain ⟨text, htext, hsafe⟩ := Option.bind_eq_some_iff.mp h
        obtain rfl := JsString.text?_eq_some.mp htext
        obtain ⟨rfl, hrange⟩ := safeGeneration_eq_some hsafe
        exact ⟨.inr rfl, hrange⟩
    · cases h
  · rintro ⟨rfl | rfl, hpos, hsafe⟩
    · exact safeGeneration_decimal hpos hsafe
    · rw [candidateGeneration, JsString.text?_ofString, Option.bind_some]
      exact safeGeneration_decimal hpos hsafe

theorem candidateRoute_iff : candidateRoute isValidJobId candidate = some route ↔
    candidate.Names route ∧ route.Valid isValidJobId := by
  constructor
  · intro h
    obtain ⟨jobId, hjob, h⟩ := Option.bind_eq_some_iff.mp h
    obtain ⟨s, hs, htext⟩ := Option.bind_eq_some_iff.mp hjob
    obtain ⟨value, hvalue, hstring⟩ := Option.bind_eq_some_iff.mp hs
    obtain ⟨generation, hgeneration, h⟩ := Option.bind_eq_some_iff.mp h
    obtain ⟨hvalid, heq⟩ := Option.ite_none_right_eq_some.mp h
    obtain rfl := Option.some.inj heq
    obtain ⟨hnames, hrange⟩ := candidateGeneration_iff.mp hgeneration
    obtain rfl := JsString.text?_eq_some.mp htext
    refine ⟨⟨?_, hnames⟩, hvalid, hrange⟩
    rw [hvalue]
    cases value with
    | string _ => exact congrArg (some ∘ JsValue.string) (Option.some.inj hstring)
    | null | bool _ | number _ | array _ | object _ => cases hstring
  · rintro ⟨⟨hjob, hnames⟩, hvalid, hrange⟩
    have hgeneration := candidateGeneration_iff.mpr ⟨hnames, hrange⟩
    rw [candidateRoute, hjob, hgeneration]
    have htext : ((some (JsValue.string (.ofString route.jobId))).bind JsValue.string?).bind
        JsString.text? = some route.jobId := JsString.text?_ofString _
    rw [htext]
    exact if_pos hvalid

/-- The loop ends with a route exactly when all candidates have it. -/
theorem agreedRoute_some_iff {first : WebhookRoute} {candidates : List RouteCandidate} :
    agreedRoute isValidJobId (some first) candidates = some route ↔
      first = route ∧
        ∀ candidate ∈ candidates, candidateRoute isValidJobId candidate = some route := by
  induction candidates generalizing first with
  | nil => simp [agreedRoute]
  | cons candidate rest ih =>
    rw [agreedRoute, List.forall_mem_cons]
    cases hnext : candidateRoute isValidJobId candidate with
    | none => simp
    | some next =>
      dsimp only
      by_cases hsame : first = next
      · subst hsame
        rw [if_neg (by simp), ih]
        constructor
        · rintro ⟨rfl, hrest⟩
          exact ⟨rfl, rfl, hrest⟩
        · rintro ⟨rfl, -, hrest⟩
          exact ⟨rfl, hrest⟩
      · rw [if_pos ⟨rfl, fun heq => hsame (Option.some.inj heq)⟩]
        constructor
        · intro h
          cases h
        · rintro ⟨rfl, heq, -⟩
          exact absurd (Option.some.inj heq).symm hsame

theorem agreedRoute_none_iff {candidates : List RouteCandidate} :
    agreedRoute isValidJobId none candidates = some route ↔ candidates ≠ [] ∧
      ∀ candidate ∈ candidates, candidate.Names route ∧ route.Valid isValidJobId := by
  simp only [← candidateRoute_iff]
  cases candidates with
  | nil => simp [agreedRoute]
  | cons candidate rest =>
    rw [agreedRoute, List.forall_mem_cons]
    cases hnext : candidateRoute isValidJobId candidate with
    | none => simp
    | some next =>
      dsimp only
      rw [if_neg (by simp), agreedRoute_some_iff, Option.some.injEq]
      exact ⟨fun h => ⟨List.cons_ne_nil _ _, h⟩, fun h => h.2⟩

end Agreed

/-! ## Round trip -/

/-- A text of the metadata as the value of a property. -/
def metadataText (metadata : List (String × Option String)) (key : String) : Option JsValue :=
  (metadata.lookup key).join.map fun text => .string (.ofString text)

inductive NestedForm where
  | text
  | value

/-- The shapes that landed in the `meta` of a video, the nested one as text or as its value. -/
structure RoutingShapes where
  plain : Bool
  nested : Option NestedForm
  name : Bool

/-- An object with these shapes of the metadata, and nothing else a route is read from. -/
structure RoutingShapes.Keeps (parse : String → Option JsValue) (shapes : RoutingShapes)
    (metadata : List (String × Option String)) (fields : List (JsString × JsValue)) : Prop where
  jobid : property fields "jobid" = if shapes.plain then metadataText metadata "jobid" else none
  others : property fields "jobId" = none ∧ property fields "job_id" = none
  generation : property fields "generation" =
    if shapes.plain then metadataText metadata "generation" else none
  nested : property fields "meta" = match shapes.nested with
    | none => none
    | some .text => metadataText metadata "meta"
    | some .value => (metadata.lookup "meta").join.bind parse
  name : property fields "name" = if shapes.name then metadataText metadata "name" else none

/-- Every shape of the object names the route, and there is one. -/
structure ShapesName (parse : String → Option JsValue) (fields : List (JsString × JsValue))
    (route : WebhookRoute) : Prop where
  plain : ∀ plainJob, coalesce (coalesce (property fields "jobid") (property fields "jobId"))
      (property fields "job_id") = plainJob →
    plainJob.isSome = true ∨ (property fields "generation").isSome = true →
    plainJob = some (.string (.ofString route.jobId)) ∧
      NamesGeneration (property fields "generation") route.generation
  nested : ∀ value, property fields "meta" = some value → ∃ object,
    nestedValue parse value = .object object ∧
      property object "jobId" = some (.string (.ofString route.jobId)) ∧
      NamesGeneration (property object "generation") route.generation
  name : ∀ s, property fields "name" = some (.string s) →
    s = .ofString (routeName route.jobId route.generation)
  present : (property fields "generation").isSome = true ∨
    (property fields "meta").isSome = true ∨ (property fields "name").isSome = true

section Routes

variable {parse : String → Option JsValue} {fields : List (JsString × JsValue)}

theorem metadata_lookups (input : StreamUpload) (maxDurationSeconds : Nat)
    (expiry : Option String) :
    let metadata := metadataEntries input maxDurationSeconds expiry
    (metadata.lookup "jobid").join = some input.jobId ∧
      (metadata.lookup "generation").join = some (decimal input.generation) ∧
      (metadata.lookup "meta").join =
        some (routeValue input.jobId input.generation).stringify ∧
      (metadata.lookup "name").join = some (routeName input.jobId input.generation) := by
  cases expiry with
  | none => exact ⟨rfl, rfl, rfl, rfl⟩
  | some text => exact ⟨rfl, rfl, rfl, rfl⟩

theorem lineTerminator_of_jobChar {c : Char}
    (h : (isAsciiAlphanumeric c || ['.', '_', ':', '-'].contains c) = true) :
    isLineTerminator c = false := by
  by_contra hline
  rw [Bool.not_eq_false] at hline
  simp only [isLineTerminator, Bool.or_eq_true, beq_iff_eq] at hline
  have hchar : c = '\n' ∨ c = '\r' ∨ c = Char.ofNat 0x2028 ∨ c = Char.ofNat 0x2029 := by
    rcases hline with ((hline | hline) | hline) | hline
    · exact .inl hline
    · exact .inr (.inl hline)
    · exact .inr (.inr (.inl (by rw [← hline, Char.ofNat_toNat])))
    · exact .inr (.inr (.inr (by rw [← hline, Char.ofNat_toNat])))
  rcases hchar with rfl | rfl | rfl | rfl
  all_goals exact absurd h (by decide)

theorem isJobId_chars {jobId : String} (h : isJobId jobId = true) :
    jobId ≠ "" ∧ ∀ c ∈ jobId.toList, isLineTerminator c = false := by
  simp only [isJobId, Bool.and_eq_true, List.all_eq_true] at h
  obtain ⟨⟨hlength, -⟩, hchars⟩ := h
  constructor
  · rintro rfl
    cases hlength
  · intro c hc
    exact lineTerminator_of_jobChar (hchars c hc)

section Kept

variable {shapes : RoutingShapes} {input : StreamUpload} {maxDurationSeconds : Nat}
  {expiry : Option String} {candidate : RouteCandidate}

theorem plainCandidate_names
    (hkeeps : shapes.Keeps parse (metadataEntries input maxDurationSeconds expiry) fields)
    (hmem : candidate ∈ plainCandidate fields) :
    candidate.Names ⟨input.jobId, input.generation⟩ := by
  obtain ⟨hjobid, hgeneration, -, -⟩ := metadata_lookups input maxDurationSeconds expiry
  rw [plainCandidate, hkeeps.jobid, hkeeps.others.1, hkeeps.others.2, hkeeps.generation,
    metadataText, metadataText, hjobid, hgeneration] at hmem
  cases hplain : shapes.plain with
  | true =>
    simp only [hplain, if_true, Option.map_some, coalesce, Option.isSome_some, true_or,
      List.mem_singleton] at hmem
    rw [hmem]
    exact ⟨rfl, .inr rfl⟩
  | false =>
    simp [hplain, coalesce] at hmem

theorem routeValue_fields (jobId : String) (generation : Nat) : ∃ object,
    routeValue jobId generation = .object object ∧
      property object "jobId" = some (.string (.ofString jobId)) ∧
      property object "generation" = some (.number (decimal generation)) :=
  ⟨_, rfl, rfl, rfl⟩

theorem nestedCandidate_names
    (hparse : parse (routeValue input.jobId input.generation).stringify =
      some (routeValue input.jobId input.generation))
    (hkeeps : shapes.Keeps parse (metadataEntries input maxDurationSeconds expiry) fields)
    (hmem : candidate ∈ nestedCandidate parse fields) :
    candidate.Names ⟨input.jobId, input.generation⟩ := by
  obtain ⟨-, -, hmeta, -⟩ := metadata_lookups input maxDurationSeconds expiry
  obtain ⟨object, hvalue, hjob, hgeneration⟩ := routeValue_fields input.jobId input.generation
  -- As text or as its value, the property is the route's object.
  have hnested : property fields "meta" = none ∨ ∃ value, property fields "meta" = some value ∧
      nestedValue parse value = .object object := by
    have hproperty := hkeeps.nested
    cases hform : shapes.nested with
    | none =>
      rw [hform] at hproperty
      exact .inl hproperty
    | some form =>
      rw [hform] at hproperty
      cases form with
      | text =>
        dsimp only at hproperty
        rw [metadataText, hmeta, Option.map_some] at hproperty
        refine .inr ⟨_, hproperty, ?_⟩
        rw [nestedValue, JsString.text?_ofString, Option.bind_some, hparse, hvalue]
        rfl
      | value =>
        dsimp only at hproperty
        rw [hmeta, Option.bind_some, hparse, hvalue] at hproperty
        exact .inr ⟨_, hproperty, rfl⟩
  unfold nestedCandidate at hmem
  rcases hnested with hnone | ⟨value, hproperty, hobject⟩
  · rw [hnone] at hmem
    cases hmem
  · rw [hproperty] at hmem
    dsimp only at hmem
    rw [hobject] at hmem
    obtain rfl := List.mem_singleton.mp hmem
    exact ⟨hjob, .inl hgeneration⟩

theorem nameCandidate_names (hjobId : isJobId input.jobId = true) (hpos : 1 ≤ input.generation)
    (hsafe : input.generation < 2 ^ 53)
    (hkeeps : shapes.Keeps parse (metadataEntries input maxDurationSeconds expiry) fields)
    (hmem : candidate ∈ nameCandidate fields) :
    candidate.Names ⟨input.jobId, input.generation⟩ := by
  obtain ⟨-, -, -, hname⟩ := metadata_lookups input maxDurationSeconds expiry
  obtain ⟨hne, hline⟩ := isJobId_chars hjobId
  have hmatch : matchRouteName (routeName input.jobId input.generation) =
      some (input.jobId, decimal input.generation) :=
    matchRouteName_iff.mpr ⟨rfl, hne, hline,
      PaymentService.isPositiveDecimal_decimal hpos (hsafe.trans (by decide))⟩
  rw [nameCandidate, hkeeps.name, metadataText, hname] at hmem
  cases hkept : shapes.name with
  | true =>
    simp only [hkept, if_true, Option.map_some, JsString.text?_ofString, Option.bind_some,
      hmatch, List.mem_singleton] at hmem
    rw [hmem]
    exact ⟨rfl, .inr rfl⟩
  | false =>
    simp [hkept] at hmem

/-- A kept shape is a candidate. -/
theorem candidates_ne_nil
    (hparse : parse (routeValue input.jobId input.generation).stringify =
      some (routeValue input.jobId input.generation))
    (hkeeps : shapes.Keeps parse (metadataEntries input maxDurationSeconds expiry) fields)
    (hany : shapes.plain = true ∨ shapes.nested.isSome = true ∨ shapes.name = true) :
    plainCandidate fields ++ nestedCandidate parse fields ++ nameCandidate fields ≠ [] := by
  obtain ⟨hjobid, hgeneration, hmeta, hname⟩ :=
    metadata_lookups input maxDurationSeconds expiry
  rw [ne_eq, List.append_eq_nil_iff, List.append_eq_nil_iff]
  rintro ⟨⟨hplain, hnested⟩, hnames⟩
  rcases hany with hkept | hkept | hkept
  · have hproperty := hkeeps.generation
    rw [hkept, if_pos rfl, metadataText, hgeneration, Option.map_some] at hproperty
    simp [plainCandidate, hproperty] at hplain
  · obtain ⟨form, hform⟩ := Option.isSome_iff_exists.mp hkept
    have hproperty := hkeeps.nested
    rw [hform] at hproperty
    cases form with
    | text =>
      dsimp only at hproperty
      rw [metadataText, hmeta, Option.map_some] at hproperty
      simp [nestedCandidate, hproperty] at hnested
    | value =>
      dsimp only at hproperty
      rw [hmeta, Option.bind_some, hparse] at hproperty
      simp [nestedCandidate, hproperty] at hnested
  · have hproperty := hkeeps.name
    rw [hkept, if_pos rfl, metadataText, hname, Option.map_some] at hproperty
    unfold nameCandidate at hnames
    rw [hproperty] at hnames
    dsimp only at hnames
    split at hnames
    · cases hnames
    · cases hnames

end Kept

/-- Where there is a route, every shape names it. -/
theorem shapesName_of_route {isValidJobId : String → Bool} {route : WebhookRoute}
    (h : streamWebhookRoute parse isValidJobId fields = some route) :
    ShapesName parse fields route ∧ route.Valid isValidJobId := by
  obtain ⟨hne, hall⟩ := agreedRoute_none_iff.mp h
  have hplain : ∀ candidate ∈ plainCandidate fields, candidate.Names route := fun candidate hmem =>
    (hall candidate (List.mem_append_left _ (List.mem_append_left _ hmem))).1
  have hnested : ∀ candidate ∈ nestedCandidate parse fields, candidate.Names route :=
    fun candidate hmem =>
      (hall candidate (List.mem_append_left _ (List.mem_append_right _ hmem))).1
  have hname : ∀ candidate ∈ nameCandidate fields, candidate.Names route := fun candidate hmem =>
    (hall candidate (List.mem_append_right _ hmem)).1
  have hvalid : route.Valid isValidJobId := by
    obtain ⟨candidate, hmem⟩ := List.exists_mem_of_ne_nil _ hne
    exact (hall candidate hmem).2
  refine ⟨⟨?_, ?_, ?_, ?_⟩, hvalid⟩
  · rintro plainJob rfl hpresent
    exact hplain _ (by rw [plainCandidate, if_pos hpresent]; exact List.mem_singleton_self _)
  · intro value hproperty
    have hnames := hnested _ (by
      rw [nestedCandidate, hproperty]
      exact List.mem_singleton_self _)
    obtain ⟨hjob, hgeneration⟩ := hnames
    cases hvalue : nestedValue parse value with
    | object object =>
      rw [hvalue] at hjob hgeneration
      exact ⟨object, rfl, hjob, hgeneration⟩
    | null | bool _ | number _ | string _ | array _ =>
      rw [hvalue] at hjob
      cases hjob
  · intro s hproperty
    unfold nameCandidate at hname
    rw [hproperty] at hname
    dsimp only at hname
    cases hmatch : s.text?.bind matchRouteName with
    | none =>
      rw [hmatch] at hname
      cases (hname _ (List.mem_singleton_self _)).1
    | some groups =>
      obtain ⟨job, digits⟩ := groups
      rw [hmatch] at hname
      obtain ⟨hjob, hdigits⟩ := hname _ (List.mem_singleton_self _)
      obtain ⟨text, htext, hgroups⟩ := Option.bind_eq_some_iff.mp hmatch
      obtain ⟨rfl, -, -, -⟩ := matchRouteName_iff.mp hgroups
      obtain rfl := JsString.text?_eq_some.mp htext
      have hsame : job = route.jobId :=
        JsString.ofString_injective (JsValue.string.inj (Option.some.inj hjob))
      have hgeneration : digits = decimal route.generation := by
        rcases hdigits with hnumber | hstring
        · cases hnumber
        · exact JsString.ofString_injective (JsValue.string.inj (Option.some.inj hstring))
      rw [hsame, hgeneration]
      rfl
  · obtain ⟨candidate, hmem⟩ := List.exists_mem_of_ne_nil _ hne
    rcases List.mem_append.mp hmem with hmem | hmem
    · rcases List.mem_append.mp hmem with hmem | hmem
      · left
        have hnames := (hplain candidate hmem).2
        dsimp only [plainCandidate] at hmem
        split at hmem
        · rw [List.mem_singleton.mp hmem] at hnames
          exact hnames.isSome
        · cases hmem
      · right; left
        unfold nestedCandidate at hmem
        split at hmem
        · cases hmem
        · next hproperty =>
            rw [hproperty]
            rfl
    · right; right
      unfold nameCandidate at hmem
      split at hmem
      · next hproperty =>
          rw [hproperty]
          rfl
      · cases hmem

end Routes

/-- The metadata of an upload gives its route back in any of the shapes, and every shape of an
object with a route names that route. -/
theorem stream_route_round_trip {parse : String → Option JsValue}
    (hparse : ∀ jobId generation, generation < 2 ^ 53 →
      parse (routeValue jobId generation).stringify = some (routeValue jobId generation)) :
    (∀ input maxDurationSeconds header, isJobId input.jobId = true → 1 ≤ input.generation →
      input.generation < 2 ^ 53 → streamUploadMetadata input maxDurationSeconds = .ok header →
      ∃ metadata, tusMetadata header = some metadata ∧
        ∀ (shapes : RoutingShapes) fields,
          shapes.plain = true ∨ shapes.nested.isSome = true ∨ shapes.name = true →
          shapes.Keeps parse metadata fields →
          streamWebhookRoute parse isJobId fields = some ⟨input.jobId, input.generation⟩) ∧
    ∀ isValidJobId fields route, streamWebhookRoute parse isValidJobId fields = some route →
      ShapesName parse fields route ∧ route.Valid isValidJobId := by
  constructor
  · intro input maxDurationSeconds header hjob hpos hsafe hheader
    obtain ⟨expiry, -, hheader⟩ := bind_eq_ok.mp hheader
    obtain rfl := Except.ok.inj hheader
    refine ⟨metadataEntries input maxDurationSeconds expiry, ?_, ?_⟩
    · apply tusMetadata_entries
      · simp [metadataEntries]
      · exact metadataEntries_keys input maxDurationSeconds expiry
    · intro shapes fields hany hkeeps
      have hvalue := hparse input.jobId input.generation hsafe
      refine agreedRoute_none_iff.mpr ⟨candidates_ne_nil hvalue hkeeps hany, ?_⟩
      intro candidate hmem
      refine ⟨?_, hjob, hpos, hsafe⟩
      rcases List.mem_append.mp hmem with hmem | hmem
      · rcases List.mem_append.mp hmem with hmem | hmem
        · exact plainCandidate_names hkeeps hmem
        · exact nestedCandidate_names hvalue hkeeps hmem
      · exact nameCandidate_names hjob hpos hsafe hkeeps hmem
  · intro isValidJobId fields route h
    exact shapesName_of_route h

/-! ## An upload -/

namespace Vectors

theorem routeValue_spelled (jobId : String) (generation : Nat) :
    (routeValue jobId generation).Spelled :=
  ⟨trivial, JsValue.spelled_decimal generation, trivial⟩

def streamUpload : StreamUpload where
  jobId := "job-g2"
  generation := 1
  sourceType := .mov
  uploadExpiresAtMs := some 1792672200000

/-- A `meta` with the JSON text and the name. -/
def streamMeta : List (JsString × JsValue) :=
  [(.ofString "meta", .string (.ofString (routeValue "job-g2" 1).stringify)),
    (.ofString "name", .string (.ofString "youtick-job-g2-g1"))]

example : toISOString 1792672200000 = .ok "2026-10-22T12:30:00.000Z" := by decide +kernel

end Vectors

/-- The JSON text and the name give the route of a job whose id ends like a generation. -/
theorem stream_route_of_meta :
    streamWebhookRoute JsValue.readBack isJobId Vectors.streamMeta = some ⟨"job-g2", 1⟩ := by
  have hheader : ∃ header, streamUploadMetadata Vectors.streamUpload 7200 = .ok header ∧
      tusMetadata header = some (metadataEntries Vectors.streamUpload 7200
        (some "2026-10-22T12:30:00.000Z")) := by
    refine ⟨_, rfl, ?_⟩
    apply tusMetadata_entries
    · simp [metadataEntries]
    · exact metadataEntries_keys _ _ _
  obtain ⟨header, hheader, hdecoded⟩ := hheader
  have hparse : ∀ jobId generation, generation < 2 ^ 53 →
      JsValue.readBack (routeValue jobId generation).stringify =
        some (routeValue jobId generation) := fun jobId generation _ =>
    JsValue.readBack_stringify (Vectors.routeValue_spelled jobId generation)
  obtain ⟨metadata, hmetadata, hroute⟩ := (stream_route_round_trip hparse).1 Vectors.streamUpload
    7200 header (by decide) (by decide) (by decide) hheader
  obtain rfl := Option.some.inj (hmetadata.symm.trans hdecoded)
  refine hroute ⟨false, some .text, true⟩ Vectors.streamMeta (.inr (.inr rfl)) ?_
  exact ⟨rfl, ⟨rfl, rfl⟩, rfl, rfl, rfl⟩

end Youtick.Bridge
