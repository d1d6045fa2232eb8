import Mathlib.Data.String.Basic
import Youtick.Lib.Base64
import Youtick.Lib.Keyset
import Youtick.ReadModel.Catalog

/-!
# Read model: the catalogue API

`currentCatalogResponse`: the pages and single rows of the stored catalogue. A page comes with a
cursor when rows are left over: the filter, the revision, and the place of its last row, as JSON in
the URL alphabet of base64.

`readJson` is `JSON.parse` of the text `TextDecoder` makes of the bytes.
-/

set_option autoImplicit false

namespace Youtick.ReadModel

open Youtick.Lib Youtick.PaymentService Youtick.Relayer

/-! ## Requests and replies -/

/-- The path of a request, with the segment that `decodeURIComponent` makes of the variable part,
where it makes one. -/
inductive CatalogPath where
  | publications
  | creator (segment : Option String)
  | publication (segment : Option String)
  | other

/-- The parameters of the query. -/
structure CatalogQuery where
  limit : Option String
  cursor : Option String

/-- What every reply says of the catalogue it was made from. -/
structure CatalogMetadata where
  network : String
  contractId : String
  catalog : CatalogState
  servedAtMs : Nat
  freshness : String

inductive CatalogReply where
  | page (metadata : CatalogMetadata) (creatorId : Option String) (items : List Publication)
      (nextCursor : Option String)
  | publication (metadata : CatalogMetadata) (row : Publication)
  | notFound

def invalidRequest : String := "invalid_read_model_request"

def catalogUnavailable : String := "catalog_unavailable"

def catalogChanged : String := "catalog_changed"

def invalidCursor : String := "invalid_cursor"

/-- `^[1-9][0-9]?$`, at most 50; 20 when there is none. -/
def parseLimit : Option String → Result Nat
  | none => .ok 20
  | some text => do
      require (isPositiveDecimal 1 text = true ∧ digitsValue text.toList ≤ 50) invalidRequest
      return digitsValue text.toList

/-- `ID_PATTERN`: `^[A-Za-z0-9._:-]{1,192}$` -/
def isIdText (text : String) : Bool := isWord MarketV2.isIdentifierChar 1 192 text

/-- `pathPart` -/
def pathPart (segment : Option String) (pattern : String → Bool) : Result String := do
  let decoded ← expect segment invalidRequest
  require (pattern decoded = true) invalidRequest
  return decoded

/-! ## Cursors -/

/-- Where the next page goes on: below the row of this time and identifier, in this revision. -/
structure CatalogCursor where
  revision : String
  time : Nat
  id : String

def creatorValue : Option String → JsValue
  | none => .null
  | some account => .string (.ofString account)

/-- `[2, network, contract, creator]` -/
def scopeValue (scope : Scope) (creator : Option String) : JsValue :=
  .array [.number "2", .string (.ofString scope.network), .string (.ofString scope.contractId),
    creatorValue creator]

/-- `{ scope, revision, time, id }` -/
def cursorValue (scope : Scope) (creator : Option String) (cursor : CatalogCursor) : JsValue :=
  .object [(.ofString "scope", scopeValue scope creator),
    (.ofString "revision", .string (.ofString cursor.revision)),
    (.ofString "time", .number (decimal cursor.time)),
    (.ofString "id", .string (.ofString cursor.id))]

/-- `btoa` and the replacements after it: one byte a character, and none beyond Latin-1. -/
def encodeCursor (value : JsValue) : Result String := do
  let text := value.stringify
  require (text.toList.all (fun c => decide (c.toNat < 256)) = true) "InvalidCharacterError"
  return Base64.urlEncode (text.toList.map fun c => UInt8.ofNat c.toNat)

/-- The text a regular expression without a match for a comma sees of a value, where it can match:
an array of one value is converted to that value's text. -/
def matchText : JsValue → Option String
  | .string s => s.text?
  | .array [item] => matchText item
  | _ => none

/-- What a cursor's object says, for this filter; its revision is no string when it is in an
array. -/
def cursorFields (scope : Scope) (creator : Option String) (fields : List (JsString × JsValue)) :
    Result (Option String × Nat × String) := do
  let stored ← expect (property fields "scope") invalidCursor
  require (stored.stringify = (scopeValue scope creator).stringify) invalidCursor
  let revision ← expect (property fields "revision") invalidCursor
  require ((matchText revision).any (isHexText 64) = true) invalidCursor
  let time ← expect ((property fields "time").bind safeInteger) invalidCursor
  require (1 ≤ time) invalidCursor
  let id ← expect ((property fields "id").bind (matchedText · isIdText)) invalidCursor
  return (revision.string?.bind JsString.text?, time, id)

section Api

variable (readJson : Bytes → Option JsValue)

/-- The cursor of a query. -/
def parseCatalogCursor (scope : Scope) (creator : Option String) (encoded : String) :
    Result (Option String × Nat × String) := do
  require (encoded.toList.length ≤ 1024 ∧ isUrlWord 1 1024 encoded = true) invalidCursor
  let bytes ← expect (Base64.urlDecode encoded) invalidCursor
  let value ← expect (readJson bytes) invalidCursor
  let fields ← expect value.fields? invalidCursor
  cursorFields scope creator fields

/-- The place of a query's cursor; a cursor of another revision is refused. -/
def cursorPlace (scope : Scope) (creator : Option String) (revision : String) :
    Option String → Result (Option (Nat × String))
  | none => .ok none
  | some encoded => do
      let (found, place) ← parseCatalogCursor readJson scope creator encoded
      require (found = some revision) catalogChanged
      return some place

/-! ## Rows -/

/-- The rows of a scope, `ORDER BY publication_id`. -/
def storedRows (tables : CatalogTables) : List Publication :=
  (keysInOrder tables.publications.keys).filterMap tables.publications.get

/-- One creator's rows, or all active ones. -/
def matchesFilter (creator : Option String) (row : Publication) : Bool :=
  match creator with
  | none => decide (row.availability = .active)
  | some account => decide (row.creatorId = account)

/-- A row as its place. -/
def Publication.place (row : Publication) : Nat × String := (row.publishedAtMs, row.publicationId)

/-- Published later than the place, or at the same time with a larger identifier. -/
def beyond (place : Nat × String) (row : Publication) : Bool :=
  decide (row.publishedAtMs < place.1) ||
    (decide (row.publishedAtMs = place.1) && decide (row.publicationId < place.2))

/-- The comparator of the sort: `a` does not come after `b`. -/
def newerFirst (a b : Publication) : Bool :=
  decide (b.publishedAtMs < a.publishedAtMs) ||
    (decide (b.publishedAtMs = a.publishedAtMs) && decide (b.publicationId ≤ a.publicationId))

/-- The rows of a filter in the order of the pages. -/
def orderedRows (creator : Option String) (rows : List Publication) : List Publication :=
  (rows.filter (matchesFilter creator)).mergeSort newerFirst

/-! ## The response -/

/-- The catalogue as it may be served: not older than three minutes, and not from the future. -/
def readyCatalog (tables : CatalogTables) (nowMs : Nat) : Result CatalogState := do
  let state ← expect tables.state catalogUnavailable
  require (nowMs ≤ state.sourceBlockTimestampMs + 180000 ∧
    state.sourceBlockTimestampMs ≤ nowMs + 5000 ∧ state.sourceBlockTimestampMs ≤ maxSafe ∧
    (storedRows tables).length = state.publicationCount) catalogUnavailable
  return state

/-- The creator a path is filtered by. -/
def pathCreator : CatalogPath → Result (Option String)
  | .creator segment => do
      let account ← pathPart segment isAccountText
      return some account
  | _ => .ok none

def pathId : CatalogPath → Result (Option String)
  | .publication segment => do
      let id ← pathPart segment isIdText
      return some id
  | _ => .ok none

/-- The cursor after a page, when rows are left over. -/
def nextCursor (scope : Scope) (creator : Option String) (revision : String) (more : Bool) :
    Option Publication → Result (Option String)
  | some last =>
    if more = true then do
      let encoded ← encodeCursor
        (cursorValue scope creator ⟨revision, last.publishedAtMs, last.publicationId⟩)
      return some encoded
    else .ok none
  | none => .ok none

/-- The page of a filter below the cursor's place. -/
def catalogPage (scope : Scope) (metadata : CatalogMetadata) (creator : Option String) (limit : Nat)
    (place : Option (Nat × String)) (rows : List Publication) : Result CatalogReply := do
  let left := (orderedRows creator rows).filter fun row => place.all fun last => beyond last row
  let items := left.take limit
  let next ← nextCursor scope creator metadata.catalog.contentRevision
    (decide (limit < left.length)) items.getLast?
  return .page metadata creator items next

/-- `currentCatalogResponse`, with the rows and the time it reads. -/
def currentCatalogResponse (env : CatalogEnv) (path : CatalogPath) (query : CatalogQuery)
    (tables : CatalogTables) (nowMs : Nat) : Result CatalogReply := do
  require (currentCatalogEnabled env = true) catalogUnavailable
  match path with
  | .other => return .notFound
  | _ =>
    let creator ← pathCreator path
    let id ← pathId path
    let limit ← parseLimit query.limit
    let state ← readyCatalog tables nowMs
    let scope : Scope := ⟨env.readModelNetwork, env.readModelContractId⟩
    let metadata : CatalogMetadata :=
      { network := env.readModelNetwork
        contractId := env.readModelContractId
        catalog := state
        servedAtMs := nowMs
        freshness := if state.sourceBlockTimestampMs + 90000 < nowMs then "stale" else "fresh" }
    match id with
    | some id =>
      match (storedRows tables).find? fun row => decide (row.publicationId = id) with
      | some row => return .publication metadata row
      | none => return .notFound
    | none =>
      let place ← cursorPlace readJson scope creator state.contentRevision query.cursor
      catalogPage scope metadata creator limit place (storedRows tables)

end Api

end Youtick.ReadModel
