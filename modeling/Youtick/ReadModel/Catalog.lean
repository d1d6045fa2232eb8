import Youtick.Lib.Handlers
import Youtick.Lib.LookupMap
import Youtick.Lib.Panic
import Youtick.ReadModel.Values

/-!
# Read model: the current catalogue

`refreshCurrentCatalog`: a refresh reads the publications of one final block from the contract,
checks them, reads the stored head and rows, compares, and commits one batch whose first statement
fails unless the head is still the one it read. A refresh is given with what the network answers it;
the database is the shared state, by network and contract.

A batch is atomic: the first statement that fails aborts all of it.
-/

set_option autoImplicit false

namespace Youtick.ReadModel

open Youtick.Lib Youtick.PaymentService Youtick.Relayer

/-! ## Publications -/

inductive Availability where
  | active
  | salesSuspended
  | takedown
  deriving DecidableEq

namespace Availability

/-- The index in `STATES`. -/
def rank : Availability → Nat
  | active => 0
  | salesSuspended => 1
  | takedown => 2

def text : Availability → String
  | active => "ACTIVE"
  | salesSuspended => "SALES_SUSPENDED"
  | takedown => "TAKEDOWN"

def ofText (value : String) : Option Availability :=
  if value = "ACTIVE" then some active
  else if value = "SALES_SUSPENDED" then some salesSuspended
  else if value = "TAKEDOWN" then some takedown
  else none

theorem text_injective {a b : Availability} (h : a.text = b.text) : a = b := by
  cases a <;> cases b <;> first | rfl | exact absurd h (by decide)

end Availability

/-- A row of `current_publications`, less its scope. -/
structure Publication where
  publicationId : String
  creatorId : String
  title : JsString
  priceUsdc : String
  generation : Nat
  playbackId : String
  availability : Availability
  publishedAtMs : Nat
  deriving DecidableEq

namespace Publication

/-- The row as `JSON.stringify` sees it. -/
def toJson (row : Publication) : JsValue :=
  .object [
    (.ofString "publication_id", .string (.ofString row.publicationId)),
    (.ofString "creator_id", .string (.ofString row.creatorId)),
    (.ofString "title", .string row.title),
    (.ofString "price_usdc", .string (.ofString row.priceUsdc)),
    (.ofString "generation", .number (decimal row.generation)),
    (.ofString "playback_id", .string (.ofString row.playbackId)),
    (.ofString "availability", .string (.ofString row.availability.text)),
    (.ofString "published_at_ms", .number (decimal row.publishedAtMs))]

/-- The fields that no later snapshot may change agree. -/
def SameIdentity (row old : Publication) : Prop :=
  row.publicationId = old.publicationId ∧ row.creatorId = old.creatorId ∧ row.title = old.title ∧
    row.priceUsdc = old.priceUsdc ∧ row.playbackId = old.playbackId ∧
    row.publishedAtMs = old.publishedAtMs

instance (row old : Publication) : Decidable (row.SameIdentity old) := by
  unfold SameIdentity
  infer_instance

/-- A later version of a row: the same publication, with no lower generation and no availability
that comes earlier in `STATES`. -/
def Later (row old : Publication) : Prop :=
  row.SameIdentity old ∧ old.generation ≤ row.generation ∧
    old.availability.rank ≤ row.availability.rank

end Publication

def minimumPriceUsdc : Nat := 2000000

/-- `new TextEncoder().encode(value.title).byteLength > 200` is refused. -/
def maxTitleBytes : Nat := 200

/-- `normalizePublication` -/
def normalizePublication (value : JsValue) : Result Publication := do
  let invalid := "invalid_d1_bootstrap_publication"
  let fields ← expect value.fields? invalid
  let publicationId ← expect
    ((property fields "publication_id").bind (matchedText · (isWord MarketV2.isIdentifierChar 1 128)))
    invalid
  let creatorId ← expect ((property fields "creator_id").bind (matchedText · isAccountText)) invalid
  let title ← expect ((property fields "title").bind JsValue.string?) invalid
  require (title.isBlank = false ∧ title.byteLength ≤ maxTitleBytes) invalid
  let priceUsdc ← expect
    ((property fields "price_usdc").bind (matchedText · (isPositiveDecimal 38))) invalid
  require (minimumPriceUsdc ≤ digitsValue priceUsdc.toList) invalid
  let generation ← expect ((property fields "generation").bind safeInteger) invalid
  require (1 ≤ generation) invalid
  let playbackId ← expect
    ((property fields "playback_id").bind (matchedText · (isUrlWord 6 128))) invalid
  let state ← expect ((property fields "availability").bind (matchedText · fun _ => true)) invalid
  let availability ← expect (Availability.ofText state) invalid
  let publishedAtMs ← expect ((property fields "published_at_ms").bind safeInteger) invalid
  require (1 ≤ publishedAtMs) invalid
  return {
    publicationId := publicationId
    creatorId := creatorId
    title := title
    priceUsdc := priceUsdc
    generation := generation
    playbackId := playbackId
    availability := availability
    publishedAtMs := publishedAtMs }

/-! ## Snapshots -/

/-- The network and contract a row belongs to. -/
structure Scope where
  network : String
  contractId : String
  deriving DecidableEq

def currentCatalogQueryBudget : Nat := 100

def fixedCatalogQueries : Nat := 5

def maxCurrentCatalogPublications : Nat := currentCatalogQueryBudget - fixedCatalogQueries

def publicationPageSize : Nat := 48

/-- What the refresh reads from the header of the block it asked for. -/
structure BlockHeader where
  height : JsValue
  hash : JsValue
  timestampNanosec : JsValue

/-- The answer of one view call: the block it was made at and the value it returned. -/
structure ViewAnswer where
  blockHeight : Nat
  blockHash : String
  value : JsValue

/-- The configuration of the worker. -/
structure CatalogEnv where
  currentCatalogEnabled : String
  readModelEnabled : String
  videoEnvironment : String
  readModelNetwork : String
  readModelContractId : String
  marketContractId : String
  marketReadModel : Bool

/-- One run of `refreshCurrentCatalog`: its configuration, the answers of the RPC node in order, and
the clock when they have arrived and when the snapshot is applied. -/
structure Refresh where
  env : CatalogEnv
  block : BlockHeader
  count : ViewAnswer
  pages : List ViewAnswer
  fetchedAtMs : Nat
  checkedAtMs : Nat

/-- A verified snapshot. -/
structure Snapshot where
  scope : Scope
  blockHeight : Nat
  blockHash : String
  publications : List Publication
  sourceBlockTimestampMs : Nat
  contentRevision : String

/-- `currentCatalogEnabled` -/
def currentCatalogEnabled (env : CatalogEnv) : Bool :=
  env.currentCatalogEnabled == "true" && env.readModelEnabled == "true" &&
    env.videoEnvironment == "public-testnet" && env.readModelNetwork == "testnet" &&
    env.readModelContractId == env.marketContractId && isAccountText env.marketContractId &&
    endsWith env.marketContractId ".testnet" && env.marketReadModel

/-- The value of a view answer made at the block the refresh is about. -/
def viewValue (height : Nat) (hash : String) (answer : ViewAnswer) : Result JsValue := do
  require (answer.blockHeight = height ∧ answer.blockHash = hash) "catalog_block_mismatch"
  return answer.value

/-- The pages of `remaining` publications. -/
def fetchPages (height : Nat) (hash : String) : Nat → List ViewAnswer → Result (List JsValue)
  | 0, _ => .ok []
  | _ + 1, [] => .error "near_rpc_unavailable"
  | remaining + 1, answer :: answers => do
      let limit := min publicationPageSize (remaining + 1)
      match ← viewValue height hash answer with
      | .array page =>
        require (page.length = limit) "invalid_near_publication_page"
        let rest ← fetchPages height hash (remaining + 1 - limit) answers
        return page ++ rest
      | _ => .error "invalid_near_publication_page"

/-- `a.publication_id < b.publication_id`, for identifiers all of whose characters are ASCII. -/
def publicationOrder (a b : Publication) : Bool := decide (a.publicationId ≤ b.publicationId)

/-- The text a snapshot's revision is the digest of. -/
def catalogText (publications : List Publication) : String :=
  (JsValue.array (publications.map Publication.toJson)).stringify

/-- The hex digest of the snapshot's JSON text. -/
def contentRevision (sha256 : Bytes → Bytes) (publications : List Publication) : String :=
  hex (sha256 (utf8 (catalogText publications)))

/-- `fetchFinalMarketPublications` and `fetchCurrentCatalog` -/
def fetchCurrentCatalog (sha256 : Bytes → Bytes) (refresh : Refresh) : Result Snapshot := do
  let scope : Scope := ⟨refresh.env.readModelNetwork, refresh.env.readModelContractId⟩
  let height ← expect (safeInteger refresh.block.height) "invalid_near_final_block"
  require (1 ≤ height) "invalid_near_final_block"
  let hash ← expect (matchedText refresh.block.hash isHashText) "invalid_near_final_block"
  let counted ← viewValue height hash refresh.count
  let count ← expect (safeInteger counted) "invalid_near_publication_count"
  require (count ≤ maxCurrentCatalogPublications) "catalog_capacity_exceeded"
  let values ← fetchPages height hash count refresh.pages
  let publications ← values.mapM normalizePublication
  require ((publications.map (·.publicationId)).Nodup ∧ (publications.map (·.playbackId)).Nodup)
    "duplicate_d1_bootstrap_publication"
  let nanosec ← expect (matchedText refresh.block.timestampNanosec (isPositiveDecimal 29))
    "catalog_timestamp_invalid"
  let timestamp := digitsValue nanosec.toList / 1000000
  require (timestamp ≤ maxSafe ∧ 0 < timestamp ∧ timestamp ≤ refresh.fetchedAtMs + 5000)
    "catalog_timestamp_invalid"
  require (∀ row ∈ publications, row.publishedAtMs ≤ timestamp) "catalog_timestamp_invalid"
  let publications := publications.mergeSort publicationOrder
  return {
    scope := scope
    blockHeight := height
    blockHash := hash
    publications := publications
    sourceBlockTimestampMs := timestamp
    contentRevision := contentRevision sha256 publications }

/-! ## The database -/

/-- The row of `current_catalog_state` of a scope. -/
structure CatalogState where
  verifiedBlockHeight : Nat
  verifiedBlockHash : String
  sourceBlockTimestampMs : Nat
  checkedAtMs : Nat
  publicationCount : Nat
  contentRevision : String

/-- The rows of one scope; `publication_id` is the rest of the primary key. -/
structure CatalogTables where
  state : Option CatalogState
  publications : LookupMap String Publication

def CatalogTables.empty : CatalogTables := ⟨none, .empty⟩

/-- Both tables, by scope. -/
abbrev CatalogDb : Type := Scope → CatalogTables

/-- What the first statement of a batch compares the stored head with: an absent head is height `0`
with an empty revision and an empty hash. -/
structure HeadMark where
  height : Nat
  revision : String
  hash : String
  deriving DecidableEq

def headMark : Option CatalogState → HeadMark
  | none => ⟨0, "", ""⟩
  | some head => ⟨head.verifiedBlockHeight, head.contentRevision, head.verifiedBlockHash⟩

inductive CatalogStatement where
  | compareAndSetHead (scope : Scope) (expected : HeadMark) (row : CatalogState)
  | upsertPublication (scope : Scope) (row : Publication)

/-- `UNIQUE (network, contract_id, playback_id)`: no other row has the playback of this one. -/
def PlaybackFree (rows : LookupMap String Publication) (row : Publication) : Prop :=
  ∀ id ∈ rows.keys, id ≠ row.publicationId →
    (rows.get id).map (·.playbackId) ≠ some row.playbackId

instance (rows : LookupMap String Publication) (row : Publication) :
    Decidable (PlaybackFree rows row) := by
  unfold PlaybackFree
  infer_instance

/-- The `CHECK` constraints of `current_catalog_state`. -/
def CatalogState.Checked (row : CatalogState) : Prop :=
  0 < row.verifiedBlockHeight ∧ 0 < row.sourceBlockTimestampMs ∧
    row.publicationCount ≤ maxCurrentCatalogPublications

instance (row : CatalogState) : Decidable row.Checked := by
  unfold CatalogState.Checked
  infer_instance

/-- One statement; `none` is a constraint that fails. -/
def CatalogStatement.run (db : CatalogDb) : CatalogStatement → Option CatalogDb
  | .compareAndSetHead scope expected row =>
    -- a mismatch makes the height NULL, which the column refuses
    if headMark (db scope).state = expected ∧ row.Checked then
      some (Function.update db scope { db scope with state := some row })
    else none
  | .upsertPublication scope row =>
    if PlaybackFree (db scope).publications row then
      some (Function.update db scope
        { db scope with publications := (db scope).publications.insert row.publicationId row })
    else none

/-- `db.batch`: all statements or none. -/
def runBatch (db : CatalogDb) (statements : List CatalogStatement) : Option CatalogDb :=
  statements.foldlM CatalogStatement.run db

inductive CatalogOp : Type → Type
  | readCatalog (scope : Scope) : CatalogOp CatalogTables
  | batch (statements : List CatalogStatement) : CatalogOp Unit

def CatalogOp.exec : (β : Type) → CatalogOp β → Unit → CatalogDb → Option (β × CatalogDb)
  | _, .readCatalog scope, _, db => some (db scope, db)
  | _, .batch statements, _, db => (runBatch db statements).map fun db' => ((), db')

/-! ## The refresh -/

/-- What a finished refresh reports. -/
inductive RefreshAnswer where
  | disabled
  | updated (publicationCount verifiedBlockHeight sourceBlockTimestampMs queryCount : Nat)

abbrev CatalogHandler (α : Type) : Type 1 := Handler CatalogOp String α

/-- The head that a snapshot contradicts. -/
def snapshotConflict (snapshot : Snapshot) (head : CatalogState) : Prop :=
  snapshot.blockHeight < head.verifiedBlockHeight ∨
    snapshot.sourceBlockTimestampMs < head.sourceBlockTimestampMs ∨
    (snapshot.blockHeight = head.verifiedBlockHeight ∧
      (snapshot.blockHash ≠ head.verifiedBlockHash ∨
        snapshot.contentRevision ≠ head.contentRevision ∨
        snapshot.sourceBlockTimestampMs ≠ head.sourceBlockTimestampMs))

instance (snapshot : Snapshot) (head : CatalogState) :
    Decidable (snapshotConflict snapshot head) := by
  unfold snapshotConflict
  infer_instance

/-- The candidate has no acceptable version of the stored row. -/
def publicationConflict (candidate : List Publication) (old : Publication) : Prop :=
  match candidate.find? fun row => decide (row.publicationId = old.publicationId) with
  | none => True
  | some row => row.generation < old.generation ∨ row.availability.rank < old.availability.rank ∨
      ¬ row.SameIdentity old

instance (candidate : List Publication) (old : Publication) :
    Decidable (publicationConflict candidate old) := by
  unfold publicationConflict
  split <;> infer_instance

/-- The rows the batch writes: those that are new or differ from the row that was read. -/
def changedRows (previous : LookupMap String Publication) (rows : List Publication) :
    List Publication :=
  rows.filter fun row => decide (previous.get row.publicationId ≠ some row)

/-- The statements of the batch. -/
def catalogStatements (previous : CatalogTables) (snapshot : Snapshot) (checkedAtMs : Nat) :
    List CatalogStatement :=
  .compareAndSetHead snapshot.scope (headMark previous.state)
      { verifiedBlockHeight := snapshot.blockHeight
        verifiedBlockHash := snapshot.blockHash
        sourceBlockTimestampMs := snapshot.sourceBlockTimestampMs
        checkedAtMs := checkedAtMs
        publicationCount := snapshot.publications.length
        contentRevision := snapshot.contentRevision } ::
    (changedRows previous.publications snapshot.publications).map (.upsertPublication snapshot.scope)

/-- The refusals between reading the stored catalogue and writing it. -/
def compareCatalog (previous : CatalogTables) (snapshot : Snapshot) (checkedAtMs : Nat) :
    Result (List CatalogStatement) := do
  require (∀ head ∈ previous.state, ¬ snapshotConflict snapshot head) "catalog_snapshot_conflict"
  require (snapshot.publications.length ≤ maxCurrentCatalogPublications) "catalog_capacity_exceeded"
  require (∀ id ∈ previous.publications.keys, ∀ old ∈ previous.publications.get id,
    ¬ publicationConflict snapshot.publications old) "catalog_publication_conflict"
  let statements := catalogStatements previous snapshot checkedAtMs
  require (statements.length + 4 ≤ currentCatalogQueryBudget) "catalog_query_limit"
  return statements

/-- After an ambiguous commit: is the stored head the one the batch wrote? -/
def reconciles (snapshot : Snapshot) (found : CatalogTables) : Prop :=
  found.state.isSome = true ∧
    headMark found.state = ⟨snapshot.blockHeight, snapshot.contentRevision, snapshot.blockHash⟩

instance (snapshot : Snapshot) (found : CatalogTables) : Decidable (reconciles snapshot found) := by
  unfold reconciles
  infer_instance

def databaseError : String := "D1_ERROR"

/-- `applyCurrentCatalog` -/
def applyCurrentCatalog (snapshot : Snapshot) (checkedAtMs : Nat) : CatalogHandler RefreshAnswer := do
  let previous ← Handler.perform databaseError (.readCatalog snapshot.scope)
  match compareCatalog previous snapshot checkedAtMs with
  | .error code => .raise code
  | .ok statements =>
    let queryCount ← (do
        Handler.perform databaseError (.batch statements)
        return 2 + statements.length : CatalogHandler Nat).rescue fun error => do
      let result ← Handler.perform databaseError (.readCatalog snapshot.scope)
      if reconciles snapshot result then return 2 + statements.length + 2 else .raise error
    return .updated snapshot.publications.length snapshot.blockHeight
      snapshot.sourceBlockTimestampMs queryCount

/-- `refreshCurrentCatalog` -/
def refreshCurrentCatalog (sha256 : Bytes → Bytes) (refresh : Refresh) :
    CatalogHandler RefreshAnswer :=
  if currentCatalogEnabled refresh.env then
    match fetchCurrentCatalog sha256 refresh with
    | .error code => .raise code
    | .ok snapshot => applyCurrentCatalog snapshot refresh.checkedAtMs
  else .done .disabled

/-- Refreshes of a set over one database, any number of them at a time. -/
def catalogSystem (sha256 : Bytes → Bytes) (refreshes : Set Refresh) :
    System CatalogDb Unit CatalogOp String RefreshAnswer {r // r ∈ refreshes} Empty where
  exec := CatalogOp.exec
  handle := fun r => refreshCurrentCatalog sha256 r.1
  solo := fun _ => false
  environment := fun e => nomatch e

end Youtick.ReadModel
