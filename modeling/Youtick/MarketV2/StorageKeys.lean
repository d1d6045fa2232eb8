import Youtick.Lib.Keyspace
import Youtick.MarketV2.Types

/-!
# Market v2: raw storage keys

Where each record of the contract is stored. A collection of the SDK stores an entry under its
prefix and the Borsh form of the entry's key; the records kept outside the contract's state stand
under keys the code writes itself, several of them ending in text a caller chose, without a length.
The contract's state is the entry `STATE`.

No two records share a key (`storageKey_injective`), so the separate maps of this development are
what the one flat store of the account holds (`readRecord_insert`).
-/

set_option autoImplicit false

namespace Youtick.MarketV2

open Youtick.Lib
open Youtick.Lib.Keyspace

/-! ## Key prefixes -/

def contractStateKey : Bytes := utf8 "STATE"

def StorageKey.mediaJobs : Bytes := utf8 "livepeer-v1:jobs"
def StorageKey.publications : Bytes := utf8 "livepeer-v1:publications"
def StorageKey.assetBindings : Bytes := utf8 "livepeer-v1:asset-bindings"
def StorageKey.playbackBindings : Bytes := utf8 "livepeer-v1:playback-bindings"
def StorageKey.tickets : Bytes := utf8 "market-v2:tickets"
def StorageKey.vatKeys : Bytes := utf8 "market-v2:vat-keys"
def StorageKey.cardReferences : Bytes := utf8 "market-v2:card-references"
def StorageKey.creatorBalances : Bytes := utf8 "livepeer-v1:creator-balances"
def StorageKey.takedowns : Bytes := utf8 "livepeer-v1:takedowns"
def StorageKey.publicationIds : Bytes := utf8 "livepeer-v1:publication-ids"

def playbackDevicePrefix : Bytes := utf8 "youtick:market:playback-devices:v1:"
def newPurchasesPausedKey : Bytes := utf8 "youtick:market:control:new-purchases-paused:v1"
def publicTestnetBetaStateKey : Bytes := utf8 "youtick:market:public-testnet-beta:state:v1"
def publicTestnetBetaJobPrefix : Bytes := utf8 "youtick:market:public-testnet-beta:job:v1:"
def publicTestnetBetaDayPrefix : Bytes := utf8 "youtick:market:public-testnet-beta:day:v1:"
def publicUploadPolicyKey : Bytes := utf8 "youtick:market:public-upload-policy:v1"
def publicUploadCreatorPrefix : Bytes := utf8 "youtick:market:public-upload-creator:v1:"
def roleRotationPrefix : Bytes := utf8 "youtick:market:role-rotation:v1:"
def bridgeUnfreezeRequestKey : Bytes := utf8 "youtick:market:control:bridge-unfreeze-request:v1"
def newPurchasesUnpauseRequestKey : Bytes :=
  utf8 "youtick:market:control:new-purchases-unpause-request:v1"
def codeUpgradeKey : Bytes := utf8 "youtick:market:control:code-upgrade:v1"

/-! ## Keys -/

/-- Borsh of a string: its length in four bytes, then its bytes. A longer string has no form. -/
def borshString (s : String) : Option Bytes :=
  if (utf8 s).length < 2 ^ 32 then some (littleEndian 4 (utf8 s).length ++ utf8 s) else none

def borshU32 (n : UInt32) : Bytes := littleEndian 4 n.toNat

def borshU64 (n : UInt64) : Bytes := littleEndian 8 n.toNat

/-- `LookupMap` and `LookupSet`: the collection's prefix and the Borsh form of the key. -/
def collectionKey (collection : Bytes) (borsh : Option Bytes) : Option Bytes :=
  borsh.map fun written => collection ++ written

def publicTestnetBetaJobKey (jobId : String) : Bytes := publicTestnetBetaJobPrefix ++ utf8 jobId

def publicTestnetBetaDayStorageKey (creatorId : AccountId) (day : UInt64) : Bytes :=
  publicTestnetBetaDayPrefix ++ utf8 (creatorId ++ ":" ++ decimal day.toNat)

def publicUploadCreatorKey (creatorId : AccountId) : Bytes :=
  publicUploadCreatorPrefix ++ utf8 creatorId

def playbackDevicesKey (accountId : AccountId) : Bytes := playbackDevicePrefix ++ utf8 accountId

def GovernanceRole.tag : GovernanceRole → String
  | admin => "admin"
  | guardian => "guardian"
  | platform => "platform"
  | takedownAuthority => "takedown-authority"
  | paymentOperator => "payment-operator"

def roleRotationKey (role : GovernanceRole) : Bytes := roleRotationPrefix ++ utf8 role.tag

/-- A record of the contract, with the key its kind stores it under. -/
inductive StoredRecord where
  | contractState
  | mediaJob (jobId : String)
  | publication (publicationId : String)
  | assetBinding (assetIdHash : String)
  | playbackBinding (playbackId : String)
  | ticket (ticketId : String)
  | vatKey (version : UInt32)
  | cardReference (reference : String)
  | creatorBalance (creatorId : AccountId)
  | takedown (publicationId : String)
  | publicationIndex (index : UInt64)
  | playbackDevices (accountId : AccountId)
  | publicTestnetBeta
  | publicTestnetBetaJob (jobId : String)
  | publicTestnetBetaDay (creatorId : AccountId) (day : UInt64)
  | publicUploadPolicy
  | publicUploadCreator (creatorId : AccountId)
  | roleRotation (role : GovernanceRole)
  | codeUpgrade
  | newPurchasesPaused
  | bridgeUnfreezeRequest
  | newPurchasesUnpauseRequest

/-- The raw key of a record, where Borsh writes its key. -/
def storageKey : StoredRecord → Option Bytes
  | .contractState => some contractStateKey
  | .mediaJob jobId => collectionKey StorageKey.mediaJobs (borshString jobId)
  | .publication publicationId => collectionKey StorageKey.publications (borshString publicationId)
  | .assetBinding assetIdHash => collectionKey StorageKey.assetBindings (borshString assetIdHash)
  | .playbackBinding playbackId => collectionKey StorageKey.playbackBindings (borshString playbackId)
  | .ticket ticketId => collectionKey StorageKey.tickets (borshString ticketId)
  | .vatKey version => collectionKey StorageKey.vatKeys (some (borshU32 version))
  | .cardReference reference => collectionKey StorageKey.cardReferences (borshString reference)
  | .creatorBalance creatorId => collectionKey StorageKey.creatorBalances (borshString creatorId)
  | .takedown publicationId => collectionKey StorageKey.takedowns (borshString publicationId)
  | .publicationIndex index => collectionKey StorageKey.publicationIds (some (borshU64 index))
  | .playbackDevices accountId => some (playbackDevicesKey accountId)
  | .publicTestnetBeta => some publicTestnetBetaStateKey
  | .publicTestnetBetaJob jobId => some (publicTestnetBetaJobKey jobId)
  | .publicTestnetBetaDay creatorId day => some (publicTestnetBetaDayStorageKey creatorId day)
  | .publicUploadPolicy => some publicUploadPolicyKey
  | .publicUploadCreator creatorId => some (publicUploadCreatorKey creatorId)
  | .roleRotation role => some (roleRotationKey role)
  | .codeUpgrade => some codeUpgradeKey
  | .newPurchasesPaused => some newPurchasesPausedKey
  | .bridgeUnfreezeRequest => some bridgeUnfreezeRequestKey
  | .newPurchasesUnpauseRequest => some newPurchasesUnpauseRequestKey

/-! ## Kinds of records -/

/-- The kind of a record: what its key begins with. -/
inductive RecordKind where
  | contractState
  | mediaJobs
  | publications
  | assetBindings
  | playbackBindings
  | tickets
  | vatKeys
  | cardReferences
  | creatorBalances
  | takedowns
  | publicationIds
  | playbackDevices
  | publicTestnetBeta
  | publicTestnetBetaJobs
  | publicTestnetBetaDays
  | publicUploadPolicy
  | publicUploadCreators
  | roleRotations
  | codeUpgrade
  | newPurchasesPaused
  | bridgeUnfreezeRequest
  | newPurchasesUnpauseRequest
  deriving DecidableEq

def RecordKind.tag : RecordKind → Bytes
  | contractState => contractStateKey
  | mediaJobs => StorageKey.mediaJobs
  | publications => StorageKey.publications
  | assetBindings => StorageKey.assetBindings
  | playbackBindings => StorageKey.playbackBindings
  | tickets => StorageKey.tickets
  | vatKeys => StorageKey.vatKeys
  | cardReferences => StorageKey.cardReferences
  | creatorBalances => StorageKey.creatorBalances
  | takedowns => StorageKey.takedowns
  | publicationIds => StorageKey.publicationIds
  | playbackDevices => playbackDevicePrefix
  | publicTestnetBeta => publicTestnetBetaStateKey
  | publicTestnetBetaJobs => publicTestnetBetaJobPrefix
  | publicTestnetBetaDays => publicTestnetBetaDayPrefix
  | publicUploadPolicy => publicUploadPolicyKey
  | publicUploadCreators => publicUploadCreatorPrefix
  | roleRotations => roleRotationPrefix
  | codeUpgrade => codeUpgradeKey
  | newPurchasesPaused => newPurchasesPausedKey
  | bridgeUnfreezeRequest => bridgeUnfreezeRequestKey
  | newPurchasesUnpauseRequest => newPurchasesUnpauseRequestKey

/-- Every kind, in the order of the declaration. -/
def RecordKind.all : List RecordKind := [
  contractState, mediaJobs, publications, assetBindings, playbackBindings, tickets, vatKeys,
  cardReferences, creatorBalances, takedowns, publicationIds, playbackDevices, publicTestnetBeta,
  publicTestnetBetaJobs, publicTestnetBetaDays, publicUploadPolicy, publicUploadCreators,
  roleRotations, codeUpgrade, newPurchasesPaused, bridgeUnfreezeRequest,
  newPurchasesUnpauseRequest]

theorem RecordKind.mem_all (kind : RecordKind) : kind ∈ all := by
  cases kind <;> decide

/-- No prefix of the contract begins another one, and no fixed key begins with a prefix. -/
theorem RecordKind.tag_free : TagFree RecordKind.tag := by
  have hall : ∀ i ∈ all, ∀ j ∈ all, tag i <+: tag j → i = j := by decide +kernel
  intro i j
  exact hall i (mem_all i) j (mem_all j)

def StoredRecord.kind : StoredRecord → RecordKind
  | .contractState => .contractState
  | .mediaJob _ => .mediaJobs
  | .publication _ => .publications
  | .assetBinding _ => .assetBindings
  | .playbackBinding _ => .playbackBindings
  | .ticket _ => .tickets
  | .vatKey _ => .vatKeys
  | .cardReference _ => .cardReferences
  | .creatorBalance _ => .creatorBalances
  | .takedown _ => .takedowns
  | .publicationIndex _ => .publicationIds
  | .playbackDevices _ => .playbackDevices
  | .publicTestnetBeta => .publicTestnetBeta
  | .publicTestnetBetaJob _ => .publicTestnetBetaJobs
  | .publicTestnetBetaDay _ _ => .publicTestnetBetaDays
  | .publicUploadPolicy => .publicUploadPolicy
  | .publicUploadCreator _ => .publicUploadCreators
  | .roleRotation _ => .roleRotations
  | .codeUpgrade => .codeUpgrade
  | .newPurchasesPaused => .newPurchasesPaused
  | .bridgeUnfreezeRequest => .bridgeUnfreezeRequest
  | .newPurchasesUnpauseRequest => .newPurchasesUnpauseRequest

/-- What follows the tag: the Borsh form of a collection's key, or the raw text of a key the code
writes itself. -/
def StoredRecord.written : StoredRecord → Option Bytes
  | .mediaJob key | .publication key | .assetBinding key | .playbackBinding key | .ticket key
  | .cardReference key | .creatorBalance key | .takedown key => borshString key
  | .vatKey version => some (borshU32 version)
  | .publicationIndex index => some (borshU64 index)
  | .playbackDevices key | .publicTestnetBetaJob key | .publicUploadCreator key => some (utf8 key)
  | .publicTestnetBetaDay creatorId day => some (utf8 (creatorId ++ ":" ++ decimal day.toNat))
  | .roleRotation role => some (utf8 role.tag)
  | .contractState | .publicTestnetBeta | .publicUploadPolicy | .codeUpgrade | .newPurchasesPaused
  | .bridgeUnfreezeRequest | .newPurchasesUnpauseRequest => some []

theorem storageKey_eq (r : StoredRecord) :
    storageKey r = flatKey RecordKind.tag StoredRecord.kind StoredRecord.written r := by
  have hfixed (tag : Bytes) : some tag = (some ([] : Bytes)).map fun written => tag ++ written := by
    rw [Option.map_some, List.append_nil]
  cases r with
  | contractState | publicTestnetBeta | publicUploadPolicy | codeUpgrade | newPurchasesPaused
  | bridgeUnfreezeRequest | newPurchasesUnpauseRequest => exact hfixed _
  | _ => rfl

/-! ## What follows the tag determines the key -/

/-- Four bytes of length come first, so equal forms have bytes of equal number. -/
theorem borshString_injective {a b : String} {written : Bytes} (ha : borshString a = some written)
    (hb : borshString b = some written) : a = b := by
  unfold borshString at ha hb
  obtain ⟨-, ha⟩ := Option.ite_none_right_eq_some.mp ha
  obtain ⟨-, hb⟩ := Option.ite_none_right_eq_some.mp hb
  have heq := Option.some.inj (ha.trans hb.symm)
  exact utf8_injective (List.append_inj heq (by simp)).2

theorem borshU32_injective {a b : UInt32} (h : borshU32 a = borshU32 b) : a = b :=
  UInt32.toNat_inj.mp (littleEndian_injective a.toNat_lt b.toNat_lt h)

theorem borshU64_injective {a b : UInt64} (h : borshU64 a = borshU64 b) : a = b :=
  UInt64.toNat_inj.mp (littleEndian_injective a.toNat_lt b.toNat_lt h)

theorem GovernanceRole.tag_injective {a b : GovernanceRole} (h : utf8 a.tag = utf8 b.tag) :
    a = b := by
  have htag := utf8_injective h
  cases a <;> cases b <;> first | rfl | exact absurd htag (by decide)

/-- A day has no colon, so the last colon ends the creator's name whatever the name is. -/
theorem creatorDay_injective {a b : AccountId} {m n : UInt64}
    (h : utf8 (a ++ ":" ++ decimal m.toNat) = utf8 (b ++ ":" ++ decimal n.toNat)) :
    a = b ∧ m = n := by
  have htext := congrArg (fun s => s.toList.reverse) (utf8_injective h)
  have hchars (s d : String) : (s ++ ":" ++ d).toList.reverse =
      d.toList.reverse ++ ':' :: s.toList.reverse := by simp
  have hcolon (k : Nat) : ':' ∉ (decimal k).toList.reverse := by
    rw [List.mem_reverse]
    exact not_mem_decimal (by decide) k
  simp only [hchars] at htext
  obtain ⟨hday, hname⟩ := append_separator_injective (hcolon _) (hcolon _) htext
  constructor
  · exact String.toList_inj.mp (List.reverse_injective hname)
  · exact UInt64.toNat_inj.mp (decimal_injective (String.toList_inj.mp (List.reverse_injective hday)))

/-- Within a kind, what follows the tag determines the record. -/
theorem StoredRecord.written_injective {r s : StoredRecord} {written : Bytes}
    (hkind : r.kind = s.kind) (hr : r.written = some written) (hs : s.written = some written) :
    r = s := by
  have hsame := hr.trans hs.symm
  cases r <;> cases s <;> cases hkind
  -- the kinds the code writes raw
  case playbackDevices a b => rw [utf8_injective (Option.some.inj hsame)]
  case publicTestnetBetaJob a b => rw [utf8_injective (Option.some.inj hsame)]
  case publicUploadCreator a b => rw [utf8_injective (Option.some.inj hsame)]
  case publicTestnetBetaDay a m b n =>
    obtain ⟨rfl, rfl⟩ := creatorDay_injective (Option.some.inj hsame)
    rfl
  case roleRotation a b => rw [GovernanceRole.tag_injective (Option.some.inj hsame)]
  -- collections keyed by a number
  case vatKey a b => rw [borshU32_injective (Option.some.inj hsame)]
  case publicationIndex a b => rw [borshU64_injective (Option.some.inj hsame)]
  -- collections keyed by a text, and records with one key
  all_goals first
    | rfl
    | rw [borshString_injective hr hs]

theorem storageKey_apart : ∀ r s key, storageKey r = some key → storageKey s = some key → r = s := by
  intro r s key hr hs
  rw [storageKey_eq] at hr hs
  exact flatKey_injective RecordKind.tag_free
    (fun _ _ _ hkind => StoredRecord.written_injective hkind) hr hs

/-- A raw storage key belongs to one record: two records under one key are the same kind with the
same key, whatever texts callers chose. -/
theorem storageKey_injective (r s : StoredRecord) (key : Bytes) (hr : storageKey r = some key)
    (hs : storageKey s = some key) : r = s :=
  storageKey_apart r s key hr hs

/-- Two tickets under one raw key are one ticket. -/
theorem storageKey_injective_ticket : ∃ key, storageKey (.ticket "ticket-1") = some key ∧
    (StoredRecord.ticket "ticket-1" = .ticket "ticket-1") :=
  ⟨_, rfl, storageKey_injective _ _ _ rfl rfl⟩

/-! ## One store -/

/-- A write under a record's key changes that record only, as the separate maps have it. -/
theorem readRecord_insert {r : StoredRecord} {key : Bytes} (hr : storageKey r = some key)
    (store : LookupMap Bytes Bytes) (value : Bytes) :
    read storageKey (store.insert key value) r = some value ∧
      ∀ s, s ≠ r → read storageKey (store.insert key value) s = read storageKey store s :=
  read_insert storageKey_apart hr store value

theorem readRecord_remove {r : StoredRecord} {key : Bytes} (hr : storageKey r = some key)
    (store : LookupMap Bytes Bytes) :
    read storageKey (store.remove key) r = none ∧
      ∀ s, s ≠ r → read storageKey (store.remove key) s = read storageKey store s :=
  read_remove storageKey_apart hr store

end Youtick.MarketV2
