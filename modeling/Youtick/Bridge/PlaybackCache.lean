import Youtick.Bridge.Playback
import Youtick.Lib.Keys
import Youtick.Lib.RecencyCache
import Youtick.ReadModel.Values
import Youtick.Relayer.CanonicalJson

/-!
# Bridge: the playback authorization cache

What the cache of `/v2/playback-tokens` holds and under which keys. A `Source` is what a value was
read for; its key is the deployment's version, the kind of the value and the digest of a text built
from the source. Without a collision of the digest the key of a source is the key of no other
(`same_of_cacheKey`), up to the order of the keys in the JSON objects it names.
-/

set_option autoImplicit false

namespace Youtick.Bridge.Stateless

open Youtick.Lib
open Youtick.ReadModel (isAccountText isUrlWord isWord)
open Youtick.Relayer (JsValue JsString Json Platform property stringProperty sha256Hex)

/-! ## Profiles -/

inductive MediaProfileFamily where
  | studio
  | stream
  deriving DecidableEq

/-- The hashes of `profiles.json`. -/
def studioProfileHashes : List String :=
  [MarketV2.legacyUploadProfileHash, MarketV2.publicUploadProfileHash,
    MarketV2.fullHdUploadProfileHash]

/-- `STREAM_PROFILE_HASH` -/
def streamProfileHash : String :=
  "1128da32be3187c804326ef68a3c4c5344b47fc956a09ee88f8c0779ea5f4c64"

def mediaProfileFamily (profileConfigSha256 : Option String) : Option MediaProfileFamily :=
  profileConfigSha256.bind fun hash =>
    if hash ∈ studioProfileHashes then some .studio
    else if hash = streamProfileHash then some .stream
    else none

/-! ## Cached values -/

/-- The values of the cache; every kind of key has its own form. -/
inductive CachedValue where
  /-- The wallet's signature of the certificate is proven. -/
  | proven
  /-- The device is on the Market, until this time. -/
  | deviceExpiry (expiresAtMs : Nat)
  | publication (value : Json)
  | entitled (value : Bool)
  | policy (previewVttUrl : Option String)

abbrev CacheEntry : Type := RecencyCache.Entry String CachedValue

/-- `PLAYBACK_CACHE_MAX_RECORDS` -/
def playbackCacheMaxRecords : Nat := 1024
/-- `DEVICE_CERTIFICATE_CACHE_MS` -/
def deviceCertificateCacheMs : Nat := 60 * 1000
/-- `PUBLICATION_CACHE_MS` -/
def publicationCacheMs : Nat := 30 * 1000
/-- `POSITIVE_ENTITLEMENT_CACHE_MS` -/
def positiveEntitlementCacheMs : Nat := 5 * 60 * 1000
/-- `NEGATIVE_ENTITLEMENT_CACHE_MS` -/
def negativeEntitlementCacheMs : Nat := 3 * 1000
/-- `PROVIDER_POLICY_CACHE_MS` -/
def providerPolicyCacheMs : Nat := 30 * 1000

/-- The cache lifetime of a value. -/
def CachedValue.lifetimeMs : CachedValue → Nat
  | .proven | .deviceExpiry _ => deviceCertificateCacheMs
  | .publication _ => publicationCacheMs
  | .entitled true => positiveEntitlementCacheMs
  | .entitled false => negativeEntitlementCacheMs
  | .policy _ => providerPolicyCacheMs

theorem CachedValue.lifetimeMs_pos (value : CachedValue) : 0 < value.lifetimeMs := by
  cases value with
  | entitled value =>
    cases value with
    | true => exact (by decide : 0 < positiveEntitlementCacheMs)
    | false => exact (by decide : 0 < negativeEntitlementCacheMs)
  | proven | deviceExpiry => exact (by decide : 0 < deviceCertificateCacheMs)
  | publication => exact (by decide : 0 < publicationCacheMs)
  | policy => exact (by decide : 0 < providerPolicyCacheMs)

/-! ## Keys -/

/-- What a cached value was read for. -/
inductive Source where
  /-- The access grant of a device: its certificate, proven by a wallet or by the Market's record. -/
  | grant (market : Bool) (certificate proof : JsValue) (accountId : String)
  | publication (publicationId : String)
  | entitlement (accountId publicationId : String) (publication : JsValue)
  /-- The provider's policy; Stream and Studio have playback ids of their own. -/
  | policy (stream : Bool) (playbackId : String)

def text (value : String) : JsValue := .string (.ofString value)

/-- The object whose canonical text is the key of a grant. -/
def grantObject (certificate proof : JsValue) (accountId : String) : JsValue :=
  .object [(.ofString "certificate", certificate), (.ofString "proof", proof),
    (.ofString "account_id", text accountId)]

def Source.kind : Source → String
  | .grant false _ _ _ => "certificate"
  | .grant true _ _ _ => "market-device"
  | .publication _ => "publication"
  | .entitlement .. => "entitlement"
  | .policy .. => "provider-policy"

section Keys

variable (platform : Platform)

/-- `sha256Hex` -/
def digestOf (value : String) : String := sha256Hex platform (utf8 value)

def entitlementText (accountId publicationId tupleHash : String) : String :=
  accountId ++ ":" ++ publicationId ++ ":" ++ tupleHash

def policyText (stream : Bool) (playbackId : String) : String :=
  if stream then "stream:" ++ playbackId else playbackId

/-- The text whose digest is in the key. -/
def Source.text : Source → String
  | .grant _ certificate proof accountId => (grantObject certificate proof accountId).canonicalJson
  | .publication publicationId => publicationId
  | .entitlement accountId publicationId record =>
    entitlementText accountId publicationId (digestOf platform record.canonicalJson)
  | .policy stream playbackId => policyText stream playbackId

/-- Every text that is hashed for the key. -/
def Source.texts (source : Source) : List String :=
  match source with
  | .entitlement _ _ record => [record.canonicalJson, source.text platform]
  | _ => [source.text platform]

def cacheKeyOf (versionId kind digest : String) : String := versionId ++ ":" ++ kind ++ ":" ++ digest

/-- `playbackCacheKey` -/
def cacheKey (versionId : String) (source : Source) : String :=
  cacheKeyOf versionId source.kind (digestOf platform (source.text platform))

end Keys

/-! ## One key, one source -/

/-- The same up to the order of the keys of the objects. -/
def Source.Same : Source → Source → Prop
  | .grant market certificate proof accountId, .grant market' certificate' proof' accountId' =>
    market = market' ∧ certificate.sorted = certificate'.sorted ∧
      proof.sorted = proof'.sorted ∧ accountId = accountId'
  | .publication publicationId, .publication publicationId' => publicationId = publicationId'
  | .entitlement accountId publicationId record, .entitlement accountId' publicationId' record' =>
    accountId = accountId' ∧ publicationId = publicationId' ∧ record.sorted = record'.sorted
  | .policy stream playbackId, .policy stream' playbackId' =>
    stream = stream' ∧ playbackId = playbackId'
  | _, _ => False

/-- What a request's checks, and the Market's own, leave of a source. -/
def Source.Valid : Source → Prop
  | .grant _ certificate proof _ => certificate.Spelled ∧ proof.Spelled
  | .publication _ => True
  | .entitlement accountId _ record => NoColon accountId ∧ record.Spelled
  | .policy _ playbackId => NoColon playbackId

section Injective

variable {platform : Platform} {texts : Set String} {source other : Source} {versionId : String}

theorem noColon_digestOf (value : String) : NoColon (digestOf platform value) := noColon_hex _

theorem noColon_kind (source : Source) : NoColon source.kind := by
  cases source with
  | grant market =>
    cases market with
    | true => exact (by decide : NoColon "market-device")
    | false => exact (by decide : NoColon "certificate")
  | publication => exact (by decide : NoColon "publication")
  | entitlement => exact (by decide : NoColon "entitlement")
  | policy => exact (by decide : NoColon "provider-policy")

/-- Grants of one text have one certificate, one proof and one account. -/
theorem grant_of_text {market : Bool} {certificate proof certificate' proof' : JsValue}
    {accountId accountId' : String}
    (hv : (Source.grant market certificate proof accountId).Valid)
    (hv' : (Source.grant market certificate' proof' accountId').Valid)
    (h : (grantObject certificate proof accountId).canonicalJson =
      (grantObject certificate' proof' accountId').canonicalJson) :
    certificate.sorted = certificate'.sorted ∧ proof.sorted = proof'.sorted ∧
      accountId = accountId' := by
  have hsorted := JsValue.canonicalJson_injective (v := grantObject certificate proof accountId)
    (w := grantObject certificate' proof' accountId') ⟨hv.1, hv.2, trivial, trivial⟩
    ⟨hv'.1, hv'.2, trivial, trivial⟩ h
  have hkeys : ([(JsString.ofString "certificate", certificate'), (.ofString "proof", proof'),
      (.ofString "account_id", text accountId')].map Prod.fst).Nodup :=
    (by decide : [JsString.ofString "certificate", .ofString "proof", .ofString "account_id"].Nodup)
  refine ⟨?_, ?_, ?_⟩
  · obtain ⟨found, hfound, hsame⟩ :=
      JsValue.property_of_sorted hsorted hkeys "certificate" certificate rfl
    obtain rfl : certificate' = found := Option.some.inj hfound
    exact hsame.symm
  · obtain ⟨found, hfound, hsame⟩ :=
      JsValue.property_of_sorted hsorted hkeys "proof" proof rfl
    obtain rfl : proof' = found := Option.some.inj hfound
    exact hsame.symm
  · obtain ⟨found, hfound, hsame⟩ :=
      JsValue.property_of_sorted hsorted hkeys "account_id" (text accountId) rfl
    obtain rfl : text accountId' = found := Option.some.inj hfound
    simp only [text, JsValue.sorted, JsValue.string.injEq] at hsame
    exact (JsString.ofString_injective hsame).symm

/-- Both ids and the digest are read off the text of an entitlement. -/
theorem entitlementText_injective {accountId publicationId tupleHash accountId' publicationId'
    tupleHash' : String} (haccount : NoColon accountId) (haccount' : NoColon accountId')
    (hhash : NoColon tupleHash) (hhash' : NoColon tupleHash')
    (h : entitlementText accountId publicationId tupleHash =
      entitlementText accountId' publicationId' tupleHash') :
    accountId = accountId' ∧ publicationId = publicationId' ∧ tupleHash = tupleHash' := by
  obtain ⟨hids, htuple⟩ := append_colon_injective hhash hhash' h
  obtain ⟨hsame, hpublication⟩ := append_colon_injective_left haccount haccount' hids
  exact ⟨hsame, hpublication, htuple⟩

/-- A Studio id is never taken for a Stream one. -/
theorem policyText_injective {stream stream' : Bool} {playbackId playbackId' : String}
    (hid : NoColon playbackId) (hid' : NoColon playbackId')
    (h : policyText stream playbackId = policyText stream' playbackId') :
    stream = stream' ∧ playbackId = playbackId' := by
  have hcolon (value : String) : ':' ∈ ("stream:" ++ value).toList := by
    rw [String.toList_append]
    exact List.mem_append_left _ (by decide)
  cases stream with
  | false =>
    cases stream' with
    | false => exact ⟨rfl, h⟩
    | true =>
      obtain rfl : playbackId = "stream:" ++ playbackId' := h
      exact absurd (hcolon playbackId') hid
  | true =>
    cases stream' with
    | false =>
      obtain rfl : "stream:" ++ playbackId = playbackId' := h
      exact absurd (hcolon playbackId) hid'
    | true =>
      change "stream:" ++ playbackId = "stream:" ++ playbackId' at h
      have hlist := congrArg String.toList h
      rw [String.toList_append, String.toList_append] at hlist
      exact ⟨rfl, String.toList_inj.mp (List.append_cancel_left hlist)⟩

/-- Sources of one kind with one text are the same. -/
theorem same_of_text (hsha : Set.InjOn (digestOf platform) texts) (hv : source.Valid)
    (hv' : other.Valid) (htexts : ∀ value ∈ source.texts platform, value ∈ texts)
    (htexts' : ∀ value ∈ other.texts platform, value ∈ texts) (hkind : source.kind = other.kind)
    (htext : source.text platform = other.text platform) : source.Same other := by
  cases source with
  | grant market certificate proof accountId =>
    cases other with
    | grant market' certificate' proof' accountId' =>
      have hmarket : market = market' := by
        cases market <;> cases market' <;> simp [Source.kind] at hkind ⊢
      subst hmarket
      exact ⟨rfl, grant_of_text hv hv' htext⟩
    | _ => cases market <;> simp [Source.kind] at hkind
  | publication publicationId =>
    cases other with
    | publication publicationId' => exact htext
    | grant market => cases market <;> simp [Source.kind] at hkind
    | _ => simp [Source.kind] at hkind
  | entitlement accountId publicationId record =>
    cases other with
    | entitlement accountId' publicationId' record' =>
      obtain ⟨haccount, hpublication, hdigest⟩ := entitlementText_injective hv.1 hv'.1
        (noColon_digestOf _) (noColon_digestOf _) htext
      have hcanonical : record.canonicalJson = record'.canonicalJson :=
        hsha (htexts _ (.head _)) (htexts' _ (.head _)) hdigest
      exact ⟨haccount, hpublication, JsValue.canonicalJson_injective hv.2 hv'.2 hcanonical⟩
    | grant market => cases market <;> simp [Source.kind] at hkind
    | _ => simp [Source.kind] at hkind
  | policy stream playbackId =>
    cases other with
    | policy stream' playbackId' => exact policyText_injective hv hv' htext
    | grant market => cases market <;> simp [Source.kind] at hkind
    | _ => simp [Source.kind] at hkind

theorem text_mem_texts (source : Source) : source.text platform ∈ source.texts platform := by
  cases source with
  | entitlement => exact List.mem_cons_of_mem _ (List.mem_singleton_self _)
  | _ => exact List.mem_singleton_self _

/-- Without a collision a key is the key of one source. -/
theorem same_of_cacheKey (hsha : Set.InjOn (digestOf platform) texts) (hv : source.Valid)
    (hv' : other.Valid) (htexts : ∀ value ∈ source.texts platform, value ∈ texts)
    (htexts' : ∀ value ∈ other.texts platform, value ∈ texts)
    (h : cacheKey platform versionId source = cacheKey platform versionId other) :
    source.Same other := by
  obtain ⟨hrest, hdigest⟩ :=
    append_colon_injective (noColon_digestOf _) (noColon_digestOf _) h
  obtain ⟨-, hkind⟩ := append_colon_injective (noColon_kind source) (noColon_kind other) hrest
  have htext : source.text platform = other.text platform :=
    hsha (htexts _ (text_mem_texts source)) (htexts' _ (text_mem_texts other)) hdigest
  exact same_of_text hsha hv hv' htexts htexts' hkind htext

end Injective

end Youtick.Bridge.Stateless
