import Youtick.Bridge.PlaybackCache

/-!
# Bridge: stateless playback tokens

`issueStatelessPlaybackToken`: a device proves its certificate, and the publication, the entitlement
of its account and the provider's policy decide. Each of the four is looked up in the cache first and
read when it is not there; what is read is stored in the same turn in which the answer arrives.
Requests run interleaved at every `await`, and the requests of tickets share the provider's policies.
What the chain and the provider answer, and what the clock says, are inputs of each operation; the
clock does not run backwards. The journal records what was read and what was decided; no program
reads it.
-/

set_option autoImplicit false

namespace Youtick.Bridge.Stateless

open Youtick.Lib
open Youtick.PaymentService (number)
open Youtick.ReadModel (isAccountText isUrlWord isHashText isWord)
open Youtick.Relayer (JsValue JsString Json Platform property stringProperty matching)
open Youtick.Bridge.Playback (verifyEd25519Signature playableAvailability playbackTtlSeconds)

/-! ## Requests -/

structure PlaybackV2Env where
  /-- `CF_VERSION_METADATA.id` -/
  versionId : String
  network : String
  contractId : String
  marketV2 : Bool
  publicTestnet : Bool
  publicBeta : Bool

/-- What proves the certificate: a wallet's signature, or the Market's record of the device. -/
inductive CertificateProof where
  | wallet (publicKey signature nonce : String) (expiresAtMs : Nat)
  | market (signedDelegate : Option String)

def CertificateProof.isMarket : CertificateProof → Bool
  | .wallet .. => false
  | .market _ => true

/-- A request that was parsed; the certificate and its proof stay objects as well. -/
structure PlaybackV2Request where
  publicationId : String
  generation : Nat
  playbackId : String
  certificate : List (JsString × JsValue)
  certificateProof : JsValue
  proof : CertificateProof
  accountId : String
  sessionPublicKey : String
  certificateSha256 : String
  bodySha256 : String
  origin : String
  requestNonce : String
  requestExpiresAtMs : String
  requestSignature : String
  isAccount : isAccountText accountId = true
  isPlayback : isUrlWord 6 128 playbackId = true
  isCertificate : (JsValue.object certificate).Spelled ∧ (certificate.map Prod.fst).Nodup
  isProof : certificateProof.Spelled
  isSession : stringProperty certificate "session_public_key" = some (.ofString sessionPublicKey)

def denied : String := "playback_denied"

/-- `canonicalPlaybackV2Message` -/
def canonicalMessage (env : PlaybackV2Env) (request : PlaybackV2Request) : String :=
  joinLines ["youtick.playback-request", "1", env.network, env.contractId, request.accountId,
    request.origin, request.requestNonce, request.requestExpiresAtMs, request.bodySha256,
    request.certificateSha256]

/-- What the cached grant of a request was read for. -/
def PlaybackV2Request.grantSource (request : PlaybackV2Request) : Source :=
  .grant request.proof.isMarket (.object request.certificate) request.certificateProof
    request.accountId

/-! ## The library -/

structure ProviderSource where
  kind : String
  url : String

structure ProviderPlayback where
  kind : String
  policy : String
  sources : List ProviderSource

/-- Code of packages: the signatures, and the delegate that paid for a device. -/
structure PlaybackLibrary where
  platform : Platform
  /-- `verifyPlaybackDelegate`: the key that signed the payment with this session, if it proves
  anything. -/
  delegateKey : (signedDelegate accountId sessionPublicKey certificateSha256 : String) →
    Option String
  /-- `playbackUrlAllowed`, and the URL has no query and no fragment. -/
  previewAllowed : String → Bool

/-! ## The four decisions -/

mutual

/-- `String(value)`; no text when it has a lone surrogate. -/
def textOf : JsValue → Option String
  | .null => some "null"
  | .bool b => some (if b then "true" else "false")
  | .number value => some value
  | .string s => s.text?
  | .array items => textOfItems items
  | .object _ => some "[object Object]"

def textOfItems : List JsValue → Option String
  | [] => some ""
  | [item] => textOfItem item
  | item :: rest => (textOfItem item).bind fun first =>
    (textOfItems rest).map fun others => first ++ "," ++ others

def textOfItem : JsValue → Option String
  | .null => some ""
  | .bool b => some (if b then "true" else "false")
  | .number value => some value
  | .string s => s.text?
  | .array items => textOfItems items
  | .object _ => some "[object Object]"

end

def legacyProfileId : String := "paid-media-livepeer-v1"
def neutralProfileId : String := "paid-media-v1"

/-- `marketProfileId` -/
def marketProfileId (env : PlaybackV2Env) : String :=
  if env.marketV2 then neutralProfileId else legacyProfileId

def playbackProfileIdAccepted (env : PlaybackV2Env) (profileId : Option JsString) : Bool :=
  profileId = some (.ofString (marketProfileId env)) ||
    (env.marketV2 && decide (profileId = some (.ofString legacyProfileId)))

def profileHash (fields : List (JsString × JsValue)) : Option String :=
  (stringProperty fields "profile_config_sha256").bind JsString.text?

/-- The checks of a publication; the result is its profile. -/
def checkPublication (env : PlaybackV2Env) (request : PlaybackV2Request) (publication : JsValue) :
    Result String := do
  let fields ← expect publication.fields? denied
  let profile ← expect (profileHash fields) denied
  require (stringProperty fields "publication_id" = some (.ofString request.publicationId)) denied
  require ((property fields "generation").bind (fun value => match value with
    | .number value => some value
    | _ => none) = some (decimal request.generation)) denied
  require (stringProperty fields "playback_id" = some (.ofString request.playbackId)) denied
  require (playbackProfileIdAccepted env (stringProperty fields "profile_id") = true) denied
  require ((mediaProfileFamily (some profile)).isSome = true) denied
  let availability ← expect ((property fields "availability").bind textOf) denied
  require (availability ∈ playableAvailability) denied
  return profile

/-- `value === true` -/
def isTrue : JsValue → Bool
  | .bool true => true
  | _ => false

/-- `^[0-9]{1,16}$`, as a time. -/
def timeProperty (fields : List (JsString × JsValue)) (key : String) : Result Nat := do
  let value ← expect (stringProperty fields key) denied
  let digits ← matching value (isWord isAsciiDigit 1 16) denied
  return number digits

/-- `MARKET_DEVICE_LIFETIME_MS` -/
def marketDeviceLifetimeMs : Nat := 30 * 24 * 60 * 60 * 1000

/-- The Market's record of a device: its expiry and the key that authorized it. -/
def checkMarketDevice (request : PlaybackV2Request) (device : JsValue) (nowMs : Nat) :
    Result (Nat × Option JsValue) := do
  let fields ← expect device.fields? denied
  require (stringProperty fields "session_public_key" = some (.ofString request.sessionPublicKey))
    denied
  require (stringProperty fields "certificate_sha256" = some (.ofString request.certificateSha256))
    denied
  let authorizedAtMs ← timeProperty fields "authorized_at_ms"
  let expiresAtMs ← timeProperty fields "expires_at_ms"
  require (expiresAtMs = authorizedAtMs + marketDeviceLifetimeMs ∧ authorizedAtMs ≤ nowMs ∧
    nowMs < expiresAtMs) denied
  return (expiresAtMs, property fields "authorizing_public_key")

/-- `SESSION_KEY_PATTERN` -/
def isSessionKey (value : String) : Bool := (stripPrefix value "ed25519:").any isHashText

/-- The key whose access decides; a payment stands for a record without one. -/
def devicePublicKey (library : PlaybackLibrary) (request : PlaybackV2Request)
    (signedDelegate : Option String) : Option JsValue → Result String
  | some .null => do
      let signedDelegate ← expect signedDelegate denied
      let publicKey ← expect (library.delegateKey signedDelegate request.accountId
        request.sessionPublicKey request.certificateSha256) denied
      require (isSessionKey publicKey = true) denied
      return publicKey
  | some (.string publicKey) => matching publicKey isSessionKey denied
  | _ => .error denied

/-- `base64UrlDecode` -/
def base64UrlDecode (value : String) : Option Bytes :=
  let base64 := value.toList.map fun c => if c = '-' then '+' else if c = '_' then '/' else c
  Base64.forgivingDecode
    (String.ofList (base64 ++ List.replicate ((4 - base64.length % 4) % 4) '='))

/-- The shape of a wallet's proof. -/
def checkWalletProof (signature nonce : String) : Result PUnit.{1} := do
  let signature ← expect (Base64.forgivingDecode signature) denied
  let nonce ← expect (base64UrlDecode nonce) denied
  require (signature.length = 64 ∧ nonce.length = 32) denied

/-- `MAX_PROVIDER_PLAYBACK_OUTPUTS` -/
def maxProviderPlaybackOutputs : Nat := 16

/-- `verifyStatelessProviderPolicy`, after the provider's answer. -/
def checkProviderPolicy (library : PlaybackLibrary) (playback : Result ProviderPlayback) :
    Result (Option String) :=
  match playback with
  | .error code => .error (if code = "provider_unavailable" then code else denied)
  | .ok playback => do
      require (playback.kind = "vod" ∧ playback.policy = "jwt") denied
      return if playback.sources.length ≤ maxProviderPlaybackOutputs then
        (playback.sources.find? fun source => decide (source.kind = "vtt") &&
          decide (source.url.length ≤ 2048) && library.previewAllowed source.url).map (·.url)
      else none

/-- A signed token: what it opens, its times, and the preview beside it. -/
structure Token where
  playbackId : String
  profileConfigSha256 : String
  issuedAtMs : Nat
  ttlSeconds : Nat
  previewVttUrl : Option String
  deriving DecidableEq

/-- The token of a granted request; a grant about to expire has none. -/
def tokenFor (request : PlaybackV2Request) (profile : String) (expiresAtMs : Nat)
    (preview : Option String) (nowMs : Nat) : Result Token :=
  let remaining := (expiresAtMs - nowMs) / 1000
  if remaining < 1 then .error denied
  else .ok ⟨request.playbackId, profile, nowMs, min playbackTtlSeconds remaining, preview⟩

/-! ## Operations -/

/-- A question to the chain or to the provider. -/
inductive Query : Type → Type
  | publication (publicationId : String) : Query (Json × String)
  | entitlement (accountId publicationId : String) (block : Option String) : Query Json
  | device (accountId sessionPublicKey : String) : Query Json
  /-- The final access key has full access. -/
  | accessKey (accountId publicKey : String) : Query Bool
  /-- `verifyNep413Message`, with the access key it asks for. -/
  | wallet (certificate proof : JsValue) (accountId : String) : Query Bool
  | playback (stream : Bool) (playbackId : String) : Query (Result ProviderPlayback)

/-- A question with its answer. -/
inductive Reading where
  | publication (publicationId : String) (value : Json)
  | entitlement (accountId publicationId : String) (value : Json)
  | device (accountId sessionPublicKey : String) (value : Json)
  | accessKey (accountId publicKey : String) (full : Bool)
  | wallet (certificate proof : JsValue) (accountId : String) (proven : Bool)
  | playback (stream : Bool) (playbackId : String) (result : Result ProviderPlayback)

def Query.reading : {β : Type} → Query β → β → Reading
  | _, .publication publicationId, answer => .publication publicationId answer.1
  | _, .entitlement accountId publicationId _, answer => .entitlement accountId publicationId answer
  | _, .device accountId sessionPublicKey, answer => .device accountId sessionPublicKey answer
  | _, .accessKey accountId publicKey, answer => .accessKey accountId publicKey answer
  | _, .wallet certificate proof accountId, answer => .wallet certificate proof accountId answer
  | _, .playback stream playbackId, answer => .playback stream playbackId answer

/-- What was decided: a token of a request, or a provider policy for a ticket. -/
inductive Decided where
  | token (request : PlaybackV2Request) (outcome : Result Token)
  | policy (stream : Bool) (playbackId : String) (outcome : Result (Option String))

inductive LocalOp : Type → Type
  /-- A request arrives; the answer is its number. -/
  | accept : LocalOp Nat
  | now : LocalOp Nat
  | digest (value : String) : LocalOp String
  | limitRate (key : String) : LocalOp Bool
  | requireActiveBeta : LocalOp (Result PUnit.{1})
  /-- `playbackCacheGet` -/
  | cacheGet (key : String) : LocalOp (Option CachedValue)
  | sign : LocalOp Unit
  | decide (decided : Decided) : LocalOp Unit

/-- An operation: a question comes with what is stored of its answer at the time it arrives. -/
inductive EdgeOp (β : Type) : Type where
  | own (op : LocalOp β)
  | ask (query : Query β) (store : β → Nat → Option CacheEntry)

structure NumberedOp (β : Type) where
  number : Nat
  op : EdgeOp β

abbrev EdgeHandler (α : Type) : Type 1 := Handler EdgeOp String α

/-! ## The handler -/

section Issue

variable (library : PlaybackLibrary) (env : PlaybackV2Env) (request : PlaybackV2Request)

/-- `playbackCacheKey` -/
def awaitCacheKey (kind value : String) : EdgeHandler String := do
  let digest ← Handler.perform "internal_error" (.own (.digest value))
  return cacheKeyOf env.versionId kind digest

def lookUp (key : String) : EdgeHandler (Option CachedValue) :=
  Handler.perform "internal_error" (.own (.cacheGet key))

/-- `verifyPlaybackV2Proofs` of a wallet's certificate. -/
def verifyWalletProof (signature nonce : String) (expiresAtMs : Nat) : EdgeHandler Nat := do
  let key ← awaitCacheKey env "certificate" (request.grantSource.text library.platform)
  match ← lookUp key with
  | some .proven => return expiresAtMs
  | _ => do
      Handler.ofExcept (checkWalletProof signature nonce)
      let proven ← Handler.perform Playback.unavailable (.ask
        (.wallet (.object request.certificate) request.certificateProof request.accountId)
        fun proven nowMs =>
          if proven then
            some ⟨key, .proven, min (nowMs + deviceCertificateCacheMs) expiresAtMs⟩
          else none)
      Handler.ofExcept (require (proven = true) denied)
      return expiresAtMs

/-- `verifyMarketDeviceProof` -/
def verifyMarketDeviceProof (signedDelegate : Option String) : EdgeHandler Nat := do
  let key ← awaitCacheKey env "market-device" (request.grantSource.text library.platform)
  match ← lookUp key with
  | some (.deviceExpiry expiresAtMs) => return expiresAtMs
  | _ => do
      let device ← Handler.perform Playback.unavailable
        (.ask (.device request.accountId request.sessionPublicKey) fun _ _ => none)
      let nowMs ← Handler.perform "internal_error" (.own .now)
      let (expiresAtMs, authorizing) ← Handler.ofExcept (checkMarketDevice request device.val nowMs)
      let publicKey ← Handler.ofExcept (devicePublicKey library request signedDelegate authorizing)
      let full ← Handler.perform Playback.unavailable (.ask (.accessKey request.accountId publicKey)
        fun full nowMs =>
          if full then
            some ⟨key, .deviceExpiry expiresAtMs, min (nowMs + deviceCertificateCacheMs) expiresAtMs⟩
          else none)
      Handler.ofExcept (require (full = true) denied)
      return expiresAtMs

/-- `verifyPlaybackV2Proofs`; the result is the time the grant ends. -/
def verifyPlaybackV2Proofs : EdgeHandler Nat := do
  Handler.ofExcept (verifyEd25519Signature library.platform request.sessionPublicKey
    request.requestSignature (canonicalMessage env request))
  match request.proof with
  | .wallet _ signature nonce expiresAtMs =>
    verifyWalletProof library env request signature nonce expiresAtMs
  | .market signedDelegate => verifyMarketDeviceProof library env request signedDelegate

/-- The publication with its profile, and the block it was read at. -/
def readPublication : EdgeHandler (Json × String × Option String) := do
  let key ← awaitCacheKey env "publication" request.publicationId
  match ← lookUp key with
  | some (.publication value) => do
      let profile ← Handler.ofExcept (checkPublication env request value.val)
      return (value, profile, none)
  | _ => do
      let (value, block) ← Handler.perform Playback.unavailable (.ask (.publication request.publicationId)
        fun answer nowMs => match checkPublication env request answer.1.val with
          | .ok _ => some ⟨key, .publication answer.1, nowMs + publicationCacheMs⟩
          | .error _ => none)
      let profile ← Handler.ofExcept (checkPublication env request value.val)
      return (value, profile, some block)

def readEntitlement (publication : Json) (block : Option String) : EdgeHandler Bool := do
  let tupleHash ← Handler.perform "internal_error" (.own (.digest publication.val.canonicalJson))
  let key ← awaitCacheKey env "entitlement"
    (entitlementText request.accountId request.publicationId tupleHash)
  match ← lookUp key with
  | some (.entitled entitled) => return entitled
  | _ => do
      let value ← Handler.perform Playback.unavailable
        (.ask (.entitlement request.accountId request.publicationId block) fun answer nowMs =>
          let value := CachedValue.entitled (isTrue answer.val)
          some ⟨key, value, nowMs + value.lifetimeMs⟩)
      return isTrue value.val

/-- The provider's policy of a playback id, from the cache or asked again. -/
def askProviderPolicy (key : String) (stream : Bool) (playbackId : String) :
    EdgeHandler (Option String) := do
  let playback ← Handler.perform "provider_unavailable" (.ask (.playback stream playbackId)
    fun answer nowMs => match checkProviderPolicy library answer with
      | .ok preview => some ⟨key, .policy preview, nowMs + providerPolicyCacheMs⟩
      | .error _ => none)
  Handler.ofExcept (checkProviderPolicy library playback)

/-- `readStatelessPlaybackAuthorization`: the profile and the preview. -/
def readStatelessPlaybackAuthorization : EdgeHandler (String × Option String) := do
  let (publication, profile, block) ← readPublication env request
  let entitled ← readEntitlement env request publication block
  Handler.ofExcept (require (entitled = true) denied)
  let key ← awaitCacheKey env "provider-policy" (policyText false request.playbackId)
  let cached ← lookUp key
  if mediaProfileFamily (some profile) = some .stream then .raise denied
  else match cached with
    | some (.policy preview) => return (profile, preview)
    | _ => do
        let preview ← askProviderPolicy library key false request.playbackId
        return (profile, preview)

/-- `enforcePublicBetaAccountRateLimit` -/
def enforceRateLimit : EdgeHandler PUnit.{1} :=
  if env.publicBeta = false ∧ env.publicTestnet = false then return ⟨⟩
  else do
    let allowed ← Handler.perform "runtime_not_configured"
      (.own (.limitRate ("/v2/playback-tokens:account:" ++ request.accountId)))
    Handler.ofExcept (require (allowed = true) "rate_limited")

/-- `requireActivePublicTestnetBetaForPlayback` -/
def requireActiveBeta : EdgeHandler PUnit.{1} :=
  if env.publicBeta = false ∧ env.publicTestnet = false then return ⟨⟩
  else do
    let result ← Handler.perform "near_job_query_failed" (.own .requireActiveBeta)
    Handler.ofExcept result

/-- From the grant to the token. -/
def authorizeToken : EdgeHandler Token := do
  let expiresAtMs ← verifyPlaybackV2Proofs library env request
  let (profile, preview) ← readStatelessPlaybackAuthorization library env request
  let nowMs ← Handler.perform "internal_error" (.own .now)
  let token ← Handler.ofExcept (tokenFor request profile expiresAtMs preview nowMs)
  Handler.perform "runtime_not_configured" (.own .sign)
  return token

/-- `issueStatelessPlaybackToken` of a parsed request. -/
def issueStatelessPlaybackToken : EdgeHandler Unit := do
  enforceRateLimit env request
  requireActiveBeta env
  let outcome ← ((do
      let token ← authorizeToken library env request
      return .ok token : EdgeHandler (Result Token))).rescue fun code => .done (.error code)
  Handler.perform "internal_error" (.own (.decide (.token request outcome)))

/-- The policy lookup of `issueTicketPlaybackToken`. -/
def ticketProviderPolicy (stream : Bool) (playbackId : String) : EdgeHandler Unit := do
  let key ← awaitCacheKey env "provider-policy" (policyText stream playbackId)
  let outcome ← ((do
      match ← lookUp key with
      | some (.policy preview) => return .ok preview
      | _ => do
          let preview ← askProviderPolicy library key stream playbackId
          return .ok preview : EdgeHandler (Result (Option String)))).rescue
    fun code => .done (.error code)
  Handler.perform "internal_error" (.own (.decide (.policy stream playbackId outcome)))

end Issue

/-! ## The system -/

/-- One line of the journal. -/
inductive Fact where
  | accepted (number atMs : Nat)
  | read (number : Nat) (reading : Reading) (atMs : Nat)
  | decided (number : Nat) (decided : Decided) (atMs : Nat)

structure Edge where
  clockMs : Nat
  cache : List CacheEntry
  requests : Nat
  journal : List Fact

def Edge.log (w : Edge) (fact : Fact) : Edge := { w with journal := w.journal ++ [fact] }

/-- What the outside gives an operation. -/
structure EdgeInput where
  nowMs : Nat
  allowed : Bool
  beta : Result PUnit.{1}
  view : Json
  block : String
  proven : Bool
  playback : Result ProviderPlayback

def EdgeInput.answer (i : EdgeInput) : {β : Type} → Query β → β
  | _, .publication _ => (i.view, i.block)
  | _, .entitlement .. => i.view
  | _, .device .. => i.view
  | _, .accessKey .. => i.proven
  | _, .wallet .. => i.proven
  | _, .playback .. => i.playback

def localExec (platform : Platform) (n : Nat) (i : EdgeInput) (w : Edge) :
    {β : Type} → LocalOp β → β × Edge
  | _, .accept => (w.requests, { w.log (.accepted w.requests i.nowMs) with
      requests := w.requests + 1 })
  | _, .now => (i.nowMs, w)
  | _, .digest value => (digestOf platform value, w)
  | _, .limitRate _ => (i.allowed, w)
  | _, .requireActiveBeta => (i.beta, w)
  | _, .cacheGet key => (RecencyCache.get w.cache key i.nowMs, { w with
      cache := RecencyCache.touch w.cache key i.nowMs })
  | _, .sign => ((), w)
  | _, .decide decided => ((), w.log (.decided n decided i.nowMs))

def edgeExec (platform : Platform) (n : Nat) (i : EdgeInput) (w : Edge) {β : Type}
    (op : EdgeOp β) : β × Edge :=
  match op with
  | .own op => localExec platform n i w op
  | .ask query store =>
    let answer := i.answer query
    let w := w.log (.read n (query.reading answer) i.nowMs)
    (answer, match store answer i.nowMs with
      | none => w
      | some entry => { w with
          cache := RecencyCache.insert playbackCacheMaxRecords w.cache entry i.nowMs })

/-- The clock does not run backwards. -/
def exec (platform : Platform) (β : Type) (op : NumberedOp β) (i : EdgeInput) (w : Edge) :
    Option (β × Edge) :=
  if w.clockMs ≤ i.nowMs then
    some (edgeExec platform op.number i { w with clockMs := i.nowMs } op.op)
  else none

inductive Incoming where
  | stateless (request : PlaybackV2Request)
  /-- A ticket whose decision has named its publication's playback id. -/
  | ticket (stream : Bool) (playbackId : String) (isPlayback : isUrlWord 6 128 playbackId = true)

def handle (library : PlaybackLibrary) (env : PlaybackV2Env) : Incoming → EdgeHandler Unit
  | .stateless request => issueStatelessPlaybackToken library env request
  | .ticket stream playbackId _ => ticketProviderPolicy library env stream playbackId

def edgeSystem (library : PlaybackLibrary) (env : PlaybackV2Env) :
    System Edge EdgeInput NumberedOp String Unit Incoming Empty where
  exec := exec library.platform
  handle := fun incoming => do
    let number ← Handler.perform "internal_error" ⟨0, .own .accept⟩
    (handle library env incoming).lift fun op => ⟨number, op⟩
  solo := fun _ => false
  environment := fun e _ => nomatch e

/-- A fresh isolate. -/
def start (clockMs : Nat) : Edge := ⟨clockMs, [], 0, []⟩

end Youtick.Bridge.Stateless
