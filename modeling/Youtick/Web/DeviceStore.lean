import Youtick.Lib.Base64
import Youtick.Lib.LookupMap
import Youtick.PaymentService.Formats
import Youtick.PaymentService.Refunds
import Youtick.Relayer.CanonicalJson
import Youtick.Relayer.Market

/-!
# Web: the store of device sessions

`lib/device-session.ts` and `lib/watch-progress.ts` keep one object store: the revision, a session for
each account, and watch positions. Here are its data, the checks of a stored session, and the
transactions, each a function of the whole store. Signing keys never leave the browser; a `StoredKey`
is what the code can see of one.
-/

set_option autoImplicit false

namespace Youtick.Web.Sessions

open Youtick.Lib
open Youtick.MarketV2 (isBase58Char)
open Youtick.PaymentService (number isPositiveDecimal)
open Youtick.Relayer (JsValue JsString Platform sha256Hex)

/-! ## Sessions -/

/-- `DEVICE_SESSION_LIFETIME_MS` -/
def deviceSessionLifetimeMs : Nat := 8 * 60 * 60 * 1000

/-- `PLAYBACK_DEVICE_DURATION_MS` -/
def playbackDeviceDurationMs : String := "2592000000"

/-- What the versions 2 and 3 of a certificate have of their own. -/
inductive CertificateKind where
  | legacy (issuedAtMs expiresAtMs : String)
  | market (accountId authorizationDurationMs : String)

/-- `DeviceSessionCertificate` -/
structure DeviceCertificate where
  domain : String
  network : String
  contractId : String
  sessionPublicKey : String
  originHash : String
  scopes : List String
  kind : CertificateKind

inductive CertificateProof where
  | wallet (accountId publicKey signature nonce : String)
  | market (accountId : String) (signedDelegate : Option String)

def CertificateProof.accountId : CertificateProof → String
  | .wallet accountId _ _ _ => accountId
  | .market accountId _ => accountId

/-- A `CryptoKey`; `handle` stands for the key itself. -/
structure StoredKey where
  handle : Nat
  type : String
  extractable : Bool
  algorithm : String
  usages : List String

structure DeviceSession where
  certificate : DeviceCertificate
  proof : CertificateProof
  privateKey : StoredKey

/-- `certificate.version === '3'` -/
def DeviceSession.isMarket (session : DeviceSession) : Bool :=
  match session.certificate.kind with
  | .legacy _ _ => false
  | .market _ _ => true

def text (value : String) : JsValue := .string (.ofString value)

def DeviceCertificate.fields (certificate : DeviceCertificate) : List (JsString × JsValue) :=
  [(.ofString "domain", text certificate.domain), (.ofString "network", text certificate.network),
    (.ofString "contract_id", text certificate.contractId),
    (.ofString "session_public_key", text certificate.sessionPublicKey),
    (.ofString "origin_hash", text certificate.originHash),
    (.ofString "scopes", .array (certificate.scopes.map text))] ++
  match certificate.kind with
  | .legacy issuedAtMs expiresAtMs =>
    [(.ofString "version", text "2"), (.ofString "issued_at_ms", text issuedAtMs),
      (.ofString "expires_at_ms", text expiresAtMs)]
  | .market accountId authorizationDurationMs =>
    [(.ofString "version", text "3"), (.ofString "account_id", text accountId),
      (.ofString "authorization_duration_ms", text authorizationDurationMs)]

/-- `canonicalDeviceCertificate` -/
def canonicalDeviceCertificate (certificate : DeviceCertificate) : String :=
  (JsValue.object certificate.fields).canonicalJson

/-! ## Checks -/

/-- `PUBLIC_KEY_PATTERN` -/
def isPublicKey (value : String) : Bool :=
  (stripPrefix value "ed25519:").any fun encoded =>
    decide (32 ≤ encoded.toList.length) && decide (encoded.toList.length ≤ 64) &&
      encoded.toList.all isBase58Char

/-- `isSignature` -/
def isSignature (value : String) : Bool :=
  (Base64.forgivingDecode value).any fun bytes => decide (bytes.length = 64)

/-- `^[1-9][0-9]{12,15}$` -/
def isInstant (value : String) : Bool :=
  isPositiveDecimal 15 value && decide (13 ≤ value.toList.length)

/-- `^[A-Za-z0-9_-]{43}$` -/
def isNonce (value : String) : Bool :=
  decide (value.toList.length = 43) &&
    value.toList.all fun c => isAsciiAlphanumeric c || c == '_' || c == '-'

/-- The page's network, contract and origin. -/
structure SessionEnv where
  network : String
  contractId : String
  origin : String

/-- The checks before the digest of the origin. -/
def identityOk (env : SessionEnv) (accountId : String) (session : DeviceSession) : Bool :=
  decide (session.certificate.domain = "youtick.device-session") &&
    decide (session.certificate.network = env.network) &&
    decide (session.certificate.contractId = env.contractId) &&
    decide (session.proof.accountId = accountId)

def keyOk (key : StoredKey) : Bool :=
  decide (key.type = "private") && !key.extractable && decide (key.algorithm = "Ed25519") &&
    decide (key.usages = ["sign"])

/-- The checks of the certificate's own version. -/
def kindOk (accountId : String) (session : DeviceSession) (nowMs : Nat) : Bool :=
  match session.certificate.kind, session.proof with
  | .legacy issuedAtMs expiresAtMs, .wallet _ publicKey signature nonce =>
    isInstant issuedAtMs && isInstant expiresAtMs && decide (number issuedAtMs ≤ nowMs) &&
      decide (nowMs < number expiresAtMs) &&
      decide (number expiresAtMs = number issuedAtMs + deviceSessionLifetimeMs) &&
      isPublicKey publicKey && isSignature signature && isNonce nonce
  | .market account authorizationDurationMs, .market _ _ =>
    decide (account = accountId) &&
      decide (authorizationDurationMs = playbackDeviceDurationMs)
  | _, _ => false

/-- The checks of a stored session after the digest of the origin. -/
def sessionOk (accountId originHash : String) (session : DeviceSession) (nowMs : Nat) : Bool :=
  decide (session.certificate.originHash = originHash) &&
    decide (session.certificate.scopes = ["play"]) && keyOk session.privateKey &&
    isPublicKey session.certificate.sessionPublicKey && kindOk accountId session nowMs

/-- What the Market says of a device; a time that is no string has none. -/
structure DeviceRecord where
  sessionPublicKey : String
  certificateSha256 : String
  authorizedAtMs : Option String
  expiresAtMs : Option String

/-- `^[0-9]{1,16}$` -/
def isTime (value : String) : Bool :=
  decide (1 ≤ value.toList.length) && decide (value.toList.length ≤ 16) &&
    value.toList.all isAsciiDigit

/-- The Market has authorized the device of the session. -/
def deviceOk (session : DeviceSession) (certificateSha256 : String) (device : DeviceRecord)
    (nowMs : Nat) : Bool :=
  decide (device.sessionPublicKey = session.certificate.sessionPublicKey) &&
    decide (device.certificateSha256 = certificateSha256) &&
    device.authorizedAtMs.any fun authorizedAtMs =>
      isTime authorizedAtMs && device.expiresAtMs.any fun expiresAtMs =>
        isTime expiresAtMs &&
          decide (number expiresAtMs = number authorizedAtMs + number playbackDeviceDurationMs) &&
          decide (nowMs < number expiresAtMs)

/-! ## The store -/

/-- `LivepeerPlaybackInput`: what a watch position is kept for. -/
structure PlaybackInput where
  accountId : String
  jobId : String
  generation : Nat
  playbackId : String
  deriving DecidableEq

structure WatchPosition where
  position : Rat
  duration : Rat
  updatedAt : Nat

structure Store where
  revision : Option Nat
  sessions : LookupMap String DeviceSession
  positions : LookupMap PlaybackInput WatchPosition

def Store.current (store : Store) : Nat := store.revision.getD 0

/-- The key of the device that is signed in. -/
def Store.deviceKey (store : Store) (accountId : String) : Option String :=
  (store.sessions.get accountId).map fun session => session.certificate.sessionPublicKey

/-! ## Transactions -/

/-- The session that `saveSession` keeps when it may reuse the device of the account. -/
def Store.kept (store : Store) (accountId : String) (reuseDevice : Bool) : Option DeviceSession :=
  (store.sessions.get accountId).filter fun existing => reuseDevice && existing.isMarket

/-- `store.put(session, accountKey)` -/
def Store.put (store : Store) (session : DeviceSession) : Store :=
  { store with sessions := store.sessions.insert session.proof.accountId session }

/-- What `updateDeviceSession` deletes: everything, one account's session, or nothing. -/
inductive Update where
  | clear
  | clearAccount (accountId : String)
  | suspend

/-- The transaction of `updateDeviceSession`. -/
def Store.update (store : Store) (update : Update) : Store :=
  let revision := some (store.current + 1)
  match update with
  | .clear => ⟨revision, LookupMap.empty, LookupMap.empty⟩
  | .clearAccount accountId => ⟨revision, store.sessions.remove accountId, store.positions⟩
  | .suspend => ⟨revision, store.sessions, store.positions⟩

/-- `resumablePosition`; `resumable` compares the position and the rest of the video, as doubles. -/
def resumablePosition (resumable : Rat → Rat → Bool) (record : WatchPosition) :
    Option WatchPosition :=
  if 0 < record.updatedAt ∧ resumable record.position record.duration = true then some record
  else none

/-- An open watch: what it has read of the store, and the request that has opened it. -/
structure Watch where
  input : PlaybackInput
  revision : Nat
  deviceKey : String
  opener : Nat
  lastWrite : Nat

/-- The transaction of `save` writes only while the revision and the device are the same. -/
def Store.sameDevice (store : Store) (watch : Watch) : Bool :=
  decide (store.current = watch.revision) &&
    decide (store.deviceKey watch.input.accountId = some watch.deviceKey)

/-- A position that is not worth resuming at is deleted. -/
def Store.setPosition (store : Store) (input : PlaybackInput) (position : Option WatchPosition) :
    Store :=
  { store with
    positions := match position with
      | some position => store.positions.insert input position
      | none => store.positions.remove input }

end Youtick.Web.Sessions
