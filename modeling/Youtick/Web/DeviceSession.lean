import Youtick.Lib.Handlers
import Youtick.Web.DeviceStore

/-!
# Web: device sessions in several tabs

The operations of `lib/device-session.ts` and `lib/watch-progress.ts`, from any number of tabs of one
origin. A tab counts its invalidations in its generation, remembers the newest revision it has seen and
shares the work that is pending; the store is shared by all tabs. Every `await` lets other operations
and broadcasts in between. The history records what was read, written and invalidated, newest first;
no program reads it.
-/

set_option autoImplicit false

namespace Youtick.Web.Sessions

open Youtick.Lib
open Youtick.PaymentService (number isAccountId)
open Youtick.Relayer (Platform sha256Hex)

/-! ## Operations -/

/-- What a wallet answers: none when it has not the shape of a proof. -/
structure WalletProof where
  accountId : String
  publicKey : String
  signature : String

/-- Work on a session under a key of `pending`: begun by this request, or by one before it. -/
structure Pending where
  joined : Bool
  work : Nat
  generation : Nat

inductive SessionOp : Type → Type
  /-- A request arrives; the answer is its number. -/
  | accept : SessionOp Nat
  /-- `generation` and `observedRevision` -/
  | look : SessionOp (Nat × Option Nat)
  | begin (key : String) : SessionOp Pending
  | settle (key : String) (work : Nat) (result : Result DeviceSession) : SessionOp Unit
  /-- Awaits the work of another request. -/
  | join (work : Nat) : SessionOp (Result DeviceSession)
  | watchSessionChanges : SessionOp Unit
  /-- The end of `readStored`. -/
  | observe (revision : Nat) : SessionOp Unit
  /-- `invalidate`; the answer is the new generation. -/
  | invalidate : SessionOp Nat
  /-- The end of `updateDeviceSession`. -/
  | announce (revision : Nat) : SessionOp Unit
  | now : SessionOp Nat
  | digest (value : String) : SessionOp String
  | generateKey : SessionOp StoredKey
  | exportKey (key : StoredKey) : SessionOp String
  | nonce : SessionOp String
  | sign (message recipient nonce : String) : SessionOp (Option WalletProof)
  /-- The private key signs a challenge that the public key verifies. -/
  | proveKey (session : DeviceSession) : SessionOp Bool
  | viewDevice (accountId sessionPublicKey : String) : SessionOp (Option DeviceRecord)
  | readStored (accountId : String) : SessionOp (Nat × Option DeviceSession)
  /-- None when the transaction was cancelled. -/
  | save (session : DeviceSession) (revision generation : Nat) (reuseDevice : Bool) :
      SessionOp (Option DeviceSession)
  /-- The answer is the new revision. -/
  | update (update : Update) : SessionOp Nat
  /-- `onDeviceSessionCleared` of a new watch. -/
  | listen : SessionOp Nat
  | readProgress (input : PlaybackInput) : SessionOp (Nat × Option String × Option WatchPosition)
  /-- False when the watch was stopped meanwhile. -/
  | openWatch (watcher : Nat) (watch : Watch) : SessionOp Bool
  /-- The time of a save that is due. -/
  | startSave (watcher : Nat) (force : Bool) : SessionOp (Option Nat)
  | savePosition (watcher : Nat) (record : WatchPosition) : SessionOp Unit
  | stop (watcher : Nat) : SessionOp Unit
  | unsubscribe (watcher : Nat) : SessionOp Unit
  /-- `preparePlaybackDevice` returns. -/
  | resolve (accountId sessionPublicKey : String) : SessionOp Unit

structure NumberedOp (β : Type) where
  tab : Nat
  number : Nat
  op : SessionOp β

abbrev SessionHandler (α : Type) : Type 1 := Handler SessionOp String α

def storageUnavailable : String := "device_session_storage_unavailable"
def cancelled : String := "device_session_cancelled"

/-! ## The programs of `lib/device-session.ts` -/

section Programs

variable (env : SessionEnv)

/-- `if (expectedGeneration !== generation) throw …` -/
def requireGeneration (expected : Nat) : SessionHandler PUnit.{1} := do
  let (generation, _) ← Handler.perform cancelled .look
  Handler.ofExcept (require (expected = generation) cancelled)

def readStored (accountId : String) : SessionHandler (Nat × Option DeviceSession) := do
  Handler.perform storageUnavailable .watchSessionChanges
  let (revision, session) ← Handler.perform storageUnavailable (.readStored accountId)
  Handler.perform storageUnavailable (.observe revision)
  return (revision, session)

def saveSession (session : DeviceSession) (revision expectedGeneration : Nat)
    (reuseDevice : Bool) : SessionHandler DeviceSession := do
  let saved ← Handler.perform storageUnavailable
    (.save session revision expectedGeneration reuseDevice)
  Handler.ofExcept (expect saved cancelled)

/-- `updateDeviceSession`; the result is the generation it has invalidated to. -/
def updateDeviceSession (update : Update) : SessionHandler Nat := do
  let generation ← Handler.perform storageUnavailable .invalidate
  let revision ← Handler.perform storageUnavailable (.update update)
  Handler.perform storageUnavailable (.announce revision)
  return generation

/-- The `try` of `readValidDeviceSession`. -/
def validate (accountId : String) (expectedGeneration revision : Nat) (session : DeviceSession) :
    SessionHandler (Option DeviceSession) := do
  Handler.ofExcept (require (identityOk env accountId session = true) "invalid_device_session")
  let originHash ← Handler.perform "invalid_device_session" (.digest env.origin)
  let nowMs ← Handler.perform "invalid_device_session" .now
  Handler.ofExcept (require (sessionOk accountId originHash session nowMs = true)
    "invalid_device_session")
  let proven ← Handler.perform "invalid_device_session" (.proveKey session)
  Handler.ofExcept (require (proven = true) "invalid_device_session")
  let (generation, observedRevision) ← Handler.perform "invalid_device_session" .look
  return if expectedGeneration ≠ generation ∨ observedRevision ≠ some revision then none
    else some session

/-- `readValidDeviceSession`: the session, and the generation of the caller if it was armed again. -/
def readValidDeviceSession (accountId : String) :
    SessionHandler (Option DeviceSession × Option Nat) := do
  let (expectedGeneration, _) ← Handler.perform cancelled .look
  let (revision, session) ← readStored accountId
  match session with
  | none => return (none, none)
  | some session => do
      let outcome ← ((do
          let found ← validate env accountId expectedGeneration revision session
          return some found : SessionHandler (Option (Option DeviceSession)))).rescue
        fun _ => .done none
      match outcome with
      | some found => return (found, none)
      | none => do
          let (generation, _) ← Handler.perform cancelled .look
          if expectedGeneration ≠ generation then return (none, none)
          else do
            -- the clear was asked for by the validation itself, so the caller goes on
            let generation ← updateDeviceSession (.clearAccount accountId)
            return (none, some generation)

/-- A key pair: the private key and the text of the public one. -/
def createKey : SessionHandler (StoredKey × String) := do
  let key ← Handler.perform "device_session_crypto_unavailable" .generateKey
  let sessionPublicKey ← Handler.perform "device_session_crypto_unavailable" (.exportKey key)
  return (key, sessionPublicKey)

/-- The checks of a wallet's proof. -/
def proofOk (accountId : Option String) (proof : WalletProof) : Bool :=
  (accountId.all fun accountId => decide (proof.accountId = accountId)) &&
    isAccountId proof.accountId && isPublicKey proof.publicKey && isSignature proof.signature

/-- A new session of the wallet, for this account or for the one that signs. -/
def signSession (accountId : Option String) (readFrom : String) (expectedGeneration : Nat) :
    SessionHandler DeviceSession := do
  let (revision, _) ← readStored readFrom
  let key ← Handler.perform "device_session_crypto_unavailable" .generateKey
  let issuedAtMs ← Handler.perform cancelled .now
  let sessionPublicKey ← Handler.perform "device_session_crypto_unavailable" (.exportKey key)
  let originHash ← Handler.perform "device_session_crypto_unavailable" (.digest env.origin)
  let certificate : DeviceCertificate := ⟨"youtick.device-session", env.network, env.contractId,
    sessionPublicKey, originHash, ["play"],
    .legacy (decimal issuedAtMs) (decimal (issuedAtMs + deviceSessionLifetimeMs))⟩
  let nonce ← Handler.perform "device_session_crypto_unavailable" .nonce
  requireGeneration expectedGeneration
  let proof ← Handler.perform "device_session_wallet_unsupported"
    (.sign (canonicalDeviceCertificate certificate) env.contractId nonce)
  let proof ← Handler.ofExcept (expect proof "device_session_wallet_proof_invalid")
  Handler.ofExcept (require (proofOk accountId proof = true) "device_session_wallet_proof_invalid")
  let session : DeviceSession :=
    ⟨certificate, .wallet proof.accountId proof.publicKey proof.signature nonce, key⟩
  requireGeneration expectedGeneration
  let nowMs ← Handler.perform cancelled .now
  Handler.ofExcept (require (nowMs < issuedAtMs + deviceSessionLifetimeMs) cancelled)
  let _ ← saveSession session revision expectedGeneration false
  requireGeneration expectedGeneration
  return session

/-- Work that other requests can join: its outcome is told to them. -/
def shareWork {α : Type} (key : String) (work : Nat) (session : α → DeviceSession)
    (p : SessionHandler α) : SessionHandler α := do
  let outcome ← ((do
      let a ← p
      return .ok a : SessionHandler (Result α))).rescue fun code => .done (.error code)
  Handler.perform cancelled (.settle key work (outcome.map session))
  Handler.ofExcept outcome

def joinWork (work : Nat) : SessionHandler DeviceSession := do
  let outcome ← Handler.perform cancelled (.join work)
  Handler.ofExcept outcome

/-- The work of `prepareDeviceSession`. An account that is not given is the one that signs. -/
def prepareWork (accountId : Option String) (generation : Nat) : SessionHandler DeviceSession :=
  match accountId.filter fun accountId => decide (accountId ≠ "") with
  | none => signSession env none (accountId.getD "") generation
  | some accountId => do
      let (existing, armed) ← readValidDeviceSession env accountId
      let expectedGeneration := armed.getD generation
      requireGeneration expectedGeneration
      match existing with
      | some session => return session
      | none => signSession env (some accountId) accountId expectedGeneration

/-- `prepareDeviceSession`; `aborted` is its signal. -/
def prepareDeviceSession (accountId : Option String) (aborted : Bool) :
    SessionHandler DeviceSession := do
  Handler.ofExcept (require (aborted = false) "aborted")
  let key := accountId.getD "connect"
  let pending ← Handler.perform cancelled (.begin key)
  if pending.joined then joinWork pending.work
  else shareWork key pending.work id (prepareWork env accountId pending.generation)

def getDeviceSession (accountId : String) : SessionHandler (Option DeviceSession) := do
  let (expectedGeneration, _) ← Handler.perform cancelled .look
  let (found, _) ← readValidDeviceSession env accountId
  match found with
  | none => return none
  | some session =>
    if session.isMarket = false then return some session
    else do
      let device ← Handler.perform "playback_authorization_unavailable"
        (.viewDevice accountId session.certificate.sessionPublicKey)
      requireGeneration expectedGeneration
      match device.filter fun device =>
          decide (device.sessionPublicKey = session.certificate.sessionPublicKey) with
      | none => return none
      | some device => do
          let certificateSha256 ← Handler.perform cancelled
            (.digest (canonicalDeviceCertificate session.certificate))
          let nowMs ← Handler.perform cancelled .now
          if deviceOk session certificateSha256 device nowMs = false then return none
          else do
            let (_, current) ← readStored accountId
            requireGeneration expectedGeneration
            Handler.ofExcept (require (current.map (·.certificate.sessionPublicKey) =
              some session.certificate.sessionPublicKey) cancelled)
            return some session

/-- `PlaybackSessionAuthorization` -/
structure PlaybackSessionAuthorization where
  sessionPublicKey : String
  certificateSha256 : String
  authorizationDurationMs : String

/-- The work of `preparePlaybackDevice`: the session, and the generation of the caller. -/
def playbackWork (accountId : String) (generation : Nat) :
    SessionHandler (DeviceSession × Nat) := do
  let (existing, armed) ← readValidDeviceSession env accountId
  let expectedGeneration := armed.getD generation
  requireGeneration expectedGeneration
  match existing.filter DeviceSession.isMarket with
  | some session => return (session, expectedGeneration)
  | none => do
      let (revision, _) ← readStored accountId
      let (key, sessionPublicKey) ← createKey
      let originHash ← Handler.perform "device_session_crypto_unavailable" (.digest env.origin)
      let certificate : DeviceCertificate := ⟨"youtick.device-session", env.network,
        env.contractId, sessionPublicKey, originHash, ["play"],
        .market accountId playbackDeviceDurationMs⟩
      let saved ← saveSession ⟨certificate, .market accountId none, key⟩ revision
        expectedGeneration true
      return (saved, expectedGeneration)

/-- What `preparePlaybackDevice` does with the session: it is read once more. -/
def confirmPlaybackDevice (accountId : String) (session : DeviceSession)
    (expectedGeneration : Nat) : SessionHandler PlaybackSessionAuthorization := do
  let certificateHash ← Handler.perform cancelled
    (.digest (canonicalDeviceCertificate session.certificate))
  let (_, current) ← readStored accountId
  requireGeneration expectedGeneration
  Handler.ofExcept (require (current.map (·.certificate.sessionPublicKey) =
    some session.certificate.sessionPublicKey) cancelled)
  Handler.perform cancelled (.resolve accountId session.certificate.sessionPublicKey)
  return ⟨session.certificate.sessionPublicKey, certificateHash, playbackDeviceDurationMs⟩

def preparePlaybackDevice (accountId : String) : SessionHandler PlaybackSessionAuthorization := do
  Handler.ofExcept (require (isAccountId accountId = true) "device_session_account_invalid")
  let key := "payment:" ++ accountId
  let pending ← Handler.perform cancelled (.begin key)
  if pending.joined then do
    let session ← joinWork pending.work
    confirmPlaybackDevice accountId session pending.generation
  else do
    let (session, expectedGeneration) ←
      shareWork key pending.work Prod.fst (playbackWork env accountId pending.generation)
    confirmPlaybackDevice accountId session expectedGeneration

def rememberPlaybackDelegate (accountId : String) (authorization : PlaybackSessionAuthorization)
    (signedDelegate : String) : SessionHandler Unit := do
  let (expectedGeneration, _) ← Handler.perform cancelled .look
  let (revision, session) ← readStored accountId
  let session ← Handler.ofExcept (expect (session.filter fun session => session.isMarket &&
    decide (session.certificate.sessionPublicKey = authorization.sessionPublicKey)) cancelled)
  let certificateSha256 ← Handler.perform cancelled
    (.digest (canonicalDeviceCertificate session.certificate))
  Handler.ofExcept (require (certificateSha256 = authorization.certificateSha256) cancelled)
  let _ ← saveSession ⟨session.certificate, .market accountId (some signedDelegate),
    session.privateKey⟩ revision expectedGeneration false
  return ()

/-! ## The programs of `lib/watch-progress.ts` -/

/-- `destroy` -/
def destroyWatch (watcher : Nat) : SessionHandler Unit := do
  Handler.perform cancelled (.stop watcher)
  Handler.perform cancelled (.unsubscribe watcher)

/-- `openWatchProgress`: the watch and the position to resume at. -/
def openWatchProgress (resumable : Rat → Rat → Bool) (number : Nat) (input : PlaybackInput)
    (aborted : Bool) : SessionHandler (Option (Nat × Option WatchPosition)) := do
  let (_, expectedRevision) ← Handler.perform cancelled .look
  match expectedRevision, aborted with
  | none, _ => return none
  | some _, true => return none
  | some expectedRevision, false => do
      let watcher ← Handler.perform cancelled .listen
      let opened ← ((do
          let (revision, deviceKey, position) ← Handler.perform "progress_unavailable"
            (.readProgress input)
          match deviceKey.filter fun key => decide (key ≠ "") with
          | none => return none
          | some deviceKey =>
            if revision ≠ expectedRevision then return none
            else do
              let active ← Handler.perform "progress_unavailable"
                (.openWatch watcher ⟨input, revision, deviceKey, number, 0⟩)
              return if active then
                some (watcher, position.bind (resumablePosition resumable)) else none :
          SessionHandler (Option (Nat × Option WatchPosition)))).rescue fun _ => .done none
      match opened with
      | some opened => return some opened
      | none => do
          destroyWatch watcher
          return none

/-- `save`; a position or a duration that is not finite is none. -/
def savePosition (watcher : Nat) (position duration : Option Rat) (force : Bool) :
    SessionHandler Unit :=
  match position, duration with
  | some position, some duration =>
    if duration ≤ 0 then return ()
    else do
      let due ← Handler.perform cancelled (.startSave watcher force)
      match due with
      | none => return ()
      | some nowMs => (Handler.perform storageUnavailable
          (.savePosition watcher ⟨position, duration, nowMs⟩)).rescue fun _ => .done ()
  | _, _ => return ()

end Programs

/-! ## Tabs -/

structure Tab where
  generation : Nat
  observedRevision : Option Nat
  pending : LookupMap String Nat
  /-- The key and the outcome of all work that was begun; it has none while it runs. -/
  works : List (String × Option (Result DeviceSession))
  /-- The broadcast channel is open. -/
  watching : Bool
  watchers : Nat
  listeners : List Nat
  stopped : List Nat
  watches : LookupMap Nat Watch

/-- A page that was just loaded. -/
def Tab.cold : Tab := ⟨0, none, LookupMap.empty, [], false, 0, [], [], LookupMap.empty⟩

/-- Every listener is called. -/
def Tab.notify (tab : Tab) : Tab := { tab with stopped := tab.stopped ++ tab.listeners }

/-- `invalidate` -/
def Tab.invalidate (tab : Tab) : Tab :=
  { tab.notify with
    generation := tab.generation + 1
    pending := LookupMap.empty }

/-- A page learns the revision of its first read; a newer one later is a logout. -/
def Tab.observe (tab : Tab) (revision : Nat) : Tab :=
  match tab.observedRevision with
  | none => { tab with observedRevision := some revision }
  | some observed =>
    if observed < revision then { tab.notify with observedRevision := some revision } else tab

/-- `channel.onmessage` -/
def Tab.deliver (tab : Tab) (revision : Nat) : Tab :=
  if tab.observedRevision.getD 0 < revision then
    { tab with observedRevision := some revision }.invalidate
  else tab

def Tab.begin (tab : Tab) (key : String) : Pending × Tab :=
  match tab.pending.get key with
  | some work => (⟨true, work, tab.generation⟩, tab)
  | none => (⟨false, tab.works.length, tab.generation⟩, { tab with
      pending := tab.pending.insert key tab.works.length
      works := tab.works ++ [(key, none)] })

def Tab.settle (tab : Tab) (key : String) (work : Nat) (result : Result DeviceSession) : Tab :=
  { tab with
    works := tab.works.modify work fun begun => (begun.1, some result)
    pending := if tab.pending.get key = some work then tab.pending.remove key else tab.pending }

def Tab.listen (tab : Tab) : Tab :=
  { tab with
    watching := true
    watchers := tab.watchers + 1
    listeners := tab.listeners ++ [tab.watchers] }

/-- A save that is due takes its time down. -/
def Tab.startSave (tab : Tab) (watcher : Nat) (force : Bool) (nowMs : Nat) : Option Nat × Tab :=
  match tab.watches.get watcher with
  | none => (none, tab)
  | some watch =>
    if watcher ∈ tab.stopped ∨ (force = false ∧ nowMs < watch.lastWrite + 5000) then (none, tab)
    else (some nowMs, { tab with
      watches := tab.watches.insert watcher { watch with lastWrite := nowMs } })

/-! ## The system -/

/-- One line of the history. -/
inductive Fact where
  | read (number : Nat) (accountId : String) (revision : Nat) (session : Option DeviceSession)
  | readProgress (number revision : Nat)
  | wroteSession (number : Nat) (session : DeviceSession)
  /-- The request that has opened the watch stands for its writes. -/
  | wrotePosition (opener : Nat) (input : PlaybackInput) (position : Option WatchPosition)
  | updated (update : Update) (revision : Nat)
  | resolved (number : Nat) (accountId sessionPublicKey : String)

structure World where
  tabs : Nat → Tab
  store : Store
  posted : List Nat
  requests : Nat
  history : List Fact

def World.log (w : World) (fact : Fact) : World := { w with history := fact :: w.history }

def World.setTab (w : World) (k : Nat) (tab : Tab) : World :=
  { w with tabs := Function.update w.tabs k tab }

/-- What the outside gives an operation. -/
structure SessionInput where
  nowMs : Nat
  key : StoredKey
  publicKey : String
  nonce : String
  signed : Option WalletProof
  proven : Bool
  device : Option DeviceRecord

/-- The browser: the digest, and the comparison of a position with the rest of a video. -/
structure Browser where
  platform : Platform
  resumable : Rat → Rat → Bool

/-- Operations on the store: each is one transaction. -/
def storeExec (browser : Browser) (n k : Nat) (w : World) :
    {β : Type} → SessionOp β → Option (β × World)
  | _, .readStored accountId =>
    let session := w.store.sessions.get accountId
    some ((w.store.current, session), w.log (.read n accountId w.store.current session))
  | _, .save session revision generation reuseDevice =>
    if w.store.current ≠ revision ∨ generation ≠ (w.tabs k).generation then some (none, w)
    else
      match w.store.kept session.proof.accountId reuseDevice with
      | some existing => some (some existing, w)
      | none => some (some session, { w.log (.wroteSession n session) with
          store := w.store.put session })
  | _, .update update =>
    let store := w.store.update update
    some (store.current, { w.log (.updated update store.current) with store := store })
  | _, .readProgress input =>
    some ((w.store.current, w.store.deviceKey input.accountId, w.store.positions.get input),
      w.log (.readProgress n w.store.current))
  | _, .savePosition watcher record =>
    match (w.tabs k).watches.get watcher with
    | none => some ((), w)
    | some watch =>
      if watcher ∈ (w.tabs k).stopped ∨ w.store.sameDevice watch = false then some ((), w)
      else
        let position := resumablePosition browser.resumable record
        some ((), { w.log (.wrotePosition watch.opener watch.input position) with
          store := w.store.setPosition watch.input position })
  | _, _ => none

/-- Operations on the tab, and what comes from outside. -/
def tabExec (browser : Browser) (n k : Nat) (i : SessionInput) (w : World) :
    {β : Type} → SessionOp β → Option (β × World)
  | _, .accept => some (w.requests, { w with requests := w.requests + 1 })
  | _, .look => some (((w.tabs k).generation, (w.tabs k).observedRevision), w)
  | _, .begin key =>
    let (pending, tab) := (w.tabs k).begin key
    some (pending, w.setTab k tab)
  | _, .settle key work result => some ((), w.setTab k ((w.tabs k).settle key work result))
  | _, .join work => ((w.tabs k).works[work]?.bind Prod.snd).map fun result => (result, w)
  | _, .watchSessionChanges => some ((), w.setTab k { w.tabs k with watching := true })
  | _, .observe revision => some ((), w.setTab k ((w.tabs k).observe revision))
  | _, .invalidate =>
    let tab := (w.tabs k).invalidate
    some (tab.generation, w.setTab k tab)
  | _, .announce revision =>
    some ((), { w.setTab k { w.tabs k with
        observedRevision := some (max ((w.tabs k).observedRevision.getD 0) revision)
        watching := true } with
      posted := revision :: w.posted })
  | _, .now => some (i.nowMs, w)
  | _, .digest value => some (sha256Hex browser.platform (utf8 value), w)
  | _, .generateKey => some (i.key, w)
  | _, .exportKey _ => some (i.publicKey, w)
  | _, .nonce => some (i.nonce, w)
  | _, .sign _ _ _ => some (i.signed, w)
  | _, .proveKey _ => some (i.proven, w)
  | _, .viewDevice _ _ => some (i.device, w)
  | _, .listen => some ((w.tabs k).watchers, w.setTab k (w.tabs k).listen)
  | _, .openWatch watcher watch =>
    if watcher ∈ (w.tabs k).stopped then some (false, w)
    else some (true, w.setTab k { w.tabs k with
      watches := (w.tabs k).watches.insert watcher watch })
  | _, .startSave watcher force =>
    let (due, tab) := (w.tabs k).startSave watcher force i.nowMs
    some (due, w.setTab k tab)
  | _, .stop watcher =>
    some ((), w.setTab k { w.tabs k with stopped := watcher :: (w.tabs k).stopped })
  | _, .unsubscribe watcher =>
    some ((), w.setTab k { w.tabs k with listeners := (w.tabs k).listeners.erase watcher })
  | _, .resolve accountId sessionPublicKey =>
    some ((), w.log (.resolved n accountId sessionPublicKey))
  | _, _ => none

/-- The operation is a transaction. -/
def SessionOp.isStore : {β : Type} → SessionOp β → Bool
  | _, .readStored _ => true
  | _, .save _ _ _ _ => true
  | _, .update _ => true
  | _, .readProgress _ => true
  | _, .savePosition _ _ => true
  | _, _ => false

def exec (browser : Browser) (β : Type) (op : NumberedOp β) (i : SessionInput) (w : World) :
    Option (β × World) :=
  if op.op.isStore = true then storeExec browser op.number op.tab w op.op
  else tabExec browser op.number op.tab i w op.op

inductive Call where
  | prepareDeviceSession (accountId : Option String) (aborted : Bool)
  | getDeviceSession (accountId : String)
  | preparePlaybackDevice (accountId : String)
  | rememberPlaybackDelegate (accountId : String) (authorization : PlaybackSessionAuthorization)
      (signedDelegate : String)
  | openWatchProgress (input : PlaybackInput) (aborted : Bool)
  | save (watcher : Nat) (position duration : Option Rat) (force : Bool)
  | destroyWatch (watcher : Nat)
  /-- The signal of a watch is aborted. -/
  | abortWatch (watcher : Nat)
  | clearDeviceSession (accountId : Option String)
  | suspendDeviceSession

/-- A call in one of the tabs. -/
structure Incoming where
  tab : Nat
  call : Call

inductive Answer where
  | done
  | session (session : Option DeviceSession)
  | authorization (authorization : PlaybackSessionAuthorization)
  | watch (opened : Option (Nat × Option WatchPosition))

def handle (browser : Browser) (env : SessionEnv) (number : Nat) : Call → SessionHandler Answer
  | .prepareDeviceSession accountId aborted => do
      let session ← prepareDeviceSession env accountId aborted
      return .session (some session)
  | .getDeviceSession accountId => do
      let session ← getDeviceSession env accountId
      return .session session
  | .preparePlaybackDevice accountId => do
      let authorization ← preparePlaybackDevice env accountId
      return .authorization authorization
  | .rememberPlaybackDelegate accountId authorization signedDelegate => do
      rememberPlaybackDelegate accountId authorization signedDelegate
      return .done
  | .openWatchProgress input aborted => do
      let opened ← openWatchProgress browser.resumable number input aborted
      return .watch opened
  | .save watcher position duration force => do
      savePosition watcher position duration force
      return .done
  | .destroyWatch watcher => do
      destroyWatch watcher
      return .done
  | .abortWatch watcher => do
      Handler.perform cancelled (.stop watcher)
      return .done
  | .clearDeviceSession none => do
      let _ ← updateDeviceSession .clear
      return .done
  | .clearDeviceSession (some accountId) => do
      let _ ← updateDeviceSession (.clearAccount accountId)
      return .done
  | .suspendDeviceSession => do
      let _ ← updateDeviceSession .suspend
      return .done

/-- A broadcast arrives in a tab; it may have been sent long before. -/
structure Delivery where
  tab : Nat
  revision : Nat

def deliver (delivery : Delivery) (w : World) : Option World :=
  if delivery.revision ∈ w.posted ∧ (w.tabs delivery.tab).watching = true then
    some (w.setTab delivery.tab ((w.tabs delivery.tab).deliver delivery.revision))
  else none

def sessionSystem (browser : Browser) (env : SessionEnv) :
    System World SessionInput NumberedOp String Answer Incoming Delivery where
  exec := exec browser
  handle := fun incoming => do
    let number ← Handler.perform cancelled ⟨incoming.tab, 0, .accept⟩
    (handle browser env number incoming.call).lift fun op => ⟨incoming.tab, number, op⟩
  solo := fun _ => false
  environment := deliver

/-- Cold tabs over a store of earlier visits. -/
def start (store : Store) : World := ⟨fun _ => .cold, store, [], 0, []⟩

end Youtick.Web.Sessions
