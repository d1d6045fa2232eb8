import Youtick.Lib.LookupMap
import Youtick.Lib.Panic
import Youtick.Lib.Text
import Youtick.Lib.Trace

/-!
# ckd-gate: the contract among its receipts

`contracts/ckd-gate` releases the confidential keys that the MPC signer derives for accounts. A
request by token is split over receipts: `request_key` asks the fast-auth guard for its keys and the
MPC signer for the account of the token's subject, and `on_token` checks the token and asks for the
key. Calls by anyone interleave with the callbacks in any order.

`Host` holds what is not in the repository: the readers of the token (the JWT crate, base64, serde),
the RS256 check, SHA-256, the parser of public keys, and `derivedPublicKey`, which is the key the MPC
signer derives for a path. The guard may answer with any keys at any time.
-/

set_option autoImplicit false

namespace Youtick.Ckd

open Youtick.Lib

abbrev AccountId : Type := String

def maxJwtSize : Nat := 7168
def maxSubLen : Nat := 256

/-! ## Records -/

structure AppPublicKeyPV where
  pk1 : String
  pk2 : String
  deriving DecidableEq

structure JwtPublicKey where
  n : Bytes
  e : Bytes

/-- The JSON value of `aud`, as far as it is read: an array keeps its strings. -/
inductive Audience where
  | string (value : String)
  | array (items : List (Option String))
  | other

structure Claims where
  iss : String
  sub : String
  aud : Audience
  exp : Nat
  nbf : Option Nat
  nonce : Option String

structure CkdGate where
  guard : AccountId
  mpc : AccountId
  fastAuth : AccountId
  fastAuthDomain : Nat
  issuer : String
  clientId : String
  ckdDomain : Nat
  links : LookupSet (String × AccountId)

/-- The arguments of the MPC signer's `derived_public_key`. -/
structure DerivedKeyRequest where
  path : String
  predecessor : AccountId
  domainId : Nat

/-- The arguments of the MPC signer's `request_app_private_key`. -/
structure CkdRequest where
  derivationPath : String
  domainId : Nat
  appPublicKey : AppPublicKeyPV
  deriving DecidableEq

structure Host where
  currentAccountId : AccountId
  decodeJwt : String → Option (String × String × String)
  decodeBase64Bytes : String → Option Bytes
  headerOfJson : Bytes → Option String
  claimsOfJson : Bytes → Option Claims
  verifySignatureFromComponents : (signed : String) → (signature n e : Bytes) → Bool
  sha256 : Bytes → Bytes
  base64UrlEncode : Bytes → String
  parsePublicKey : String → Option Bytes
  derivedPublicKey : DerivedKeyRequest → String

structure Context where
  predecessorAccountId : AccountId
  blockTimestampMs : Nat
  attachedDeposit : Nat
  storageByteCost : Nat
  storageUsage : CkdGate → Nat

structure Env extends Host, Context

/-- The arguments `on_token` is scheduled with, next to the derivation it waits for. -/
structure TokenCheck where
  derive : DerivedKeyRequest
  jwt : String
  appPublicKey : AppPublicKeyPV
  accountId : Option AccountId

/-- What a call schedules. -/
inductive Promise where
  /-- `get_public_keys` of the guard and `derived_public_key`, then `on_token`. -/
  | tokenCheck (guard mpc : AccountId) (check : TokenCheck)
  /-- `request_app_private_key` with 1 yocto, then `on_ckd`. -/
  | ckd (mpc : AccountId) (request : CkdRequest) (accountId : AccountId)
  | transfer (receiverId : AccountId) (amount : Nat)

structure Outcome where
  state : CkdGate
  logs : List String := []
  promises : List Promise := []

/-! ## Helpers -/

def sha256Hex (host : Host) (input : String) : String := hex (host.sha256 (utf8 input))

def expectedNonce (host : Host) (app : AppPublicKeyPV) : String :=
  host.base64UrlEncode (host.sha256
    (utf8 ("ckd-gate|" ++ host.currentAccountId ++ "|" ++ app.pk1 ++ "|" ++ app.pk2)))

def identityHash (host : Host) (issuer sub : String) : String :=
  sha256Hex host ("ckd-gate-identity|" ++ issuer ++ "|" ++ sub)

def derivationPath (account : AccountId) : String := "v1/" ++ account

def fastAuthPath (issuer sub : String) : String := "jwt#" ++ issuer ++ "#" ++ sub

def validSub (sub : String) : Bool :=
  decide (sub ≠ "") && decide ((utf8 sub).length ≤ maxSubLen) && !sub.toList.contains '#'

def audienceMatches (aud : Audience) (expected : String) : Bool :=
  match aud with
  | .string s => decide (s = expected)
  | .array items => items.any fun item => decide (item = some expected)
  | .other => false

/-- Rule selection: no requested account or the token's own account is (a); anything else requires
a link (b). -/
def selectAccount (derived : AccountId) (requested : Option AccountId) (linked : AccountId → Bool) :
    Result (AccountId × String) :=
  match requested with
  | none => .ok (derived, "a")
  | some account =>
    if account = derived then .ok (account, "a")
    else do
      require (linked account = true) "identity is not linked to the requested account"
      return (account, "b")

/-- Reading a token panics inside its crate, with that crate's message, when it does not decode. -/
def decodeToken {α : Type} (read : Option α) : Result α := expect read "Invalid token"

/-- Reads `sub` from the unverified payload; the callback does the real checks. -/
def unverifiedSub (host : Host) (jwt issuer : String) : Result String := do
  let (_, payload, _) ← decodeToken (host.decodeJwt jwt)
  let claims ← expect (host.claimsOfJson (← decodeToken (host.decodeBase64Bytes payload)))
    "bad claims"
  require (claims.iss = issuer) "bad issuer"
  require (validSub claims.sub = true) "bad sub"
  return claims.sub

/-- Fully verifies the token and returns `sub`. -/
def verifyToken (host : Host) (jwt : String) (keys : List JwtPublicKey)
    (issuer clientId nonce : String) (now : Nat) : Result String := do
  require ((utf8 jwt).length ≤ maxJwtSize) "jwt too large"
  let (header, payload, signature) ← decodeToken (host.decodeJwt jwt)
  require (header ≠ "" ∧ payload ≠ "" ∧ signature ≠ "") "malformed jwt"
  let alg ← expect (host.headerOfJson (← decodeToken (host.decodeBase64Bytes header))) "bad header"
  require (alg = "RS256") "unsupported alg"
  let signed := header ++ "." ++ payload
  let signature ← decodeToken (host.decodeBase64Bytes signature)
  require (keys.any (fun key =>
    host.verifySignatureFromComponents signed signature key.n key.e) = true) "bad signature"
  let claims ← expect (host.claimsOfJson (← decodeToken (host.decodeBase64Bytes payload)))
    "bad claims"
  require (claims.iss = issuer) "bad issuer"
  require (audienceMatches claims.aud clientId = true) "bad audience"
  require (claims.exp > now) "token expired"
  require (claims.nbf.getD 0 ≤ now) "token not yet valid"
  require (claims.nonce = some nonce) "nonce does not bind app key"
  require (validSub claims.sub = true) "bad sub"
  return claims.sub

/-- The implicit account of an Ed25519 key; the bytes start with the curve. -/
def implicitAccount (host : Host) (derived : String) : Result AccountId := do
  let bytes ← expect (host.parsePublicKey derived) "bad derived key"
  match bytes with
  | 0 :: key => .ok (hex key)
  | _ => .error "derived key is not ed25519"

/-! ## Methods -/

def new (guard mpc fastAuth : AccountId) (fastAuthDomain : Nat) (issuer clientId : String)
    (ckdDomain : Nat) : CkdGate where
  guard := guard
  mpc := mpc
  fastAuth := fastAuth
  fastAuthDomain := fastAuthDomain
  issuer := issuer
  clientId := clientId
  ckdDomain := ckdDomain
  links := ∅

def isLinked (s : CkdGate) (identityHash : String) (accountId : AccountId) : Bool :=
  decide ((identityHash, accountId) ∈ s.links)

def requestCkd (s : CkdGate) (account : AccountId) (app : AppPublicKeyPV) : Promise :=
  .ckd s.mpc
    { derivationPath := derivationPath account
      domainId := s.ckdDomain
      appPublicKey := app }
    account

def requestKey (env : Env) (s : CkdGate) (jwt : String) (app : AppPublicKeyPV)
    (accountId : Option AccountId) : Result Outcome := do
  require ((utf8 jwt).length ≤ maxJwtSize) "jwt too large"
  let sub ← unverifiedSub env.toHost jwt s.issuer
  let derive : DerivedKeyRequest := {
    path := fastAuthPath s.issuer sub
    predecessor := s.fastAuth
    domainId := s.fastAuthDomain }
  return {
    state := s
    promises := [.tokenCheck s.guard s.mpc ⟨derive, jwt, app, accountId⟩] }

def requestKeyAsAccount (env : Env) (s : CkdGate) (app : AppPublicKeyPV) : Result Outcome :=
  let account := env.predecessorAccountId
  return {
    state := s
    logs := ["ckd-gate: rule=c account=" ++ account]
    promises := [requestCkd s account app] }

def isLowerHexDigit (c : Char) : Bool :=
  ('0' ≤ c && c ≤ '9') || ('a' ≤ c && c ≤ 'f')

/-- The storage is metered while the call writes it, so the cost is the difference in usage. -/
def linkIdentity (env : Env) (s : CkdGate) (identityHash : String) : Result Outcome := do
  require ((utf8 identityHash).length = 64 ∧ identityHash.toList.all isLowerHexDigit = true)
    "bad identity hash"
  let account := env.predecessorAccountId
  let inserted := !isLinked s identityHash account
  let s' := { s with links := insert (identityHash, account) s.links }
  let cost := saturatingMul 128 env.storageByteCost (env.storageUsage s' - env.storageUsage s)
  require (env.attachedDeposit ≥ cost) "attach deposit for storage"
  let refund := env.attachedDeposit - cost
  return {
    state := s'
    logs := if inserted then ["ckd-gate: linked account=" ++ account] else []
    promises := if refund = 0 then [] else [.transfer account refund] }

def unlinkIdentity (env : Env) (s : CkdGate) (identityHash : String) : Result Outcome :=
  let account := env.predecessorAccountId
  if isLinked s identityHash account then
    let s' := { s with links := s.links.erase (identityHash, account) }
    let freed := saturatingMul 128 env.storageByteCost (env.storageUsage s - env.storageUsage s')
    return {
      state := s'
      logs := ["ckd-gate: unlinked account=" ++ account]
      promises := if freed = 0 then [] else [.transfer account freed] }
  else return { state := s }

/-- `on_token` with the results of the two calls it waited for. -/
def onToken (env : Env) (s : CkdGate) (jwt : String) (app : AppPublicKeyPV)
    (accountId : Option AccountId) (keys : Option (List JwtPublicKey)) (derived : Option String) :
    Result Outcome := do
  require (env.predecessorAccountId = env.currentAccountId) "Method on_token is private"
  let keys ← expect keys "guard keys unavailable"
  let derived ← expect derived "fast-auth key derivation unavailable"
  let nonce := expectedNonce env.toHost app
  let sub ← verifyToken env.toHost jwt keys s.issuer s.clientId nonce (env.blockTimestampMs / 1000)
  let identity := identityHash env.toHost s.issuer sub
  let (account, rule) ← selectAccount (← implicitAccount env.toHost derived) accountId
    (isLinked s identity)
  return {
    state := s
    logs := ["ckd-gate: rule=" ++ rule ++ " account=" ++ account]
    promises := [requestCkd s account app] }

/-! ## Calls and runs -/

inductive Call where
  | requestKey (jwt : String) (app : AppPublicKeyPV) (accountId : Option AccountId)
  | requestKeyAsAccount (app : AppPublicKeyPV)
  | linkIdentity (identityHash : String)
  | unlinkIdentity (identityHash : String)
  /-- A direct call of the callback, which has no promise results. -/
  | onToken (jwt : String) (app : AppPublicKeyPV) (accountId : Option AccountId)

/-- The method marked `#[payable]`; every other method refuses an attached deposit. -/
def Call.payable : Call → Bool
  | .linkIdentity _ => true
  | _ => false

def callBody (env : Env) (s : CkdGate) : Call → Result Outcome
  | .requestKey jwt app accountId => requestKey env s jwt app accountId
  | .requestKeyAsAccount app => requestKeyAsAccount env s app
  | .linkIdentity identityHash => linkIdentity env s identityHash
  | .unlinkIdentity identityHash => unlinkIdentity env s identityHash
  | .onToken jwt app accountId => onToken env s jwt app accountId none none

def Call.run (env : Env) (s : CkdGate) (call : Call) : Result Outcome := do
  require (call.payable = true ∨ env.attachedDeposit = 0) "Method doesn't accept deposit"
  callBody env s call

/-- The contract, the token checks that are waiting for their results, and the requests the MPC
signer was sent, in order. -/
structure World where
  contract : CkdGate
  pending : List TokenCheck
  sent : List CkdRequest
  now : Nat

inductive Label where
  /-- A method called by any account; it may panic. -/
  | call (ctx : Context) (call : Call)
  /-- The callback of the check at `i`, with the guard's answer and whether the MPC signer's
  answer came. -/
  | onToken (ctx : Context) (i : Nat) (keys : Option (List JwtPublicKey)) (derived : Bool)

def Promise.check? : Promise → Option TokenCheck
  | .tokenCheck _ _ check => some check
  | _ => none

def Promise.request? : Promise → Option CkdRequest
  | .ckd _ request _ => some request
  | _ => none

/-- The world after a call that ended with `result`, with `rest` the other waiting checks. -/
def World.receive (w : World) (result : Result Outcome) (rest : List TokenCheck) (now : Nat) :
    World :=
  match result with
  | .ok o =>
    { contract := o.state
      pending := rest ++ o.promises.filterMap Promise.check?
      sent := w.sent ++ o.promises.filterMap Promise.request?
      now := now }
  | .error _ => { w with pending := rest, now := now }

/-- The context of the contract's own callback. -/
def Context.own (ctx : Context) (host : Host) : Context :=
  { ctx with
    predecessorAccountId := host.currentAccountId
    attachedDeposit := 0 }

def World.exec (host : Host) (w : World) : Label → Option World
  | .call ctx call =>
    if w.now ≤ ctx.blockTimestampMs then
      some (w.receive (call.run ⟨host, ctx⟩ w.contract) w.pending ctx.blockTimestampMs)
    else none
  | .onToken ctx i keys derived =>
    match w.pending[i]? with
    | some check =>
      if w.now ≤ ctx.blockTimestampMs then
        some (w.receive
          (onToken ⟨host, ctx.own host⟩ w.contract check.jwt check.appPublicKey
            check.accountId keys
            (if derived then some (host.derivedPublicKey check.derive) else none))
          (w.pending.eraseIdx i) ctx.blockTimestampMs)
      else none
    | none => none

abbrev worldStep (host : Host) : World → Label → World → Prop := ExecStep (World.exec host)

/-- A world right after `new`. -/
inductive Initial : World → Prop where
  | new (guard mpc fastAuth : AccountId) (fastAuthDomain : Nat) (issuer clientId : String)
      (ckdDomain now : Nat) :
      Initial ⟨Ckd.new guard mpc fastAuth fastAuthDomain issuer clientId ckdDomain, [], [], now⟩

/-! ## A deployment -/

namespace Vectors

def gateId : AccountId := "gate.testnet"
def aliceId : AccountId := "alice.testnet"
def issuer : String := "https://login.testnet.fast-auth.com/"
def clientId : String := "client-1"
def sub : String := "google-oauth2|123"
def start : Nat := 1791360000000

def app : AppPublicKeyPV := ⟨"bls12381g1:a", "bls12381g2:b"⟩

/-- The SHA-256 of what the nonce binds, and its text. -/
def nonceBytes : Bytes :=
  [137, 133, 174, 3, 212, 208, 215, 255, 145, 220, 177, 44, 212, 173, 118, 159, 131, 41,
   166, 28, 112, 113, 56, 176, 38, 229, 203, 75, 117, 109, 66, 96]
def nonce : String := "iYWuA9TQ1_-R3LEs1K12n4MpphxwcTiwJuXLS3VtQmA"

/-- The SHA-256 of the identity. -/
def identityBytes : Bytes :=
  [23, 125, 168, 106, 229, 147, 115, 245, 233, 222, 48, 80, 28, 127, 110, 48, 56, 251, 158,
   92, 165, 146, 118, 238, 200, 7, 26, 116, 181, 252, 43, 194]

/-- The token's three parts, its payload and its signature. -/
def header : String := "eyJhbGciOiJSUzI1NiJ9"
def payload : String :=
  "eyJpc3MiOiJodHRwczovL2xvZ2luLnRlc3RuZXQuZmFzdC1hdXRoLmNvbS8iLCJzdWIiOiJnb29nbGUt" ++
    "b2F1dGgyfDEyMyIsImF1ZCI6ImNsaWVudC0xIiwiZXhwIjoxNzkxMzYxMDAwLCJuYmYiOjAsIm5vbmNl" ++
    "IjoiaVlXdUE5VFExXy1SM0xFczFLMTJuNE1wcGh4d2NUaXdKdVhMUzNWdFFtQSJ9"
def signature : String :=
  "QhZwF7-E1BBNDc7WtfIYl0r3MpgBY8mgUk1yTUwbjlLQ4Ymw9eYk_maVb5899spwX8sbUM5y7Vca_jmx" ++
    "PZQRD4D_M8l7tRVGkJh7XbNbTWHs4Cdbr4cDYj-mtEmKXKNMP7zwieHdGHtp_nMAN0J3Um4UZrmlNFFl" ++
    "9DB6WN9tDfg"
def token : String := header ++ "." ++ payload ++ "." ++ signature

def headerJson : String := "\x7b\"alg\":\"RS256\"\x7d"
def payloadJson : String :=
  "\x7b\"iss\":\"https://login.testnet.fast-auth.com/\",\"sub\":\"google-oauth2|123\"," ++
    "\"aud\":\"client-1\",\"exp\":1791361000,\"nbf\":0," ++
    "\"nonce\":\"iYWuA9TQ1_-R3LEs1K12n4MpphxwcTiwJuXLS3VtQmA\"\x7d"

def claims : Claims where
  iss := issuer
  sub := sub
  aud := .string clientId
  exp := 1791361000
  nbf := some 0
  nonce := some nonce

def signatureBytes : Bytes :=
  [66, 22, 112, 23, 191, 132, 212, 16, 77, 13, 206, 214, 181, 242, 24, 151, 74, 247, 50,
   152, 1, 99, 201, 160, 82, 77, 114, 77, 76, 27, 142, 82, 208, 225, 137, 176, 245, 230, 36,
   254, 102, 149, 111, 159, 61, 246, 202, 112, 95, 203, 27, 80, 206, 114, 237, 87, 26, 254,
   57, 177, 61, 148, 17, 15, 128, 255, 51, 201, 123, 181, 21, 70, 144, 152, 123, 93, 179,
   91, 77, 97, 236, 224, 39, 91, 175, 135, 3, 98, 63, 166, 180, 73, 138, 92, 163, 76, 63,
   188, 240, 137, 225, 221, 24, 123, 105, 254, 115, 0, 55, 66, 119, 82, 110, 20, 102, 185,
   165, 52, 81, 101, 244, 48, 122, 88, 223, 109, 13, 248]

/-- The guard's key: a 1024-bit modulus. -/
def guardKey : JwtPublicKey where
  n :=
    [203, 221, 153, 75, 52, 13, 79, 103, 106, 103, 32, 93, 77, 127, 249, 91, 253, 218, 246,
     137, 39, 140, 124, 110, 221, 219, 244, 203, 80, 60, 167, 20, 18, 88, 100, 109, 90, 20,
     48, 132, 119, 118, 254, 150, 55, 130, 18, 62, 84, 200, 122, 245, 118, 27, 127, 206, 58,
     22, 118, 2, 65, 24, 45, 196, 132, 86, 3, 18, 187, 73, 7, 97, 146, 122, 240, 186, 37, 163,
     146, 185, 117, 61, 124, 196, 194, 26, 150, 155, 97, 211, 202, 5, 116, 131, 244, 124, 149,
     0, 14, 23, 9, 147, 9, 214, 94, 6, 118, 221, 206, 228, 154, 236, 132, 83, 206, 183, 177,
     201, 15, 69, 24, 10, 95, 190, 126, 136, 223, 129]
  e := [1, 0, 1]

/-- The key the signer derives for the subject, and its bytes after the curve. -/
def derivedKey : String := "ed25519:8Jttjj6ziAUWHqqtbZcxcJyztYx2tRkMhueEuvqiu75Q"
def derivedKeyBytes : Bytes :=
  [108, 151, 91, 82, 49, 231, 138, 29, 132, 237, 183, 119, 1, 173, 239, 140, 94, 48, 122,
   39, 22, 44, 92, 160, 92, 127, 28, 183, 12, 208, 113, 199]

/-- The host of a gate that knows one token; it returns nothing outside the vectors. -/
def host : Host where
  currentAccountId := gateId
  decodeJwt jwt := if jwt = token then some (header, payload, signature) else none
  decodeBase64Bytes text :=
    if text = header then some (utf8 headerJson)
    else if text = payload then some (utf8 payloadJson)
    else if text = signature then some signatureBytes
    else none
  headerOfJson bytes := if bytes = utf8 headerJson then some "RS256" else none
  claimsOfJson bytes := if bytes = utf8 payloadJson then some claims else none
  verifySignatureFromComponents signed signature n e :=
    decide (signed = header ++ "." ++ payload ∧ signature = signatureBytes ∧ n = guardKey.n ∧
      e = guardKey.e)
  sha256 bytes :=
    if bytes = utf8 ("ckd-gate|gate.testnet|bls12381g1:a|bls12381g2:b") then nonceBytes
    else if bytes = utf8 ("ckd-gate-identity|" ++ issuer ++ "|" ++ sub) then identityBytes
    else []
  base64UrlEncode bytes := if bytes = nonceBytes then nonce else ""
  parsePublicKey text := if text = derivedKey then some (0 :: derivedKeyBytes) else none
  derivedPublicKey _ := derivedKey

def context (predecessor : AccountId) (now deposit : Nat) : Context where
  predecessorAccountId := predecessor
  blockTimestampMs := now
  attachedDeposit := deposit
  storageByteCost := 10 ^ 19
  storageUsage s := 1000 + 120 * s.links.card

def initial : World :=
  ⟨new "guard.testnet" "mpc.testnet" "fast-auth.testnet" 1 issuer clientId 2, [], [], start⟩

/-- A key is requested for an account that is linked only afterwards. -/
def linkedRequest : List Label :=
  [.call (context "relayer.testnet" start 0) (.requestKey token app (some aliceId)),
   .call (context aliceId start (10 ^ 22)) (.linkIdentity (hex identityBytes)),
   .onToken (context gateId start 0) 0 (some [guardKey]) true]

end Vectors

end Youtick.Ckd
