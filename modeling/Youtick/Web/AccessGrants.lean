import Youtick.AccessControl.Contract

/-!
# Access grants in the web client

The client's side of a session grant, from `apps/web/lib/access-grants.ts`: the text its session
key signs, the hex it is written in, and the request it sends. Both sides write the same ten lines,
and the lines determine the grant: a text belongs to one contract, caller and request only
(`sessionPokMessage_injective`), and the client's text is the one the contract verifies exactly when
the client describes that request (`buildSessionGrantPokMessage_iff`).

The caller's key pair, the key parser and Ed25519 verification are parameters. What is used of them
is in `KeyPair.Serves`, that the contract's host verifies what the key pair signs, and in
`SignedOnly`, that no other message verifies than the one the key's holder signed.
-/

set_option autoImplicit false

namespace Youtick.Web

open Youtick.Lib
open Youtick.AccessControl

/-! ## The signed text -/

/-- A JavaScript number that is a safe integer. -/
structure SafeInteger where
  value : Int
  isSafe : value.natAbs ≤ 2 ^ 53 - 1

/-- A safe integer in a template literal. -/
def SafeInteger.text (n : SafeInteger) : String :=
  if n.value < 0 then "-" ++ decimal n.value.natAbs else decimal n.value.natAbs

/-- `byte.toString(16).padStart(2, '0')`. -/
def byteToHex (byte : UInt8) : String :=
  String.ofList (List.leftpad 2 '0' (Nat.toDigits 16 byte.toNat))

def bytesToHex (bytes : Bytes) : String := String.join (bytes.map byteToHex)

def textToHex (value : String) : String := bytesToHex (utf8 value)

def optionalTextToHex (value : Option String) : String :=
  match value with
  | none => "-"
  | some value => textToHex value

def scopeToContractKey : String := "play"

structure SessionGrantPokParams where
  contractId : String
  caller : String
  targetOwnerId : String
  sessionPublicKey : String
  scope : SessionScope
  resourceId : Option String
  ttlMs : SafeInteger
  originHash : Option String
  deviceHash : Option String

def buildSessionGrantPokMessage (params : SessionGrantPokParams) : String :=
  joinLines [
    "youtick-session-grant-v1",
    "contract=" ++ textToHex params.contractId,
    "caller=" ++ textToHex params.caller,
    "target_owner=" ++ textToHex params.targetOwnerId,
    "session_pk=" ++ textToHex params.sessionPublicKey,
    "scope=" ++ scopeToContractKey,
    "resource_id=" ++ optionalTextToHex params.resourceId,
    "ttl_ms=" ++ params.ttlMs.text,
    "origin_hash=" ++ optionalTextToHex params.originHash,
    "device_hash=" ++ optionalTextToHex params.deviceHash]

/-! ## Preparing a grant -/

/-- A key pair of the client's library. -/
structure KeyPair where
  publicKey : String
  secretKey : String
  sign : Bytes → Bytes

def signSessionGrantProof (keyPair : KeyPair) (message : String) : String :=
  bytesToHex (keyPair.sign (utf8 message))

structure BrowserSessionGrant where
  accountId : String
  sessionPublicKey : String
  secretKey : String
  scope : SessionScope
  resourceId : Option String
  expiresAt : Nat
  originHash : Option String
  deviceHash : Option String

/-- The one action of the transaction: `issue_session_grant` with this request, gas and deposit. -/
structure GrantTransaction where
  receiverId : String
  request : SessionGrantRequest
  gas : Nat
  deposit : Nat
  deriving DecidableEq

structure PreparedSessionGrant where
  grant : BrowserSessionGrant
  transaction : GrantTransaction

/-- What `prepareSessionGrant` reads around it: the configured contract, a fresh key pair, the two
digests (`none` without `crypto.subtle`) and the clock. -/
structure GrantBrowser where
  accessContractId : String
  keyPair : KeyPair
  originHash : Option String
  deviceHash : Option String
  nowMs : Nat

def getScopeTtlMs : Nat := 10 * 60 * 1000

/-- `value || null`. -/
def orNull (value : Option String) : Option String := value.filter (· ≠ "")

def prepareSessionGrant (browser : GrantBrowser) (accountId : String) (scope : SessionScope)
    (resourceId : Option String) : Except String PreparedSessionGrant := do
  if (orNull browser.originHash).isNone ∨ (orNull browser.deviceHash).isNone then
    .error "Secure browser hashing is required for this session grant"
  else
    let sessionPokMessage := buildSessionGrantPokMessage {
      contractId := browser.accessContractId
      caller := accountId
      targetOwnerId := accountId
      sessionPublicKey := browser.keyPair.publicKey
      scope := scope
      resourceId := orNull resourceId
      ttlMs := ⟨getScopeTtlMs, by decide⟩
      originHash := browser.originHash
      deviceHash := browser.deviceHash }
    return {
      grant := {
        accountId := accountId
        sessionPublicKey := browser.keyPair.publicKey
        secretKey := browser.keyPair.secretKey
        scope := scope
        resourceId := orNull resourceId
        expiresAt := browser.nowMs + getScopeTtlMs
        originHash := browser.originHash
        deviceHash := browser.deviceHash }
      transaction := {
        receiverId := browser.accessContractId
        request := {
          targetOwnerId := accountId
          sessionPk := browser.keyPair.publicKey
          scope := scope
          resourceId := orNull resourceId
          ttlMs := getScopeTtlMs
          originHash := browser.originHash
          deviceHash := browser.deviceHash
          sessionPok := signSessionGrantProof browser.keyPair sessionPokMessage }
        gas := 100000000000000
        deposit := 0 } }

/-! ## The two hex writers -/

theorem byteToHex_eq (byte : UInt8) :
    byteToHex byte = String.ofList [hexDigit (byte.toNat / 16), hexDigit (byte.toNat % 16)] := by
  have hdigits : ∀ n < 256, List.leftpad 2 '0' (Nat.toDigits 16 n) =
      [hexDigit (n / 16), hexDigit (n % 16)] := by decide +kernel
  rw [byteToHex, hdigits _ byte.toNat_lt]

theorem bytesToHex_eq (bytes : Bytes) : bytesToHex bytes = hex bytes := by
  apply String.toList_inj.mp
  rw [bytesToHex, hex, String.toList_join, String.toList_ofList]
  induction bytes with
  | nil => rfl
  | cons byte rest ih =>
    rw [List.map_cons, List.flatMap_cons, List.flatMap_cons, ih, byteToHex_eq,
      String.toList_ofList]

theorem textToHex_eq (value : String) : textToHex value = hexField value := bytesToHex_eq _

theorem optionalTextToHex_eq (value : Option String) :
    optionalTextToHex value = hexOptional value := by
  cases value with
  | none => rfl
  | some value => exact textToHex_eq value

/-! ## The lines -/

/-- The digits of hex text. -/
theorem mem_hex {bytes : Bytes} {c : Char} (h : c ∈ (hex bytes).toList) :
    ∃ n < 16, c = hexDigit n := by
  rw [hex, String.toList_ofList, List.mem_flatMap] at h
  obtain ⟨byte, -, hc⟩ := h
  have hbyte := byte.toNat_lt
  rcases List.mem_pair.mp hc with rfl | rfl
  · exact ⟨byte.toNat / 16, by omega, rfl⟩
  · exact ⟨byte.toNat % 16, Nat.mod_lt _ (by decide), rfl⟩

theorem not_mem_hex {c : Char} (hc : ∀ n < 16, c ≠ hexDigit n) (bytes : Bytes) :
    c ∉ (hex bytes).toList := by
  intro h
  obtain ⟨n, hn, heq⟩ := mem_hex h
  exact hc n hn heq

/-- A value that stays on its line. -/
def OneLine (value : String) : Prop := '\n' ∉ value.toList ∧ '\r' ∉ value.toList

theorem OneLine.hexField (value : String) : OneLine (hexField value) :=
  ⟨not_mem_hex (by decide) _, not_mem_hex (by decide) _⟩

theorem OneLine.hexOptional (value : Option String) : OneLine (hexOptional value) := by
  cases value with
  | none => exact ⟨by decide, by decide⟩
  | some value => exact OneLine.hexField value

theorem OneLine.decimal (n : Nat) : OneLine (decimal n) :=
  ⟨not_mem_decimal (by decide) n, not_mem_decimal (by decide) n⟩

theorem OneLine.text (n : SafeInteger) : OneLine n.text := by
  unfold SafeInteger.text
  split
  · have h := OneLine.decimal n.value.natAbs
    constructor
    · rw [String.toList_append, List.mem_append]
      rintro (hsign | hdigit)
      · revert hsign
        decide
      · exact h.1 hdigit
    · rw [String.toList_append, List.mem_append]
      rintro (hsign | hdigit)
      · revert hsign
        decide
      · exact h.2 hdigit
  · exact OneLine.decimal _

/-- The values of the nine labelled lines. -/
structure PokFields where
  contract : String
  caller : String
  targetOwner : String
  sessionPk : String
  scope : String
  resourceId : String
  ttlMs : String
  originHash : String
  deviceHash : String

namespace PokFields

/-- The labelled lines, in order. -/
def entries (f : PokFields) : List (String × String) := [
  ("contract=", f.contract), ("caller=", f.caller), ("target_owner=", f.targetOwner),
  ("session_pk=", f.sessionPk), ("scope=", f.scope), ("resource_id=", f.resourceId),
  ("ttl_ms=", f.ttlMs), ("origin_hash=", f.originHash), ("device_hash=", f.deviceHash)]

def lines (f : PokFields) : List String :=
  "youtick-session-grant-v1" :: f.entries.map fun entry => entry.1 ++ entry.2

/-- Every value stays on its line. -/
def Plain (f : PokFields) : Prop := ∀ entry ∈ f.entries, OneLine entry.2

theorem isLine {f : PokFields} (h : f.Plain) : ∀ line ∈ f.lines, IsLine line := by
  intro line hline
  rcases List.mem_cons.mp hline with rfl | hline
  · decide
  · obtain ⟨⟨label, value⟩, hentry, rfl⟩ := List.mem_map.mp hline
    have hvalue := h _ hentry
    have hlabel : IsLine label := by
      have hlabels : ∀ label ∈ f.entries.map Prod.fst, IsLine label := by
        change ∀ label ∈ ["contract=", "caller=", "target_owner=", "session_pk=", "scope=",
          "resource_id=", "ttl_ms=", "origin_hash=", "device_hash="], IsLine label
        decide
      exact hlabels label (List.mem_map.mpr ⟨_, hentry, rfl⟩)
    refine ⟨?_, ?_, ?_⟩
    · intro hempty
      exact hlabel.1 (String.append_eq_empty_iff.mp hempty).1
    · rw [String.toList_append, List.mem_append]
      exact fun hmem => hmem.elim hlabel.2.1 hvalue.1
    · rw [String.toList_append, List.mem_append]
      exact fun hmem => hmem.elim hlabel.2.2 hvalue.2

/-- The text gives the values back. -/
theorem joinLines_injective {f g : PokFields} (hf : f.Plain) (hg : g.Plain)
    (h : joinLines f.lines = joinLines g.lines) : f = g := by
  have hlines := Lib.joinLines_injective (List.cons_ne_nil _ _) (List.cons_ne_nil _ _)
    (isLine hf) (isLine hg) h
  have hcancel {label a b : String} (hab : label ++ a = label ++ b) : a = b := by
    have htext := congrArg String.toList hab
    rw [String.toList_append, String.toList_append] at htext
    exact String.toList_inj.mp (List.append_cancel_left htext)
  simp only [entries, List.map_cons, List.map_nil, List.cons.injEq, true_and, and_true]
    at hlines
  obtain ⟨h₁, h₂, h₃, h₄, h₅, h₆, h₇, h₈, h₉⟩ := hlines
  cases f
  cases g
  simp only [mk.injEq]
  exact ⟨hcancel h₁, hcancel h₂, hcancel h₃, hcancel h₄, hcancel h₅, hcancel h₆, hcancel h₇,
    hcancel h₈, hcancel h₉⟩

end PokFields

/-- The values of the contract's text. -/
def contractFields (env : Env) (request : SessionGrantRequest) : PokFields where
  contract := hexField env.currentAccountId
  caller := hexField env.predecessorAccountId
  targetOwner := hexField request.targetOwnerId
  sessionPk := hexField request.sessionPk
  scope := request.scope.asKey
  resourceId := hexOptional request.resourceId
  ttlMs := decimal request.ttlMs
  originHash := hexOptional request.originHash
  deviceHash := hexOptional request.deviceHash

/-- The values of the client's text. -/
def clientFields (params : SessionGrantPokParams) : PokFields where
  contract := textToHex params.contractId
  caller := textToHex params.caller
  targetOwner := textToHex params.targetOwnerId
  sessionPk := textToHex params.sessionPublicKey
  scope := scopeToContractKey
  resourceId := optionalTextToHex params.resourceId
  ttlMs := params.ttlMs.text
  originHash := optionalTextToHex params.originHash
  deviceHash := optionalTextToHex params.deviceHash

theorem sessionPokMessage_eq (env : Env) (request : SessionGrantRequest) :
    sessionPokMessage env request = joinLines (contractFields env request).lines := rfl

theorem buildSessionGrantPokMessage_eq (params : SessionGrantPokParams) :
    buildSessionGrantPokMessage params = joinLines (clientFields params).lines := rfl

/-- Nine plain values make plain fields. -/
theorem PokFields.plain_iff {f : PokFields} : f.Plain ↔ OneLine f.contract ∧ OneLine f.caller ∧
    OneLine f.targetOwner ∧ OneLine f.sessionPk ∧ OneLine f.scope ∧ OneLine f.resourceId ∧
    OneLine f.ttlMs ∧ OneLine f.originHash ∧ OneLine f.deviceHash := by
  simp [Plain, entries]

theorem contractFields_plain (env : Env) (request : SessionGrantRequest) :
    (contractFields env request).Plain := by
  apply PokFields.plain_iff.mpr
  have hscope : OneLine request.scope.asKey := by
    cases request.scope
    exact ⟨by decide, by decide⟩
  exact ⟨.hexField _, .hexField _, .hexField _, .hexField _, hscope, .hexOptional _, .decimal _,
    .hexOptional _, .hexOptional _⟩

theorem clientFields_plain (params : SessionGrantPokParams) : (clientFields params).Plain := by
  have hfield (value : String) : OneLine (textToHex value) := by
    rw [textToHex_eq]
    exact .hexField value
  have hoptional (value : Option String) : OneLine (optionalTextToHex value) := by
    rw [optionalTextToHex_eq]
    exact .hexOptional value
  have hscope : OneLine scopeToContractKey := ⟨by decide, by decide⟩
  apply PokFields.plain_iff.mpr
  exact ⟨hfield _, hfield _, hfield _, hfield _, hscope, hoptional _, .text _, hoptional _,
    hoptional _⟩

/-! ## The text binds the grant -/

theorem hexField_injective {a b : String} (h : hexField a = hexField b) : a = b :=
  utf8_injective (hex_injective h)

/-- A dash is no hex digit, so an absent value is never taken for a present one. -/
theorem hexOptional_injective {a b : Option String} (h : hexOptional a = hexOptional b) :
    a = b := by
  have hdash (value : String) : "-" ≠ hexField value := by
    intro hsame
    have hmem : '-' ∈ (hexField value).toList := by
      rw [← hsame]
      decide
    exact not_mem_hex (by decide) _ hmem
  cases a with
  | none =>
    cases b with
    | none => rfl
    | some b => exact absurd h (hdash b)
  | some a =>
    cases b with
    | none => exact absurd h.symm (hdash a)
    | some b => rw [hexField_injective h]

/-- A safe integer is spelled like a natural number only when it is that number. -/
theorem SafeInteger.text_eq_decimal {n : SafeInteger} {m : Nat} :
    n.text = Lib.decimal m ↔ n.value = m := by
  unfold SafeInteger.text
  split
  · next hneg =>
      constructor
      · intro h
        have hmem : '-' ∈ (Lib.decimal m).toList := by
          rw [← h, String.toList_append]
          exact List.mem_append_left _ (by decide)
        exact absurd hmem (not_mem_decimal (by decide) m)
      · intro h
        omega
  · next hpos =>
      constructor
      · intro h
        have habs := decimal_injective h
        omega
      · intro h
        rw [h, Int.natAbs_natCast]

/-- Two requests for the same grant, apart from the proof itself. -/
structure SameGrant (env₁ : Env) (request₁ : SessionGrantRequest) (env₂ : Env)
    (request₂ : SessionGrantRequest) : Prop where
  contract : env₁.currentAccountId = env₂.currentAccountId
  caller : env₁.predecessorAccountId = env₂.predecessorAccountId
  owner : request₁.targetOwnerId = request₂.targetOwnerId
  sessionPk : request₁.sessionPk = request₂.sessionPk
  scope : request₁.scope = request₂.scope
  resource : request₁.resourceId = request₂.resourceId
  ttl : request₁.ttlMs = request₂.ttlMs
  origin : request₁.originHash = request₂.originHash
  device : request₁.deviceHash = request₂.deviceHash

/-- What the client describes is what the contract is asked for. -/
structure Describes (params : SessionGrantPokParams) (env : Env) (request : SessionGrantRequest) :
    Prop where
  contract : params.contractId = env.currentAccountId
  caller : params.caller = env.predecessorAccountId
  owner : params.targetOwnerId = request.targetOwnerId
  sessionPk : params.sessionPublicKey = request.sessionPk
  scope : params.scope = request.scope
  resource : params.resourceId = request.resourceId
  ttl : params.ttlMs.value = request.ttlMs
  origin : params.originHash = request.originHash
  device : params.deviceHash = request.deviceHash

theorem scope_eq (a b : SessionScope) : a = b := by
  cases a
  cases b
  rfl

theorem sessionPokMessage_injective {env₁ env₂ : Env} {request₁ request₂ : SessionGrantRequest}
    (h : sessionPokMessage env₁ request₁ = sessionPokMessage env₂ request₂) :
    SameGrant env₁ request₁ env₂ request₂ := by
  have hfields := PokFields.joinLines_injective (contractFields_plain env₁ request₁)
    (contractFields_plain env₂ request₂) h
  simp only [contractFields, PokFields.mk.injEq] at hfields
  obtain ⟨hcontract, hcaller, howner, hkey, -, hresource, httl, horigin, hdevice⟩ := hfields
  exact {
    contract := hexField_injective hcontract
    caller := hexField_injective hcaller
    owner := hexField_injective howner
    sessionPk := hexField_injective hkey
    scope := scope_eq _ _
    resource := hexOptional_injective hresource
    ttl := decimal_injective httl
    origin := hexOptional_injective horigin
    device := hexOptional_injective hdevice }

theorem buildSessionGrantPokMessage_iff {params : SessionGrantPokParams} {env : Env}
    {request : SessionGrantRequest} :
    buildSessionGrantPokMessage params = sessionPokMessage env request ↔
      Describes params env request := by
  constructor
  · intro h
    have hfields := PokFields.joinLines_injective (clientFields_plain params)
      (contractFields_plain env request) h
    simp only [clientFields, contractFields, textToHex_eq, optionalTextToHex_eq,
      PokFields.mk.injEq] at hfields
    obtain ⟨hcontract, hcaller, howner, hkey, -, hresource, httl, horigin, hdevice⟩ := hfields
    exact {
      contract := hexField_injective hcontract
      caller := hexField_injective hcaller
      owner := hexField_injective howner
      sessionPk := hexField_injective hkey
      scope := scope_eq _ _
      resource := hexOptional_injective hresource
      ttl := SafeInteger.text_eq_decimal.mp httl
      origin := hexOptional_injective horigin
      device := hexOptional_injective hdevice }
  · intro h
    have hscope : scopeToContractKey = request.scope.asKey := by
      cases request.scope
      rfl
    rw [buildSessionGrantPokMessage_eq, sessionPokMessage_eq]
    simp only [clientFields, contractFields, textToHex_eq, optionalTextToHex_eq, h.contract,
      h.caller, h.owner, h.sessionPk, h.resource, h.origin, h.device, hscope,
      SafeInteger.text_eq_decimal.mpr h.ttl]

/-! ## One proof, one grant -/

/-- The holder of a key signed this message and no other. -/
def SignedOnly (host : Host) (key message : Bytes) : Prop :=
  ∀ signature m, host.ed25519Verify signature m key = true → m = message

/-- A grant is issued only on a proof of the key it names. -/
theorem issueSessionGrant_proof {env : Env} {s : AccessControlContract}
    {request : SessionGrantRequest} {result : AccessControlContract × SessionGrant}
    (h : issueSessionGrant env s request = .ok result) :
    ∃ key signature, parseEd25519PublicKey env.toHost request.sessionPk = some key ∧
      env.ed25519Verify signature (utf8 (sessionPokMessage env request)) key = true := by
  simp only [issueSessionGrant, bind_eq_ok] at h
  obtain ⟨_, hassert, -⟩ := h
  simp only [assertGrantRequest, bind_eq_ok] at hassert
  obtain ⟨-, -, -, -, -, -, -, -, _, -, -, -, -, -, -, -, _, -, -, -, -, -, -, -, -, -, -, -, -, -, _,
    hproof, -⟩ := hassert
  simp only [assertSessionKeyProof, bind_eq_ok, expect_eq_ok, require_eq_ok] at hproof
  obtain ⟨key, hkey, signature, -, hverify⟩ := hproof
  exact ⟨key, signature, hkey, hverify⟩

/-- A key whose holder signed the text of one grant issues that grant only. -/
theorem issueSessionGrant_same {env env' : Env} {s : AccessControlContract}
    {request request' : SessionGrantRequest} {key : Bytes}
    {result : AccessControlContract × SessionGrant}
    (hsigned : SignedOnly env'.toHost key (utf8 (sessionPokMessage env request)))
    (hkey : parseEd25519PublicKey env'.toHost request'.sessionPk = some key)
    (h : issueSessionGrant env' s request' = .ok result) : SameGrant env' request' env request := by
  obtain ⟨key', signature, hkey', hverify⟩ := issueSessionGrant_proof h
  rw [hkey] at hkey'
  cases hkey'
  exact sessionPokMessage_injective (utf8_injective (hsigned signature _ hverify))

/-! ## The client's proof verifies -/

/-- The contract's host reads the pair's public key, and verifies whatever the pair signs. -/
structure KeyPair.Serves (keyPair : KeyPair) (host : Host) (key : Bytes) : Prop where
  parses : host.parsePublicKey keyPair.publicKey = some (0 :: key)
  length_key : key.length = 32
  length_signature : ∀ message, (keyPair.sign message).length = 64
  verifies : ∀ message, host.ed25519Verify (keyPair.sign message) message key = true

/-- The contract reads back the bytes of any signature written in hex. -/
theorem hexBytes_hex (bytes : Bytes) : hexBytes (hex bytes).toList = some bytes := by
  have hdigit : ∀ n < 16, hexValue (hexDigit n) = some n ∧ hexDigit n ≠ '+' := by decide
  rw [hex, String.toList_ofList]
  induction bytes with
  | nil => rfl
  | cons byte rest ih =>
    have hbyte := byte.toNat_lt
    obtain ⟨hhigh, hplus⟩ := hdigit (byte.toNat / 16) (by omega)
    obtain ⟨hlow, -⟩ := hdigit (byte.toNat % 16) (by omega)
    have hwhole : 16 * (byte.toNat / 16) + byte.toNat % 16 = byte.toNat := Nat.div_add_mod _ _
    rw [List.flatMap_cons]
    simp only [List.cons_append, List.nil_append, hexBytes, if_neg hplus, hhigh, hlow, ih,
      Option.bind_eq_bind, Option.bind_some, hwhole, UInt8.ofNat_toNat]
    rfl

theorem length_utf8_hex (bytes : Bytes) : (utf8 (hex bytes)).length = 2 * bytes.length := by
  have hdigit : ∀ n < 16, (hexDigit n).toNat < 128 := by decide
  have hascii : ∀ c ∈ bytes.flatMap fun b => [hexDigit (b.toNat / 16), hexDigit (b.toNat % 16)],
      c.toNat < 128 := by
    intro c hc
    have hmem : c ∈ (hex bytes).toList := by rwa [hex, String.toList_ofList]
    obtain ⟨n, hn, rfl⟩ := mem_hex hmem
    exact hdigit n hn
  rw [hex, utf8_ofList_of_ascii hascii, List.length_map]
  induction bytes with
  | nil => rfl
  | cons byte rest ih =>
    rw [List.flatMap_cons, List.length_append,
      ih fun c hc => hascii c (List.mem_append_right _ hc), List.length_cons]
    simp only [List.length_cons, List.length_nil]
    omega

theorem parseHexSignature_bytesToHex {signature : Bytes} (h : signature.length = 64) :
    parseHexSignature (bytesToHex signature) = some signature := by
  rw [bytesToHex_eq, parseHexSignature, length_utf8_hex, h, if_neg (by decide), hexBytes_hex]

/-- What a prepared grant sends, and to which contract. -/
theorem prepareSessionGrant_request {browser : GrantBrowser} {accountId : String}
    {scope : SessionScope} {resourceId : Option String} {prepared : PreparedSessionGrant}
    (h : prepareSessionGrant browser accountId scope resourceId = .ok prepared) :
    ∃ params : SessionGrantPokParams,
      (∀ env : Env, env.currentAccountId = prepared.transaction.receiverId →
        env.predecessorAccountId = accountId →
          Describes params env prepared.transaction.request) ∧
      prepared.transaction.request.sessionPk = browser.keyPair.publicKey ∧
      prepared.transaction.request.sessionPok =
        signSessionGrantProof browser.keyPair (buildSessionGrantPokMessage params) := by
  unfold prepareSessionGrant at h
  split at h
  · cases h
  · cases h
    refine ⟨_, fun env hcontract hcaller => ?_, rfl, rfl⟩
    exact ⟨hcontract.symm, hcaller.symm, rfl, rfl, rfl, rfl, rfl, rfl, rfl⟩

theorem assertSessionKeyProof_prepared {browser : GrantBrowser} {accountId : String}
    {scope : SessionScope} {resourceId : Option String} {prepared : PreparedSessionGrant}
    {env : Env} {key : Bytes}
    (h : prepareSessionGrant browser accountId scope resourceId = .ok prepared)
    (hserves : browser.keyPair.Serves env.toHost key)
    (hcontract : env.currentAccountId = prepared.transaction.receiverId)
    (hcaller : env.predecessorAccountId = accountId) :
    assertSessionKeyProof env prepared.transaction.request = .ok ⟨⟩ := by
  obtain ⟨params, hdescribes, hpublic, hproof⟩ := prepareSessionGrant_request h
  have hmessage := buildSessionGrantPokMessage_iff.mpr (hdescribes env hcontract hcaller)
  have hkey : parseEd25519PublicKey env.toHost prepared.transaction.request.sessionPk =
      some key := by
    rw [hpublic, parseEd25519PublicKey, hserves.parses]
    exact if_pos hserves.length_key
  have hsignature : parseHexSignature prepared.transaction.request.sessionPok =
      some (browser.keyPair.sign (utf8 (sessionPokMessage env prepared.transaction.request))) := by
    rw [hproof, hmessage]
    exact parseHexSignature_bytesToHex (hserves.length_signature _)
  unfold assertSessionKeyProof
  rw [hkey, hsignature]
  exact require_pos (hserves.verifies _)

/-- The signed text binds every part of the grant; the client's text is the one the contract
verifies exactly for the request the client describes; a key whose holder signed one grant issues no
other; and what the client prepares passes the proof check. -/
theorem session_grant_bound :
    (∀ env₁ env₂ request₁ request₂,
      sessionPokMessage env₁ request₁ = sessionPokMessage env₂ request₂ →
        SameGrant env₁ request₁ env₂ request₂) ∧
    (∀ params env request,
      utf8 (buildSessionGrantPokMessage params) = utf8 (sessionPokMessage env request) ↔
        Describes params env request) ∧
    (∀ env env' s request request' key result,
      SignedOnly env'.toHost key (utf8 (sessionPokMessage env request)) →
      parseEd25519PublicKey env'.toHost request'.sessionPk = some key →
      issueSessionGrant env' s request' = .ok result → SameGrant env' request' env request) ∧
    ∀ browser accountId scope resourceId prepared env key,
      prepareSessionGrant browser accountId scope resourceId = .ok prepared →
      browser.keyPair.Serves env.toHost key →
      env.currentAccountId = prepared.transaction.receiverId →
      env.predecessorAccountId = accountId →
        assertSessionKeyProof env prepared.transaction.request = .ok ⟨⟩ := by
  refine ⟨?_, ?_, ?_, ?_⟩
  · intro env₁ env₂ request₁ request₂ h
    exact sessionPokMessage_injective h
  · intro params env request
    rw [← buildSessionGrantPokMessage_iff]
    constructor
    · exact fun h => utf8_injective h
    · exact fun h => by rw [h]
  · intro env env' s request request' key result hsigned hkey h
    exact issueSessionGrant_same hsigned hkey h
  · intro browser accountId scope resourceId prepared env key h hserves hcontract hcaller
    exact assertSessionKeyProof_prepared h hserves hcontract hcaller

/-! ## The viewer's grant -/

section Vectors

open Youtick.AccessControl.Vectors (host context contractId viewerId start sessionPk
  sessionKeyBytes pokMessage)

/-- The viewer's call on the mainnet deployment. -/
def viewerEnv : Env := { host with toContext := context viewerId start }

def viewerRequest : SessionGrantRequest := AccessControl.Vectors.request

/-- The pair of the viewer's session key, with the one signature it made. -/
def viewerKeyPair : KeyPair where
  publicKey := sessionPk
  secretKey := ""
  sign := fun _ => (parseHexSignature viewerRequest.sessionPok).getD []

/-- A host that verifies that signature. -/
def viewerHost : Host where
  currentAccountId := contractId
  parsePublicKey := host.parsePublicKey
  ed25519Verify := fun signature message publicKey =>
    decide (signature = viewerKeyPair.sign message ∧ publicKey = sessionKeyBytes)

def viewerBrowser : GrantBrowser where
  accessContractId := contractId
  keyPair := viewerKeyPair
  originHash := some "origin"
  deviceHash := some "device"
  nowMs := 1791360000000

theorem host_verifies {signature message key : Bytes}
    (h : host.ed25519Verify signature message key = true) : message = utf8 pokMessage := by
  simp only [host, decide_eq_true_eq] at h
  exact h.2.1

theorem viewerKeyPair_serves : viewerKeyPair.Serves viewerHost sessionKeyBytes where
  parses := by decide +kernel
  length_key := by decide +kernel
  length_signature := fun message => by
    simp only [viewerKeyPair]
    decide +kernel
  verifies := fun message => by simp only [viewerHost, true_and, decide_true]

/-- The viewer prepares the grant the contract issues, and the key that signed it issues no other. -/
theorem session_grant_bound_viewer :
    ∃ s result prepared, new Vectors.ownerId Vectors.marketContractId none = .ok s ∧
      issueSessionGrant viewerEnv s viewerRequest = .ok result ∧
      SameGrant viewerEnv viewerRequest viewerEnv viewerRequest ∧
      prepareSessionGrant viewerBrowser viewerId .play (some "job-001") = .ok prepared ∧
      prepared.transaction.request = viewerRequest ∧
      assertSessionKeyProof { viewerHost with toContext := context viewerId start }
        prepared.transaction.request = .ok ⟨⟩ := by
  have htext : sessionPokMessage viewerEnv viewerRequest = pokMessage := by decide +kernel
  have hsigned : SignedOnly viewerEnv.toHost sessionKeyBytes
      (utf8 (sessionPokMessage viewerEnv viewerRequest)) := by
    intro signature m hverify
    rw [htext]
    exact host_verifies hverify
  have hissued : ((new Vectors.ownerId Vectors.marketContractId none).bind fun s =>
      issueSessionGrant viewerEnv s viewerRequest).toOption.isSome = true := by decide +kernel
  have hprepared : (prepareSessionGrant viewerBrowser viewerId .play
      (some "job-001")).toOption.map (fun p => p.transaction) =
        some ⟨contractId, viewerRequest, 100000000000000, 0⟩ := by decide +kernel
  cases hnew : new Vectors.ownerId Vectors.marketContractId none with
  | error e =>
    rw [hnew] at hissued
    cases hissued
  | ok s =>
    rw [hnew] at hissued
    change (issueSessionGrant viewerEnv s viewerRequest).toOption.isSome = true at hissued
    cases hresult : issueSessionGrant viewerEnv s viewerRequest with
    | error e =>
      rw [hresult] at hissued
      cases hissued
    | ok result =>
      cases hpair : prepareSessionGrant viewerBrowser viewerId .play (some "job-001") with
      | error e =>
        rw [hpair] at hprepared
        cases hprepared
      | ok prepared =>
        rw [hpair] at hprepared
        have htransaction := Option.some.inj hprepared
        refine ⟨s, result, prepared, rfl, hresult, ?_, rfl, congrArg _ htransaction, ?_⟩
        · exact session_grant_bound.2.2.1 viewerEnv viewerEnv s viewerRequest viewerRequest
            sessionKeyBytes result hsigned (by decide +kernel) hresult
        · exact session_grant_bound.2.2.2 viewerBrowser viewerId .play (some "job-001")
            prepared _ sessionKeyBytes hpair viewerKeyPair_serves
            (congrArg GrantTransaction.receiverId htransaction).symm rfl

end Vectors

end Youtick.Web
