import Youtick.AccessControl.StoredGrants

/-!
# Access control: the owner of a session key

Grants are stored under the caller's text of a session key, while the proof of possession is checked
against the parsed bytes. In a run that spells no stored key in another way the bytes of a key have at
most one grant, so one owner, and revoking it leaves the key without a valid grant
(`session_key_owner`). A key the parser reads with and without its prefix has two texts, and two
owners may hold it at once (`session_key_shared`).
-/

set_option autoImplicit false

namespace Youtick.AccessControl

open Youtick.Lib

/-- A stored text that denotes the key of the request, but is not the request's text. -/
def Respells (host : Host) (s : AccessControlContract) (request : SessionGrantRequest) : Prop :=
  ∃ text grant key, s.grants.get text = some grant ∧
    parseEd25519PublicKey host text = some key ∧
    parseEd25519PublicKey host request.sessionPk = some key ∧ text ≠ request.sessionPk

/-- The step issues no grant for a stored key under another text. -/
def KeepsSpelling (host : Host) (x : Transition World (Context × Call)) : Prop :=
  ∀ request, x.label.2 = .issueSessionGrant request → ¬ Respells host x.pre.contract request

/-- A key is stored under one text. -/
def SpelledOnce (host : Host) (s : AccessControlContract) : Prop :=
  ∀ text text' grant grant' key, s.grants.get text = some grant →
    s.grants.get text' = some grant' → parseEd25519PublicKey host text = some key →
    parseEd25519PublicKey host text' = some key → text = text'

section Step

variable {env : Env} {s s' : AccessControlContract}

theorem SpelledOnce.step (h : SpelledOnce env.toHost s) (hindexed : Indexed s) {call : Call}
    (hrun : call.run env s = .ok s')
    (hspelling : ∀ request, call = .issueSessionGrant request → ¬ Respells env.toHost s request) :
    SpelledOnce env.toHost s' := by
  intro text text' grant grant' key hget hget' hkey hkey'
  rcases stored_of_run hindexed hrun hget with
    ⟨old, hold, -⟩ | ⟨request, hcall, htext, -⟩
  · rcases stored_of_run hindexed hrun hget' with
      ⟨old', hold', -⟩ | ⟨request, hcall, htext', -⟩
    · exact h text text' old old' key hold hold' hkey hkey'
    · by_contra hne
      rw [htext'] at hkey' hne
      exact hspelling request hcall ⟨text, old, key, hold, hkey, hkey', hne⟩
  · rcases stored_of_run hindexed hrun hget' with
      ⟨old', hold', -⟩ | ⟨request', hcall', htext', -⟩
    · by_contra hne
      rw [htext] at hkey hne
      exact hspelling request hcall ⟨text', old', key, hold', hkey', hkey, Ne.symm hne⟩
    · rw [hcall] at hcall'
      cases hcall'
      rw [htext, htext']

/-- What a successful revocation leaves under the texts. -/
theorem revokeSessionGrant_get {sessionPk text : String} {grant : SessionGrant}
    (h : revokeSessionGrant env s sessionPk = .ok s') (hget : s'.grants.get text = some grant) :
    (text = sessionPk → grant.revoked = true) ∧ ∃ old, s.grants.get text = some old := by
  simp only [revokeSessionGrant, bind_eq_ok, expect_eq_ok, require_eq_ok, pure_eq_ok] at h
  obtain ⟨stored, hstored, -, -, rfl⟩ := h
  rw [LookupMap.get_insert] at hget
  split at hget
  · next heq =>
      cases hget
      exact ⟨fun _ => rfl, stored, heq ▸ hstored⟩
  · next hne => exact ⟨fun heq => absurd heq hne, grant, hget⟩

theorem revokeSessionGrant_stored {sessionPk : String}
    (h : revokeSessionGrant env s sessionPk = .ok s') :
    ∃ grant, s.grants.get sessionPk = some grant := by
  simp only [revokeSessionGrant, bind_eq_ok, expect_eq_ok] at h
  obtain ⟨stored, hstored, -⟩ := h
  exact ⟨stored, hstored⟩

/-- A valid answer has a stored grant that is not revoked. -/
theorem stored_of_valid {sessionPk : String} {scope : SessionScope}
    {resourceId originHash deviceHash : Option String}
    (h : (verifySessionGrant env s sessionPk scope resourceId originHash deviceHash).valid = true) :
    ∃ grant, s.grants.get sessionPk = some grant ∧ grant.revoked = false := by
  unfold verifySessionGrant at h
  dsimp only at h
  split_ifs at h
  cases hget : s.grants.get sessionPk with
  | none =>
    rw [hget] at h
    cases h
  | some grant =>
    refine ⟨grant, rfl, ?_⟩
    rw [hget] at h
    dsimp only at h
    by_contra hrevoked
    rw [Bool.not_eq_false] at hrevoked
    rw [if_pos hrevoked] at h
    cases h

end Step

/-- In a run whose steps keep the spelling of the stored keys, two stored grants that name one key are
one grant under one text, and no grant of a key is valid after its revocation. -/
theorem session_key_owner {host : Host} {w₀ w : World}
    {tr : List (Transition World (Context × Call))} (hinit : Initial w₀)
    (htr : Trace (worldStep host) w₀ tr w) (hspelling : ∀ x ∈ tr, KeepsSpelling host x) :
    (∀ text text' grant grant' key, w.contract.grants.get text = some grant →
      w.contract.grants.get text' = some grant' →
      parseEd25519PublicKey host grant.sessionPk = some key →
      parseEd25519PublicKey host grant'.sessionPk = some key →
      text = text' ∧ grant = grant' ∧ grant.ownerId = grant'.ownerId) ∧
    ∀ (context : Context) (sessionPk : String) (s' : AccessControlContract),
      revokeSessionGrant ⟨host, context⟩ w.contract sessionPk = .ok s' →
      ∀ text key, parseEd25519PublicKey host sessionPk = some key →
        parseEd25519PublicKey host text = some key →
        ∀ (later : Context) scope resourceId originHash deviceHash,
          (verifySessionGrant ⟨host, later⟩ s' text scope resourceId originHash
            deviceHash).valid = false := by
  have hsound := grantsSound_of_trace hinit htr
  have hfresh : Indexed w₀.contract ∧ SpelledOnce host w₀.contract := by
    cases hinit with
    | new hnew now =>
      refine ⟨Indexed.new hnew, ?_⟩
      intro text text' grant grant' key hget
      rw [new_grants hnew, LookupMap.get_empty] at hget
      cases hget
  have honce : SpelledOnce host w.contract := by
    refine (htr.invariant_along (I := fun w => Indexed w.contract ∧ SpelledOnce host w.contract)
      hfresh ?_).1.2
    rintro ⟨pre, label, post⟩ hmem ⟨hindexed, hpre⟩ hst
    obtain ⟨-, -, hsame | hrun⟩ := worldStep_cases hst
    · rw [hsame]
      exact ⟨hindexed, hpre⟩
    · exact ⟨hindexed.step hrun,
        SpelledOnce.step hpre hindexed hrun (hspelling ⟨pre, label, post⟩ hmem)⟩
  constructor
  · intro text text' grant grant' key hget hget' hkey hkey'
    rw [hsound.sessionPk text grant hget] at hkey
    rw [hsound.sessionPk text' grant' hget'] at hkey'
    obtain rfl := honce text text' grant grant' key hget hget' hkey hkey'
    obtain rfl := Option.some.inj (hget.symm.trans hget')
    exact ⟨rfl, rfl, rfl⟩
  · intro context sessionPk s' hrevoke text key hkey hkey' later scope resourceId originHash deviceHash
    by_contra hvalid
    rw [Bool.not_eq_false] at hvalid
    obtain ⟨grant, hget, hrevoked⟩ := stored_of_valid hvalid
    obtain ⟨hgone, old, hold⟩ := revokeSessionGrant_get hrevoke hget
    obtain ⟨stored, hstored⟩ := revokeSessionGrant_stored hrevoke
    have htext := honce text sessionPk old stored key hold hstored hkey' hkey
    cases hrevoked.symm.trans (hgone htext)

/-! ## A key with two texts -/

namespace Vectors

def otherId : AccountId := "other.near"

def sharedKey : String := "8SFqwqnq4whPhs8icwHA2hQg3hUoN1qrCLK1SBx3WKwe"
def prefixedKey : String := "ed25519:8SFqwqnq4whPhs8icwHA2hQg3hUoN1qrCLK1SBx3WKwe"
def sharedKeyBytes : Bytes :=
  [110, 122, 28, 221, 41, 176, 183, 143, 209, 58, 244, 197, 89, 143, 239, 244, 239, 42, 151, 22, 110,
   60, 166, 242, 228, 251, 252, 205, 128, 80, 91, 241]

/-- The viewer's request with the prefixed text, and the other account's with the bare one, each
signed with the key. -/
def prefixedRequest : SessionGrantRequest :=
  { request with
    sessionPk := prefixedKey
    sessionPok :=
      "58dc67ff76280924f7feba1cd155f43b77f3752147df9982fdf4705ae430726a" ++
      "6fbb434bf96e7be2a55bf4174aa8bc19e2abc4803f31de053a478c591c4a8803" }
def bareRequest : SessionGrantRequest :=
  { request with
    targetOwnerId := otherId
    sessionPk := sharedKey
    sessionPok :=
      "79b1f39a5e2086b8bf3b52212788cad1ad226a9ca82774a5f9a996a899f7be59" ++
      "3154b181a05b644df273bac80fe92205182b55b4a625b5c62b44f724b3118704" }

def prefixedMessage : String := joinLines [
  "youtick-session-grant-v1",
  "contract=6163636573732e796f757469636b2e6e656172",
  "caller=7669657765722e6e656172",
  "target_owner=7669657765722e6e656172",
  "session_pk=656432353531393a3853467177716e71347768506873386963774841326851" ++
    "673368556f4e317172434c4b3153427833574b7765",
  "scope=play",
  "resource_id=6a6f622d303031",
  "ttl_ms=600000",
  "origin_hash=6f726967696e",
  "device_hash=646576696365"]
def bareMessage : String := joinLines [
  "youtick-session-grant-v1",
  "contract=6163636573732e796f757469636b2e6e656172",
  "caller=6f746865722e6e656172",
  "target_owner=6f746865722e6e656172",
  "session_pk=3853467177716e71347768506873386963774841326851673368556f4e3171" ++
    "72434c4b3153427833574b7765",
  "scope=play",
  "resource_id=6a6f622d303031",
  "ttl_ms=600000",
  "origin_hash=6f726967696e",
  "device_hash=646576696365"]

/-- A deployment whose parser reads the key with and without its prefix. -/
def sharedHost : Host where
  currentAccountId := contractId
  parsePublicKey text :=
    if text = prefixedKey ∨ text = sharedKey then some (0 :: sharedKeyBytes) else none
  ed25519Verify signature message publicKey :=
    decide (publicKey = sharedKeyBytes ∧
      (parseHexSignature prefixedRequest.sessionPok = some signature ∧
          message = utf8 prefixedMessage ∨
        parseHexSignature bareRequest.sessionPok = some signature ∧ message = utf8 bareMessage))

/-- The calls from a fresh contract. -/
def runShared (calls : List (Context × Call)) :
    Option (List (Transition World (Context × Call)) × World) :=
  match new ownerId marketContractId (some guardianId) with
  | .ok c => execTrace (World.exec sharedHost) ⟨c, start⟩ calls
  | .error _ => none

theorem trace_of_runShared {calls : List (Context × Call)} {α : Type}
    {f : List (Transition World (Context × Call)) × World → α} {a : α}
    (h : (runShared calls).map f = some a) :
    ∃ w₀ tr w, Initial w₀ ∧ Trace (worldStep sharedHost) w₀ tr w ∧ f (tr, w) = a := by
  obtain ⟨⟨tr, w⟩, hrun, hf⟩ := Option.map_eq_some_iff.mp h
  simp only [runShared] at hrun
  split at hrun
  · next c hc => exact ⟨⟨c, start⟩, tr, w, .new hc start, trace_of_execTrace _ hrun, hf⟩
  · exact absurd hrun (by simp)

end Vectors

/-- Two owners hold grants under two texts of one key. -/
theorem session_key_shared :
    ∃ w₀ tr w, Initial w₀ ∧ Trace (worldStep Vectors.sharedHost) w₀ tr w ∧
      ∃ grant grant', w.contract.grants.get Vectors.prefixedKey = some grant ∧
        w.contract.grants.get Vectors.sharedKey = some grant' ∧
        parseEd25519PublicKey Vectors.sharedHost grant.sessionPk = some Vectors.sharedKeyBytes ∧
        parseEd25519PublicKey Vectors.sharedHost grant'.sessionPk = some Vectors.sharedKeyBytes ∧
        grant.ownerId ≠ grant'.ownerId := by
  have hrun : (Vectors.runShared
      [(Vectors.context Vectors.viewerId Vectors.start, .issueSessionGrant Vectors.prefixedRequest),
        (Vectors.context Vectors.otherId Vectors.start, .issueSessionGrant Vectors.bareRequest)]).map
      (fun r => [Vectors.prefixedKey, Vectors.sharedKey].map fun text =>
        (r.2.contract.grants.get text).map fun grant => (grant.sessionPk, grant.ownerId)) =
      some [some (Vectors.prefixedKey, Vectors.viewerId), some (Vectors.sharedKey, Vectors.otherId)]
      := by
    decide +kernel
  obtain ⟨w₀, tr, w, hinit, htr, hgrants⟩ := Vectors.trace_of_runShared hrun
  simp only [List.map_cons, List.map_nil, List.cons.injEq, and_true] at hgrants
  obtain ⟨hprefixed, hbare⟩ := hgrants
  obtain ⟨grant, hget, hnames⟩ := Option.map_eq_some_iff.mp hprefixed
  obtain ⟨grant', hget', hnames'⟩ := Option.map_eq_some_iff.mp hbare
  obtain ⟨hkey, howner⟩ := Prod.mk.inj hnames
  obtain ⟨hkey', howner'⟩ := Prod.mk.inj hnames'
  refine ⟨w₀, tr, w, hinit, htr, grant, grant', hget, hget', ?_, ?_, ?_⟩
  · rw [hkey]
    decide
  · rw [hkey']
    decide
  · rw [howner, howner']
    decide

/-- The viewer's grant under the prefixed text is the key's only one. -/
theorem session_key_owner_viewer :
    ∃ w₀ tr w, Initial w₀ ∧ Trace (worldStep Vectors.sharedHost) w₀ tr w ∧
      (∃ grant, w.contract.grants.get Vectors.prefixedKey = some grant) ∧
      ∀ text grant grant', w.contract.grants.get Vectors.prefixedKey = some grant →
        w.contract.grants.get text = some grant' →
        parseEd25519PublicKey Vectors.sharedHost grant.sessionPk = some Vectors.sharedKeyBytes →
        parseEd25519PublicKey Vectors.sharedHost grant'.sessionPk = some Vectors.sharedKeyBytes →
        Vectors.prefixedKey = text := by
  have hrun : (Vectors.runShared
      [(Vectors.context Vectors.viewerId Vectors.start,
        .issueSessionGrant Vectors.prefixedRequest)]).map
      (fun r => ((r.2.contract.grants.get Vectors.prefixedKey).isSome,
        r.1.map fun x => (x.label.2, x.pre.contract.grants.keys))) =
      some (true, [(.issueSessionGrant Vectors.prefixedRequest, ∅)]) := by decide +kernel
  obtain ⟨w₀, tr, w, hinit, htr, hfacts⟩ := Vectors.trace_of_runShared hrun
  obtain ⟨hstored, hlabels⟩ := Prod.mk.inj hfacts
  refine ⟨w₀, tr, w, hinit, htr, Option.isSome_iff_exists.mp hstored, ?_⟩
  intro text grant grant' hget hget' hkey hkey'
  refine ((session_key_owner hinit htr ?_).1 Vectors.prefixedKey text grant grant' _ hget hget' hkey
    hkey').1
  rintro x hx request - ⟨stored, old, -, hold, -⟩
  -- Nothing was stored before the only call.
  have hpair : (x.label.2, x.pre.contract.grants.keys) ∈
      tr.map fun x => (x.label.2, x.pre.contract.grants.keys) := List.mem_map_of_mem hx
  rw [hlabels] at hpair
  have hkeys := (Prod.mk.inj (List.mem_singleton.mp hpair)).2
  have hmem := LookupMap.mem_keys.mpr ⟨old, hold⟩
  rw [hkeys] at hmem
  exact absurd hmem (Finset.notMem_empty _)

end Youtick.AccessControl
