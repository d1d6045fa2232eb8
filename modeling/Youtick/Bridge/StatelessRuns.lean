import Youtick.Bridge.StatelessPlayback

/-!
# Bridge: runs of stateless playback requests

`Grounded` says what the cache promises: a value that is used at a time was read for that very source
less than its lifetime before. It holds of every entry from the moment it is stored (`EntrySound`),
and a lookup only ever passes on what an entry has. A decision is justified when it is the one that
grounded values decide; the times of the lookups lie between the arrival of the request and its
answer.
-/

set_option autoImplicit false

namespace Youtick.Bridge.Stateless

open Youtick.Lib
open Youtick.Relayer (JsValue JsString Json Platform property stringProperty)
open Youtick.Bridge.Playback (verifyEd25519Signature)

/-! ## Decisions of values -/

/-- The four values that decide; a grant or a policy that is refused is none. -/
structure Reads where
  grant : Option Nat
  publication : Json
  entitled : Bool
  policy : Option (Option String)

def decidePlayback (env : PlaybackV2Env) (request : PlaybackV2Request) (reads : Reads)
    (nowMs : Nat) : Result Token := do
  let expiresAtMs ← expect reads.grant denied
  let profile ← checkPublication env request reads.publication.val
  require (reads.entitled = true) denied
  require (mediaProfileFamily (some profile) ≠ some .stream) denied
  let preview ← expect reads.policy denied
  tokenFor request profile expiresAtMs preview nowMs

/-- Errors that decide nothing: something could not be read or signed. -/
def failures : List String :=
  [Playback.unavailable, "internal_error", "provider_unavailable", "runtime_not_configured"]

/-! ## What a value was read for -/

section Journal

variable (library : PlaybackLibrary) (env : PlaybackV2Env) (journal : List Fact)

/-- The Market's record of the device of a request, and the access of the key it names. -/
def MarketRead (request : PlaybackV2Request) (atMs expiresAtMs : Nat) : Prop :=
  ∃ number device readAtMs nowMs signedDelegate authorizing publicKey,
    request.proof = .market signedDelegate ∧
    .read number (.device request.accountId request.sessionPublicKey device) readAtMs ∈ journal ∧
    readAtMs ≤ nowMs ∧ nowMs ≤ atMs ∧
    checkMarketDevice request device.val nowMs = .ok (expiresAtMs, authorizing) ∧
    devicePublicKey library request signedDelegate authorizing = .ok publicKey ∧
    .read number (.accessKey request.accountId publicKey true) atMs ∈ journal

/-- The value was read for the source, and the read was complete at this time. -/
def ReadAs (atMs : Nat) : Source → CachedValue → Prop
  | .grant false certificate proof accountId, .proven =>
    ∃ number, .read number (.wallet certificate proof accountId true) atMs ∈ journal
  | .grant true certificate proof accountId, .deviceExpiry expiresAtMs =>
    ∃ request : PlaybackV2Request,
      request.grantSource = .grant true certificate proof accountId ∧
      MarketRead library journal request atMs expiresAtMs
  | .publication publicationId, .publication value =>
    ∃ number, .read number (.publication publicationId value) atMs ∈ journal
  | .entitlement accountId publicationId _, .entitled entitled =>
    ∃ number value, .read number (.entitlement accountId publicationId value) atMs ∈ journal ∧
      entitled = isTrue value.val
  | .policy stream playbackId, .policy preview =>
    ∃ number playback, .read number (.playback stream playbackId playback) atMs ∈ journal ∧
      checkProviderPolicy library playback = .ok preview
  | _, _ => False

/-- The value in use for a source was read for it less than the value's lifetime before. -/
def Grounded (source : Source) (value : CachedValue) (usedAtMs : Nat) : Prop :=
  ∃ origin atMs, source.Same origin ∧ ReadAs library journal atMs origin value ∧
    atMs ≤ usedAtMs ∧ usedAtMs < atMs + value.lifetimeMs

/-- Why a request has no grant; all of it was read by the request itself. -/
inductive GrantDenied (number : Nat) (request : PlaybackV2Request) (fromMs untilMs : Nat) : Prop
  | signature (h : verifyEd25519Signature library.platform request.sessionPublicKey
      request.requestSignature (canonicalMessage env request) ≠ .ok ⟨⟩)
  | shape (publicKey signature nonce : String) (expiresAtMs : Nat)
      (hproof : request.proof = .wallet publicKey signature nonce expiresAtMs)
      (h : checkWalletProof signature nonce ≠ .ok ⟨⟩)
  | wallet (atMs : Nat) (hfrom : fromMs ≤ atMs) (huntil : atMs ≤ untilMs)
      (hread : .read number (.wallet (.object request.certificate) request.certificateProof
        request.accountId false) atMs ∈ journal)
  | device (device : Json) (atMs nowMs : Nat) (hfrom : fromMs ≤ atMs) (hnow : atMs ≤ nowMs)
      (huntil : nowMs ≤ untilMs)
      (hread : .read number (.device request.accountId request.sessionPublicKey device) atMs ∈
        journal)
      (h : ∀ found, checkMarketDevice request device.val nowMs ≠ .ok found)
  | publicKey (device : Json) (atMs nowMs expiresAtMs : Nat) (signedDelegate : Option String)
      (authorizing : Option JsValue) (hfrom : fromMs ≤ atMs) (hnow : atMs ≤ nowMs)
      (huntil : nowMs ≤ untilMs)
      (hread : .read number (.device request.accountId request.sessionPublicKey device) atMs ∈
        journal)
      (hdevice : checkMarketDevice request device.val nowMs = .ok (expiresAtMs, authorizing))
      (h : ∀ key, devicePublicKey library request signedDelegate authorizing ≠ .ok key)
  | accessKey (publicKey : String) (atMs : Nat) (hfrom : fromMs ≤ atMs) (huntil : atMs ≤ untilMs)
      (hread : .read number (.accessKey request.accountId publicKey false) atMs ∈ journal)

/-- Where the grant of a request comes from. -/
def GrantFrom (number : Nat) (request : PlaybackV2Request) (fromMs usedAtMs : Nat) :
    Option Nat → Prop
  | none => GrantDenied library env journal number request fromMs usedAtMs
  | some expiresAtMs =>
    match request.proof with
    | .wallet _ _ _ certificateExpiresAtMs => expiresAtMs = certificateExpiresAtMs ∧
        Grounded library journal request.grantSource .proven usedAtMs
    | .market _ =>
      Grounded library journal request.grantSource (.deviceExpiry expiresAtMs) usedAtMs

/-- Where the policy comes from; a refused one was read by the request itself. -/
def PolicyFrom (number : Nat) (stream : Bool) (playbackId : String) (fromMs usedAtMs : Nat) :
    Option (Option String) → Prop
  | none => ∃ playback atMs, fromMs ≤ atMs ∧ atMs ≤ usedAtMs ∧
      .read number (.playback stream playbackId playback) atMs ∈ journal ∧
      checkProviderPolicy library playback = .error denied
  | some preview => Grounded library journal (.policy stream playbackId) (.policy preview) usedAtMs

/-- The values were looked up between the two times, one after the other, as far as they were
needed. -/
structure Consulted (number : Nat) (request : PlaybackV2Request) (reads : Reads)
    (fromMs untilMs : Nat) : Prop where
  grant : ∃ atMs, fromMs ≤ atMs ∧ atMs ≤ untilMs ∧
    GrantFrom library env journal number request fromMs atMs reads.grant
  publication : reads.grant.isSome = true → ∃ atMs, fromMs ≤ atMs ∧ atMs ≤ untilMs ∧
    Grounded library journal (.publication request.publicationId)
      (.publication reads.publication) atMs
  entitlement : reads.grant.isSome = true →
    ∀ profile, checkPublication env request reads.publication.val = .ok profile →
      ∃ atMs, fromMs ≤ atMs ∧ atMs ≤ untilMs ∧
        Grounded library journal
          (.entitlement request.accountId request.publicationId reads.publication.val)
          (.entitled reads.entitled) atMs
  policy : reads.grant.isSome = true →
    ∀ profile, checkPublication env request reads.publication.val = .ok profile →
      reads.entitled = true → mediaProfileFamily (some profile) ≠ some .stream →
      ∃ atMs, fromMs ≤ atMs ∧ atMs ≤ untilMs ∧
        PolicyFrom library journal number false request.playbackId fromMs atMs reads.policy

/-- The outcome of a request is a failure, or what consulted values decide. -/
def Justified (number : Nat) (request : PlaybackV2Request) (outcome : Result Token)
    (fromMs untilMs : Nat) : Prop :=
  (∃ code ∈ failures, outcome = .error code) ∨
    ∃ reads nowMs, Consulted library env journal number request reads fromMs untilMs ∧
      nowMs ≤ untilMs ∧ outcome = decidePlayback env request reads nowMs

/-- The outcome of a lookup is a failure, or a value that came from somewhere at a time between. -/
def LookedUp {α : Type} (cameFrom : Nat → Option α → Prop) (outcome : Result α)
    (fromMs untilMs : Nat) : Prop :=
  (∃ code ∈ failures, outcome = .error code) ∨
    ∃ value atMs, fromMs ≤ atMs ∧ atMs ≤ untilMs ∧ outcome = expect value denied ∧
      cameFrom atMs value

/-- The policy that a ticket's request is told. -/
def PolicyJustified (number : Nat) (stream : Bool) (playbackId : String)
    (outcome : Result (Option String)) (fromMs untilMs : Nat) : Prop :=
  LookedUp (PolicyFrom library journal number stream playbackId fromMs) outcome fromMs untilMs

end Journal

section Mono

variable {library : PlaybackLibrary} {env : PlaybackV2Env} {journal journal' : List Fact}
  {number fromMs atMs untilMs untilMs' : Nat} {request : PlaybackV2Request}

theorem MarketRead.mono {expiresAtMs : Nat} (h : MarketRead library journal request atMs expiresAtMs)
    (hj : journal ⊆ journal') : MarketRead library journal' request atMs expiresAtMs := by
  obtain ⟨n, device, readAt, now, delegate, authorizing, key, hproof, hdevice, hread, hnow, hcheck,
    hkey, haccess⟩ := h
  exact ⟨n, device, readAt, now, delegate, authorizing, key, hproof, hj hdevice, hread, hnow, hcheck,
    hkey, hj haccess⟩

theorem ReadAs.mono {source : Source} {value : CachedValue}
    (h : ReadAs library journal atMs source value) (hj : journal ⊆ journal') :
    ReadAs library journal' atMs source value := by
  unfold ReadAs at h ⊢
  split at h
  · obtain ⟨n, hread⟩ := h
    exact ⟨n, hj hread⟩
  · obtain ⟨request, hsource, hread⟩ := h
    exact ⟨request, hsource, hread.mono hj⟩
  · obtain ⟨n, hread⟩ := h
    exact ⟨n, hj hread⟩
  · obtain ⟨n, value, hread, hvalue⟩ := h
    exact ⟨n, value, hj hread, hvalue⟩
  · obtain ⟨n, playback, hread, hpolicy⟩ := h
    exact ⟨n, playback, hj hread, hpolicy⟩
  · exact h.elim

theorem Grounded.mono {source : Source} {value : CachedValue}
    (h : Grounded library journal source value atMs) (hj : journal ⊆ journal') :
    Grounded library journal' source value atMs := by
  obtain ⟨origin, readAt, hsame, hread, hbefore, hlive⟩ := h
  exact ⟨origin, readAt, hsame, hread.mono hj, hbefore, hlive⟩

theorem GrantDenied.mono (h : GrantDenied library env journal number request fromMs untilMs)
    (hj : journal ⊆ journal') : GrantDenied library env journal' number request fromMs untilMs := by
  cases h with
  | signature h => exact .signature h
  | shape publicKey signature nonce expiresAtMs hproof h =>
    exact .shape publicKey signature nonce expiresAtMs hproof h
  | wallet atMs hfrom huntil hread => exact .wallet atMs hfrom huntil (hj hread)
  | device device atMs nowMs hfrom hnow huntil hread h =>
    exact .device device atMs nowMs hfrom hnow huntil (hj hread) h
  | publicKey device atMs nowMs expiresAtMs signedDelegate authorizing hfrom hnow huntil hread
      hdevice h =>
      exact .publicKey device atMs nowMs expiresAtMs signedDelegate authorizing hfrom hnow huntil
        (hj hread) hdevice h
  | accessKey publicKey atMs hfrom huntil hread =>
    exact .accessKey publicKey atMs hfrom huntil (hj hread)

theorem GrantFrom.mono {grant : Option Nat}
    (h : GrantFrom library env journal number request fromMs atMs grant)
    (hj : journal ⊆ journal') : GrantFrom library env journal' number request fromMs atMs grant := by
  cases grant with
  | none => exact GrantDenied.mono h hj
  | some expiresAtMs =>
    unfold GrantFrom at h ⊢
    dsimp only at h ⊢
    split at h
    · exact ⟨h.1, h.2.mono hj⟩
    · exact Grounded.mono h hj

theorem PolicyFrom.mono {stream : Bool} {playbackId : String} {policy : Option (Option String)}
    (h : PolicyFrom library journal number stream playbackId fromMs atMs policy)
    (hj : journal ⊆ journal') :
    PolicyFrom library journal' number stream playbackId fromMs atMs policy := by
  cases policy with
  | none =>
    obtain ⟨playback, readAt, hfrom, huntil, hread, hcheck⟩ := h
    exact ⟨playback, readAt, hfrom, huntil, hj hread, hcheck⟩
  | some preview => exact Grounded.mono h hj

theorem Consulted.mono {reads : Reads}
    (h : Consulted library env journal number request reads fromMs untilMs)
    (hj : journal ⊆ journal') (huntil : untilMs ≤ untilMs') :
    Consulted library env journal' number request reads fromMs untilMs' where
  grant := by
    obtain ⟨atMs, hfrom, hle, hgrant⟩ := h.grant
    exact ⟨atMs, hfrom, hle.trans huntil, hgrant.mono hj⟩
  publication := by
    intro hsome
    obtain ⟨atMs, hfrom, hle, hgrounded⟩ := h.publication hsome
    exact ⟨atMs, hfrom, hle.trans huntil, hgrounded.mono hj⟩
  entitlement := by
    intro hsome profile hcheck
    obtain ⟨atMs, hfrom, hle, hgrounded⟩ := h.entitlement hsome profile hcheck
    exact ⟨atMs, hfrom, hle.trans huntil, hgrounded.mono hj⟩
  policy := by
    intro hsome profile hcheck hentitled hfamily
    obtain ⟨atMs, hfrom, hle, hpolicy⟩ := h.policy hsome profile hcheck hentitled hfamily
    exact ⟨atMs, hfrom, hle.trans huntil, hpolicy.mono hj⟩

theorem Justified.mono {outcome : Result Token}
    (h : Justified library env journal number request outcome fromMs untilMs)
    (hj : journal ⊆ journal') (huntil : untilMs ≤ untilMs') :
    Justified library env journal' number request outcome fromMs untilMs' := by
  refine h.imp_right ?_
  rintro ⟨reads, nowMs, hconsulted, hnow, houtcome⟩
  exact ⟨reads, nowMs, hconsulted.mono hj huntil, hnow.trans huntil, houtcome⟩

theorem LookedUp.mono {α : Type} {cameFrom cameFrom' : Nat → Option α → Prop}
    {outcome : Result α} (h : LookedUp cameFrom outcome fromMs untilMs)
    (hfrom : ∀ atMs value, cameFrom atMs value → cameFrom' atMs value) (huntil : untilMs ≤ untilMs') :
    LookedUp cameFrom' outcome fromMs untilMs' := by
  refine h.imp_right ?_
  rintro ⟨value, atMs, hafter, hbefore, houtcome, hvalue⟩
  exact ⟨value, atMs, hafter, hbefore.trans huntil, houtcome, hfrom atMs value hvalue⟩

end Mono

/-! ## The invariant -/

section Invariant

variable (library : PlaybackLibrary) (env : PlaybackV2Env) (texts : Set String)

/-- What a line of the journal needs to have before it. -/
def FactSound (before : List Fact) : Fact → Prop
  | .decided number (.token request outcome) atMs => ∃ fromMs, .accepted number fromMs ∈ before ∧
      Justified library env before number request outcome fromMs atMs
  | .decided number (.policy stream playbackId outcome) atMs =>
    ∃ fromMs, .accepted number fromMs ∈ before ∧
      PolicyJustified library before number stream playbackId outcome fromMs atMs
  | _ => True

def Lawful (journal : List Fact) : Prop :=
  ∀ before fact rest, journal = before ++ fact :: rest → FactSound library env before fact

/-- The source can be told from its key, and what is hashed for it is among the texts. -/
def Source.Hashed (source : Source) : Prop :=
  source.Valid ∧ ∀ value ∈ source.texts library.platform, value ∈ texts

/-- An entry was read for the source of its key, and expires with the reading. -/
def EntrySound (w : Edge) (entry : CacheEntry) : Prop :=
  ∃ source atMs, source.Hashed library texts ∧
    entry.key = cacheKey library.platform env.versionId source ∧
    ReadAs library w.journal atMs source entry.value ∧ atMs ≤ w.clockMs ∧
    entry.expiresAt ≤ atMs + entry.value.lifetimeMs

/-- The entry was stored in this very turn, with what was just read. -/
def Stored (u : Edge) (entry : CacheEntry) : Prop :=
  ∃ source, source.Hashed library texts ∧
    entry.key = cacheKey library.platform env.versionId source ∧
    ReadAs library u.journal u.clockMs source entry.value ∧
    entry.expiresAt ≤ u.clockMs + entry.value.lifetimeMs

structure Kept (w : Edge) : Prop where
  entries : ∀ entry ∈ w.cache, EntrySound library env texts w entry
  bounded : RecencyCache.WellFormed playbackCacheMaxRecords w.cache
  lawful : Lawful library env w.journal

end Invariant

/-- Time passes and nothing is forgotten. -/
structure Extends (w u : Edge) : Prop where
  clock : w.clockMs ≤ u.clockMs
  journal : w.journal <+: u.journal

theorem Extends.refl (w : Edge) : Extends w w := ⟨le_rfl, List.prefix_rfl⟩

theorem Extends.trans {w u v : Edge} (h : Extends w u) (h' : Extends u v) : Extends w v :=
  ⟨h.clock.trans h'.clock, h.journal.trans h'.journal⟩

section Steps

variable {library : PlaybackLibrary} {env : PlaybackV2Env} {texts : Set String} {w u : Edge}
  {entry : CacheEntry} {fact : Fact} {journal : List Fact}

theorem Lawful.nil : Lawful library env [] := by
  intro before fact rest h
  simp at h

theorem Lawful.snoc (h : Lawful library env journal) (hfact : FactSound library env journal fact) :
    Lawful library env (journal ++ [fact]) := by
  intro before found rest heq
  rcases List.eq_nil_or_concat rest with rfl | ⟨rest, last, rfl⟩
  · obtain ⟨rfl, hlast⟩ := List.append_inj' heq rfl
    rw [← List.singleton_inj.mp hlast]
    exact hfact
  · rw [List.concat_eq_append, ← List.cons_append, ← List.append_assoc] at heq
    obtain ⟨hjournal, -⟩ := List.append_inj' heq rfl
    exact h before found rest hjournal

theorem EntrySound.mono (h : EntrySound library env texts w entry) (hext : Extends w u) :
    EntrySound library env texts u entry := by
  obtain ⟨source, atMs, hsource, hkey, hread, hbefore, hexpires⟩ := h
  exact ⟨source, atMs, hsource, hkey, hread.mono hext.journal.subset, hbefore.trans hext.clock,
    hexpires⟩

theorem Stored.sound (h : Stored library env texts u entry) :
    EntrySound library env texts u entry := by
  obtain ⟨source, hsource, hkey, hread, hexpires⟩ := h
  exact ⟨source, u.clockMs, hsource, hkey, hread, le_rfl, hexpires⟩

/-- An entry that stays is the entry it was. -/
def Refreshes (library : PlaybackLibrary) (env : PlaybackV2Env) (texts : Set String)
    (w u : Edge) : Prop :=
  ∀ entry ∈ u.cache, entry ∈ w.cache ∨ Stored library env texts u entry

theorem Kept.entries_step (h : Kept library env texts w) (hext : Extends w u)
    (hcache : Refreshes library env texts w u) :
    ∀ entry ∈ u.cache, EntrySound library env texts u entry := by
  intro entry hentry
  rcases hcache entry hentry with hold | hnew
  · exact (h.entries entry hold).mono hext
  · exact hnew.sound

theorem kept_start (clockMs : Nat) : Kept library env texts (start clockMs) where
  entries := fun _ hentry => absurd hentry List.not_mem_nil
  bounded := RecencyCache.wellFormed_nil
  lawful := Lawful.nil

/-- A value that is found in the cache is grounded. -/
theorem Kept.grounded (h : Kept library env texts w) (hsha : Set.InjOn (digestOf library.platform) texts)
    {source : Source} (hsource : source.Hashed library texts) {value : CachedValue} {nowMs : Nat}
    (hnow : w.clockMs ≤ nowMs)
    (hget : RecencyCache.get w.cache (cacheKey library.platform env.versionId source) nowMs =
      some value) : Grounded library w.journal source value nowMs := by
  obtain ⟨entry, hentry, hkey, rfl, hlive⟩ := RecencyCache.get_some hget
  obtain ⟨origin, atMs, horigin, hkey', hread, hbefore, hexpires⟩ := h.entries entry hentry
  have hsame : source.Same origin :=
    same_of_cacheKey hsha hsource.1 horigin.1 hsource.2 horigin.2 (hkey.symm.trans hkey')
  exact ⟨origin, atMs, hsame, hread, hbefore.trans hnow, hlive.trans_le hexpires⟩

theorem Source.Same.refl (source : Source) : source.Same source := by
  cases source with
  | grant => exact ⟨rfl, rfl, rfl, rfl⟩
  | publication => exact rfl
  | entitlement => exact ⟨rfl, rfl, rfl⟩
  | policy => exact ⟨rfl, rfl⟩

/-- So is a value that was just read. -/
theorem ReadAs.grounded {source : Source} {value : CachedValue} {atMs : Nat}
    (h : ReadAs library journal atMs source value) : Grounded library journal source value atMs :=
  ⟨source, atMs, Source.Same.refl source, h, le_rfl, Nat.lt_add_of_pos_right value.lifetimeMs_pos⟩

end Steps

end Youtick.Bridge.Stateless
