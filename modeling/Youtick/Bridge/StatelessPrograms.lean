import Youtick.Bridge.StatelessRuns

/-!
# Bridge: every stateless playback request is safe

The rely of a request is that time passes and the journal grows; its guarantee is that an entry of
the cache either stays what it was or was stored in that turn. Each part of the program ends with a
failure or with a value and the reading it came from, and the parts together justify the decision.
-/

set_option autoImplicit false

namespace Youtick.Bridge.Stateless

open Youtick.Lib
open Youtick.ReadModel (isAccountText isUrlWord isWord)
open Youtick.Relayer (JsValue JsString Json Platform matching)
open Youtick.Bridge.Playback (verifyEd25519Signature)

/-! ## Operations -/

def LocalOp.decides : {β : Type} → LocalOp β → Option Decided
  | _, .decide decided => some decided
  | _, _ => none

/-- The text that an operation hashes. -/
def EdgeOp.hashes : {β : Type} → EdgeOp β → Option String
  | _, .own (.digest value) => some value
  | _, _ => none

/-- A request relies on time to pass and on the journal to grow; it changes no entry of the cache. -/
def edgeDiscipline (library : PlaybackLibrary) (env : PlaybackV2Env) (texts : Set String) :
    Discipline (edgeSystem library env) where
  inv := Kept library env texts
  meets := fun op _ => ∀ value, op.op.hashes = some value → value ∈ texts
  rely := fun _ => Extends
  guar := fun _ w u => Extends w u ∧ Refreshes library env texts w u
  rely_refl := fun _ => Extends.refl
  rely_trans := fun _ _ _ _ => Extends.trans
  guar_rely := fun _ _ _ _ _ _ hg => hg.1
  world := fun e _ _ _ _ => nomatch e

section Operations

variable {library : PlaybackLibrary} {env : PlaybackV2Env} {texts : Set String} {n : Nat}
  {i : EdgeInput} {w u : Edge} {β : Type} {b : β}

theorem exec_inv {op : NumberedOp β} (h : exec library.platform β op i w = some (b, u)) :
    w.clockMs ≤ i.nowMs ∧
      edgeExec library.platform op.number i { w with clockMs := i.nowMs } op.op = (b, u) := by
  unfold exec at h
  split at h
  · next hclock => exact ⟨hclock, Option.some.inj h⟩
  · cases h

/-- A local operation stores nothing and writes at most one line. -/
theorem own_step {op : LocalOp β} (hw : Kept library env texts w)
    (h : exec library.platform β ⟨n, .own op⟩ i w = some (b, u))
    (hdecides : ∀ decided, op.decides = some decided →
      FactSound library env w.journal (.decided n decided i.nowMs)) :
    Kept library env texts u ∧ Extends w u ∧ Refreshes library env texts w u ∧
      u.clockMs = i.nowMs := by
  obtain ⟨hclock, hexec⟩ := exec_inv h
  suffices hmain : Extends w u ∧ Refreshes library env texts w u ∧
      RecencyCache.WellFormed playbackCacheMaxRecords u.cache ∧ Lawful library env u.journal ∧
      u.clockMs = i.nowMs by
    obtain ⟨hext, hcache, hbounded, hlawful, htime⟩ := hmain
    exact ⟨⟨hw.entries_step hext hcache, hbounded, hlawful⟩, hext, hcache, htime⟩
  cases op with
  | accept =>
    cases hexec
    exact ⟨⟨hclock, List.prefix_append _ _⟩, fun _ => .inl, hw.bounded, hw.lawful.snoc trivial, rfl⟩
  | cacheGet key =>
    cases hexec
    exact ⟨⟨hclock, List.prefix_rfl⟩, fun _ hentry => .inl (RecencyCache.mem_of_mem_touch hentry),
      hw.bounded.touch, hw.lawful, rfl⟩
  | decide decided =>
    cases hexec
    exact ⟨⟨hclock, List.prefix_append _ _⟩, fun _ => .inl, hw.bounded,
      hw.lawful.snoc (hdecides decided rfl), rfl⟩
  | now | digest | limitRate | requireActiveBeta | sign =>
    cases hexec
    exact ⟨⟨hclock, List.prefix_rfl⟩, fun _ => .inl, hw.bounded, hw.lawful, rfl⟩

/-- A question writes its answer down and stores what it is told to store. -/
theorem ask_step {query : Query β} {store : β → Nat → Option CacheEntry}
    (hw : Kept library env texts w)
    (h : exec library.platform β ⟨n, .ask query store⟩ i w = some (b, u))
    (hstore : Extends w u → .read n (query.reading b) u.clockMs ∈ u.journal →
      ∀ entry, store b u.clockMs = some entry → Stored library env texts u entry) :
    Kept library env texts u ∧ Extends w u ∧ Refreshes library env texts w u ∧
      .read n (query.reading b) u.clockMs ∈ u.journal := by
  obtain ⟨hclock, hexec⟩ := exec_inv h
  obtain ⟨rfl, rfl⟩ := Prod.mk.inj hexec
  have hread (v : Edge) (hv : v.journal = w.journal ++ [.read n (query.reading (i.answer query))
      i.nowMs]) : .read n (query.reading (i.answer query)) i.nowMs ∈ v.journal := by
    rw [hv]
    exact List.mem_append_right _ (List.mem_singleton_self _)
  have hlawful : Lawful library env
      (w.journal ++ [.read n (query.reading (i.answer query)) i.nowMs]) := hw.lawful.snoc trivial
  cases hstored : store (i.answer query) i.nowMs with
  | none =>
    rw [hstored] at hstore
    have hext : Extends w ⟨i.nowMs, w.cache, w.requests,
        w.journal ++ [.read n (query.reading (i.answer query)) i.nowMs]⟩ :=
      ⟨hclock, List.prefix_append _ _⟩
    have hcache : Refreshes library env texts w ⟨i.nowMs, w.cache, w.requests,
        w.journal ++ [.read n (query.reading (i.answer query)) i.nowMs]⟩ := fun _ => .inl
    exact ⟨⟨hw.entries_step hext hcache, hw.bounded, hlawful⟩, hext, hcache, hread _ rfl⟩
  | some entry =>
    simp only [hstored] at hstore
    have hext : Extends w ⟨i.nowMs,
        RecencyCache.insert playbackCacheMaxRecords w.cache entry i.nowMs, w.requests,
        w.journal ++ [.read n (query.reading (i.answer query)) i.nowMs]⟩ :=
      ⟨hclock, List.prefix_append _ _⟩
    have hnew := hstore hext (hread _ rfl) entry hstored
    have hcache : Refreshes library env texts w ⟨i.nowMs,
        RecencyCache.insert playbackCacheMaxRecords w.cache entry i.nowMs, w.requests,
        w.journal ++ [.read n (query.reading (i.answer query)) i.nowMs]⟩ := by
      intro found hfound
      rcases RecencyCache.mem_insert hfound with hold | ⟨rfl, -⟩
      · exact .inl hold
      · exact .inr hnew
    exact ⟨⟨hw.entries_step hext hcache,
      hw.bounded.insert (by decide : 0 < playbackCacheMaxRecords), hlawful⟩, hext, hcache,
      hread _ rfl⟩

end Operations

/-! ## Rules for the operations of a request -/

/-- The operations of request number `n`. -/
def numbered {α : Type} (n : Nat) (p : EdgeHandler α) : Handler NumberedOp String α :=
  p.lift fun op => ⟨n, op⟩

theorem numbered_bind {α β : Type} (n : Nat) (p : EdgeHandler α) (f : α → EdgeHandler β) :
    numbered n (p >>= f) = numbered n p >>= fun a => numbered n (f a) := Handler.lift_bind _ p f

theorem numbered_ofExcept {α : Type} (n : Nat) (x : Result α) :
    numbered n (Handler.ofExcept x) = Handler.ofExcept x := Handler.lift_ofExcept _ x

section Rules

variable {library : PlaybackLibrary} {env : PlaybackV2Env} {texts : Set String}
  {incoming : Incoming} {n : Nat} {s : Edge} {α τ : Type} {Q : Result τ → Edge → Prop}

/-- The rule for a local operation that decides nothing. -/
theorem own_safe {β : Type} {o : LocalOp β} {code : String} {f : β → EdgeHandler τ}
    (hop : o.decides = none) (herr : ∀ t, Extends s t → Q (.error code) t)
    (h : ∀ t b u, Extends s t → Kept library env texts t →
      (∃ i, exec library.platform β ⟨n, .own o⟩ i t = some (b, u)) → Extends t u →
      (∀ value, (EdgeOp.own o).hashes = some value → value ∈ texts) →
      Kept library env texts u →
        (edgeDiscipline library env texts).Safe incoming Q (numbered n (f b)) u) :
    (edgeDiscipline library env texts).Safe incoming Q
      (numbered n (Handler.perform code (.own o) >>= f)) s := by
  rw [numbered_bind]
  refine Discipline.Safe.perform fun t hst ht => ⟨herr t hst, fun i b u hmeets hexec => ?_⟩
  obtain ⟨hu, htu, hcache, -⟩ := own_step ht hexec fun decided hdecided => by
    rw [hop] at hdecided
    cases hdecided
  exact ⟨hu, ⟨htu, hcache⟩, h t b u hst ht ⟨i, hexec⟩ htu hmeets hu, herr u (hst.trans htu)⟩

/-- The rule for a question. -/
theorem ask_safe {β : Type} {query : Query β} {store : β → Nat → Option CacheEntry} {code : String}
    {f : β → EdgeHandler τ} (herr : ∀ t, Extends s t → Q (.error code) t)
    (hstore : ∀ t b, Extends s t → .read n (query.reading b) t.clockMs ∈ t.journal →
      ∀ entry, store b t.clockMs = some entry → Stored library env texts t entry)
    (h : ∀ t b, Extends s t → Kept library env texts t →
      .read n (query.reading b) t.clockMs ∈ t.journal →
        (edgeDiscipline library env texts).Safe incoming Q (numbered n (f b)) t) :
    (edgeDiscipline library env texts).Safe incoming Q
      (numbered n (Handler.perform code (.ask query store) >>= f)) s := by
  rw [numbered_bind]
  refine Discipline.Safe.perform fun t hst ht => ⟨herr t hst, fun i b u _ hexec => ?_⟩
  obtain ⟨hu, htu, hcache, hread⟩ := ask_step ht hexec fun htu => hstore u b (hst.trans htu)
  exact ⟨hu, ⟨htu, hcache⟩, h u b (hst.trans htu) hu hread, herr u (hst.trans htu)⟩

/-- The clock is read. -/
theorem now_safe {code : String} {f : Nat → EdgeHandler τ}
    (herr : ∀ t, Extends s t → Q (.error code) t)
    (h : ∀ t, Extends s t → Kept library env texts t →
      (edgeDiscipline library env texts).Safe incoming Q (numbered n (f t.clockMs)) t) :
    (edgeDiscipline library env texts).Safe incoming Q
      (numbered n (Handler.perform code (.own .now) >>= f)) s := by
  apply own_safe rfl herr
  rintro t b u hst - ⟨i, hexec⟩ htu - hu
  obtain ⟨-, heq⟩ := exec_inv hexec
  cases heq
  exact h _ (hst.trans htu) hu

/-- The key of a source: its text is among those that are hashed. -/
theorem awaitCacheKey_safe {kind value : String} {f : String → EdgeHandler τ}
    (herr : ∀ t, Extends s t → Q (.error "internal_error") t)
    (h : ∀ t, Extends s t → Kept library env texts t → value ∈ texts →
      (edgeDiscipline library env texts).Safe incoming Q
        (numbered n (f (cacheKeyOf env.versionId kind (digestOf library.platform value)))) t) :
    (edgeDiscipline library env texts).Safe incoming Q
      (numbered n (awaitCacheKey env kind value >>= f)) s := by
  apply own_safe (o := .digest value) (f := fun digest => f (cacheKeyOf env.versionId kind digest))
    rfl herr
  rintro t b u hst - ⟨i, hexec⟩ htu hmeets hu
  obtain ⟨-, heq⟩ := exec_inv hexec
  cases heq
  exact h _ (hst.trans htu) hu (hmeets value rfl)

/-- A text is hashed. -/
theorem digest_safe {value code : String} {f : String → EdgeHandler τ}
    (herr : ∀ t, Extends s t → Q (.error code) t)
    (h : ∀ t, Extends s t → Kept library env texts t → value ∈ texts →
      (edgeDiscipline library env texts).Safe incoming Q
        (numbered n (f (digestOf library.platform value))) t) :
    (edgeDiscipline library env texts).Safe incoming Q
      (numbered n (Handler.perform code (.own (.digest value)) >>= f)) s := by
  apply own_safe rfl herr
  rintro t b u hst - ⟨i, hexec⟩ htu hmeets hu
  obtain ⟨-, heq⟩ := exec_inv hexec
  cases heq
  exact h _ (hst.trans htu) hu (hmeets value rfl)

/-- What is found under the key of a source is grounded. -/
theorem lookUp_safe (hsha : Set.InjOn (digestOf library.platform) texts) {source : Source}
    (hsource : source.Hashed library texts) {f : Option CachedValue → EdgeHandler τ}
    (herr : ∀ t, Extends s t → Q (.error "internal_error") t)
    (h : ∀ t found, Extends s t → Kept library env texts t →
      (∀ value, found = some value → Grounded library t.journal source value t.clockMs) →
        (edgeDiscipline library env texts).Safe incoming Q (numbered n (f found)) t) :
    (edgeDiscipline library env texts).Safe incoming Q
      (numbered n (lookUp (cacheKey library.platform env.versionId source) >>= f)) s := by
  apply own_safe (o := .cacheGet (cacheKey library.platform env.versionId source)) rfl herr
  rintro t found u hst ht ⟨i, hexec⟩ htu - hu
  obtain ⟨hclock, heq⟩ := exec_inv hexec
  cases heq
  refine h _ _ (hst.trans htu) hu fun value hvalue => ?_
  exact ht.grounded hsha hsource hclock hvalue

/-- The rule for a check. -/
theorem ofExcept_safe {x : Result α} {f : α → EdgeHandler τ}
    (hok : ∀ a, x = .ok a → (edgeDiscipline library env texts).Safe incoming Q (numbered n (f a)) s)
    (herr : ∀ code, x = .error code → Q (.error code) s) :
    (edgeDiscipline library env texts).Safe incoming Q
      (numbered n (Handler.ofExcept x >>= f)) s := by
  rw [numbered_bind, numbered_ofExcept]
  exact Discipline.Safe.ofExcept hok herr

end Rules

/-! ## Checks that only deny -/

/-- Every error of the check is a denial. -/
def Denies {α : Type} (x : Result α) : Prop := ∀ code, x = .error code → code = denied

section Denials

variable {α β : Type}

theorem Denies.bind {x : Result α} {f : α → Result β} (hx : Denies x) (hf : ∀ a, Denies (f a)) :
    Denies (x >>= f) := by
  cases x with
  | error code =>
    intro other hother
    cases hother
    exact hx code rfl
  | ok a => exact hf a

theorem Denies.expect (found : Option α) : Denies (expect found denied) := by
  cases found with
  | none =>
    rintro code ⟨⟩
    rfl
  | some a => exact fun _ h => nomatch h

theorem Denies.require (p : Prop) [Decidable p] : Denies (Lib.require p denied) := by
  intro code h
  by_cases hp : p
  · rw [Lib.require, if_pos hp] at h
    cases h
  · rw [Lib.require, if_neg hp] at h
    cases h
    rfl

theorem Denies.pure (a : α) : Denies (.ok a) := fun _ h => nomatch h

theorem Denies.matching (value : JsString) (pattern : String → Bool) :
    Denies (matching value pattern denied) :=
  (Denies.expect _).bind fun _ => (Denies.require _).bind fun _ => Denies.pure _

theorem verifyEd25519Signature_denies (platform : Platform) (publicKey signature message : String) :
    Denies (verifyEd25519Signature platform publicKey signature message) := by
  unfold verifyEd25519Signature
  apply (Denies.expect _).bind
  intro bytes
  apply (Denies.expect _).bind
  intro key
  apply (Denies.require _).bind
  intro _
  exact Denies.require _

theorem checkWalletProof_denies (signature nonce : String) :
    Denies (checkWalletProof signature nonce) := by
  unfold checkWalletProof
  apply (Denies.expect _).bind
  intro bytes
  apply (Denies.expect _).bind
  intro nonceBytes
  exact Denies.require _

theorem timeProperty_denies (fields : List (JsString × JsValue)) (key : String) :
    Denies (timeProperty fields key) := by
  unfold timeProperty
  apply (Denies.expect _).bind
  intro value
  apply (Denies.matching _ _).bind
  intro digits
  exact Denies.pure _

theorem checkMarketDevice_denies (request : PlaybackV2Request) (device : JsValue) (nowMs : Nat) :
    Denies (checkMarketDevice request device nowMs) := by
  unfold checkMarketDevice
  apply (Denies.expect _).bind
  intro fields
  apply (Denies.require _).bind
  intro _
  apply (Denies.require _).bind
  intro _
  apply (timeProperty_denies fields _).bind
  intro authorizedAtMs
  apply (timeProperty_denies fields _).bind
  intro expiresAtMs
  apply (Denies.require _).bind
  intro _
  exact Denies.pure _

theorem devicePublicKey_denies (library : PlaybackLibrary) (request : PlaybackV2Request)
    (signedDelegate : Option String) (authorizing : Option JsValue) :
    Denies (devicePublicKey library request signedDelegate authorizing) := by
  unfold devicePublicKey
  split
  · apply (Denies.expect _).bind
    intro delegate
    apply (Denies.expect _).bind
    intro publicKey
    apply (Denies.require _).bind
    intro _
    exact Denies.pure _
  · exact Denies.matching _ _
  · rintro code ⟨⟩
    rfl

/-- A provider that cannot be read is a failure, every other error a denial. -/
theorem checkProviderPolicy_error {library : PlaybackLibrary} {playback : Result ProviderPlayback}
    {code : String} (h : checkProviderPolicy library playback = .error code) :
    code = "provider_unavailable" ∨ code = denied := by
  unfold checkProviderPolicy at h
  split at h
  · cases h
    split
    · next hcode => exact .inl hcode
    · exact .inr rfl
  · have hdenies := (Denies.require _).bind (fun _ => Denies.pure _) code h
    exact .inr hdenies

end Denials

/-! ## The grant -/

section Grant

variable {library : PlaybackLibrary} {env : PlaybackV2Env} {texts : Set String}
  {incoming : Incoming} {n fromMs : Nat} {s : Edge} {request : PlaybackV2Request}

theorem grantSource_hashed (h : request.grantSource.text library.platform ∈ texts) :
    request.grantSource.Hashed library texts := by
  refine ⟨⟨request.isCertificate.1, request.isProof⟩, fun value hvalue => ?_⟩
  rw [List.mem_singleton.mp hvalue]
  exact h

/-- The grant of a request, looked up since a time. -/
def GrantEnds (library : PlaybackLibrary) (env : PlaybackV2Env) (n : Nat)
    (request : PlaybackV2Request) (fromMs : Nat) (outcome : Result Nat) (t : Edge) : Prop :=
  LookedUp (GrantFrom library env t.journal n request fromMs) outcome fromMs t.clockMs

theorem GrantEnds.failure {code : String} (hcode : code ∈ failures) (t : Edge) :
    GrantEnds library env n request fromMs (.error code) t := .inl ⟨code, hcode, rfl⟩

theorem GrantEnds.denied {x : Result Nat} {t : Edge} (hx : x = .error Stateless.denied)
    (hfrom : fromMs ≤ t.clockMs)
    (h : GrantDenied library env t.journal n request fromMs t.clockMs) :
    GrantEnds library env n request fromMs x t :=
  .inr ⟨none, t.clockMs, hfrom, le_rfl, hx, h⟩

theorem verifyWalletProof_safe (hsha : Set.InjOn (digestOf library.platform) texts)
    {publicKey signature nonce : String} {expiresAtMs : Nat}
    (hproof : request.proof = .wallet publicKey signature nonce expiresAtMs)
    (hfrom : fromMs ≤ s.clockMs) :
    (edgeDiscipline library env texts).Safe incoming (GrantEnds library env n request fromMs)
      (numbered n (verifyWalletProof library env request signature nonce expiresAtMs)) s := by
  have hsource : request.grantSource = .grant false (.object request.certificate)
      request.certificateProof request.accountId := by
    rw [PlaybackV2Request.grantSource, hproof]
    rfl
  have hkey : cacheKeyOf env.versionId "certificate"
      (digestOf library.platform (request.grantSource.text library.platform)) =
        cacheKey library.platform env.versionId request.grantSource := by
    rw [hsource]
    rfl
  have hgranted (t : Edge) (hfrom : fromMs ≤ t.clockMs)
      (hgrounded : Grounded library t.journal request.grantSource .proven t.clockMs) :
      GrantEnds library env n request fromMs (.ok expiresAtMs) t := by
    refine .inr ⟨some expiresAtMs, t.clockMs, hfrom, le_rfl, rfl, ?_⟩
    unfold GrantFrom
    rw [hproof]
    exact ⟨rfl, hgrounded⟩
  unfold verifyWalletProof
  apply awaitCacheKey_safe fun _ _ => .failure (by decide) _
  intro s₁ hs₁ _ htext
  have hhashed := grantSource_hashed htext
  rw [hkey]
  apply lookUp_safe hsha hhashed fun _ _ => .failure (by decide) _
  intro s₂ found hs₂ _ hfound
  have hfrom₂ := hfrom.trans (hs₁.trans hs₂).clock
  split
  · exact hgranted s₂ hfrom₂ (hfound _ rfl)
  · apply ofExcept_safe
    · intro _ _
      apply ask_safe fun _ _ => .failure (by decide) _
      · -- only a proven signature is stored
        intro t proven _ hread entry hentry
        split at hentry
        · next hproven =>
            cases hentry
            subst hproven
            refine ⟨request.grantSource, hhashed, rfl, ?_, min_le_left _ _⟩
            rw [hsource]
            exact ⟨n, hread⟩
        · cases hentry
      · intro s₃ proven hs₃ _ hread
        have hfrom₃ := hfrom₂.trans hs₃.clock
        apply ofExcept_safe
        · intro _ hproven
          rw [require_eq_ok] at hproven
          subst hproven
          apply hgranted s₃ hfrom₃
          apply ReadAs.grounded
          rw [hsource]
          exact ⟨n, hread⟩
        · intro code hcode
          obtain rfl : code = denied := Denies.require _ _ hcode
          refine .denied rfl hfrom₃ (.wallet s₃.clockMs hfrom₃ le_rfl ?_)
          cases proven with
          | true => cases hcode
          | false => exact hread
    · intro code hcode
      obtain rfl : code = denied := checkWalletProof_denies _ _ _ hcode
      refine .denied rfl hfrom₂ (.shape publicKey signature nonce expiresAtMs hproof ?_)
      rw [hcode]
      exact nofun

theorem verifyMarketDeviceProof_safe (hsha : Set.InjOn (digestOf library.platform) texts)
    {signedDelegate : Option String} (hproof : request.proof = .market signedDelegate)
    (hfrom : fromMs ≤ s.clockMs) :
    (edgeDiscipline library env texts).Safe incoming (GrantEnds library env n request fromMs)
      (numbered n (verifyMarketDeviceProof library env request signedDelegate)) s := by
  have hsource : request.grantSource = .grant true (.object request.certificate)
      request.certificateProof request.accountId := by
    rw [PlaybackV2Request.grantSource, hproof]
    rfl
  have hkey : cacheKeyOf env.versionId "market-device"
      (digestOf library.platform (request.grantSource.text library.platform)) =
        cacheKey library.platform env.versionId request.grantSource := by
    rw [hsource]
    rfl
  have hgranted (t : Edge) (hfrom : fromMs ≤ t.clockMs) (expiresAtMs : Nat)
      (hgrounded : Grounded library t.journal request.grantSource (.deviceExpiry expiresAtMs)
        t.clockMs) : GrantEnds library env n request fromMs (.ok expiresAtMs) t := by
    refine .inr ⟨some expiresAtMs, t.clockMs, hfrom, le_rfl, rfl, ?_⟩
    unfold GrantFrom
    rw [hproof]
    exact hgrounded
  have hreadAs {t : Edge} {atMs expiresAtMs : Nat}
      (h : MarketRead library t.journal request atMs expiresAtMs) :
      ReadAs library t.journal atMs request.grantSource (.deviceExpiry expiresAtMs) := by
    rw [hsource]
    exact ⟨request, hsource, h⟩
  unfold verifyMarketDeviceProof
  apply awaitCacheKey_safe fun _ _ => .failure (by decide) _
  intro s₁ hs₁ _ htext
  have hhashed := grantSource_hashed htext
  rw [hkey]
  apply lookUp_safe hsha hhashed fun _ _ => .failure (by decide) _
  intro s₂ found hs₂ _ hfound
  have hfrom₂ := hfrom.trans (hs₁.trans hs₂).clock
  split
  · exact hgranted s₂ hfrom₂ _ (hfound _ rfl)
  · apply ask_safe fun _ _ => .failure (by decide) _
    · exact fun _ _ _ _ _ hentry => nomatch hentry
    · intro s₃ device hs₃ _ hdevice
      have hfrom₃ := hfrom₂.trans hs₃.clock
      apply now_safe fun _ _ => .failure (by decide) _
      intro s₄ hs₄ _
      have hfrom₄ := hfrom₃.trans hs₄.clock
      have hdevice₄ := hs₄.journal.subset hdevice
      apply ofExcept_safe
      · rintro ⟨expiresAtMs, authorizing⟩ hcheck
        apply ofExcept_safe
        · intro publicKey hpublicKey
          have hmarket (t : Edge) (ht : Extends s₄ t)
              (haccess : .read n (.accessKey request.accountId publicKey true) t.clockMs ∈
                t.journal) : MarketRead library t.journal request t.clockMs expiresAtMs :=
            ⟨n, device, s₃.clockMs, s₄.clockMs, signedDelegate, authorizing, publicKey, hproof,
              ht.journal.subset hdevice₄, hs₄.clock, ht.clock, hcheck, hpublicKey, haccess⟩
          apply ask_safe fun _ _ => .failure (by decide) _
          · -- only a key with full access is stored
            intro t full ht hread entry hentry
            split at hentry
            · next hfull =>
                cases hentry
                subst hfull
                exact ⟨request.grantSource, hhashed, rfl, hreadAs (hmarket t ht hread),
                  min_le_left _ _⟩
            · cases hentry
          · intro s₅ full hs₅ _ hread
            have hfrom₅ := hfrom₄.trans hs₅.clock
            apply ofExcept_safe
            · intro _ hfull
              rw [require_eq_ok] at hfull
              subst hfull
              exact hgranted s₅ hfrom₅ _ (hreadAs (hmarket s₅ hs₅ hread)).grounded
            · intro code hcode
              obtain rfl : code = denied := Denies.require _ _ hcode
              refine .denied rfl hfrom₅ (.accessKey publicKey s₅.clockMs hfrom₅ le_rfl ?_)
              cases full with
              | true => cases hcode
              | false => exact hread
        · intro code hcode
          obtain rfl : code = denied := devicePublicKey_denies _ _ _ _ _ hcode
          refine .denied rfl hfrom₄ (.publicKey device s₃.clockMs s₄.clockMs expiresAtMs
            signedDelegate authorizing hfrom₃ hs₄.clock le_rfl hdevice₄ hcheck ?_)
          intro key hkey
          rw [hcode] at hkey
          cases hkey
      · intro code hcode
        obtain rfl : code = denied := checkMarketDevice_denies _ _ _ _ hcode
        refine .denied rfl hfrom₄ (.device device s₃.clockMs s₄.clockMs hfrom₃ hs₄.clock le_rfl
          hdevice₄ ?_)
        intro checked hchecked
        rw [hcode] at hchecked
        cases hchecked

theorem verifyPlaybackV2Proofs_safe (hsha : Set.InjOn (digestOf library.platform) texts)
    (hfrom : fromMs ≤ s.clockMs) :
    (edgeDiscipline library env texts).Safe incoming (GrantEnds library env n request fromMs)
      (numbered n (verifyPlaybackV2Proofs library env request)) s := by
  unfold verifyPlaybackV2Proofs
  apply ofExcept_safe
  · intro _ _
    split
    · next hproof => exact verifyWalletProof_safe hsha hproof hfrom
    · next hproof => exact verifyMarketDeviceProof_safe hsha hproof hfrom
  · intro code hcode
    obtain rfl : code = denied := verifyEd25519Signature_denies _ _ _ _ _ hcode
    refine .denied rfl hfrom (.signature ?_)
    rw [hcode]
    exact nofun

end Grant

/-! ## The publication, the entitlement and the policy -/

section Authorization

variable {library : PlaybackLibrary} {env : PlaybackV2Env} {texts : Set String}
  {incoming : Incoming} {n fromMs : Nat} {s : Edge} {request : PlaybackV2Request}

/-- What is read last, or found, is checked. -/
def PublicationEnds (library : PlaybackLibrary) (env : PlaybackV2Env) (request : PlaybackV2Request)
    (fromMs : Nat) (outcome : Result (Json × String × Option String)) (t : Edge) : Prop :=
  (∃ code ∈ failures, outcome = .error code) ∨
    ∃ value block atMs, fromMs ≤ atMs ∧ atMs ≤ t.clockMs ∧
      Grounded library t.journal (.publication request.publicationId) (.publication value) atMs ∧
      outcome = (checkPublication env request value.val).map fun profile => (value, profile, block)

/-- A publication that was looked up is checked. -/
theorem checkPublication_safe {value : Json} {block : Option String} (hfrom : fromMs ≤ s.clockMs)
    (h : Grounded library s.journal (.publication request.publicationId) (.publication value)
      s.clockMs) :
    (edgeDiscipline library env texts).Safe incoming (PublicationEnds library env request fromMs)
      (numbered n (do
        let profile ← Handler.ofExcept (checkPublication env request value.val)
        return (value, profile, block))) s := by
  apply ofExcept_safe
  · intro profile hprofile
    refine .inr ⟨value, block, s.clockMs, hfrom, le_rfl, h, ?_⟩
    rw [hprofile]
    rfl
  · intro code hcode
    refine .inr ⟨value, block, s.clockMs, hfrom, le_rfl, h, ?_⟩
    rw [hcode]
    rfl

theorem readPublication_safe (hsha : Set.InjOn (digestOf library.platform) texts)
    (hfrom : fromMs ≤ s.clockMs) :
    (edgeDiscipline library env texts).Safe incoming (PublicationEnds library env request fromMs)
      (numbered n (readPublication env request)) s := by
  have hfailure {code : String} (hcode : code ∈ failures) (t : Edge) :
      PublicationEnds library env request fromMs (.error code) t := .inl ⟨code, hcode, rfl⟩
  unfold readPublication
  apply awaitCacheKey_safe fun _ _ => hfailure (by decide) _
  intro s₁ hs₁ _ htext
  have hhashed : (Source.publication request.publicationId).Hashed library texts := by
    refine ⟨trivial, fun value hvalue => ?_⟩
    rw [List.mem_singleton.mp hvalue]
    exact htext
  apply lookUp_safe hsha hhashed fun _ _ => hfailure (by decide) _
  intro s₂ found hs₂ _ hfound
  have hfrom₂ := hfrom.trans (hs₁.trans hs₂).clock
  split
  · exact checkPublication_safe hfrom₂ (hfound _ rfl)
  · apply ask_safe fun _ _ => hfailure (by decide) _
    · -- only a publication that passes its checks is stored
      rintro t ⟨value, block⟩ _ hread entry hentry
      split at hentry
      · cases hentry
        exact ⟨.publication request.publicationId, hhashed, rfl, ⟨n, hread⟩, le_rfl⟩
      · cases hentry
    · rintro s₃ ⟨value, block⟩ hs₃ _ hread
      have hgrounded : Grounded library s₃.journal (.publication request.publicationId)
          (.publication value) s₃.clockMs := ReadAs.grounded ⟨n, hread⟩
      exact checkPublication_safe (hfrom₂.trans hs₃.clock) hgrounded

/-- The entitlement of the account to this very publication. -/
def EntitlementEnds (library : PlaybackLibrary) (request : PlaybackV2Request) (value : Json)
    (fromMs : Nat) (outcome : Result Bool) (t : Edge) : Prop :=
  (∃ code ∈ failures, outcome = .error code) ∨
    ∃ entitled atMs, fromMs ≤ atMs ∧ atMs ≤ t.clockMs ∧ outcome = .ok entitled ∧
      Grounded library t.journal (.entitlement request.accountId request.publicationId value.val)
        (.entitled entitled) atMs

theorem noColon_of_isAccountText {account : String} (h : isAccountText account = true) :
    NoColon account := by
  unfold isAccountText isWord at h
  simp only [Bool.and_eq_true] at h
  obtain ⟨⟨⟨-, hall⟩, -⟩, -⟩ := h
  exact noColon_of_all (by decide) hall

theorem noColon_of_isUrlWord {low high : Nat} {word : String} (h : isUrlWord low high word = true) :
    NoColon word := by
  unfold isUrlWord isWord at h
  simp only [Bool.and_eq_true] at h
  exact noColon_of_all (by decide) h.2

theorem readEntitlement_safe (hsha : Set.InjOn (digestOf library.platform) texts) {value : Json}
    {block : Option String} (hfrom : fromMs ≤ s.clockMs) :
    (edgeDiscipline library env texts).Safe incoming
      (EntitlementEnds library request value fromMs)
      (numbered n (readEntitlement env request value block)) s := by
  have hfailure {code : String} (hcode : code ∈ failures) (t : Edge) :
      EntitlementEnds library request value fromMs (.error code) t := .inl ⟨code, hcode, rfl⟩
  unfold readEntitlement
  apply digest_safe fun _ _ => hfailure (by decide) _
  intro s₁ hs₁ _ hrecord
  apply awaitCacheKey_safe fun _ _ => hfailure (by decide) _
  intro s₂ hs₂ _ htext
  have hhashed : (Source.entitlement request.accountId request.publicationId value.val).Hashed
      library texts := by
    refine ⟨⟨noColon_of_isAccountText request.isAccount, value.property⟩, fun text hmem => ?_⟩
    rcases List.mem_cons.mp hmem with rfl | hlast
    · exact hrecord
    · rw [List.mem_singleton.mp hlast]
      exact htext
  apply lookUp_safe hsha hhashed fun _ _ => hfailure (by decide) _
  intro s₃ found hs₃ _ hfound
  have hfrom₃ := hfrom.trans ((hs₁.trans hs₂).trans hs₃).clock
  split
  · exact .inr ⟨_, s₃.clockMs, hfrom₃, le_rfl, rfl, hfound _ rfl⟩
  · apply ask_safe fun _ _ => hfailure (by decide) _
    · intro t answer _ hread entry hentry
      cases hentry
      exact ⟨.entitlement request.accountId request.publicationId value.val, hhashed, rfl,
        ⟨n, answer, hread, rfl⟩, le_rfl⟩
    · intro s₄ answer hs₄ _ hread
      refine .inr ⟨isTrue answer.val, s₄.clockMs, hfrom₃.trans hs₄.clock, le_rfl, rfl, ?_⟩
      exact ReadAs.grounded ⟨n, answer, hread, rfl⟩

/-- The policy of a playback id, looked up since a time. -/
def PolicyEnds (library : PlaybackLibrary) (n : Nat) (stream : Bool) (playbackId : String)
    (fromMs : Nat) (outcome : Result (Option String)) (t : Edge) : Prop :=
  PolicyJustified library t.journal n stream playbackId outcome fromMs t.clockMs

theorem askProviderPolicy_safe {stream : Bool} {playbackId : String}
    (hhashed : (Source.policy stream playbackId).Hashed library texts)
    (hfrom : fromMs ≤ s.clockMs) :
    (edgeDiscipline library env texts).Safe incoming
      (PolicyEnds library n stream playbackId fromMs)
      (numbered n (askProviderPolicy library
        (cacheKey library.platform env.versionId (.policy stream playbackId)) stream playbackId))
      s := by
  unfold askProviderPolicy
  apply ask_safe fun _ _ => .inl ⟨_, by decide, rfl⟩
  · -- only a policy that passes its checks is stored
    intro t playback _ hread entry hentry
    split at hentry
    · next hcheck =>
        cases hentry
        exact ⟨.policy stream playbackId, hhashed, rfl, ⟨n, playback, hread, hcheck⟩, le_rfl⟩
    · cases hentry
  · intro t playback ht _ hread
    have hfrom' := hfrom.trans ht.clock
    rw [numbered_ofExcept]
    cases hcheck : checkProviderPolicy library playback with
    | ok preview =>
      refine .inr ⟨some preview, t.clockMs, hfrom', le_rfl, rfl, ?_⟩
      exact ReadAs.grounded ⟨n, playback, hread, hcheck⟩
    | error code =>
      rcases checkProviderPolicy_error hcheck with rfl | rfl
      · exact .inl ⟨_, by decide, rfl⟩
      · exact .inr ⟨none, t.clockMs, hfrom', le_rfl, rfl, playback, t.clockMs, hfrom', le_rfl,
          hread, hcheck⟩

theorem policy_hashed {stream : Bool} {playbackId : String}
    (hplayback : isUrlWord 6 128 playbackId = true) (h : policyText stream playbackId ∈ texts) :
    (Source.policy stream playbackId).Hashed library texts := by
  refine ⟨noColon_of_isUrlWord hplayback, fun value hvalue => ?_⟩
  rw [List.mem_singleton.mp hvalue]
  exact h

/-- What the values decide after the grant: the profile and the preview. -/
def decideAuthorization (env : PlaybackV2Env) (request : PlaybackV2Request) (reads : Reads) :
    Result (String × Option String) := do
  let profile ← checkPublication env request reads.publication.val
  require (reads.entitled = true) denied
  require (mediaProfileFamily (some profile) ≠ some .stream) denied
  let preview ← expect reads.policy denied
  return (profile, preview)

theorem decidePlayback_eq (reads : Reads) (nowMs : Nat) :
    decidePlayback env request reads nowMs = (do
      let expiresAtMs ← expect reads.grant denied
      let (profile, preview) ← decideAuthorization env request reads
      tokenFor request profile expiresAtMs preview nowMs) := by
  unfold decidePlayback decideAuthorization
  simp only [bind_assoc, pure_bind]

theorem decideAuthorization_error {reads : Reads} {code : String}
    (h : checkPublication env request reads.publication.val = .error code) :
    decideAuthorization env request reads = .error code := by
  unfold decideAuthorization
  rw [h]
  rfl

theorem decideAuthorization_ok {reads : Reads} {profile : String}
    (h : checkPublication env request reads.publication.val = .ok profile) :
    decideAuthorization env request reads = (do
      require (reads.entitled = true) denied
      require (mediaProfileFamily (some profile) ≠ some .stream) denied
      let preview ← expect reads.policy denied
      return (profile, preview)) := by
  unfold decideAuthorization
  rw [h]
  rfl

/-- The authorization of a request that has a grant. -/
def AuthorizationEnds (library : PlaybackLibrary) (env : PlaybackV2Env) (n : Nat)
    (request : PlaybackV2Request) (fromMs expiresAtMs : Nat)
    (outcome : Result (String × Option String)) (t : Edge) : Prop :=
  (∃ code ∈ failures, outcome = .error code) ∨
    ∃ reads, reads.grant = some expiresAtMs ∧
      Consulted library env t.journal n request reads fromMs t.clockMs ∧
      outcome = decideAuthorization env request reads

/-- A value that was looked up between the two times. -/
def Between (library : PlaybackLibrary) (journal : List Fact) (source : Source)
    (value : CachedValue) (fromMs untilMs : Nat) : Prop :=
  ∃ atMs, fromMs ≤ atMs ∧ atMs ≤ untilMs ∧ Grounded library journal source value atMs

/-- The grant of a request, looked up between the two times. -/
def GrantedBetween (library : PlaybackLibrary) (env : PlaybackV2Env) (journal : List Fact)
    (n : Nat) (request : PlaybackV2Request) (expiresAtMs fromMs untilMs : Nat) : Prop :=
  ∃ atMs, fromMs ≤ atMs ∧ atMs ≤ untilMs ∧
    GrantFrom library env journal n request fromMs atMs (some expiresAtMs)

theorem Between.mono {journal journal' : List Fact} {source : Source} {value : CachedValue}
    {untilMs untilMs' : Nat} (h : Between library journal source value fromMs untilMs)
    (hj : journal ⊆ journal') (huntil : untilMs ≤ untilMs') :
    Between library journal' source value fromMs untilMs' := by
  obtain ⟨atMs, hfrom, hle, hgrounded⟩ := h
  exact ⟨atMs, hfrom, hle.trans huntil, hgrounded.mono hj⟩

theorem GrantedBetween.mono {journal journal' : List Fact} {expiresAtMs untilMs untilMs' : Nat}
    (h : GrantedBetween library env journal n request expiresAtMs fromMs untilMs)
    (hj : journal ⊆ journal') (huntil : untilMs ≤ untilMs') :
    GrantedBetween library env journal' n request expiresAtMs fromMs untilMs' := by
  obtain ⟨atMs, hfrom, hle, hgrant⟩ := h
  exact ⟨atMs, hfrom, hle.trans huntil, hgrant.mono hj⟩

section Consulting

variable {journal : List Fact} {untilMs expiresAtMs : Nat} {value : Json} {entitled : Bool}
  {policy : Option (Option String)} {profile code : String}

/-- A publication that is refused needs no entitlement and no policy. -/
theorem consulted_refused
    (hgrant : GrantedBetween library env journal n request expiresAtMs fromMs untilMs)
    (hpublication : Between library journal (.publication request.publicationId)
      (.publication value) fromMs untilMs)
    (hcheck : checkPublication env request value.val = .error code) :
    Consulted library env journal n request ⟨some expiresAtMs, value, entitled, policy⟩ fromMs
      untilMs where
  grant := hgrant
  publication := fun _ => hpublication
  entitlement := by
    intro _ profile hprofile
    rw [hcheck] at hprofile
    cases hprofile
  policy := by
    intro _ profile hprofile
    rw [hcheck] at hprofile
    cases hprofile

theorem consulted_checked
    (hgrant : GrantedBetween library env journal n request expiresAtMs fromMs untilMs)
    (hpublication : Between library journal (.publication request.publicationId)
      (.publication value) fromMs untilMs)
    (hcheck : checkPublication env request value.val = .ok profile)
    (hentitled : Between library journal
      (.entitlement request.accountId request.publicationId value.val) (.entitled entitled) fromMs
      untilMs)
    (hpolicy : entitled = true → mediaProfileFamily (some profile) ≠ some .stream →
      ∃ atMs, fromMs ≤ atMs ∧ atMs ≤ untilMs ∧
        PolicyFrom library journal n false request.playbackId fromMs atMs policy) :
    Consulted library env journal n request ⟨some expiresAtMs, value, entitled, policy⟩ fromMs
      untilMs where
  grant := hgrant
  publication := fun _ => hpublication
  entitlement := fun _ _ _ => hentitled
  policy := by
    intro _ other hother
    rw [hcheck] at hother
    cases hother
    exact hpolicy

end Consulting

end Authorization

end Youtick.Bridge.Stateless
