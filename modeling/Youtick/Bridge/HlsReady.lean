import Youtick.Bridge.HlsDenial

/-!
# Bridge: ready verification certifies denial

What holds when `verifyAdaptiveHlsWith` returns (`HlsCertified`): the playlists it certifies were read
and refused, samples of their media were refused, and the renditions the profile requires are there
(`verified_playback_denied`). Neither the query of the master's URL nor a quoted URI that the global
match passes over is part of it (`unprobed_key`).
-/

set_option autoImplicit false

namespace Youtick.Bridge

open Youtick.Lib Youtick.Lib.Fallible

/-! ## Renditions -/

/-- No two of the renditions share a URL or their dimensions. -/
def Distinct (selected : List HlsVariant) : Prop :=
  selected.Pairwise fun previous candidate => previous.url ≠ candidate.url ∧
    previous.size ≠ candidate.size

theorem distinct_append {selected : List HlsVariant} {candidate : HlsVariant}
    (h : Distinct selected) (hnew : ¬ selected.any (·.sameAs candidate) = true) :
    Distinct (selected ++ [candidate]) := by
  refine List.pairwise_append.mpr ⟨h, List.pairwise_singleton _ _, ?_⟩
  intro previous hprevious other hother
  cases List.mem_singleton.mp hother
  have hdiffers : ¬ previous.sameAs candidate = true := by
    intro hsame
    exact hnew (List.any_eq_true.mpr ⟨previous, hprevious, hsame⟩)
  unfold HlsVariant.sameAs at hdiffers
  constructor
  · intro hurl
    exact hdiffers (by simp [hurl])
  · intro hsize
    exact hdiffers (by simp [hsize])

/-- A choice of one candidate for each place, distinct from the ones before. -/
theorem distinctRenditions_eq_some {candidates : List (List HlsVariant)} :
    ∀ {selected chosen : List HlsVariant}, Distinct selected →
      distinctRenditions candidates selected = some chosen →
      Distinct chosen ∧ ∃ added, chosen = selected ++ added ∧
        List.Forall₂ (fun choices variant => variant ∈ choices) candidates added := by
  induction candidates with
  | nil =>
    intro selected chosen hselected h
    cases h
    exact ⟨hselected, [], (List.append_nil _).symm, .nil⟩
  | cons choices candidates ih =>
    intro selected chosen hselected h
    obtain ⟨candidate, hmem, h⟩ := List.exists_of_findSome?_eq_some h
    split_ifs at h with hnew
    obtain ⟨hdistinct, added, rfl, hadded⟩ := ih (distinct_append hselected hnew) h
    exact ⟨hdistinct, candidate :: added, by simp, .cons hmem hadded⟩

/-- Every target of a profile is met by a rendition of its own: the profiles by height or by the long
side, or the profiles cut to the height of the source. -/
inductive Covers (variants : List HlsVariant) (profiles : List Dimensions)
    (source : Option Dimensions) (required : List HlsVariant) : Prop where
  | height : List.Forall₂ (fun profile variant => variant ∈ variants ∧
      near variant.size.height profile.height = true) profiles required →
      Covers variants profiles source required
  | long : List.Forall₂ (fun profile variant => variant ∈ variants ∧
      near variant.size.long profile.long = true) profiles required →
      Covers variants profiles source required
  | source {size : Dimensions} {reference : HlsVariant} {height : Nat} :
      source = some size → validDimensions size = true → tallest variants = some reference →
      height = 2 * ((orientedLike reference.size size).height / 2) →
      List.Forall₂ (fun target variant => variant ∈ variants ∧
        meetsTarget profiles height target variant = true)
        (targetHeights profiles height) required →
      Covers variants profiles source required

theorem forall₂_of_filter {α : Type} {targets : List α} {variants chosen : List HlsVariant}
    {meets : α → HlsVariant → Bool}
    (h : List.Forall₂ (fun choices variant => variant ∈ choices)
      (targets.map fun target => variants.filter (meets target)) chosen) :
    List.Forall₂ (fun target variant => variant ∈ variants ∧ meets target variant = true)
      targets chosen := by
  rw [List.forall₂_map_left_iff] at h
  exact h.imp fun _ _ hmem => List.mem_filter.mp hmem

theorem renditionsBy_eq_some {measure : Dimensions → Nat} {variants required : List HlsVariant}
    {profiles : List Dimensions} (h : renditionsBy measure variants profiles = some required) :
    Distinct required ∧ List.Forall₂ (fun profile variant => variant ∈ variants ∧
      near (measure variant.size) (measure profile) = true) profiles required := by
  obtain ⟨hdistinct, added, rfl, hadded⟩ := distinctRenditions_eq_some List.Pairwise.nil h
  exact ⟨hdistinct, forall₂_of_filter hadded⟩

theorem validSource_ok {source : Option Dimensions} {size : Dimensions}
    (h : validSource source = .ok size) : source = some size ∧ validDimensions size = true := by
  cases source with
  | none => cases h
  | some given =>
    simp only [validSource] at h
    split_ifs at h with hvalid
    cases h
    exact ⟨rfl, hvalid⟩

section Platform

variable {platform : HlsPlatform} {spec : ProviderProbeSpec} {issued : String → Prop}

theorem fallbackRenditions_ok {variants required : List HlsVariant} {profiles : List Dimensions}
    {source : Option Dimensions} {reference : HlsVariant}
    (htallest : tallest variants = some reference)
    (h : fallbackRenditions platform variants profiles source reference = .ok required) :
    Distinct required ∧ Covers variants profiles source required := by
  obtain ⟨size, hsize, h⟩ := except_bind_eq_ok.mp h
  obtain ⟨hsource, hvalid⟩ := validSource_ok hsize
  dsimp only at h
  split_ifs at h
  cases hchosen : distinctRenditions ((targetHeights profiles
      (2 * ((orientedLike reference.size size).height / 2))).map fun target =>
        variants.filter (meetsTarget profiles
          (2 * ((orientedLike reference.size size).height / 2)) target)) [] with
  | none =>
    rw [hchosen] at h
    cases h
  | some chosen =>
    rw [hchosen] at h
    cases h
    obtain ⟨hdistinct, added, rfl, hadded⟩ :=
      distinctRenditions_eq_some List.Pairwise.nil hchosen
    exact ⟨hdistinct, .source hsource hvalid htallest rfl (forall₂_of_filter hadded)⟩

theorem requiredRenditions_ok {variants required : List HlsVariant} {profiles : List Dimensions}
    {source : Option Dimensions}
    (h : requiredRenditions platform variants profiles source = .ok required) :
    Distinct required ∧ Covers variants profiles source required := by
  obtain ⟨_, -, h⟩ := except_bind_eq_ok.mp h
  cases hheight : renditionsBy Dimensions.height variants profiles with
  | some chosen =>
    rw [hheight] at h
    cases h
    obtain ⟨hdistinct, hcovers⟩ := renditionsBy_eq_some hheight
    exact ⟨hdistinct, .height hcovers⟩
  | none =>
    rw [hheight] at h
    cases hlong : renditionsBy Dimensions.long variants profiles with
    | some chosen =>
      simp only [hlong] at h
      cases h
      obtain ⟨hdistinct, hcovers⟩ := renditionsBy_eq_some hlong
      exact ⟨hdistinct, .long hcovers⟩
    | none =>
      simp only [hlong] at h
      cases htallest : tallest variants with
      | none =>
        rw [htallest] at h
        cases h
      | some reference =>
        rw [htallest] at h
        exact fallbackRenditions_ok htallest h

end Platform

/-! ## References -/

def HostAllowed (hosts : HostAllowlist) (hostname : String) : Prop :=
  hostname ∈ hosts.exact ∨ ∃ ending ∈ hosts.suffixes, endsWith hostname ending = true

section Certificates

variable (platform : HlsPlatform) (spec : ProviderProbeSpec) (issued : String → Prop)

/-- An https URL on an allowed host. -/
def SecureUrl (url : String) : Prop :=
  ∃ parsed, platform.parseUrl none url = some parsed ∧ parsed.protocol = "https:" ∧
    HostAllowed spec.hosts parsed.hostname

/-- An https URL on an allowed host without a fragment, and with no query or only allowed query
keys. -/
def ReferenceAllowed (url : String) : Prop :=
  ∃ parsed, platform.parseUrl none url = some parsed ∧ parsed.protocol = "https:" ∧
    HostAllowed spec.hosts parsed.hostname ∧ parsed.hash = "" ∧
    (parsed.search = "" ∨ ∀ key ∈ parsed.queryKeys, key ∈ spec.policy.allowedQueryKeys)

/-- The URL a reference of a playlist stands for. -/
def Resolves (parent reference url : String) : Prop :=
  ∃ parsed, platform.parseUrl (some parent) reference = some parsed ∧ url = parsed.href

/-- A quoted URI of a line none of whose quoted URIs ends in a separator and `URI=`. -/
def QuotedIn (lines : List String) (reference : String) : Prop :=
  ∃ line ∈ lines, Quoted isUriSeparator true line.toList reference.toList ∧
    ∀ other, Quoted isUriSeparator true line.toList other → ¬ EndsInUri isUriSeparator other

/-- The first segment, the last one, or the quoted URI of a key or a map. -/
def Samples (media : List String) (reference : String) : Prop :=
  (segments media).head? = some reference ∨ (segments media).getLast? = some reference ∨
    QuotedIn media reference

/-- The reference behind a stream tag. -/
def Lists (master : List String) (reference : String) : Prop :=
  ∃ before tag after, master = before ++ tag :: reference :: after ∧
    startsWith tag streamTag = true

/-! ## Certificates -/

/-- A media playlist the policy allows, whose samples were refused. -/
structure MediaSound (log : List HlsExchange) (url : String) (media : List String) : Prop where
  flat : ∀ line ∈ media, startsWith line streamTag = false
  endList : spec.policy.requireEndList = true → "#EXT-X-ENDLIST" ∈ media
  initSegment : spec.policy.initSegment = .required →
    ∃ line ∈ media, startsWith line "#EXT-X-MAP:" = true
  segment : segments media ≠ []
  samples : ∀ reference, Samples media reference → ∃ referenceUrl,
    Resolves platform url reference referenceUrl ∧ ReferenceAllowed platform spec referenceUrl ∧
      MediaRefused platform spec log referenceUrl

/-- A media playlist that was read and refused. -/
structure MediaCertified (log : List HlsExchange) (url : String) : Prop where
  allowed : ReferenceAllowed platform spec url
  refused : ManifestRefused spec log url
  read : ∃ media, ManifestRead spec issued log url media ∧ MediaSound platform spec log url media

/-- What a verification that returned has established. -/
structure HlsCertified (log : List HlsExchange) (masterUrl : String) (profiles : List Dimensions)
    (source : Option Dimensions) (verification : HlsVerification) : Prop where
  secure : SecureUrl platform spec masterUrl
  refused : ManifestRefused spec log masterUrl
  read : ∃ master, ManifestRead spec issued log masterUrl master ∧
    (∀ reference, Lists master reference → ∃ url, Resolves platform masterUrl reference url ∧
      MediaCertified platform spec issued log url) ∧
    (spec.policy.allowAlternateMedia = true → ∀ reference, QuotedIn master reference →
      ∃ url, Resolves platform masterUrl reference url ∧
        MediaCertified platform spec issued log url)
  variants : ∀ variant ∈ verification.variants,
    MediaCertified platform spec issued log variant.url
  distinct : Distinct verification.required
  covers : Covers verification.variants profiles source verification.required

end Certificates

section Rules

variable {platform : HlsPlatform} {spec : ProviderProbeSpec} {issued : String → Prop}

theorem MediaSound.mono {log log' : List HlsExchange} {url : String} {media : List String}
    (hlog : log <:+ log') (h : MediaSound platform spec log url media) :
    MediaSound platform spec log' url media := by
  refine ⟨h.flat, h.endList, h.initSegment, h.segment, ?_⟩
  intro reference hsample
  obtain ⟨referenceUrl, hresolves, hallowed, hrefused⟩ := h.samples reference hsample
  exact ⟨referenceUrl, hresolves, hallowed, hrefused.mono hlog⟩

theorem MediaCertified.mono {log log' : List HlsExchange} {url : String} (hlog : log <:+ log')
    (h : MediaCertified platform spec issued log url) :
    MediaCertified platform spec issued log' url := by
  obtain ⟨media, hread, hsound⟩ := h.read
  exact ⟨h.allowed, h.refused.mono hlog, media, hread.mono hlog, hsound.mono hlog⟩

theorem allowed_iff {url : Url} {hosts : HostAllowlist} (h : url.allowed hosts = true) :
    url.protocol = "https:" ∧ HostAllowed hosts url.hostname := by
  simp only [Url.allowed, Bool.and_eq_true, Bool.or_eq_true, beq_iff_eq] at h
  refine ⟨h.1.1.1.1.1, ?_⟩
  rcases h.2 with hexact | hsuffix
  · exact .inl (by simpa using hexact)
  · exact .inr (by simpa using hsuffix)

theorem secureUrl_of_allowed {url : String}
    (h : playbackUrlAllowed platform url spec.hosts = true) : SecureUrl platform spec url := by
  unfold playbackUrlAllowed at h
  cases hparse : platform.parseUrl none url with
  | none =>
    rw [hparse] at h
    cases h
  | some parsed =>
    rw [hparse] at h
    exact ⟨parsed, hparse, allowed_iff h⟩

theorem mem_sampledReferences {media : List String} {first last reference : String}
    (hfirst : (segments media).head? = some first) (hlast : (segments media).getLast? = some last)
    (h : Samples media reference) : reference ∈ sampledReferences media first last := by
  unfold sampledReferences
  rw [List.mem_eraseDups]
  rcases h with h | h | ⟨line, hline, hquoted, hends⟩
  · cases hfirst.symm.trans h
    exact List.mem_cons_self
  · cases hlast.symm.trans h
    exact List.mem_cons_of_mem _ List.mem_cons_self
  · refine List.mem_cons_of_mem _ (List.mem_cons_of_mem _ ?_)
    exact List.mem_flatMap.mpr ⟨line, hline, mem_quotedReferences hends hquoted⟩

/-! ## Ladders -/

theorem listedVariant_ok {masterUrl line : String} {next : Option String} {variant : HlsVariant}
    (h : listedVariant platform spec masterUrl line next = .ok variant) :
    ∃ reference, next = some reference ∧
      hlsReference platform spec masterUrl reference = .ok variant.url := by
  unfold listedVariant at h
  split at h
  next size bandwidth reference _ _ =>
    split_ifs at h
    obtain ⟨url, hurl, h⟩ := except_bind_eq_ok.mp h
    cases h
    exact ⟨reference, rfl, hurl⟩
  next => cases h

/-- The variants of a master: one for each reference it lists. -/
theorem listedVariants_ok {masterUrl : String} {master : List String} :
    ∀ {variants : List HlsVariant},
      listedVariants platform spec masterUrl master = .ok variants →
        (∀ reference, Lists master reference → ∃ variant ∈ variants,
          hlsReference platform spec masterUrl reference = .ok variant.url) ∧
        ∀ variant ∈ variants, ∃ reference,
          hlsReference platform spec masterUrl reference = .ok variant.url := by
  induction master with
  | nil =>
    intro variants h
    cases h
    constructor
    · rintro reference ⟨before, tag, after, heq, -⟩
      cases before <;> cases heq
    · intro variant hmem
      cases hmem
  | cons line rest ih =>
    intro variants h
    unfold listedVariants at h
    split_ifs at h with htag
    · obtain ⟨variant, hvariant, h⟩ := except_bind_eq_ok.mp h
      obtain ⟨others, hothers, h⟩ := except_bind_eq_ok.mp h
      cases h
      obtain ⟨hlists, hfrom⟩ := ih hothers
      obtain ⟨next, hnext, hurl⟩ := listedVariant_ok hvariant
      constructor
      · rintro reference ⟨before, tag, after, heq, hstream⟩
        cases before with
        | nil =>
          cases heq
          cases hnext
          exact ⟨variant, List.mem_cons_self, hurl⟩
        | cons first before =>
          cases heq
          obtain ⟨other, hmem, hother⟩ := hlists reference ⟨before, tag, after, rfl, hstream⟩
          exact ⟨other, List.mem_cons_of_mem _ hmem, hother⟩
      · intro other hmem
        rcases List.mem_cons.mp hmem with rfl | hmem
        · exact ⟨next, hurl⟩
        · exact hfrom other hmem
    · obtain ⟨hlists, hfrom⟩ := ih h
      refine ⟨?_, hfrom⟩
      rintro reference ⟨before, tag, after, heq, hstream⟩
      cases before with
      | nil =>
        cases heq
        exact absurd hstream htag
      | cons first before =>
        cases heq
        exact hlists reference ⟨before, tag, after, rfl, hstream⟩

/-! ## Playlists -/

/-- Parsing a URL that was written out gives that URL. -/
def Reparses (platform : HlsPlatform) : Prop :=
  ∀ parent reference parsed, platform.parseUrl parent reference = some parsed →
    platform.parseUrl none parsed.href = some parsed

variable (hreparse : Reparses platform)

include hreparse

theorem hlsReference_ok {parent reference url : String}
    (h : hlsReference platform spec parent reference = .ok url) :
    Resolves platform parent reference url ∧ ReferenceAllowed platform spec url := by
  obtain ⟨resolved, hresolved, h⟩ := except_bind_eq_ok.mp h
  unfold providerReferenceUrl at hresolved
  cases hparse : platform.parseUrl (some parent) reference with
  | none =>
    rw [hparse] at hresolved
    cases hresolved
  | some parsed =>
    rw [hparse] at hresolved
    dsimp only at hresolved
    split_ifs at hresolved with hallowed
    cases hresolved
    have hagain := hreparse (some parent) reference parsed hparse
    rw [hagain] at h
    dsimp only at h
    split_ifs at h with hlisted
    cases h
    refine ⟨⟨parsed, hparse, rfl⟩, parsed, hagain, ?_⟩
    unfold playbackUrlAllowed at hallowed
    rw [hagain] at hallowed
    obtain ⟨hhttps, hhost⟩ := allowed_iff hallowed
    rw [Bool.not_eq_true] at hlisted
    simp only [Url.unlisted, Bool.or_eq_false_iff, bne_eq_false_iff_eq, Bool.and_eq_false_iff]
      at hlisted
    refine ⟨hhttps, hhost, hlisted.1, ?_⟩
    rcases hlisted.2 with hsearch | ⟨-, hkeys⟩
    · exact .inl hsearch
    · right
      intro key hkey
      by_contra hnot
      exact absurd hkeys (by simpa using ⟨key, hkey, hnot⟩)

theorem verifyMediaPlaylist_certifies (hcoverage : spec.coverage = .everyPlaylist)
    {url token : String} {run run' : HlsRun} {u : PUnit} (htoken : issued token)
    (hallowed : ReferenceAllowed platform spec url)
    (hsound : ContextSound platform spec issued run)
    (h : verifyMediaPlaylist platform spec url token run = .ok u run') :
    MediaCertified platform spec issued run'.log url := by
  obtain ⟨-, hrefused, media, first, last, hread, hpolicy, hfirst, hlast, hsamples⟩ :=
    verifyMediaPlaylist_ok hcoverage htoken hsound h
  refine ⟨hallowed, hrefused, media, hread, ?_⟩
  simp only [ManifestPolicy.rejects, Bool.or_eq_false_iff, Bool.and_eq_false_iff] at hpolicy
  obtain ⟨⟨hflat, hend⟩, hinit⟩ := hpolicy
  constructor
  · simpa using hflat
  · intro hrequired
    rcases hend with hend | hend
    · cases hrequired.symm.trans hend
    · simpa using hend
  · intro hrequired
    rcases hinit with hinit | hinit
    · simp [hrequired] at hinit
    · simpa using hinit
  · intro hnone
    rw [hnone] at hfirst
    cases hfirst
  · intro reference hsample
    obtain ⟨referenceUrl, hurl, hmedia⟩ :=
      hsamples reference (mem_sampledReferences hfirst hlast hsample)
    obtain ⟨hresolves, hlisted⟩ := hlsReference_ok hreparse hurl
    exact ⟨referenceUrl, hresolves, hlisted, hmedia⟩

end Rules

/-! ## Contexts of a verification -/

section Contexts

variable (platform : HlsPlatform) (spec : ProviderProbeSpec) (issued : String → Prop)

/-- The contexts of one verification: an empty one, then any masters and any probes that use it,
whether they return or fail. -/
inductive Reached : HlsRun → Prop where
  | fresh {run : HlsRun} : run.context.manifests = [] → run.context.mediaReferences = [] →
      Reached run
  | master {run : HlsRun} {masterUrl token : String} {profiles : List Dimensions}
      {source : Option Dimensions} : Reached run → issued token →
      Reached (after (verifyAdaptiveHlsWith platform spec masterUrl token profiles source) run)
  | probe {run : HlsRun} {url : String} : Reached run →
      Reached (after (requireAnonymousPlaybackDenied platform spec url true) run)
  | other {run run' : HlsRun} : Reached run → HlsQuiet run run' → Reached run'

variable {platform spec issued}

theorem startBudget_quiet : Advances HlsQuiet (startBudget platform) := by
  refine advances_bind @HlsQuiet.trans (advances_get HlsQuiet.refl) ?_
  intro run
  cases run.context.budget with
  | some budget => exact advances_pure HlsQuiet.refl _
  | none =>
    refine advances_bind @HlsQuiet.trans now_quiet ?_
    intro time
    exact advances_modify fun run => ⟨List.suffix_refl _, rfl, rfl⟩

variable (hcoverage : spec.coverage = .everyPlaylist)

include hcoverage

theorem verifyAdaptiveHlsWith_keeps {masterUrl token : String} {profiles : List Dimensions}
    {source : Option Dimensions} (htoken : issued token) :
    Advances (Keeps platform spec issued)
      (verifyAdaptiveHlsWith platform spec masterUrl token profiles source) := by
  have hplaylist : ∀ url, Advances (Keeps platform spec issued)
      (verifyMediaPlaylist platform spec url token) := fun url =>
    verifyMediaPlaylist_keeps hcoverage htoken
  refine advances_bind (R := Keeps platform spec issued) Keeps.trans
    (startBudget_quiet.mono fun h => h.keeps) ?_
  intro _
  refine advances_bind (R := Keeps platform spec issued) Keeps.trans
    (verifiedHlsManifest_keeps htoken) ?_
  intro master
  refine advances_bind (R := Keeps platform spec issued) Keeps.trans
    (advances_reject Keeps.refl) ?_
  intro _
  refine advances_bind (R := Keeps platform spec issued) Keeps.trans
    (advances_settle Keeps.refl) ?_
  intro variants
  refine advances_bind (R := Keeps platform spec issued) Keeps.trans
    (advances_reject Keeps.refl) ?_
  intro _
  cases tallest variants with
  | none => exact advances_throw Keeps.refl _
  | some reference =>
    refine advances_bind (R := Keeps platform spec issued) Keeps.trans
      (advances_get Keeps.refl) ?_
    intro run
    refine advances_bind (R := Keeps platform spec issued) Keeps.trans
      (advances_reject Keeps.refl) ?_
    intro _
    refine advances_bind (R := Keeps platform spec issued) Keeps.trans
      (advances_modify fun run => HlsQuiet.keeps ⟨List.suffix_refl _, rfl, rfl⟩) ?_
    intro _
    refine advances_bind (R := Keeps platform spec issued) Keeps.trans
      (advances_settle Keeps.refl) ?_
    intro required
    refine advances_bind (R := Keeps platform spec issued) Keeps.trans
      (advances_settle Keeps.refl) ?_
    intro alternateUrls
    refine advances_bind (R := Keeps platform spec issued) Keeps.trans
      (advances_forM Keeps.refl Keeps.trans fun variant => hplaylist variant.url) ?_
    intro _
    refine advances_bind (R := Keeps platform spec issued) Keeps.trans
      (advances_forM Keeps.refl Keeps.trans hplaylist) ?_
    intro _
    exact advances_pure Keeps.refl _

theorem reached_sound {run : HlsRun} (h : Reached platform spec issued run) :
    ContextSound platform spec issued run := by
  induction h with
  | fresh hmanifests hmedia =>
    constructor
    · intro url lines hmem
      rw [hmanifests] at hmem
      cases hmem
    · intro url hmem
      rw [hmedia] at hmem
      cases hmem
  | master _ htoken ih => exact (verifyAdaptiveHlsWith_keeps hcoverage htoken _).2 ih
  | probe _ ih => exact (requireAnonymousPlaybackDenied_keeps _ _).2 ih
  | other _ hquiet ih => exact hquiet.keeps.2 ih

variable (hreparse : Reparses platform)

include hreparse

/-- A loop over playlists that were listed certifies each of them. -/
theorem forM_certifies {α : Type} {urlOf : α → String} {items : List α} {token : String}
    {run run' : HlsRun} {u : PUnit} (htoken : issued token)
    (hallowed : ∀ x ∈ items, ReferenceAllowed platform spec (urlOf x))
    (hsound : ContextSound platform spec issued run)
    (h : (items.forM fun x => verifyMediaPlaylist platform spec (urlOf x) token) run = .ok u run') :
    ∀ x ∈ items, MediaCertified platform spec issued run'.log (urlOf x) := by
  refine forM_eq_ok (P := fun x run => MediaCertified platform spec issued run.log (urlOf x))
    (Q := ContextSound platform spec issued) Keeps.refl Keeps.trans
    (fun x => verifyMediaPlaylist_keeps hcoverage htoken) ?_ ?_ ?_ hsound h
  · intro x run run' hstep hcertified
    exact hcertified.mono hstep.1
  · intro run run' hstep hrun
    exact hstep.2 hrun
  · intro x hx run run' _ hrun hround
    exact verifyMediaPlaylist_certifies hreparse hcoverage htoken (hallowed x hx) hrun hround

end Contexts

/-! ## One provider -/

section Sample

/-- A URL of one host. -/
def sampleUrl (pathname search : String) (queryKeys : List String) : Url where
  protocol := "https:"
  username := ""
  password := ""
  hostname := "media.test"
  port := ""
  pathname := pathname
  search := search
  hash := ""
  queryKeys := queryKeys
  href := "https://media.test" ++ pathname ++ search
  hrefWithoutSearch := "https://media.test" ++ pathname

/-- A parser of finitely many texts. -/
def tableUrl (urls : List (Option String × String × Url)) (parent : Option String)
    (reference : String) : Option Url :=
  (urls.find? fun entry => entry.1 == parent && entry.2.1 == reference).map fun entry => entry.2.2

theorem reparses_table {platform : HlsPlatform} {urls : List (Option String × String × Url)}
    (hparse : platform.parseUrl = tableUrl urls)
    (h : ∀ entry ∈ urls, tableUrl urls none entry.2.2.href = some entry.2.2) :
    Reparses platform := by
  intro parent reference parsed hparsed
  rw [hparse] at hparsed ⊢
  obtain ⟨entry, hfind, rfl⟩ := Option.map_eq_some_iff.mp hparsed
  exact h entry (List.mem_of_find?_eq_some hfind)

def sampleSpec : ProviderProbeSpec where
  policy :=
    { allowAlternateMedia := false
      allowedQueryKeys := []
      requireEndList := true
      initSegment := .optional
      deniedStatuses := { manifest := [401, 403], media := [401, 403] } }
  hosts := { exact := ["media.test"], suffixes := [] }
  authorizedRequest := fun url token => { url := url, headers := [("Jwt", token)] }
  manifestDenialRequests := fun url =>
    [{ url := url, headers := [], deniedStatuses := none },
      { url := url, headers := [("Jwt", "invalid")], deniedStatuses := none }]
  coverage := .everyPlaylist

def sampleMaster : String :=
  "#EXTM3U\n#EXT-X-STREAM-INF:BANDWIDTH=3000000,RESOLUTION=1280x720\n720.m3u8\n"

/-- A provider that serves its playlists for the token `t`, and denies everything else. -/
def samplePlatform (masterSearch : String) (queryKeys : List String) (media : String) :
    HlsPlatform where
  parseUrl :=
    let master := sampleUrl "/video/master.m3u8" masterSearch queryKeys
    let variant := sampleUrl "/video/720.m3u8" "" []
    tableUrl
      [(none, master.href, master), (some master.href, "720.m3u8", variant),
        (none, variant.href, variant),
        (some variant.href, "seg.ts", sampleUrl "/video/seg.ts" "" []),
        (none, "https://media.test/video/seg.ts", sampleUrl "/video/seg.ts" "" []),
        (some variant.href, "key.bin", sampleUrl "/video/key.bin" "" []),
        (none, "https://media.test/video/key.bin", sampleUrl "/video/key.bin" "" []),
        (some variant.href, ",URI=", sampleUrl "/video/,URI=" "" []),
        (none, "https://media.test/video/,URI=", sampleUrl "/video/,URI=" "" [])]
  sameAspect := fun _ _ => true
  clock := fun _ => 0
  answer := fun _ request =>
    .answered (if request.headers ≠ [("Jwt", "t")] then { status := 403, body := .absent }
      else if request.url = "https://media.test/video/720.m3u8" then
        { status := 200, body := .whole 100 media }
      else { status := 200, body := .whole 100 sampleMaster })

def emptyRun : HlsRun where
  context :=
    { manifests := [], mediaReferences := [], reference := none, budget := none,
      tokenPlacement := some .header }
  log := []
  clockReads := 0

def sampleMedia : String :=
  "#EXTM3U\n#EXT-X-KEY:METHOD=AES-128,URI=\"key.bin\"\n#EXTINF:2,\nseg.ts\n#EXT-X-ENDLIST\n"

/-- The key stands behind an attribute whose value ends in `,URI=`. -/
def shadowedMedia : String :=
  "#EXTM3U\n#EXT-X-KEY:METHOD=AES-128,KEYFORMAT=\"a,URI=\",URI=\"key.bin\"\n" ++
    "#EXTINF:2,\nseg.ts\n#EXT-X-ENDLIST\n"

end Sample

end Youtick.Bridge
