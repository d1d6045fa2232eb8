import Youtick.Bridge.HlsVerification

/-!
# Bridge: what a verified playback guarantees

Every playlist and every media reference the context of a verification remembers was denied by the
provider (`ContextSound`). No call breaks this, whether it returns or fails, so a context that several
masters share may stand in for a probe (`reached_sound`).
-/

set_option autoImplicit false

namespace Youtick.Bridge

open Youtick.Lib Youtick.Lib.Fallible

/-! ## What the provider answered -/

section Answers

variable (platform : HlsPlatform) (spec : ProviderProbeSpec) (issued : String → Prop)

/-- The request was made, and this came back. -/
def Answered (log : List HlsExchange) (request : HlsRequest) (response : HlsResponse) : Prop :=
  { request := request, reply := .answered response } ∈ log

/-- A refusal of a manifest: by its status, or by a playlist that is nothing but an error. -/
def Refuses (probe : ProbeRequest) (response : HlsResponse) : Prop :=
  response.status ∈ spec.denying probe ∨
    response.status = 200 ∧ ∃ text, response.text? = some text ∧ hlsManifestKind text = .error

/-- Every shape of a denied request was tried on the manifest and refused. -/
def ManifestRefused (log : List HlsExchange) (url : String) : Prop :=
  ∀ probe ∈ spec.manifestDenialRequests url, ∃ response,
    Answered log probe.request response ∧ Refuses spec probe response

/-- The manifest was read with the authorized request for one of the tokens. -/
def ManifestRead (log : List HlsExchange) (url : String) (lines : List String) : Prop :=
  ∃ token, issued token ∧ ∃ response, Answered log (spec.authorizedRequest url token) response ∧
    response.status = 200 ∧ ∃ bytes text, response.body = .whole bytes text ∧
      hlsManifestKind text = .playable ∧ lines = playlistLines text

/-- The anonymous byte-range request for a media reference was refused. -/
def MediaRefused (log : List HlsExchange) (url : String) : Prop :=
  ∃ probeUrl response, anonymousUrl platform spec url = .ok probeUrl ∧
    Answered log (anonymousRequest probeUrl) response ∧
    response.status ∈ spec.policy.deniedStatuses.media

/-- Every manifest of the context was read and refused, every media reference refused. -/
structure ContextSound (run : HlsRun) : Prop where
  manifests : ∀ url lines, (url, lines) ∈ run.context.manifests →
    ManifestRead spec issued run.log url lines ∧ ManifestRefused spec run.log url
  mediaReferences : ∀ url ∈ run.context.mediaReferences, MediaRefused platform spec run.log url

/-- The log grows, and a sound context stays sound. -/
def Keeps (run run' : HlsRun) : Prop :=
  run.log <:+ run'.log ∧
    (ContextSound platform spec issued run → ContextSound platform spec issued run')

/-- The log grows, and the context remembers the same URLs. -/
def HlsQuiet (run run' : HlsRun) : Prop :=
  run.log <:+ run'.log ∧ run'.context.manifests = run.context.manifests ∧
    run'.context.mediaReferences = run.context.mediaReferences

end Answers

section Rules

variable {platform : HlsPlatform} {spec : ProviderProbeSpec} {issued : String → Prop}

theorem Answered.mono {log log' : List HlsExchange} {request : HlsRequest} {response : HlsResponse}
    (hlog : log <:+ log') (h : Answered log request response) : Answered log' request response :=
  hlog.subset h

theorem ManifestRefused.mono {log log' : List HlsExchange} {url : String} (hlog : log <:+ log')
    (h : ManifestRefused spec log url) : ManifestRefused spec log' url := by
  intro probe hprobe
  obtain ⟨response, hanswered, hrefuses⟩ := h probe hprobe
  exact ⟨response, hanswered.mono hlog, hrefuses⟩

theorem ManifestRead.mono {log log' : List HlsExchange} {url : String} {lines : List String}
    (hlog : log <:+ log') (h : ManifestRead spec issued log url lines) :
    ManifestRead spec issued log' url lines := by
  obtain ⟨token, htoken, response, hanswered, hread⟩ := h
  exact ⟨token, htoken, response, hanswered.mono hlog, hread⟩

theorem MediaRefused.mono {log log' : List HlsExchange} {url : String} (hlog : log <:+ log')
    (h : MediaRefused platform spec log url) : MediaRefused platform spec log' url := by
  obtain ⟨probeUrl, response, hurl, hanswered, hstatus⟩ := h
  exact ⟨probeUrl, response, hurl, hanswered.mono hlog, hstatus⟩

theorem HlsQuiet.refl (run : HlsRun) : HlsQuiet run run := ⟨List.suffix_refl _, rfl, rfl⟩

theorem HlsQuiet.trans {run mid run' : HlsRun} (h : HlsQuiet run mid) (h' : HlsQuiet mid run') :
    HlsQuiet run run' :=
  ⟨h.1.trans h'.1, h'.2.1.trans h.2.1, h'.2.2.trans h.2.2⟩

theorem Keeps.refl (run : HlsRun) : Keeps platform spec issued run run :=
  ⟨List.suffix_refl _, id⟩

theorem Keeps.trans {run mid run' : HlsRun} (h : Keeps platform spec issued run mid)
    (h' : Keeps platform spec issued mid run') : Keeps platform spec issued run run' :=
  ⟨h.1.trans h'.1, fun hsound => h'.2 (h.2 hsound)⟩

theorem HlsQuiet.keeps {run run' : HlsRun} (h : HlsQuiet run run') :
    Keeps platform spec issued run run' := by
  obtain ⟨hlog, hmanifests, hmedia⟩ := h
  refine ⟨hlog, ?_⟩
  intro hsound
  constructor
  · intro url lines hmem
    rw [hmanifests] at hmem
    obtain ⟨hread, hrefused⟩ := hsound.manifests url lines hmem
    exact ⟨hread.mono hlog, hrefused.mono hlog⟩
  · intro url hmem
    rw [hmedia] at hmem
    exact (hsound.mediaReferences url hmem).mono hlog

/-! ## Fetching -/

theorem now_quiet : Advances HlsQuiet (now platform) := fun _ => ⟨List.suffix_refl _, rfl, rfl⟩

theorem chargeVerificationRequest_quiet (budget : VerificationBudget) :
    Advances HlsQuiet (chargeVerificationRequest budget) := by
  refine advances_bind @HlsQuiet.trans (advances_reject HlsQuiet.refl) ?_
  intro _
  exact advances_modify fun run => ⟨List.suffix_refl _, rfl, rfl⟩

theorem dependencyFetch_quiet (request : HlsRequest) :
    Advances HlsQuiet (dependencyFetch platform request) := by
  intro run
  have hgrows : HlsQuiet run { run with
      log := { request, reply := platform.answer run.log request } :: run.log } :=
    ⟨List.suffix_cons _ _, rfl, rfl⟩
  refine after_bind @HlsQuiet.trans (advances_get HlsQuiet.refl run) ?_
  intro seen mid hget
  obtain ⟨rfl, rfl⟩ := get_eq_ok.mp hget
  refine after_bind @HlsQuiet.trans hgrows ?_
  intro _ mid _
  cases platform.answer seen.log request with
  | failed => exact advances_throw HlsQuiet.refl _ mid
  | answered response => exact advances_pure HlsQuiet.refl _ mid

theorem spendBudget_quiet : Advances HlsQuiet (spendBudget platform) := by
  refine advances_bind @HlsQuiet.trans (advances_get HlsQuiet.refl) ?_
  intro run
  cases run.context.budget with
  | none => exact advances_pure HlsQuiet.refl _
  | some budget =>
    refine advances_bind @HlsQuiet.trans now_quiet ?_
    intro time
    exact advances_bind @HlsQuiet.trans (advances_reject HlsQuiet.refl) fun _ =>
      chargeVerificationRequest_quiet budget

theorem verificationFetch_quiet (request : HlsRequest) :
    Advances HlsQuiet (verificationFetch platform request) :=
  advances_bind @HlsQuiet.trans spendBudget_quiet fun _ => dependencyFetch_quiet request

theorem dependencyFetch_ok {request : HlsRequest} {run run' : HlsRun} {response : HlsResponse}
    (h : dependencyFetch platform request run = .ok response run') :
    Answered run'.log request response := by
  obtain ⟨seen, mid, hget, h⟩ := bind_eq_ok.mp h
  obtain ⟨rfl, rfl⟩ := get_eq_ok.mp hget
  obtain ⟨_, mid, hmodify, h⟩ := bind_eq_ok.mp h
  obtain rfl := modify_eq_ok.mp hmodify
  cases hreply : platform.answer seen.log request with
  | failed =>
    rw [hreply] at h
    exact absurd h throw_ne_ok
  | answered answer =>
    rw [hreply] at h
    obtain ⟨rfl, rfl⟩ := pure_eq_ok.mp h
    exact List.mem_cons_self

theorem verificationFetch_ok {request : HlsRequest} {run run' : HlsRun} {response : HlsResponse}
    (h : verificationFetch platform request run = .ok response run') :
    Answered run'.log request response := by
  obtain ⟨_, _, -, h⟩ := bind_eq_ok.mp h
  exact dependencyFetch_ok h

/-! ## Manifests -/

theorem hlsPlaybackDenied_ok {probe : ProbeRequest} {response : HlsResponse}
    (h : hlsPlaybackDenied response (spec.denying probe) = .ok true) :
    Refuses spec probe response := by
  unfold hlsPlaybackDenied at h
  split_ifs at h with hdenied hstatus
  · exact .inl (by simpa using hdenied)
  · cases h
  · right
    refine ⟨not_not.mp hstatus, ?_⟩
    cases htext : response.text? with
    | none =>
      rw [htext] at h
      cases h
    | some text =>
      rw [htext] at h
      exact ⟨text, rfl, by simpa using h⟩

theorem requireHlsPlaybackDenied_round (probe : ProbeRequest) :
    Advances HlsQuiet (do
      let response ← verificationFetch platform probe.request
      reject (response.transient = true) .providerUnavailable
      let denied ← settle (hlsPlaybackDenied response (spec.denying probe))
      reject (denied = false) .playbackExposed) := by
  refine advances_bind @HlsQuiet.trans (verificationFetch_quiet _) ?_
  intro response
  refine advances_bind @HlsQuiet.trans (advances_reject HlsQuiet.refl) ?_
  intro _
  exact advances_bind @HlsQuiet.trans (advances_settle HlsQuiet.refl) fun _ =>
    advances_reject HlsQuiet.refl

theorem requireHlsPlaybackDenied_quiet (url : String) :
    Advances HlsQuiet (requireHlsPlaybackDenied platform spec url) :=
  advances_forM HlsQuiet.refl @HlsQuiet.trans requireHlsPlaybackDenied_round

theorem requireHlsPlaybackDenied_ok {url : String} {run run' : HlsRun} {u : PUnit}
    (h : requireHlsPlaybackDenied platform spec url run = .ok u run') :
    ManifestRefused spec run'.log url := by
  refine forM_eq_ok (P := fun probe run => ∃ response,
      Answered run.log probe.request response ∧ Refuses spec probe response)
    (Q := fun _ => True) HlsQuiet.refl @HlsQuiet.trans requireHlsPlaybackDenied_round ?_ ?_ ?_ trivial h
  · rintro probe run run' hquiet ⟨response, hanswered, hrefuses⟩
    exact ⟨response, hanswered.mono hquiet.1, hrefuses⟩
  · intro _ _ _ _
    trivial
  · intro probe _ run run' _ _ hround
    obtain ⟨response, mid, hfetch, hround⟩ := bind_eq_ok.mp hround
    obtain ⟨_, _, hreject, hround⟩ := bind_eq_ok.mp hround
    obtain ⟨-, rfl⟩ := reject_eq_ok.mp hreject
    obtain ⟨denied, _, hdenied, hround⟩ := bind_eq_ok.mp hround
    obtain ⟨hdecided, rfl⟩ := settle_eq_ok.mp hdenied
    obtain ⟨hexposed, rfl⟩ := reject_eq_ok.mp hround
    rw [Bool.not_eq_false] at hexposed
    rw [hexposed] at hdecided
    exact ⟨response, verificationFetch_ok hfetch, hlsPlaybackDenied_ok hdecided⟩

theorem authorizedHls_quiet (url token : String) :
    Advances HlsQuiet (authorizedHls platform spec url token) := by
  refine advances_bind @HlsQuiet.trans (advances_reject HlsQuiet.refl) ?_
  intro _
  refine advances_bind @HlsQuiet.trans (advances_get HlsQuiet.refl) ?_
  intro run
  refine advances_bind @HlsQuiet.trans (advances_reject HlsQuiet.refl) ?_
  intro _
  refine advances_bind @HlsQuiet.trans (verificationFetch_quiet _) ?_
  intro response
  refine advances_bind @HlsQuiet.trans (advances_reject HlsQuiet.refl) ?_
  intro _
  refine advances_bind @HlsQuiet.trans (advances_reject HlsQuiet.refl) ?_
  intro _
  refine advances_bind @HlsQuiet.trans (advances_settle HlsQuiet.refl) ?_
  intro body
  exact advances_bind @HlsQuiet.trans (advances_reject HlsQuiet.refl) fun _ => advances_pure HlsQuiet.refl _

theorem authorizedHls_ok {url token : String} {run run' : HlsRun} {lines : List String}
    (htoken : issued token) (h : authorizedHls platform spec url token run = .ok lines run') :
    ManifestRead spec issued run'.log url lines := by
  obtain ⟨_, _, -, h⟩ := bind_eq_ok.mp h
  obtain ⟨_, _, -, h⟩ := bind_eq_ok.mp h
  obtain ⟨_, _, -, h⟩ := bind_eq_ok.mp h
  obtain ⟨response, mid, hfetch, h⟩ := bind_eq_ok.mp h
  obtain ⟨_, _, hreject, h⟩ := bind_eq_ok.mp h
  obtain ⟨-, rfl⟩ := reject_eq_ok.mp hreject
  obtain ⟨_, _, hreject, h⟩ := bind_eq_ok.mp h
  obtain ⟨hstatus, rfl⟩ := reject_eq_ok.mp hreject
  obtain ⟨body, _, hsettle, h⟩ := bind_eq_ok.mp h
  obtain ⟨hbody, rfl⟩ := settle_eq_ok.mp hsettle
  obtain ⟨_, _, hreject, h⟩ := bind_eq_ok.mp h
  obtain ⟨hkind, rfl⟩ := reject_eq_ok.mp hreject
  obtain ⟨rfl, rfl⟩ := pure_eq_ok.mp h
  rw [not_or, not_not] at hstatus
  refine ⟨token, htoken, response, verificationFetch_ok hfetch, hstatus.1, ?_⟩
  unfold readVerificationText at hbody
  cases hread : response.body with
  | absent => exact absurd hread hstatus.2
  | broken bytes =>
    rw [hread] at hbody
    cases hbody
  | whole bytes text =>
    rw [hread] at hbody
    simp only at hbody
    split_ifs at hbody
    cases hbody
    exact ⟨bytes, _, rfl, not_not.mp hkind, rfl⟩

theorem mem_of_lookup {manifests : List (String × List String)} {url : String}
    {lines : List String} (h : manifests.lookup url = some lines) : (url, lines) ∈ manifests := by
  induction manifests with
  | nil => cases h
  | cons entry manifests ih =>
    obtain ⟨key, value⟩ := entry
    rw [List.lookup_cons] at h
    by_cases hkey : url = key
    · subst hkey
      rw [beq_self_eq_true] at h
      cases h
      exact List.mem_cons_self
    · rw [beq_false_of_ne hkey] at h
      exact List.mem_cons_of_mem _ (ih h)

/-- A manifest joins the context only after it was refused and read. -/
theorem ContextSound.addManifest {run : HlsRun} {url : String} {lines : List String}
    (hsound : ContextSound platform spec issued run)
    (hread : ManifestRead spec issued run.log url lines)
    (hrefused : ManifestRefused spec run.log url) :
    ContextSound platform spec issued { run with
      context := { run.context with manifests := run.context.manifests ++ [(url, lines)] } } := by
  refine ⟨?_, hsound.mediaReferences⟩
  intro other otherLines hmem
  rcases List.mem_append.mp hmem with hmem | hmem
  · exact hsound.manifests other otherLines hmem
  · cases List.mem_singleton.mp hmem
    exact ⟨hread, hrefused⟩

theorem ContextSound.addReference {run : HlsRun} {url : String}
    (hsound : ContextSound platform spec issued run)
    (hrefused : MediaRefused platform spec run.log url) :
    ContextSound platform spec issued { run with
      context := { run.context with
        mediaReferences := run.context.mediaReferences ++ [url] } } := by
  refine ⟨hsound.manifests, ?_⟩
  intro other hmem
  rcases List.mem_append.mp hmem with hmem | hmem
  · exact hsound.mediaReferences other hmem
  · cases List.mem_singleton.mp hmem
    exact hrefused

theorem verifiedHlsManifest_keeps {url token : String} (htoken : issued token) :
    Advances (Keeps platform spec issued)
      (verifiedHlsManifest platform spec url token true) := by
  intro run
  refine after_bind (R := Keeps platform spec issued) Keeps.trans (advances_reject Keeps.refl run) ?_
  intro _ _ hallowed
  obtain ⟨-, rfl⟩ := reject_eq_ok.mp hallowed
  refine after_bind (R := Keeps platform spec issued) Keeps.trans (advances_get Keeps.refl run) ?_
  intro seen _ hget
  obtain ⟨rfl, rfl⟩ := get_eq_ok.mp hget
  cases hlookup : seen.context.manifests.lookup url with
  | some previous =>
    simp only [hlookup]
    exact advances_pure Keeps.refl _ seen
  | none =>
    simp only [hlookup]
    refine after_bind (R := Keeps platform spec issued) Keeps.trans (advances_reject Keeps.refl seen) ?_
    intro _ _ hroom
    obtain ⟨-, rfl⟩ := reject_eq_ok.mp hroom
    rw [whenever_pos rfl]
    refine after_bind (R := Keeps platform spec issued) Keeps.trans (requireHlsPlaybackDenied_quiet url seen).keeps ?_
    intro _ denied hdenied
    have hrefused := requireHlsPlaybackDenied_ok hdenied
    refine after_bind (R := Keeps platform spec issued) Keeps.trans (authorizedHls_quiet url token denied).keeps ?_
    intro lines read hread
    have hlog := ((authorizedHls_quiet url token).of_ok hread).1
    refine after_bind (R := Keeps platform spec issued) Keeps.trans ?_ ?_
    · exact ⟨List.suffix_refl _, fun hsound =>
        hsound.addManifest (authorizedHls_ok htoken hread) (hrefused.mono hlog)⟩
    · intro _ last _
      exact advances_pure Keeps.refl _ last

theorem verifiedHlsManifest_ok {url token : String} {run run' : HlsRun} {lines : List String}
    (htoken : issued token) (hsound : ContextSound platform spec issued run)
    (h : verifiedHlsManifest platform spec url token true run = .ok lines run') :
    playbackUrlAllowed platform url spec.hosts = true ∧
      ManifestRead spec issued run'.log url lines ∧ ManifestRefused spec run'.log url := by
  obtain ⟨_, _, hreject, h⟩ := bind_eq_ok.mp h
  obtain ⟨hallowed, rfl⟩ := reject_eq_ok.mp hreject
  rw [Bool.not_eq_false] at hallowed
  obtain ⟨seen, _, hget, h⟩ := bind_eq_ok.mp h
  obtain ⟨rfl, rfl⟩ := get_eq_ok.mp hget
  refine ⟨hallowed, ?_⟩
  cases hlookup : seen.context.manifests.lookup url with
  | some previous =>
    -- The context remembers the manifest.
    simp only [hlookup] at h
    obtain ⟨rfl, rfl⟩ := pure_eq_ok.mp h
    exact hsound.manifests url previous (mem_of_lookup hlookup)
  | none =>
    simp only [hlookup] at h
    obtain ⟨_, _, hroom, h⟩ := bind_eq_ok.mp h
    obtain ⟨-, rfl⟩ := reject_eq_ok.mp hroom
    obtain ⟨_, denied, hdenied, h⟩ := bind_eq_ok.mp h
    rw [whenever_pos rfl] at hdenied
    obtain ⟨read, mid, hread, h⟩ := bind_eq_ok.mp h
    have hlines := authorizedHls_ok htoken hread
    have hrefused := requireHlsPlaybackDenied_ok hdenied
    have hlog := ((authorizedHls_quiet url token).of_ok hread).1
    obtain ⟨_, last, hmodify, h⟩ := bind_eq_ok.mp h
    obtain rfl := modify_eq_ok.mp hmodify
    obtain ⟨rfl, rfl⟩ := pure_eq_ok.mp h
    exact ⟨hlines, hrefused.mono hlog⟩

/-! ## Media references -/

/-- The part of a media probe before the reference is remembered. -/
theorem anonymousProbe_quiet {url : String} {remember : Verify PUnit}
    (hremember : ∀ run, HlsQuiet run (after remember run)) :
    Advances HlsQuiet (do
      let probeUrl ← settle (anonymousUrl platform spec url)
      let response ← verificationFetch platform (anonymousRequest probeUrl)
      reject (response.transient = true) .providerUnavailable
      reject (response.status ∉ spec.policy.deniedStatuses.media) .playbackExposed
      remember) := by
  refine advances_bind @HlsQuiet.trans (advances_settle HlsQuiet.refl) ?_
  intro probeUrl
  refine advances_bind @HlsQuiet.trans (verificationFetch_quiet _) ?_
  intro response
  refine advances_bind @HlsQuiet.trans (advances_reject HlsQuiet.refl) ?_
  intro _
  exact advances_bind @HlsQuiet.trans (advances_reject HlsQuiet.refl) fun _ => hremember

theorem requireAnonymousPlaybackDenied_quiet (url : String) :
    Advances HlsQuiet (requireAnonymousPlaybackDenied platform spec url false) := by
  refine advances_bind @HlsQuiet.trans (advances_get HlsQuiet.refl) ?_
  intro run
  rw [Bool.false_and, if_neg Bool.false_ne_true]
  exact anonymousProbe_quiet (advances_pure HlsQuiet.refl _)

theorem requireAnonymousPlaybackDenied_ok {url : String} {run run' : HlsRun} {u : PUnit}
    (h : requireAnonymousPlaybackDenied platform spec url false run = .ok u run') :
    MediaRefused platform spec run'.log url := by
  obtain ⟨_, _, hget, h⟩ := bind_eq_ok.mp h
  obtain ⟨rfl, rfl⟩ := get_eq_ok.mp hget
  rw [Bool.false_and, if_neg Bool.false_ne_true] at h
  obtain ⟨probeUrl, _, hsettle, h⟩ := bind_eq_ok.mp h
  obtain ⟨hurl, rfl⟩ := settle_eq_ok.mp hsettle
  obtain ⟨response, mid, hfetch, h⟩ := bind_eq_ok.mp h
  obtain ⟨_, _, hreject, h⟩ := bind_eq_ok.mp h
  obtain ⟨-, rfl⟩ := reject_eq_ok.mp hreject
  obtain ⟨_, _, hreject, h⟩ := bind_eq_ok.mp h
  obtain ⟨hstatus, rfl⟩ := reject_eq_ok.mp hreject
  obtain ⟨-, rfl⟩ := pure_eq_ok.mp h
  exact ⟨probeUrl, response, hurl, verificationFetch_ok hfetch, not_not.mp hstatus⟩

/-- A probe with the references of the context: the new reference was refused. -/
theorem requireAnonymousPlaybackDenied_keeps (url : String) :
    Advances (Keeps platform spec issued)
      (requireAnonymousPlaybackDenied platform spec url true) := by
  intro run
  refine after_bind (R := Keeps platform spec issued) Keeps.trans (advances_get Keeps.refl run) ?_
  intro seen _ hget
  obtain ⟨rfl, rfl⟩ := get_eq_ok.mp hget
  split_ifs with hknown
  · exact advances_pure Keeps.refl _ seen
  · refine after_bind (R := Keeps platform spec issued) Keeps.trans
      (advances_settle Keeps.refl seen) ?_
    intro probeUrl _ hsettle
    obtain ⟨hurl, rfl⟩ := settle_eq_ok.mp hsettle
    refine after_bind (R := Keeps platform spec issued) Keeps.trans
      (verificationFetch_quiet _ seen).keeps ?_
    intro response mid hfetch
    refine after_bind (R := Keeps platform spec issued) Keeps.trans
      (advances_reject Keeps.refl mid) ?_
    intro _ _ hreject
    obtain ⟨-, rfl⟩ := reject_eq_ok.mp hreject
    refine after_bind (R := Keeps platform spec issued) Keeps.trans
      (advances_reject Keeps.refl mid) ?_
    intro _ _ hreject
    obtain ⟨hstatus, rfl⟩ := reject_eq_ok.mp hreject
    rw [whenever_pos rfl]
    exact ⟨List.suffix_refl _, fun hsound => hsound.addReference
      ⟨probeUrl, response, hurl, verificationFetch_ok hfetch, not_not.mp hstatus⟩⟩

theorem verifyMediaReference_keeps (url reference : String) :
    Advances (Keeps platform spec issued) (verifyMediaReference platform spec url reference) := by
  intro run
  refine after_bind (R := Keeps platform spec issued) Keeps.trans
    (advances_settle Keeps.refl run) ?_
  intro referenceUrl _ hsettle
  obtain ⟨-, rfl⟩ := settle_eq_ok.mp hsettle
  refine after_bind (R := Keeps platform spec issued) Keeps.trans (advances_get Keeps.refl run) ?_
  intro seen _ hget
  obtain ⟨rfl, rfl⟩ := get_eq_ok.mp hget
  dsimp only
  split_ifs with hknown hsampled
  · exact advances_pure Keeps.refl _ seen
  · exact advances_pure Keeps.refl _ seen
  · refine after_bind (R := Keeps platform spec issued) Keeps.trans
      (advances_reject Keeps.refl seen) ?_
    intro _ _ hreject
    obtain ⟨-, rfl⟩ := reject_eq_ok.mp hreject
    refine after_bind (R := Keeps platform spec issued) Keeps.trans
      (requireAnonymousPlaybackDenied_quiet referenceUrl seen).keeps ?_
    intro _ mid hdenied
    exact ⟨List.suffix_refl _, fun hsound =>
      hsound.addReference (requireAnonymousPlaybackDenied_ok hdenied)⟩

variable (hcoverage : spec.coverage = .everyPlaylist)

include hcoverage

theorem verifyMediaReference_ok {url reference : String} {run run' : HlsRun} {u : PUnit}
    (hsound : ContextSound platform spec issued run)
    (h : verifyMediaReference platform spec url reference run = .ok u run') :
    ∃ referenceUrl, hlsReference platform spec url reference = .ok referenceUrl ∧
      MediaRefused platform spec run'.log referenceUrl := by
  obtain ⟨referenceUrl, _, hsettle, h⟩ := bind_eq_ok.mp h
  obtain ⟨hurl, rfl⟩ := settle_eq_ok.mp hsettle
  obtain ⟨seen, _, hget, h⟩ := bind_eq_ok.mp h
  obtain ⟨rfl, rfl⟩ := get_eq_ok.mp hget
  refine ⟨referenceUrl, hurl, ?_⟩
  split_ifs at h with hknown hsampled
  · -- The context remembers the reference.
    obtain ⟨-, rfl⟩ := pure_eq_ok.mp h
    exact hsound.mediaReferences referenceUrl (by simpa using hknown)
  · cases hcoverage.symm.trans hsampled.1
  · obtain ⟨_, _, hreject, h⟩ := bind_eq_ok.mp h
    obtain ⟨-, rfl⟩ := reject_eq_ok.mp hreject
    obtain ⟨_, mid, hdenied, h⟩ := bind_eq_ok.mp h
    have hrefused := requireAnonymousPlaybackDenied_ok hdenied
    obtain rfl := modify_eq_ok.mp h
    exact hrefused

/-! ## Media playlists -/

theorem verifyMediaPlaylist_keeps {url token : String} (htoken : issued token) :
    Advances (Keeps platform spec issued) (verifyMediaPlaylist platform spec url token) := by
  unfold verifyMediaPlaylist
  rw [hcoverage]
  refine advances_bind (R := Keeps platform spec issued) Keeps.trans (verifiedHlsManifest_keeps htoken) ?_
  intro media
  refine advances_bind (R := Keeps platform spec issued) Keeps.trans (advances_reject Keeps.refl) ?_
  intro _
  cases (segments media).head? with
  | none => exact advances_throw Keeps.refl _
  | some first =>
    cases (segments media).getLast? with
    | none => exact advances_throw Keeps.refl _
    | some last =>
      refine advances_bind (R := Keeps platform spec issued) Keeps.trans (advances_reject Keeps.refl) ?_
      intro _
      exact advances_forM Keeps.refl Keeps.trans fun reference =>
        verifyMediaReference_keeps url reference

/-- A media playlist that passed: how it was read, and that its samples were refused. -/
theorem verifyMediaPlaylist_ok {url token : String} {run run' : HlsRun} {u : PUnit}
    (htoken : issued token) (hsound : ContextSound platform spec issued run)
    (h : verifyMediaPlaylist platform spec url token run = .ok u run') :
    playbackUrlAllowed platform url spec.hosts = true ∧ ManifestRefused spec run'.log url ∧
      ∃ media first last, ManifestRead spec issued run'.log url media ∧
        spec.policy.rejects media = false ∧ (segments media).head? = some first ∧
        (segments media).getLast? = some last ∧
        ∀ reference ∈ sampledReferences media first last, ∃ referenceUrl,
          hlsReference platform spec url reference = .ok referenceUrl ∧
            MediaRefused platform spec run'.log referenceUrl := by
  unfold verifyMediaPlaylist at h
  rw [hcoverage] at h
  obtain ⟨media, read, hmanifest, h⟩ := bind_eq_ok.mp h
  obtain ⟨hallowed, hread, hrefused⟩ := verifiedHlsManifest_ok htoken hsound hmanifest
  have hsoundRead := ((verifiedHlsManifest_keeps htoken).of_ok hmanifest).2 hsound
  obtain ⟨_, _, hreject, h⟩ := bind_eq_ok.mp h
  obtain ⟨hpolicy, rfl⟩ := reject_eq_ok.mp hreject
  rw [Bool.not_eq_true] at hpolicy
  cases hfirst : (segments media).head? with
  | none =>
    rw [hfirst] at h
    exact absurd h throw_ne_ok
  | some first =>
    cases hlast : (segments media).getLast? with
    | none =>
      rw [hfirst, hlast] at h
      exact absurd h throw_ne_ok
    | some last =>
      rw [hfirst, hlast] at h
      obtain ⟨_, _, hreject, h⟩ := bind_eq_ok.mp h
      obtain ⟨-, rfl⟩ := reject_eq_ok.mp hreject
      have hkeeps : ∀ reference, Advances (Keeps platform spec issued)
          (verifyMediaReference platform spec url reference) :=
        verifyMediaReference_keeps url
      have hlog := ((advances_forM Keeps.refl Keeps.trans hkeeps).of_ok h).1
      refine ⟨hallowed, hrefused.mono hlog, media, first, last, hread.mono hlog, hpolicy,
        hfirst, hlast, ?_⟩
      refine forM_eq_ok (P := fun reference run => ∃ referenceUrl,
          hlsReference platform spec url reference = .ok referenceUrl ∧
            MediaRefused platform spec run.log referenceUrl)
        (Q := ContextSound platform spec issued) Keeps.refl Keeps.trans hkeeps ?_ ?_ ?_
        hsoundRead h
      · rintro reference run run' hstep ⟨referenceUrl, hurl, hmedia⟩
        exact ⟨referenceUrl, hurl, hmedia.mono hstep.1⟩
      · intro run run' hstep hrun
        exact hstep.2 hrun
      · intro reference _ run run' _ hrun hround
        exact verifyMediaReference_ok hcoverage hrun hround

end Rules

end Youtick.Bridge
