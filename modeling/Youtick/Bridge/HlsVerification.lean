import Youtick.Bridge.HlsText
import Youtick.Lib.Fallible

/-!
# Bridge: verification of adaptive playback

The part of the ready-asset verification that reads the HLS playlists of a master, and probes that
they and samples of their media are denied to anyone without a token. `HlsRun` is the context one
verification shares between its masters, with every request made and what came back. URL parsing, the
comparison of two aspects, the clock and the provider are parameters (`HlsPlatform`).
-/

set_option autoImplicit false

namespace Youtick.Bridge

open Youtick.Lib Youtick.Lib.Fallible Youtick.PaymentService

/-! ## Requests -/

/-- A URL by its parts, with the texts it serializes to. -/
structure Url where
  protocol : String
  username : String
  password : String
  hostname : String
  port : String
  pathname : String
  search : String
  hash : String
  /-- The keys of its `searchParams`. -/
  queryKeys : List String
  href : String
  /-- Its text after `search` was set to the empty string. -/
  hrefWithoutSearch : String
  deriving DecidableEq

/-- A GET request that follows no redirect. -/
structure HlsRequest where
  url : String
  headers : List (String × String)

inductive ResponseBody where
  | absent
  /-- The stream fails behind some bytes. -/
  | broken (bytes : Nat)
  | whole (bytes : Nat) (text : String)
  deriving DecidableEq

structure HlsResponse where
  status : Nat
  body : ResponseBody

inductive HlsReply where
  | failed
  | answered (response : HlsResponse)

structure HlsExchange where
  request : HlsRequest
  reply : HlsReply

/-- What the verification runs on. The provider may answer by all that was asked before. -/
structure HlsPlatform where
  /-- `new URL(reference, parent)` -/
  parseUrl : Option String → String → Option Url
  /-- The comparison of two aspects in doubles. -/
  sameAspect : Dimensions → Dimensions → Bool
  /-- The value of each read of the clock. -/
  clock : Nat → Nat
  answer : List HlsExchange → HlsRequest → HlsReply

/-! ## Adapters -/

structure HostAllowlist where
  exact : List String
  suffixes : List String

inductive InitSegment where
  | optional
  | required
  deriving DecidableEq

structure DeniedStatuses where
  manifest : List Nat
  media : List Nat

/-- HLS shape an adapter's delivery is held to. -/
structure ManifestPolicy where
  allowAlternateMedia : Bool
  allowedQueryKeys : List String
  requireEndList : Bool
  initSegment : InitSegment
  deniedStatuses : DeniedStatuses

structure ProbeRequest where
  url : String
  headers : List (String × String)
  deniedStatuses : Option (List Nat)

inductive Coverage where
  | everyPlaylist
  | sampled
  deriving DecidableEq

structure ProviderProbeSpec where
  policy : ManifestPolicy
  hosts : HostAllowlist
  authorizedRequest : String → String → HlsRequest
  manifestDenialRequests : String → List ProbeRequest
  coverage : Coverage

inductive TokenPlacement where
  | header
  | path
  deriving DecidableEq

/-! ## Contexts -/

def maxVerificationRequests : Nat := 256

def verificationStepMs : Nat := 30000

def maxHlsManifests : Nat := 16

def maxHlsMediaReferences : Nat := 64

def dimensionTolerance : Nat := 2

structure VerificationBudget where
  requests : Nat
  deadlineAtMs : Nat
  maxRequests : Option Nat

structure HlsVariant where
  size : Dimensions
  url : String
  deriving DecidableEq

structure HlsVerification where
  variants : List HlsVariant
  required : List HlsVariant

structure HlsContext where
  manifests : List (String × List String)
  mediaReferences : List String
  reference : Option Dimensions
  budget : Option VerificationBudget
  tokenPlacement : Option TokenPlacement

/-- A context, the requests made so far with their replies (latest first), and how often the clock
was read. -/
structure HlsRun where
  context : HlsContext
  log : List HlsExchange
  clockReads : Nat

/-- The errors thrown. -/
inductive VerificationFailure where
  | playbackMismatch
  | playbackExposed
  | providerUnavailable
  | budgetExceeded
  | runtimeNotConfigured
  | verificationIncomplete
  | invalidUrl

def VerificationFailure.message : VerificationFailure → String
  | .playbackMismatch => "provider_playback_mismatch"
  | .playbackExposed => "provider_playback_exposed"
  | .providerUnavailable => "provider_unavailable"
  | .budgetExceeded => "provider_verification_budget_exceeded"
  | .runtimeNotConfigured => "runtime_not_configured"
  | .verificationIncomplete => "provider_verification_incomplete"
  | .invalidUrl => "Invalid URL"

abbrev Verify (α : Type) : Type := EStateM VerificationFailure HlsRun α

section Platform

variable (platform : HlsPlatform) (spec : ProviderProbeSpec)

/-! ## URLs -/

/-- HTTPS, default port, no credentials, a real path, and a host the adapter allows. -/
def Url.allowed (url : Url) (hosts : HostAllowlist) : Bool :=
  url.protocol == "https:" && url.port == "" && url.username == "" && url.password == "" &&
    decide (1 < url.pathname.toList.length) &&
    (hosts.exact.contains url.hostname ||
      hosts.suffixes.any fun ending => endsWith url.hostname ending)

def playbackUrlAllowed (value : String) (hosts : HostAllowlist) : Bool :=
  match platform.parseUrl none value with
  | some url => url.allowed hosts
  | none => false

/-- Resolves a playlist or storyboard reference and keeps it inside the adapter's hosts. -/
def providerReferenceUrl (parent reference : String) (hosts : HostAllowlist) :
    Except VerificationFailure String :=
  match platform.parseUrl (some parent) reference with
  | none => .error .playbackMismatch
  | some url =>
    if playbackUrlAllowed platform url.href hosts then .ok url.href else .error .playbackMismatch

/-- A fragment, or query keys the adapter does not allow. -/
def Url.unlisted (url : Url) (allowedKeys : List String) : Bool :=
  url.hash != "" ||
    (url.search != "" &&
      (allowedKeys.isEmpty || url.queryKeys.any fun key => !allowedKeys.contains key))

def hlsReference (parent reference : String) : Except VerificationFailure String := do
  let resolved ← providerReferenceUrl platform parent reference spec.hosts
  match platform.parseUrl none resolved with
  | none => .error .invalidUrl
  | some url =>
    if url.unlisted spec.policy.allowedQueryKeys then .error .playbackMismatch
    else .ok url.href

/-! ## Fetching -/

/-- `Date.now()` -/
def now : Verify Nat := do
  let run ← get
  modify fun run => { run with clockReads := run.clockReads + 1 }
  pure (platform.clock run.clockReads)

/-- Counts one request against the run; the request that would pass the cap is never started. -/
def chargeVerificationRequest (budget : VerificationBudget) : Verify PUnit := do
  reject (budget.maxRequests.getD maxVerificationRequests ≤ budget.requests) .budgetExceeded
  modify fun run => { run with
    context := { run.context with
      budget := some { budget with requests := budget.requests + 1 } } }

def dependencyFetch (request : HlsRequest) : Verify HlsResponse := do
  let run ← get
  let reply := platform.answer run.log request
  modify fun run => { run with log := { request, reply } :: run.log }
  match reply with
  | .failed => throw .providerUnavailable
  | .answered response => pure response

/-- A run with a budget starts no request behind its deadline or past its cap. -/
def spendBudget : Verify PUnit := do
  match (← get).context.budget with
  | none => pure ⟨⟩
  | some budget =>
    let time ← now platform
    reject (budget.deadlineAtMs ≤ time) .providerUnavailable
    chargeVerificationRequest budget

def verificationFetch (request : HlsRequest) : Verify HlsResponse := do
  spendBudget platform
  dependencyFetch platform request

/-- Status 429, or a server error. -/
def HlsResponse.transient (response : HlsResponse) : Bool :=
  response.status == 429 || decide (500 ≤ response.status)

/-- `response.text()` -/
def HlsResponse.text? (response : HlsResponse) : Option String :=
  match response.body with
  | .absent => some ""
  | .broken _ => none
  | .whole _ text => some text

/-! ## Denial -/

def hlsPlaybackDenied (response : HlsResponse) (denied : List Nat) :
    Except VerificationFailure Bool :=
  if denied.contains response.status then .ok true
  else if response.status ≠ 200 then .ok false
  else
    match response.text? with
    | none => .error .providerUnavailable
    | some text => .ok (decide (hlsManifestKind text = .error))

def ProbeRequest.request (probe : ProbeRequest) : HlsRequest :=
  { url := probe.url, headers := probe.headers }

/-- The statuses that deny a probe of a manifest. -/
def ProviderProbeSpec.denying (probe : ProbeRequest) : List Nat :=
  probe.deniedStatuses.getD spec.policy.deniedStatuses.manifest

def requireHlsPlaybackDenied (url : String) : Verify PUnit :=
  (spec.manifestDenialRequests url).forM fun probe => do
    let response ← verificationFetch platform probe.request
    reject (response.transient = true) .providerUnavailable
    let denied ← settle (hlsPlaybackDenied response (spec.denying probe))
    reject (denied = false) .playbackExposed

/-- A reference that carries allowed credential query keys is probed without its query. -/
def anonymousUrl (url : String) : Except VerificationFailure String :=
  if spec.policy.allowedQueryKeys.isEmpty then .ok url
  else
    match platform.parseUrl none url with
    | none => .error .invalidUrl
    | some stripped => .ok stripped.hrefWithoutSearch

/-- The byte-range request of a probe. -/
def anonymousRequest (url : String) : HlsRequest :=
  { url := url, headers := [("Range", "bytes=0-0")] }

/-- `mediaReferences.add(url)` of a new reference -/
def rememberReference (url : String) : Verify PUnit :=
  modify fun run => { run with
    context := { run.context with mediaReferences := run.context.mediaReferences ++ [url] } }

/-- One anonymous byte-range GET that must be refused; `verified` says that the references of the
context are consulted and added to. -/
def requireAnonymousPlaybackDenied (url : String) (verified : Bool) : Verify PUnit := do
  if verified && (← get).context.mediaReferences.contains url then pure ⟨⟩
  else
    let probeUrl ← settle (anonymousUrl platform spec url)
    let response ← verificationFetch platform (anonymousRequest probeUrl)
    reject (response.transient = true) .providerUnavailable
    reject (response.status ∉ spec.policy.deniedStatuses.media) .playbackExposed
    whenever (verified = true) (rememberReference url)

/-! ## Playlists -/

def readVerificationText (response : HlsResponse) : Except VerificationFailure String :=
  match response.body with
  | .absent => .error .playbackMismatch
  | .broken bytes => .error (if 512 * 1024 < bytes then .playbackMismatch else .providerUnavailable)
  | .whole bytes text => if 512 * 1024 < bytes then .error .playbackMismatch else .ok text

/-- A path-token adapter never sends a credential header; a header adapter never rewrites the
URL. -/
def misplacesToken (placement : Option TokenPlacement) (url : String) (request : HlsRequest) :
    Bool :=
  (placement == some .path && !request.headers.isEmpty) ||
    (placement == some .header && request.url != url)

def authorizedHls (url token : String) : Verify (List String) := do
  reject (playbackUrlAllowed platform url spec.hosts = false) .playbackMismatch
  let authorized := spec.authorizedRequest url token
  let placement := (← get).context.tokenPlacement
  reject (misplacesToken placement url authorized = true) .runtimeNotConfigured
  let response ← verificationFetch platform authorized
  reject (response.transient = true) .providerUnavailable
  reject (response.status ≠ 200 ∨ response.body = .absent) .playbackMismatch
  let body ← settle (readVerificationText response)
  reject (hlsManifestKind body ≠ .playable) .playbackMismatch
  pure (playlistLines body)

def verifiedHlsManifest (url token : String) (denial : Bool) : Verify (List String) := do
  reject (playbackUrlAllowed platform url spec.hosts = false) .playbackMismatch
  let context := (← get).context
  match context.manifests.lookup url with
  | some previous => pure previous
  | none =>
    reject (maxHlsManifests ≤ context.manifests.length) .playbackMismatch
    whenever (denial = true) (requireHlsPlaybackDenied platform spec url)
    let lines ← authorizedHls platform spec url token
    modify fun run => { run with
      context := { run.context with manifests := run.context.manifests ++ [(url, lines)] } }
    pure lines

/-- The lines of a playlist that are no tags. -/
def segments (media : List String) : List String := media.filter fun line => !startsWith line "#"

/-- What a media playlist is rejected for. -/
def ManifestPolicy.rejects (policy : ManifestPolicy) (media : List String) : Bool :=
  media.any (fun line => startsWith line streamTag) ||
    (policy.requireEndList && !media.contains "#EXT-X-ENDLIST") ||
    (policy.initSegment == .required && !media.any fun line => startsWith line "#EXT-X-MAP:")

/-- First and last segment, and the keys and maps. -/
def sampledReferences (media : List String) (first last : String) : List String :=
  (first :: last :: media.flatMap quotedReferences).eraseDups

def verifyMediaReference (url reference : String) : Verify PUnit := do
  let referenceUrl ← settle (hlsReference platform spec url reference)
  let known := (← get).context.mediaReferences
  if known.contains referenceUrl then pure ⟨⟩
  else if spec.coverage = .sampled ∧ known ≠ [] then pure ⟨⟩
  else
    reject (maxHlsMediaReferences ≤ known.length) .playbackMismatch
    requireAnonymousPlaybackDenied platform spec referenceUrl false
    rememberReference referenceUrl

def verifyMediaPlaylist (url token : String) : Verify PUnit := do
  let media ← verifiedHlsManifest platform spec url token (spec.coverage != .sampled)
  reject (spec.policy.rejects media = true) .playbackMismatch
  match (segments media).head?, (segments media).getLast? with
  | some first, some last =>
    let references := sampledReferences media first last
    reject (16 < references.length) .playbackMismatch
    references.forM (verifyMediaReference platform spec url)
  | _, _ => throw .playbackMismatch

/-! ## Renditions -/

/-- `Number.isSafeInteger(n) && n > 0` of a natural number -/
def isPositiveSafe (n : Nat) : Bool := decide (0 < n) && decide (n ≤ 2 ^ 53 - 1)

def validDimensions (size : Dimensions) : Bool :=
  isPositiveSafe size.width && isPositiveSafe size.height

/-- `Math.abs(left - right) <= DIMENSION_TOLERANCE` -/
def near (left right : Nat) : Bool :=
  decide (left ≤ right + dimensionTolerance) && decide (right ≤ left + dimensionTolerance)

def Dimensions.short (size : Dimensions) : Nat := min size.width size.height

def Dimensions.long (size : Dimensions) : Nat := max size.width size.height

def HlsVariant.sameAs (previous candidate : HlsVariant) : Bool :=
  previous.url == candidate.url ||
    (previous.size.width == candidate.size.width && previous.size.height == candidate.size.height)

def distinctRenditions : List (List HlsVariant) → List HlsVariant → Option (List HlsVariant)
  | [], selected => some selected
  | candidates :: rest, selected =>
    candidates.findSome? fun candidate =>
      if selected.any (·.sameAs candidate) then none
      else distinctRenditions rest (selected ++ [candidate])

/-- The variant with the greatest height, the first of several. -/
def tallest : List HlsVariant → Option HlsVariant
  | [] => none
  | first :: rest =>
    some (rest.foldl
      (fun largest variant => if largest.size.height < variant.size.height then variant
        else largest) first)

/-- The renditions that match the profiles by one measure. -/
def renditionsBy (measure : Dimensions → Nat) (variants : List HlsVariant)
    (profiles : List Dimensions) : Option (List HlsVariant) :=
  distinctRenditions
    (profiles.map fun profile =>
      variants.filter fun variant => near (measure variant.size) (measure profile)) []

/-- The heights asked for when the source is lower than the profiles. -/
def targetHeights (profiles : List Dimensions) (height : Nat) : List Nat :=
  (profiles.map fun profile => min profile.height height).eraseDups

/-- A variant for a target: its height, or, for the height of the source, that of a profile above
it. -/
def meetsTarget (profiles : List Dimensions) (height target : Nat) (variant : HlsVariant) : Bool :=
  near variant.size.height target ||
    (target == height && profiles.any fun profile =>
      decide (height < profile.height) && near variant.size.height profile.height)

/-- The source turned the way playback shows it. -/
def orientedLike (reference source : Dimensions) : Dimensions :=
  if reference.height ≤ reference.width then { width := source.long, height := source.short }
  else { width := source.short, height := source.long }

/-- The dimensions of the source; one that is no natural number fails the check as a missing source
does. -/
def validSource (source : Option Dimensions) : Except VerificationFailure Dimensions :=
  match source with
  | none => .error .verificationIncomplete
  | some size => if validDimensions size then .ok size else .error .verificationIncomplete

/-- A tall profile allows no variant above the source. -/
def checkTallProfiles (variants : List HlsVariant) (profiles : List Dimensions)
    (source : Option Dimensions) : Except VerificationFailure PUnit :=
  if profiles.any fun profile => decide (1080 ≤ profile.height) then do
    let size ← validSource source
    if variants.any fun variant =>
        decide (size.short + dimensionTolerance < variant.size.short) ||
          decide (size.long + dimensionTolerance < variant.size.long) then
      .error .playbackMismatch
    else .ok ⟨⟩
  else .ok ⟨⟩

/-- The renditions for the profiles cut to the height of the source. -/
def fallbackRenditions (variants : List HlsVariant) (profiles : List Dimensions)
    (source : Option Dimensions) (reference : HlsVariant) :
    Except VerificationFailure (List HlsVariant) := do
  let size ← validSource source
  let oriented := orientedLike reference.size size
  if platform.sameAspect oriented reference.size = false then .error .verificationIncomplete
  else
    let height := 2 * (oriented.height / 2)
    if height = 0 then .error .verificationIncomplete
    else
      match distinctRenditions ((targetHeights profiles height).map fun target =>
          variants.filter (meetsTarget profiles height target)) [] with
      | none => .error .playbackMismatch
      | some required => .ok required

def requiredRenditions (variants : List HlsVariant) (profiles : List Dimensions)
    (source : Option Dimensions) : Except VerificationFailure (List HlsVariant) := do
  checkTallProfiles variants profiles source
  match renditionsBy Dimensions.height variants profiles with
  | some required => .ok required
  | none =>
    match renditionsBy Dimensions.long variants profiles with
    | some required => .ok required
    | none =>
      match tallest variants with
      | none => .error .invalidUrl
      | some reference => fallbackRenditions platform variants profiles source reference

/-! ## Masters -/

/-- The rendition of a stream tag and the line behind it. -/
def listedVariant (masterUrl line : String) (next : Option String) :
    Except VerificationFailure HlsVariant :=
  match streamResolution line, streamBandwidth line, next with
  | some size, some bandwidth, some reference =>
    if isPositiveSafe bandwidth = false ∨ startsWith reference "#" then .error .playbackMismatch
    else do
      let url ← hlsReference platform spec masterUrl reference
      .ok { size := size, url := url }
  | _, _, _ => .error .playbackMismatch

def listedVariants (masterUrl : String) : List String → Except VerificationFailure (List HlsVariant)
  | [] => .ok []
  | line :: rest =>
    if startsWith line streamTag then do
      let variant ← listedVariant platform spec masterUrl line rest.head?
      let variants ← listedVariants masterUrl rest
      .ok (variant :: variants)
    else listedVariants masterUrl rest

/-- What a ladder is rejected for. -/
def rejectsLadder (variants : List HlsVariant) : Bool :=
  variants.isEmpty || decide (maxHlsManifests < variants.length) ||
    decide (¬ (variants.map HlsVariant.url).Nodup) ||
    variants.any fun variant => !validDimensions variant.size

def rejectsAspect (known : Option Dimensions) (reference : HlsVariant)
    (variants : List HlsVariant) : Bool :=
  variants.any (fun variant => !platform.sameAspect reference.size variant.size) ||
    known.any fun size => !platform.sameAspect size reference.size

/-- `context.budget ??= …` -/
def startBudget : Verify PUnit := do
  match (← get).context.budget with
  | some _ => pure ⟨⟩
  | none =>
    let time ← now platform
    modify fun run => { run with
      context := { run.context with
        budget := some
          { requests := 0, deadlineAtMs := time + verificationStepMs, maxRequests := none } } }

def verifyAdaptiveHlsWith (masterUrl token : String) (profiles : List Dimensions)
    (source : Option Dimensions) : Verify HlsVerification := do
  startBudget platform
  let master ← verifiedHlsManifest platform spec masterUrl token true
  let mentions := master.any fun line => mentionsUri isUriSeparator true line.toList
  reject (mentions = true ∧ spec.policy.allowAlternateMedia = false) .playbackMismatch
  let alternates := master.flatMap quotedReferences
  let variants ← settle (listedVariants platform spec masterUrl master)
  reject (rejectsLadder variants = true) .playbackMismatch
  match tallest variants with
  | none => throw .playbackMismatch
  | some reference =>
    let known := (← get).context.reference
    reject (rejectsAspect platform known reference variants = true) .playbackMismatch
    modify fun run => { run with
      context := { run.context with reference := some (known.getD reference.size) } }
    let required ← settle (requiredRenditions platform variants profiles source)
    let alternateUrls ← settle (alternates.mapM (hlsReference platform spec masterUrl))
    (if spec.coverage = .sampled then required else variants).forM fun variant =>
      verifyMediaPlaylist platform spec variant.url token
    (if spec.coverage = .sampled then [] else alternateUrls).forM fun url =>
      verifyMediaPlaylist platform spec url token
    pure { variants := variants, required := required }

end Platform

end Youtick.Bridge
