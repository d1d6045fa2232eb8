import Youtick.Lib.Enumeration
import Youtick.MarketV2.Runs

/-!
# Market V2: the publication index

`finalize_publication` writes five maps and a counter. `Catalog.Sound` says how they agree, given the
list of the jobs a run has published; one catalogue step keeps it and appends at most the job the
step publishes. The paged view and the replay of a finalisation are then read off the invariant.
-/

set_option autoImplicit false

namespace Youtick.MarketV2

open Youtick.Lib

/-! ## Submissions -/

/-- What `finalize_publication` checks on its arguments alone. -/
structure PublicationSubmission.WellFormed (submission : PublicationSubmission) : Prop where
  availability : submission.availability = .active
  profile : assertProfile submission.profileId submission.profileConfigSha256 = .ok ⟨⟩
  assetIdHash : assertSha256 "asset_id_hash" submission.assetIdHash = .ok ⟨⟩
  playbackId : assertPlaybackId submission.playbackId = .ok ⟨⟩
  projectIdHash : assertSha256 "project_id_hash" submission.projectIdHash = .ok ⟨⟩
  providerSourceFingerprint : checkSome submission.providerSourceFingerprint
    (assertSha256 "provider_source_fingerprint") = .ok ⟨⟩
  readyAtMs : submission.readyAtMs > 0
  verifiedSourceBytes : submission.verifiedSourceBytes = submission.expectedSourceBytes

/-- What it checks against the job. -/
structure MediaJob.Accepts (job : MediaJob) (submission : PublicationSubmission) : Prop where
  generation : job.generation = submission.generation
  creatorId : job.creatorId = submission.creatorId
  expectedSourceBytes : job.expectedSourceBytes = submission.expectedSourceBytes
  profileId : job.profileId = submission.profileId
  profileConfigSha256 : job.profileConfigSha256 = submission.profileConfigSha256

/-- The arguments a publication was made from. -/
def Publication.submission (publication : Publication) : PublicationSubmission where
  jobId := publication.publicationId
  generation := publication.generation
  creatorId := publication.creatorId
  expectedSourceBytes := publication.expectedSourceBytes
  profileId := publication.profileId
  profileConfigSha256 := publication.profileConfigSha256
  assetIdHash := publication.assetIdHash
  playbackId := publication.playbackId
  projectIdHash := publication.projectIdHash
  verifiedSourceBytes := publication.verifiedSourceBytes
  providerSourceFingerprint := publication.providerSourceFingerprint
  readyAtMs := publication.readyAtMs
  availability := publication.publishedAvailability

theorem publicationMatches_submission (publication : Publication) :
    publicationMatches publication publication.submission :=
  ⟨rfl, rfl, rfl, rfl, rfl, rfl, rfl, rfl, rfl, rfl, rfl, rfl⟩

section Submission

variable {env : Env} {s : Contract} {submission : PublicationSubmission} {job : MediaJob}

theorem assertSubmission_ok (h : assertSubmission env s submission = .ok job) :
    submission.WellFormed ∧ s.mediaJobs.get submission.jobId = some job ∧
      job.Accepts submission := by
  simp only [assertSubmission, jobForGeneration, bind_eq_ok, expect_eq_ok, require_eq_ok,
    pure_eq_ok] at h
  obtain ⟨_, -, _, havailability, _, hprofile, _, hasset, _, hplayback, _, hproject, _,
    hfingerprint, _, hready, _, ⟨_, hget, _, hgeneration, rfl⟩, _, hcreator, _, hbytes, _,
    hverified, _, hprofileId, _, hprofileConfig, rfl⟩ := h
  exact ⟨⟨havailability, hprofile, hasset, hplayback, hproject, hfingerprint, hready, hverified⟩,
    hget, ⟨hgeneration, hcreator, hbytes, hprofileId, hprofileConfig⟩⟩

/-- Arguments that passed once pass again for the same job: only the bridge is asked. -/
theorem assertSubmission_eq (hwf : submission.WellFormed)
    (hget : s.mediaJobs.get submission.jobId = some job) (hjob : job.Accepts submission) :
    assertSubmission env s submission = (do assertBridge env s; return job) := by
  simp only [assertSubmission, jobForGeneration, require, expect, hwf.availability, hwf.profile,
    hwf.assetIdHash, hwf.playbackId, hwf.projectIdHash, hwf.providerSourceFingerprint,
    hwf.readyAtMs, hwf.verifiedSourceBytes, hget, hjob.generation, hjob.creatorId,
    hjob.expectedSourceBytes, hjob.profileId, hjob.profileConfigSha256, if_true, ok_bind, pure_bind]

end Submission

/-! ## What the collections agree on -/

/-- A published job and the publication made from it. -/
structure MediaJob.PublishedAs (job : MediaJob) (publication : Publication) : Prop where
  status : job.status = .published
  jobId : job.jobId = publication.publicationId
  generation : job.generation = publication.generation
  creatorId : job.creatorId = publication.creatorId
  title : job.title = publication.title
  priceUsdc : job.priceUsdc = publication.priceUsdc
  profileId : job.profileId = publication.profileId
  profileConfigSha256 : job.profileConfigSha256 = publication.profileConfigSha256
  expectedSourceBytes : job.expectedSourceBytes = publication.expectedSourceBytes
  verifiedSourceBytes : job.expectedSourceBytes = publication.verifiedSourceBytes

/-- `bindings` is the inverse of `identity` on the stored publications. -/
def Binds (bindings : LookupMap String String) (identity : Publication → String)
    (publications : LookupMap String Publication) : Prop :=
  ∀ value id, bindings.get value = some id ↔
    ∃ publication, publications.get id = some publication ∧ identity publication = value

/-- `published` are the jobs published so far, in order. -/
structure Catalog.Sound (catalog : Catalog) (published : List String) : Prop where
  count : catalog.publicationCount ≤ maxOf 64
  listed : Lists catalog.publicationIds catalog.publicationCount published
  nodup : published.Nodup
  stored : ∀ id, id ∈ published ↔ (catalog.publications.get id).isSome = true
  publicationKey : ∀ id publication, catalog.publications.get id = some publication →
    publication.publicationId = id
  submitted : ∀ id publication, catalog.publications.get id = some publication →
    publication.submission.WellFormed
  jobKey : ∀ id job, catalog.mediaJobs.get id = some job → job.jobId = id
  publishedJob : ∀ id job, catalog.mediaJobs.get id = some job → job.status = .published →
    (catalog.publications.get id).isSome = true
  publication : ∀ id publication, catalog.publications.get id = some publication →
    ∃ job, catalog.mediaJobs.get id = some job ∧ job.PublishedAs publication
  assets : Binds catalog.assetBindings (·.assetIdHash) catalog.publications
  playbacks : Binds catalog.playbackBindings (·.playbackId) catalog.publications
  takedowns : ∀ id, (catalog.takedowns.get id).isSome = true ↔
    ∃ publication, catalog.publications.get id = some publication ∧
      publication.availability = .takedown

section Binds

variable {bindings : LookupMap String String} {identity : Publication → String}
  {publications : LookupMap String Publication} {id : String} {publication : Publication}

/-- A publication edited in place keeps its identities. -/
theorem Binds.edit {old : Publication} (h : Binds bindings identity publications)
    (hget : publications.get id = some old) (hsame : identity publication = identity old) :
    Binds bindings identity (publications.insert id publication) := by
  intro value other
  rw [h value other, LookupMap.get_insert]
  by_cases hother : other = id
  · subst hother
    rw [if_pos rfl, hget]
    simp [hsame]
  · rw [if_neg hother]

/-- A first publication binds an identity no other publication has. -/
theorem Binds.bind (h : Binds bindings identity publications) (hfresh : publications.get id = none)
    {label : String} (hbind : bindIdentity bindings (identity publication) id label = .ok ⟨⟩) :
    Binds (bindings.insert (identity publication) id) identity
      (publications.insert id publication) := by
  have hunbound : bindings.get (identity publication) = none := by
    cases hget : bindings.get (identity publication) with
    | none => rfl
    | some existing =>
      have hsame : existing = id := by
        rw [bindIdentity, hget] at hbind
        exact require_eq_ok.mp hbind
      obtain ⟨p, hp, -⟩ := (h _ _).mp (hsame ▸ hget)
      rw [hfresh] at hp
      cases hp
  intro value other
  rw [LookupMap.get_insert, LookupMap.get_insert]
  by_cases hother : other = id
  · subst hother
    rw [if_pos rfl]
    by_cases hvalue : value = identity publication
    · rw [if_pos hvalue]
      simp [hvalue]
    · rw [if_neg hvalue]
      constructor
      · intro hget
        obtain ⟨p, hp, -⟩ := (h _ _).mp hget
        rw [hfresh] at hp
        cases hp
      · rintro ⟨p, hp, hid⟩
        cases hp
        exact absurd hid.symm hvalue
  · rw [if_neg hother]
    by_cases hvalue : value = identity publication
    · rw [if_pos hvalue]
      constructor
      · intro hid
        exact absurd (Option.some.inj hid).symm hother
      · intro hp
        rw [← h value other, hvalue, hunbound] at hp
        cases hp
    · rw [if_neg hvalue]
      exact h value other

end Binds

/-! ## One catalogue step -/

/-- The job a call publishes. -/
def newlyPublished (c : Call) (before after : Catalog) : Option String :=
  match c with
  | .finalizePublication submission =>
    if before.publications.get submission.jobId = none ∧
        (after.publications.get submission.jobId).isSome = true then
      some submission.jobId
    else none
  | _ => none

/-- A step that publishes nothing leaves the list as it is. -/
theorem Catalog.Sound.quiet {before after : Catalog} {published : List String} {c : Call}
    (h : after.Sound published)
    (hold : ∀ id, (after.publications.get id).isSome = true →
      (before.publications.get id).isSome = true) :
    after.Sound (published ++ (newlyPublished c before after).toList) := by
  have hnone : newlyPublished c before after = none := by
    unfold newlyPublished
    split
    · refine if_neg ?_
      rintro ⟨hfresh, hsome⟩
      have hbefore := hold _ hsome
      rw [hfresh] at hbefore
      cases hbefore
    · rfl
  rw [hnone, Option.toList_none, List.append_nil]
  exact h

namespace Catalog.Sound

variable {catalog : Catalog} {published : List String}

theorem unpublished (h : catalog.Sound published) {id : String} {job : MediaJob}
    (hget : catalog.mediaJobs.get id = some job) (hstatus : job.status = .authorized) :
    catalog.publications.get id = none := by
  cases hp : catalog.publications.get id with
  | none => rfl
  | some publication =>
    obtain ⟨job', hjob, hof⟩ := h.publication id publication hp
    obtain rfl := Option.some.inj (hget.symm.trans hjob)
    have := hof.status
    rw [hstatus] at this
    cases this

/-- An authorized job is stored under its own key, where nothing is published. -/
theorem setJob (h : catalog.Sound published) {job : MediaJob}
    (hfree : catalog.publications.get job.jobId = none) (hstatus : job.status = .authorized) :
    ({ catalog with mediaJobs := catalog.mediaJobs.insert job.jobId job }).Sound published where
  count := h.count
  listed := h.listed
  nodup := h.nodup
  stored := h.stored
  publicationKey := h.publicationKey
  submitted := h.submitted
  assets := h.assets
  playbacks := h.playbacks
  takedowns := h.takedowns
  jobKey id other hget := by
    rw [LookupMap.get_insert] at hget
    split at hget
    · next hid =>
        cases hget
        exact hid.symm
    · exact h.jobKey id other hget
  publishedJob id other hget hother := by
    rw [LookupMap.get_insert] at hget
    split at hget
    · cases hget
      rw [hstatus] at hother
      cases hother
    · exact h.publishedJob id other hget hother
  publication id publication hget := by
    have hid : id ≠ job.jobId := by
      rintro rfl
      rw [hfree] at hget
      cases hget
    obtain ⟨other, hother, hof⟩ := h.publication id publication hget
    exact ⟨other, by rw [LookupMap.get_insert_of_ne _ _ hid, hother], hof⟩

/-- A publication changes its availability. -/
theorem setAvailability (h : catalog.Sound published) {id : String} {old : Publication}
    (hget : catalog.publications.get id = some old) (availability : PublicationAvailability)
    {takedowns : LookupMap String TakedownRecord}
    (htakedowns : ∀ other, (takedowns.get other).isSome = true ↔
      if other = id then availability = .takedown else (catalog.takedowns.get other).isSome = true) :
    ({ catalog with
      publications := catalog.publications.insert id { old with availability := availability }
      takedowns := takedowns }).Sound published where
  count := h.count
  listed := h.listed
  nodup := h.nodup
  jobKey := h.jobKey
  assets := h.assets.edit hget rfl
  playbacks := h.playbacks.edit hget rfl
  stored other := by
    rw [h.stored, LookupMap.get_insert]
    split
    · next hid => simp [hid, hget]
    · rfl
  publicationKey other publication hother := by
    rw [LookupMap.get_insert] at hother
    split at hother
    · next hid =>
        cases hother
        rw [hid]
        exact h.publicationKey id old hget
    · exact h.publicationKey other publication hother
  submitted other publication hother := by
    rw [LookupMap.get_insert] at hother
    split at hother
    · cases hother
      exact h.submitted id old hget
    · exact h.submitted other publication hother
  publishedJob other job hjob hstatus := by
    rw [LookupMap.get_insert]
    split
    · rfl
    · exact h.publishedJob other job hjob hstatus
  publication other publication hother := by
    rw [LookupMap.get_insert] at hother
    split at hother
    · next hid =>
        cases hother
        obtain ⟨job, hjob, hof⟩ := h.publication id old hget
        exact ⟨job, by rw [hid]; exact hjob, { hof with }⟩
    · exact h.publication other publication hother
  takedowns other := by
    rw [htakedowns other, LookupMap.get_insert]
    split
    · simp
    · exact h.takedowns other

/-- A first finalisation adds its job at the end. -/
theorem finalize (h : catalog.Sound published) {job : MediaJob} {publication : Publication}
    (hjob : catalog.mediaJobs.get publication.publicationId = some job)
    (hof : ({ job with status := .published } : MediaJob).PublishedAs publication)
    (hsubmitted : publication.submission.WellFormed)
    (hup : publication.availability ≠ .takedown)
    (hfresh : catalog.publications.get publication.publicationId = none)
    (hasset : bindIdentity catalog.assetBindings publication.assetIdHash publication.publicationId
      "asset_id_hash" = .ok ⟨⟩)
    (hplayback : bindIdentity catalog.playbackBindings publication.playbackId
      publication.publicationId "playback_id" = .ok ⟨⟩)
    (hcount : catalog.publicationCount + 1 ≤ maxOf 64) :
    (catalog.finalized job publication).Sound (published ++ [publication.publicationId]) where
  count := hcount
  listed := h.listed.push _
  nodup := by
    have hnew : publication.publicationId ∉ published := by
      intro hmem
      have hsome := (h.stored _).mp hmem
      rw [hfresh] at hsome
      cases hsome
    exact List.nodup_append.mpr ⟨h.nodup, List.nodup_singleton _,
      fun a ha b hb hab => hnew (List.mem_singleton.mp hb ▸ hab ▸ ha)⟩
  stored id := by
    rw [List.mem_append, List.mem_singleton, h.stored]
    show _ ↔ ((catalog.publications.insert _ _).get id).isSome = true
    rw [LookupMap.get_insert]
    split
    · next hid => simp [hid]
    · next hid => simp [hid]
  publicationKey id other hget := by
    change (catalog.publications.insert _ _).get id = some other at hget
    rw [LookupMap.get_insert] at hget
    split at hget
    · next hid =>
        cases hget
        exact hid.symm
    · exact h.publicationKey id other hget
  submitted id other hget := by
    change (catalog.publications.insert _ _).get id = some other at hget
    rw [LookupMap.get_insert] at hget
    split at hget
    · cases hget
      exact hsubmitted
    · exact h.submitted id other hget
  jobKey id other hget := by
    change (catalog.mediaJobs.insert _ _).get id = some other at hget
    rw [LookupMap.get_insert] at hget
    split at hget
    · next hid =>
        cases hget
        rw [hid]
        exact h.jobKey _ job hjob
    · exact h.jobKey id other hget
  publishedJob id other hget hstatus := by
    change (catalog.mediaJobs.insert _ _).get id = some other at hget
    show ((catalog.publications.insert _ _).get id).isSome = true
    rw [LookupMap.get_insert] at hget ⊢
    split
    · rfl
    · next hid =>
        rw [if_neg hid] at hget
        exact h.publishedJob id other hget hstatus
  publication id other hget := by
    change (catalog.publications.insert _ _).get id = some other at hget
    show ∃ job', (catalog.mediaJobs.insert _ _).get id = some job' ∧ job'.PublishedAs other
    rw [LookupMap.get_insert] at hget ⊢
    split
    · next hid =>
        rw [if_pos hid] at hget
        cases hget
        exact ⟨_, rfl, { hof with }⟩
    · next hid =>
        rw [if_neg hid] at hget
        exact h.publication id other hget
  assets := h.assets.bind hfresh hasset
  playbacks := h.playbacks.bind hfresh hplayback
  takedowns id := by
    show (catalog.takedowns.get id).isSome = true ↔
      ∃ p, (catalog.publications.insert _ _).get id = some p ∧ p.availability = .takedown
    rw [h.takedowns, LookupMap.get_insert]
    split
    · next hid => simp [hid, hfresh, hup]
    · rfl

/-- What is stored about a takedown is not written twice. -/
theorem no_takedown (h : catalog.Sound published) {id : String} {publication : Publication}
    (hget : catalog.publications.get id = some publication)
    (hup : publication.availability ≠ .takedown) : catalog.takedowns.get id = none := by
  cases hrecord : catalog.takedowns.get id with
  | none => rfl
  | some record =>
    obtain ⟨p, hp, hdown⟩ := (h.takedowns id).mp (by rw [hrecord]; rfl)
    obtain rfl := Option.some.inj (hget.symm.trans hp)
    exact absurd hdown hup

theorem empty {c : Contract} (h : Fresh c) : c.toCatalog.Sound [] where
  count := by
    rw [h.publicationCount]
    exact Nat.zero_le _
  listed := by
    rw [h.publicationCount, h.publicationIds]
    exact .nil
  nodup := List.nodup_nil
  stored id := by simp [h.publications]
  publicationKey id publication hget := by simp [h.publications] at hget
  submitted id publication hget := by simp [h.publications] at hget
  jobKey id job hget := by simp [h.mediaJobs] at hget
  publishedJob id job hget := by simp [h.mediaJobs] at hget
  publication id publication hget := by simp [h.publications] at hget
  assets value id := by simp [h.assetBindings, h.publications]
  playbacks value id := by simp [h.playbackBindings, h.publications]
  takedowns id := by simp [h.takedowns, h.publications]

end Catalog.Sound

/-- Of what is published only the availability changes, a takedown stays, and so does its record. -/
structure Catalog.KeptBy (before after : Catalog) : Prop where
  publication : ∀ id publication, before.publications.get id = some publication →
    ∃ availability,
      after.publications.get id = some { publication with availability := availability } ∧
      (publication.availability = .takedown → availability = .takedown)
  takedown : ∀ id record, before.takedowns.get id = some record →
    after.takedowns.get id = some record

theorem Catalog.KeptBy.of_eq {before after : Catalog}
    (hpublications : after.publications = before.publications)
    (htakedowns : after.takedowns = before.takedowns) : before.KeptBy after where
  publication id publication hget := ⟨publication.availability, by rw [hpublications, hget], fun hdown => hdown⟩
  takedown id record hget := by rw [htakedowns, hget]

theorem Catalog.KeptBy.trans {a b c : Catalog} (h : a.KeptBy b) (h' : b.KeptBy c) :
    a.KeptBy c where
  publication id publication hget := by
    obtain ⟨availability, hb, hdown⟩ := h.publication id publication hget
    obtain ⟨availability', hc, hdown'⟩ := h'.publication id _ hb
    exact ⟨availability', hc, fun htakedown => hdown' (hdown htakedown)⟩
  takedown id record hget := h'.takedown id record (h.takedown id record hget)

section Step

variable {env : Env} {s : Contract} {c : Call} {after : Catalog} {published : List String}

theorem publicationOf_publishedAs {submission : PublicationSubmission} {job : MediaJob}
    (hs : s.toCatalog.Sound published) (hcheck : assertSubmission env s submission = .ok job) :
    ({ job with status := .published } : MediaJob).PublishedAs (publicationOf env job submission) := by
  obtain ⟨hwf, hget, hjob⟩ := assertSubmission_ok hcheck
  exact ⟨rfl, hs.jobKey _ job hget, hjob.generation, hjob.creatorId, rfl, rfl, hjob.profileId,
    hjob.profileConfigSha256, hjob.expectedSourceBytes,
    hjob.expectedSourceBytes.trans hwf.verifiedSourceBytes.symm⟩

theorem stored_of_edit {publications : LookupMap String Publication} {id : String}
    {old new : Publication} (hget : publications.get id = some old) (other : String)
    (h : ((publications.insert id new).get other).isSome = true) :
    (publications.get other).isSome = true := by
  rw [LookupMap.get_insert] at h
  split at h
  · next hother =>
      rw [hother, hget]
      rfl
  · exact h

/-- One step keeps the catalogue sound and appends the job it publishes. -/
theorem CatalogStep.sound (h : CatalogStep env s c after) (hs : s.toCatalog.Sound published) :
    after.Sound (published ++ (newlyPublished c s.toCatalog after).toList) := by
  cases h with
  | same => exact hs.quiet fun _ hsome => hsome
  | newJob job hfresh hstatus =>
    have hfree : s.publications.get job.jobId = none := by
      cases hp : s.publications.get job.jobId with
      | none => rfl
      | some publication =>
        obtain ⟨other, hother, -⟩ := hs.publication _ publication hp
        rw [hfresh] at hother
        cases hother
    exact (hs.setJob hfree hstatus).quiet fun _ hsome => hsome
  | @editJob _ jobId old new hold hedit =>
    obtain rfl : new.jobId = jobId := hedit.jobId.trans (hs.jobKey jobId old hold)
    have hfree : s.publications.get new.jobId = none := hs.unpublished hold hedit.wasAuthorized
    exact (hs.setJob hfree hedit.isAuthorized).quiet fun _ hsome => hsome
  | @finalize submission job hcheck hfresh hasset hplayback hcount =>
    have hnew : newlyPublished (.finalizePublication submission) s.toCatalog
        (s.toCatalog.finalized job (publicationOf env job submission)) =
          some submission.jobId := by
      refine if_pos ⟨hfresh, ?_⟩
      show ((s.publications.insert submission.jobId _).get submission.jobId).isSome = true
      rw [LookupMap.get_insert_self]
      rfl
    obtain ⟨hwf, hget, -⟩ := assertSubmission_ok hcheck
    rw [hnew]
    refine hs.finalize hget (publicationOf_publishedAs hs hcheck) hwf ?_ hfresh hasset hplayback
      hcount
    show submission.availability ≠ .takedown
    rw [hwf.availability]
    decide
  | @suspend id publication hget hactive =>
    have htakedowns (other : String) : (s.takedowns.get other).isSome = true ↔
        if other = id then PublicationAvailability.salesSuspended = .takedown
        else (s.takedowns.get other).isSome = true := by
      split
      · next hother =>
          rw [hother, hs.no_takedown hget (by rw [hactive]; decide)]
          decide
      · rfl
    exact (hs.setAvailability hget .salesSuspended htakedowns).quiet (stored_of_edit hget)
  | @takedown id reasonCode incidentId evidenceSha256 effectiveAtMs publication hget hup =>
    refine (hs.setAvailability hget .takedown fun other => ?_).quiet (stored_of_edit hget)
    rw [LookupMap.get_insert]
    split
    · simp
    · rfl

/-- An edited availability keeps everything else. -/
theorem Catalog.KeptBy.edit {catalog : Catalog} {id : String} {old : Publication}
    {availability : PublicationAvailability} {takedowns : LookupMap String TakedownRecord}
    (hget : catalog.publications.get id = some old) (hup : old.availability ≠ .takedown)
    (htakedowns : ∀ other record, catalog.takedowns.get other = some record →
      takedowns.get other = some record) :
    catalog.KeptBy { catalog with
      publications := catalog.publications.insert id { old with availability := availability }
      takedowns := takedowns } where
  takedown := htakedowns
  publication other publication hother := by
    rw [LookupMap.get_insert]
    split
    · next hid =>
        subst hid
        obtain rfl := Option.some.inj (hget.symm.trans hother)
        exact ⟨availability, rfl, fun hdown => absurd hdown hup⟩
    · exact ⟨publication.availability, hother, fun hdown => hdown⟩

/-- Nothing the catalogue publishes is lost in a step. -/
theorem CatalogStep.keptBy (h : CatalogStep env s c after) (hs : s.toCatalog.Sound published) :
    s.toCatalog.KeptBy after := by
  cases h with
  | same => exact .of_eq rfl rfl
  | newJob => exact .of_eq rfl rfl
  | editJob => exact .of_eq rfl rfl
  | @finalize submission job hcheck hfresh hasset hplayback hcount =>
    refine ⟨fun id publication hget => ⟨publication.availability, ?_, fun hdown => hdown⟩,
      fun _ _ hget => hget⟩
    have hid : id ≠ submission.jobId := by
      rintro rfl
      rw [hfresh] at hget
      cases hget
    exact (LookupMap.get_insert_of_ne _ _ hid).trans hget
  | suspend hget hactive =>
    exact .edit hget (by rw [hactive]; decide) fun _ _ hrecord => hrecord
  | @takedown id reasonCode incidentId evidenceSha256 effectiveAtMs publication hget hup =>
    refine .edit hget hup fun other record hrecord => ?_
    have hid : other ≠ id := by
      rintro rfl
      rw [hs.no_takedown hget hup] at hrecord
      cases hrecord
    exact (LookupMap.get_insert_of_ne _ _ hid).trans hrecord

/-- What a step publishes was submitted in its call. -/
theorem CatalogStep.submitted {submission : PublicationSubmission} {id : String}
    (h : CatalogStep env s (.finalizePublication submission) after)
    (hnew : newlyPublished (.finalizePublication submission) s.toCatalog after = some id) :
    ∃ publication, after.publications.get submission.jobId = some publication ∧
      publication.submission = submission := by
  obtain ⟨⟨hnone, hsome⟩, -⟩ := Option.ite_none_right_eq_some.mp hnew
  cases h with
  | same | newJob | editJob =>
    change (s.publications.get submission.jobId).isSome = true at hsome
    rw [hnone] at hsome
    cases hsome
  | @finalize _ job =>
    exact ⟨publicationOf env job submission, LookupMap.get_insert_self _ _ _, rfl⟩

end Step

/-! ## Runs -/

/-- The job a transition publishes. -/
def publishedJob (x : Transition World Label) : Option String :=
  match x.label with
  | .call _ c => newlyPublished c x.pre.contract.toCatalog x.post.contract.toCatalog
  | _ => none

section Runs

variable {host : Host} {w w' w₀ : World} {l : Label} {published : List String}

/-- A step either leaves the storage alone or is a catalogue step of the delivered call, which is
the label's own call or publishes nothing. -/
theorem World.catalog_cases (h : worldStep host w l w') :
    (w'.contract = w.contract) ∨ ∃ env c, CatalogStep env w.contract c w'.contract.toCatalog ∧
      publishedJob ⟨w, l, w'⟩ = newlyPublished c w.contract.toCatalog w'.contract.toCatalog ∧
      ∀ ctx c', l = .call ctx c' → c' = c := by
  cases World.step_cases h with
  | @ran _ ctx c rest o hdelivery hnow hrun =>
    refine .inr ⟨_, c, (Call.run_effect hrun).catalog, ?_, ?_⟩
    · cases hdelivery with
      | external => rfl
      | callback => rfl
      | batch => rfl
    · rintro ctx' c' rfl
      cases hdelivery
      rfl
  | panicked => exact .inl rfl
  | landed => exact .inl rfl
  | dropped => exact .inl rfl

theorem publishedJob_of_eq (h : w'.contract = w.contract) : publishedJob ⟨w, l, w'⟩ = none := by
  unfold publishedJob
  split
  · dsimp only
    rw [h]
    unfold newlyPublished
    split
    · refine if_neg ?_
      rintro ⟨hnone, hsome⟩
      rw [hnone] at hsome
      cases hsome
    · rfl
  · rfl

theorem World.catalog_step (hs : w.contract.toCatalog.Sound published)
    (h : worldStep host w l w') :
    w'.contract.toCatalog.Sound (published ++ (publishedJob ⟨w, l, w'⟩).toList) ∧
      w.contract.toCatalog.KeptBy w'.contract.toCatalog := by
  rcases World.catalog_cases h with hsame | ⟨env, c, hstep, hpublished, -⟩
  · rw [publishedJob_of_eq hsame, Option.toList_none, List.append_nil, hsame]
    exact ⟨hs, .of_eq rfl rfl⟩
  · rw [hpublished]
    exact ⟨hstep.sound hs, hstep.keptBy hs⟩

/-- Over a run the catalogue stays sound, for the list of what the run published. -/
theorem catalog_sound {tr : List (Transition World Label)} (h₀ : Initial host w₀)
    (h : Trace (worldStep host) w₀ tr w) :
    w.contract.toCatalog.Sound (tr.filterMap publishedJob) := by
  induction h with
  | nil => exact .empty h₀.fresh.1
  | @snoc tr w l w' _ hstep ih =>
    rw [List.filterMap_append]
    exact (World.catalog_step ih hstep).1

theorem catalog_kept {tr : List (Transition World Label)}
    (hs : w.contract.toCatalog.Sound published) (h : Trace (worldStep host) w tr w') :
    w.contract.toCatalog.KeptBy w'.contract.toCatalog := by
  refine h.relate (I := fun w => ∃ published, w.contract.toCatalog.Sound published)
    (R := fun w w' => w.contract.toCatalog.KeptBy w'.contract.toCatalog) (fun _ => .of_eq rfl rfl)
    (fun _ _ _ => .trans) ?_ ?_ ⟨published, hs⟩
  · rintro w l w' ⟨published, hs⟩ hstep
    exact ⟨_, (World.catalog_step hs hstep).1⟩
  · rintro w l w' ⟨published, hs⟩ hstep
    exact (World.catalog_step hs hstep).2

/-- What a finalisation in a run published is still there, with the arguments of that call. -/
theorem submission_kept {tr : List (Transition World Label)} (h₀ : Initial host w₀)
    (h : Trace (worldStep host) w₀ tr w) {x : Transition World Label} (hx : x ∈ tr) {ctx : Context}
    {submission : PublicationSubmission} (hlabel : x.label = .call ctx (.finalizePublication submission))
    (hnew : publishedJob x = some submission.jobId) :
    ∃ publication, w.contract.publications.get submission.jobId = some publication ∧
      publication.submission = submission := by
  obtain ⟨a, b, rfl⟩ := List.append_of_mem hx
  obtain ⟨ha, hstep, hb⟩ := h.at_mem
  obtain ⟨publication, hget, hsubmission⟩ : ∃ publication,
      x.post.contract.publications.get submission.jobId = some publication ∧
        publication.submission = submission := by
    rcases World.catalog_cases hstep with hsame | ⟨env, c, hcatalog, hpublished, hcall⟩
    · rw [show publishedJob x = none from publishedJob_of_eq hsame] at hnew
      cases hnew
    · obtain rfl := hcall ctx _ hlabel
      exact hcatalog.submitted (hpublished.symm.trans hnew)
  obtain ⟨availability, hkept, -⟩ :=
    (catalog_kept (World.catalog_step (catalog_sound h₀ ha) hstep).1 hb).publication _ _ hget
  exact ⟨_, hkept, hsubmission⟩

end Runs

/-! ## The views and the replay -/

section Views

variable {env : Env} {s : Contract} {published : List String}

/-- How many publications one page holds at most. -/
def pageSize (limit : Option Nat) : Nat := Nat.min (limit.getD 50) 100

/-- `n` pages, each starting where the one before it ended. -/
def readPages (s : Contract) (limit : Option Nat) (start : Nat) : Nat → Result (List Publication)
  | 0 => .ok []
  | n + 1 => do
      let page ← getPublications s (some start) limit
      let rest ← readPages s limit (start + page.length) n
      return page ++ rest

/-- The stored publications in publication order. -/
structure Catalog.Spells (catalog : Catalog) (published : List String) (all : List Publication) :
    Prop where
  order : all.map (·.publicationId) = published
  stored : ∀ publication,
    publication ∈ all ↔ catalog.publications.get publication.publicationId = some publication

theorem Catalog.Sound.spells {catalog : Catalog} (hs : catalog.Sound published) :
    ∃ all, catalog.Spells published all := by
  have hentries : ∀ id ∈ published, ∃ publication : Publication,
      catalog.publications.get publication.publicationId = some publication ∧
        publication.publicationId = id := by
    intro id hid
    obtain ⟨publication, hget⟩ := Option.isSome_iff_exists.mp ((hs.stored id).mp hid)
    have hkey := hs.publicationKey id publication hget
    exact ⟨publication, by rw [hkey, hget], hkey⟩
  obtain ⟨all, horder, hstored⟩ := exists_map_eq hentries
  refine ⟨all, horder, fun publication => ⟨hstored publication, fun hget => ?_⟩⟩
  have hmem : publication.publicationId ∈ published := (hs.stored _).mpr (by rw [hget]; rfl)
  obtain ⟨other, hother, hid⟩ := List.mem_map.mp (horder ▸ hmem)
  have := hstored other hother
  rw [hid, hget] at this
  exact Option.some.inj this ▸ hother

theorem Catalog.Spells.length {catalog : Catalog} {all : List Publication}
    (h : catalog.Spells published all) (hs : catalog.Sound published) :
    all.length = catalog.publicationCount := by
  rw [← hs.listed.length, ← h.order, List.length_map]

/-- A page is a slice; no view panics. -/
theorem getPublications_eq {all : List Publication} (hs : s.toCatalog.Sound published)
    (hall : s.toCatalog.Spells published all) (fromIndex limit : Option Nat) :
    getPublications s fromIndex limit =
      .ok ((all.drop (fromIndex.getD 0)).take (pageSize limit)) := by
  have hread : ∀ i publication, all[i]? = some publication →
      publicationAt s i = .ok publication := by
    intro i publication hi
    have hid : s.publicationIds.get i = some publication.publicationId := by
      rw [hs.listed.get, ← hall.order, List.getElem?_map, hi]
      rfl
    have hget := (hall.stored publication).mp (List.mem_of_getElem? hi)
    rw [publicationAt, hid]
    show expect (s.publications.get publication.publicationId) _ = _
    rw [hget]
    rfl
  have hlength : all.length = s.publicationCount := hall.length hs
  have hcount : s.publicationCount ≤ maxOf 64 := hs.count
  obtain ⟨start, hstart⟩ : ∃ start, start = fromIndex.getD 0 := ⟨_, rfl⟩
  obtain ⟨first, hfirst⟩ : ∃ first, first = min start s.publicationCount := ⟨_, rfl⟩
  have hview : getPublications s fromIndex limit =
      (List.range' first (min (min (first + pageSize limit) (maxOf 64)) s.publicationCount -
        first)).mapM (publicationAt s) := by
    rw [hfirst, hstart]
    rfl
  rw [hview, mapM_range' hread (by omega), ← hstart]
  -- The clamps only cut where the list ends.
  have hdrop : all.drop first = all.drop start := List.drop_eq_drop_iff.mpr (by omega)
  rw [← hdrop]
  exact congrArg Except.ok (List.take_eq_take_iff.mpr (by rw [List.length_drop]; omega))

/-- Consecutive pages continue each other. -/
theorem readPages_eq {all : List Publication} (hs : s.toCatalog.Sound published)
    (hall : s.toCatalog.Spells published all) (limit : Option Nat) (start n : Nat) :
    readPages s limit start n = .ok ((all.drop start).take (n * pageSize limit)) := by
  induction n generalizing start with
  | zero => rw [Nat.zero_mul, List.take_zero, readPages]
  | succ n ih =>
    rw [readPages, getPublications_eq hs hall, ok_bind, ih, ok_bind, pure_eq_ok, Option.getD_some,
      ← List.drop_drop, take_append_slice, Nat.succ_mul, Nat.add_comm]

/-- Finalising again with the arguments of the publication asks for the bridge and returns what is
stored. -/
theorem finalizePublication_replay (hs : s.toCatalog.Sound published) {publication : Publication}
    (hget : s.publications.get publication.publicationId = some publication) :
    finalizePublication env s publication.submission =
      (do assertBridge env s; return { state := s, value := publication }) := by
  obtain ⟨job, hjob, hof⟩ := hs.publication _ publication hget
  have haccepts : job.Accepts publication.submission :=
    ⟨hof.generation, hof.creatorId, hof.expectedSourceBytes, hof.profileId,
      hof.profileConfigSha256⟩
  have hreplay : s.publications.get publication.submission.jobId = some publication := hget
  rw [finalizePublication, assertSubmission_eq (hs.submitted _ publication hget) hjob haccepts,
    bind_assoc]
  simp only [pure_bind, hreplay, require, publicationMatches_submission, if_true, ok_bind]

end Views

/-! ## The index -/

/-- The catalogue a run leaves is sound for the jobs it published, in their order; a later run only
changes availabilities and keeps every takedown; the views never panic and their pages, read one
after the other, spell out the stored publications in that order; and a finalisation that is sent
again changes nothing. -/
theorem publication_index {host : Host} {w₀ w w' : World} {tr tr' : List (Transition World Label)}
    (h₀ : Initial host w₀) (h : Trace (worldStep host) w₀ tr w)
    (h' : Trace (worldStep host) w tr' w') :
    w.contract.toCatalog.Sound (tr.filterMap publishedJob) ∧
    w.contract.toCatalog.KeptBy w'.contract.toCatalog ∧
    (∃ all, w.contract.toCatalog.Spells (tr.filterMap publishedJob) all ∧
      (∀ fromIndex limit, getPublications w.contract fromIndex limit =
        .ok ((all.drop (fromIndex.getD 0)).take (pageSize limit))) ∧
      (∀ limit n, readPages w.contract limit 0 n = .ok (all.take (n * pageSize limit))) ∧
      ∀ limit n, w.contract.publicationCount ≤ n * pageSize limit →
        readPages w.contract limit 0 n = .ok all) ∧
    ∀ x ∈ tr, ∀ ctx submission, x.label = .call ctx (.finalizePublication submission) →
      publishedJob x = some submission.jobId →
      ∃ publication, w.contract.publications.get submission.jobId = some publication ∧
        ∀ env, finalizePublication env w.contract submission =
          (do assertBridge env w.contract
              return { state := w.contract, value := publication }) := by
  have hs := catalog_sound h₀ h
  obtain ⟨all, hall⟩ := hs.spells
  have hpages (limit : Option Nat) (n : Nat) :
      readPages w.contract limit 0 n = .ok (all.take (n * pageSize limit)) :=
    readPages_eq hs hall limit 0 n
  refine ⟨hs, catalog_kept hs h', ⟨all, hall, getPublications_eq hs hall, hpages, ?_⟩, ?_⟩
  · intro limit n hn
    rw [hpages, List.take_of_length_le (by rw [hall.length hs]; exact hn)]
  · intro x hx ctx submission hlabel hnew
    obtain ⟨publication, hget, rfl⟩ := submission_kept h₀ h hx hlabel hnew
    exact ⟨publication, hget, fun env => finalizePublication_replay hs hget⟩

theorem publication_index_sale :
    ∃ w₀ tr w all, Initial Vectors.host w₀ ∧ Trace (worldStep Vectors.host) w₀ tr w ∧
      w.contract.publicationCount = 1 ∧
      w.contract.toCatalog.Spells (tr.filterMap publishedJob) all ∧
      readPages w.contract (some 1) 0 1 = .ok all := by
  have hrun : (Vectors.worldRun Vectors.host Vectors.sale).map (·.2.contract.publicationCount) =
      some 1 := by decide +kernel
  obtain ⟨w₀, tr, w, h₀, h, hcount⟩ := Vectors.trace_of_worldRun hrun
  obtain ⟨-, -, ⟨all, hspells, -, -, hpages⟩, -⟩ := publication_index h₀ h .nil
  refine ⟨w₀, tr, w, all, h₀, h, hcount, hspells, hpages (some 1) 1 ?_⟩
  rw [show w.contract.publicationCount = 1 from hcount]
  decide

end Youtick.MarketV2
