import Youtick.Bridge.HlsReady

/-!
# Bridge: renditions of their own

`distinctRenditions` is a search with backtracking: it takes a candidate of the first list and goes on
with the rest, and tries the next candidate when that fails. It finds a choice whenever there is one
(`distinctRenditions_isSome`), so `requiredRenditions` accepts a ladder exactly when its renditions can
be assigned, by one of the three readings of the profile, and its check of tall profiles passes.
-/

set_option autoImplicit false

namespace Youtick.Bridge

open Youtick.Lib Youtick.Lib.Fallible

/-! ## The search -/

/-- One variant for every candidate list, in the order of the lists, no two of them alike. -/
def Assigns (candidates : List (List HlsVariant)) (chosen : List HlsVariant) : Prop :=
  Distinct chosen ∧
    List.Forall₂ (fun choices variant => variant ∈ choices) candidates chosen

/-- Every candidate list can be given a variant of its own. -/
def Assignable (candidates : List (List HlsVariant)) : Prop := ∃ chosen, Assigns candidates chosen

section Search

variable {candidates : List (List HlsVariant)} {selected added chosen : List HlsVariant}

/-- A variant that differs from those before it is not passed over. -/
theorem sameAs_of_distinct {candidate : HlsVariant}
    (h : Distinct (selected ++ candidate :: added)) : selected.any (·.sameAs candidate) = false := by
  rw [List.any_eq_false]
  intro previous hprevious hsame
  have hbefore := (List.pairwise_append.mp h).2.2 previous hprevious candidate List.mem_cons_self
  rcases Bool.or_eq_true_iff.mp hsame with hurl | hsize
  · exact hbefore.1 (eq_of_beq hurl)
  · obtain ⟨hwidth, hheight⟩ := Bool.and_eq_true_iff.mp hsize
    apply hbefore.2
    have hsame (a b : Dimensions) (hw : a.width = b.width) (hh : a.height = b.height) : a = b := by
      cases a
      cases b
      cases hw
      cases hh
      rfl
    exact hsame _ _ (eq_of_beq hwidth) (eq_of_beq hheight)

/-- The search goes on to a choice whenever there is one. -/
theorem distinctRenditions_isSome
    (hadded : List.Forall₂ (fun choices variant => variant ∈ choices) candidates added)
    (hdistinct : Distinct (selected ++ added)) :
    (distinctRenditions candidates selected).isSome = true := by
  induction hadded generalizing selected with
  | nil => rfl
  | @cons choices candidate rest added hmem _ ih =>
    unfold distinctRenditions
    rw [List.findSome?_isSome_iff]
    refine ⟨candidate, hmem, ?_⟩
    rw [if_neg (by rw [sameAs_of_distinct hdistinct]; exact Bool.false_ne_true)]
    apply ih
    rw [List.append_assoc]
    exact hdistinct

theorem assigns_of_distinctRenditions (h : distinctRenditions candidates [] = some chosen) :
    Assigns candidates chosen := by
  obtain ⟨hdistinct, added, rfl, hadded⟩ := distinctRenditions_eq_some List.Pairwise.nil h
  exact ⟨hdistinct, hadded⟩

theorem isSome_iff_assignable :
    (distinctRenditions candidates []).isSome = true ↔ Assignable candidates := by
  constructor
  · intro h
    obtain ⟨chosen, hchosen⟩ := Option.isSome_iff_exists.mp h
    exact ⟨chosen, assigns_of_distinctRenditions hchosen⟩
  · rintro ⟨chosen, hdistinct, hchosen⟩
    exact distinctRenditions_isSome hchosen hdistinct

end Search

/-! ## Ladders -/

/-- The variants for each profile, by one measure. -/
def profileCandidates (measure : Dimensions → Nat) (variants : List HlsVariant)
    (profiles : List Dimensions) : List (List HlsVariant) :=
  profiles.map fun profile =>
    variants.filter fun variant => near (measure variant.size) (measure profile)

/-- The variants for each height of the profiles, cut to the height of the source. -/
def targetCandidates (variants : List HlsVariant) (profiles : List Dimensions) (height : Nat) :
    List (List HlsVariant) :=
  (targetHeights profiles height).map fun target =>
    variants.filter (meetsTarget profiles height target)

/-- With a tall profile the source is known, and no variant is above it. -/
def TallAllowed (variants : List HlsVariant) (profiles : List Dimensions)
    (source : Option Dimensions) : Prop :=
  (∃ profile ∈ profiles, 1080 ≤ profile.height) →
    ∃ size, source = some size ∧ validDimensions size = true ∧ ∀ variant ∈ variants,
      variant.size.short ≤ size.short + dimensionTolerance ∧
        variant.size.long ≤ size.long + dimensionTolerance

/-- The source has the aspect of the tallest variant, and a height. -/
def SourceHeight (platform : HlsPlatform) (variants : List HlsVariant) (source : Option Dimensions)
    (height : Nat) : Prop :=
  ∃ size reference, source = some size ∧ validDimensions size = true ∧
    tallest variants = some reference ∧
    platform.sameAspect (orientedLike reference.size size) reference.size = true ∧
    height = 2 * ((orientedLike reference.size size).height / 2) ∧ height ≠ 0

/-- Every required rendition can be assigned a variant of its own: those of the profiles by height, by
the longer side, or cut to the height of the source. -/
def RenditionsAssignable (platform : HlsPlatform) (variants : List HlsVariant)
    (profiles : List Dimensions) (source : Option Dimensions) : Prop :=
  Assignable (profileCandidates Dimensions.height variants profiles) ∨
    Assignable (profileCandidates Dimensions.long variants profiles) ∨
      ∃ height, SourceHeight platform variants source height ∧
        Assignable (targetCandidates variants profiles height)

section Ladders

variable {platform : HlsPlatform} {variants : List HlsVariant} {profiles : List Dimensions}
  {source : Option Dimensions}

theorem validSource_iff {size : Dimensions} :
    validSource source = .ok size ↔ source = some size ∧ validDimensions size = true := by
  constructor
  · exact validSource_ok
  · rintro ⟨rfl, hvalid⟩
    exact if_pos hvalid

theorem checkTallProfiles_iff :
    checkTallProfiles variants profiles source = .ok ⟨⟩ ↔ TallAllowed variants profiles source := by
  unfold checkTallProfiles TallAllowed
  by_cases htall : (profiles.any fun profile => decide (1080 ≤ profile.height)) = true
  · have hexists : ∃ profile ∈ profiles, 1080 ≤ profile.height := by
      obtain ⟨profile, hmem, hheight⟩ := List.any_eq_true.mp htall
      exact ⟨profile, hmem, of_decide_eq_true hheight⟩
    rw [if_pos htall, except_bind_eq_ok]
    constructor
    · rintro ⟨size, hsize, hbelow⟩ -
      obtain ⟨hsource, hvalid⟩ := validSource_ok hsize
      refine ⟨size, hsource, hvalid, fun variant hvariant => ?_⟩
      split at hbelow
      · cases hbelow
      · next hnone =>
          rw [Bool.not_eq_true, List.any_eq_false] at hnone
          have hhere := hnone variant hvariant
          simp only [Bool.or_eq_true, decide_eq_true_eq, not_or, Nat.not_lt] at hhere
          exact hhere
    · intro h
      obtain ⟨size, hsource, hvalid, hbelow⟩ := h hexists
      refine ⟨size, validSource_iff.mpr ⟨hsource, hvalid⟩, if_neg ?_⟩
      rw [Bool.not_eq_true, List.any_eq_false]
      intro variant hvariant
      simp only [Bool.or_eq_true, decide_eq_true_eq, not_or, Nat.not_lt]
      exact hbelow variant hvariant
  · rw [if_neg htall]
    constructor
    · rintro - ⟨profile, hmem, hheight⟩
      exact absurd (List.any_eq_true.mpr ⟨profile, hmem, decide_eq_true hheight⟩) htall
    · exact fun _ => rfl

theorem fallbackRenditions_iff {reference : HlsVariant} (htallest : tallest variants = some reference) :
    (∃ required, fallbackRenditions platform variants profiles source reference = .ok required) ↔
      ∃ height, SourceHeight platform variants source height ∧
        Assignable (targetCandidates variants profiles height) := by
  unfold fallbackRenditions
  constructor
  · rintro ⟨required, h⟩
    obtain ⟨size, hsize, h⟩ := except_bind_eq_ok.mp h
    obtain ⟨hsource, hvalid⟩ := validSource_ok hsize
    dsimp only at h
    split_ifs at h with haspect hheight
    refine ⟨_, ⟨size, reference, hsource, hvalid, htallest, (Bool.not_eq_false _).mp haspect, rfl,
      hheight⟩, ?_⟩
    rw [← isSome_iff_assignable]
    unfold targetCandidates
    split at h
    · cases h
    · next chosen hchosen =>
        rw [hchosen]
        rfl
  · rintro ⟨height, ⟨size, other, hsource, hvalid, hother, haspect, rfl, hheight⟩, hassignable⟩
    rw [htallest] at hother
    cases hother
    rw [← isSome_iff_assignable] at hassignable
    obtain ⟨chosen, hchosen⟩ := Option.isSome_iff_exists.mp hassignable
    refine ⟨chosen, except_bind_eq_ok.mpr ⟨size, validSource_iff.mpr ⟨hsource, hvalid⟩, ?_⟩⟩
    unfold targetCandidates at hchosen
    dsimp only
    rw [if_neg (by rw [haspect]; decide), if_neg hheight, hchosen]

theorem requiredRenditions_iff :
    (∃ required, requiredRenditions platform variants profiles source = .ok required) ↔
      TallAllowed variants profiles source ∧
        RenditionsAssignable platform variants profiles source := by
  have hby (measure : Dimensions → Nat) : renditionsBy measure variants profiles =
      distinctRenditions (profileCandidates measure variants profiles) [] := rfl
  unfold requiredRenditions RenditionsAssignable
  rw [← checkTallProfiles_iff, ← isSome_iff_assignable, ← isSome_iff_assignable, ← hby, ← hby]
  cases hcheck : checkTallProfiles variants profiles source with
  | error e =>
    constructor
    · rintro ⟨required, h⟩
      cases h
    · rintro ⟨h, -⟩
      cases h
  | ok u =>
    simp only [true_and]
    cases hheight : renditionsBy Dimensions.height variants profiles with
    | some chosen =>
      constructor
      · exact fun _ => .inl rfl
      · exact fun _ => ⟨chosen, rfl⟩
    | none =>
      cases hlong : renditionsBy Dimensions.long variants profiles with
      | some chosen =>
        constructor
        · exact fun _ => .inr (.inl rfl)
        · exact fun _ => ⟨chosen, rfl⟩
      | none =>
        have hneither (P : Prop) :
            (none : Option (List HlsVariant)).isSome = true ∨
              (none : Option (List HlsVariant)).isSome = true ∨ P ↔ P := by simp
        rw [hneither]
        cases htallest : tallest variants with
        | none =>
          constructor
          · rintro ⟨required, h⟩
            cases h
          · rintro ⟨height, ⟨size, reference, -, -, hsome, -⟩, -⟩
            rw [htallest] at hsome
            cases hsome
        | some reference => exact fallbackRenditions_iff htallest

/-- The search finds a choice of distinct variants exactly when there is one, and gives it in the order
of the candidate lists; a ladder is accepted exactly when its renditions can be assigned and no variant
is above the source of a tall profile. -/
theorem renditions_assigned :
    (∀ candidates, (∃ chosen, distinctRenditions candidates [] = some chosen) ↔
      Assignable candidates) ∧
    (∀ candidates chosen, distinctRenditions candidates [] = some chosen →
      Assigns candidates chosen) ∧
    ∀ platform variants profiles source,
      (∃ required, requiredRenditions platform variants profiles source = .ok required) ↔
        TallAllowed variants profiles source ∧
          RenditionsAssignable platform variants profiles source := by
  refine ⟨fun candidates => ?_, fun candidates chosen => assigns_of_distinctRenditions,
    fun platform variants profiles source => requiredRenditions_iff⟩
  rw [← isSome_iff_assignable, Option.isSome_iff_exists]

/-- A full-HD variant for a full-HD profile. -/
def tallVariant : HlsVariant := ⟨⟨1920, 1080⟩, "https://video.example/1080.m3u8"⟩

/-- A tall profile is refused where the source is not known, though its rendition is there. -/
theorem tall_profile_refused :
    RenditionsAssignable (samplePlatform "" [] "") [tallVariant] [tallVariant.size] none ∧
      requiredRenditions (samplePlatform "" [] "") [tallVariant] [tallVariant.size] none =
        .error .verificationIncomplete := by
  constructor
  · refine .inl ⟨[tallVariant], List.pairwise_singleton _ _, .cons ?_ .nil⟩
    decide
  · rfl

end Ladders

end Youtick.Bridge
