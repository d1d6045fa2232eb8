import Youtick.PaymentService.Refunds

/-!
# Bridge: playlist text

What the verification of a ready asset reads out of an HLS playlist: its lines, whether it is an error
or playable, the resolution and the bandwidth of a rendition, and the quoted URIs of a line.

The URIs are found by a global match, which starts again behind a match. `Quoted` is the same pattern
at any place of the line. The two agree unless a quoted URI ends in a separator and `URI=`, for then
its closing quote is the opening quote of the next (`mem_uriMatches`).
-/

set_option autoImplicit false

namespace Youtick.Bridge

open Youtick.Lib Youtick.PaymentService

/-! ## Lines -/

/-- `body.split(/\r?\n/).map((line) => line.trim()).filter(Boolean)` -/
def playlistLines (body : String) : List String :=
  -- Trimming takes the `\r` of a line break.
  ((body.toList.splitOnP (· == '\n')).map fun line => String.ofList (trim line)).filter (· ≠ "")

/-! ## Quoted URIs -/

/-- `URI="([^"]+)"` at the front of a text. -/
def quotedUri : List Char → Option (List Char)
  | 'U' :: 'R' :: 'I' :: '=' :: '"' :: rest =>
    if rest.takeWhile (· ≠ '"') ≠ [] ∧ '"' ∈ rest then some (rest.takeWhile (· ≠ '"')) else none
  | _ => none

/-- `(?:^|[…])URI="([^"]+)"` at the front of a text, with the length of the match; `start` says that
the text is at the start of the line. -/
def uriAt (separator : Char → Bool) (start : Bool) (text : List Char) :
    Option (List Char × Nat) :=
  match (if start then quotedUri text else none) with
  | some uri => some (uri, uri.length + 6)
  | none =>
    match text with
    | [] => none
    | c :: rest =>
      if separator c then (quotedUri rest).map fun uri => (uri, uri.length + 7) else none

/-- `matchAll(/(?:^|[…])URI="([^"]+)"/g)`: the captured texts. The first `skip` characters belong to
the match before. -/
def uriMatches (separator : Char → Bool) : Nat → Bool → List Char → List (List Char)
  | _, _, [] => []
  | skip + 1, _, _ :: rest => uriMatches separator skip false rest
  | 0, start, c :: rest =>
    match uriAt separator start (c :: rest) with
    | some (uri, length) => uri :: uriMatches separator (length - 1) false rest
    | none => uriMatches separator 0 false rest

/-- `(?:^|[…])URI=` somewhere in a text. -/
def mentionsUri (separator : Char → Bool) : Bool → List Char → Bool
  | _, [] => false
  | start, c :: rest =>
    (start && "URI=".toList.isPrefixOf (c :: rest)) ||
      (separator c && "URI=".toList.isPrefixOf rest) || mentionsUri separator false rest

/-- `,` -/
def isComma (c : Char) : Bool := c == ','

/-- `[:,]` -/
def isUriSeparator (c : Char) : Bool := c == ':' || c == ','

/-- The references the quoted URIs of a line name. -/
def quotedReferences (line : String) : List String :=
  (uriMatches isUriSeparator 0 true line.toList).map String.ofList

/-! ## Kinds of playlists -/

inductive HlsManifestKind where
  | error
  | playable
  | unknown
  deriving DecidableEq

def streamTag : String := "#EXT-X-STREAM-INF:"

/-- A `#EXT-X-STREAM-INF:` or `#EXTINF:` line is followed by a reference. -/
def listsReference : List String → Bool
  | [] => false
  | line :: rest =>
    ((startsWith line streamTag || startsWith line "#EXTINF:") &&
      rest.head?.any fun next => !startsWith next "#") || listsReference rest

def hlsManifestKind (body : String) : HlsManifestKind :=
  let lines := playlistLines body
  if lines.head? ≠ some "#EXTM3U" then .unknown
  else
    let playable := lines.any (fun line => !(uriMatches isComma 0 true line.toList).isEmpty) ||
      listsReference lines
    let error := lines.any fun line => line == "#EXT-X-ERROR" || startsWith line "#EXT-X-ERROR:"
    if error && !playable then .error
    else if playable then .playable
    else .unknown

/-! ## Attributes of a rendition -/

structure Dimensions where
  width : Nat
  height : Nat
  deriving DecidableEq

/-- The comma separated attributes behind the tag. -/
def streamAttributes (line : String) : List (List Char) :=
  (line.toList.drop 18).splitOnP isComma

/-- `RESOLUTION=(\d+)x(\d+)` -/
def resolutionOf (item : List Char) : Option Dimensions :=
  match item.dropPrefix? "RESOLUTION=".toList with
  | none => none
  | some value =>
    let width := value.takeWhile isAsciiDigit
    match value.drop width.length with
    | 'x' :: height =>
      if isDigits width && isDigits height then
        some { width := toDouble (digitsValue width), height := toDouble (digitsValue height) }
      else none
    | _ => none

/-- `BANDWIDTH=(\d+)` -/
def bandwidthOf (item : List Char) : Option Nat :=
  match item.dropPrefix? "BANDWIDTH=".toList with
  | none => none
  | some value => if isDigits value then some (toDouble (digitsValue value)) else none

def streamResolution (line : String) : Option Dimensions :=
  (streamAttributes line).findSome? resolutionOf

def streamBandwidth (line : String) : Option Nat :=
  (streamAttributes line).findSome? bandwidthOf

/-! ## Every quoted URI is matched -/

section Quoted

variable (separator : Char → Bool)

/-- A quoted URI at some place of a text: at the start of the line or behind a separator. -/
inductive Quoted : Bool → List Char → List Char → Prop where
  | first {text uri : List Char} : quotedUri text = some uri → Quoted true text uri
  | behind {start : Bool} {c : Char} {rest uri : List Char} :
      separator c = true → quotedUri rest = some uri → Quoted start (c :: rest) uri
  | later {start : Bool} {c : Char} {rest uri : List Char} :
      Quoted false rest uri → Quoted start (c :: rest) uri

/-- The text ends in a separator and `URI=`. -/
def EndsInUri (text : List Char) : Prop :=
  ∃ before c, separator c = true ∧ text = before ++ c :: "URI=".toList

end Quoted

theorem takeWhile_quote {uri rest : List Char} (hquote : '"' ∉ uri) :
    (uri ++ '"' :: rest).takeWhile (· ≠ '"') = uri := by
  rw [List.takeWhile_append_of_pos]
  · simp
  · intro c hc
    simpa using fun heq : c = '"' => hquote (heq ▸ hc)

theorem quotedUri_eq_some {text uri : List Char} :
    quotedUri text = some uri ↔
      ∃ rest, text = 'U' :: 'R' :: 'I' :: '=' :: '"' :: (uri ++ '"' :: rest) ∧ uri ≠ [] ∧
        '"' ∉ uri := by
  constructor
  · intro h
    unfold quotedUri at h
    split at h
    next tail =>
      split_ifs at h with hfound
      obtain ⟨hne, hmem⟩ := hfound
      cases h
      obtain ⟨uri, rest, rfl, hquote⟩ := List.eq_append_cons_of_mem hmem
      rw [takeWhile_quote hquote] at hne ⊢
      exact ⟨rest, rfl, hne, hquote⟩
    next => cases h
  · rintro ⟨rest, rfl, hne, hquote⟩
    simp only [quotedUri]
    rw [takeWhile_quote hquote, if_pos ⟨hne, by simp⟩]

/-- In `before"rest` without a quote in `before`, a quoted URI lies in `rest` or opens at that
quote. -/
theorem Quoted.behind_quote {separator : Char → Bool} (hsep : separator '"' = false)
    {before rest uri : List Char} (hbefore : '"' ∉ before)
    (h : Quoted separator false (before ++ '"' :: rest) uri) :
    Quoted separator false rest uri ∨ EndsInUri separator before := by
  induction before with
  | nil =>
    cases h with
    | behind hc => exact absurd (hsep.symm.trans hc) (by decide)
    | later h => exact .inl h
  | cons c before ih =>
    cases h with
    | behind hc hquoted =>
      -- The opening quote of the URI is the first quote of the text.
      right
      obtain ⟨tail, htail, -, -⟩ := quotedUri_eq_some.mp hquoted
      have hspell := append_separator_injective (fun hmem => hbefore (List.mem_cons_of_mem _ hmem))
        (by decide : '"' ∉ "URI=".toList) htail
      exact ⟨[], c, hc, by rw [hspell.1]; rfl⟩
    | later h =>
      rcases ih (fun hmem => hbefore (List.mem_cons_of_mem _ hmem)) h with h | ⟨init, x, hx, rfl⟩
      · exact .inl h
      · exact .inr ⟨c :: init, x, hx, rfl⟩

variable {separator : Char → Bool}

theorem Quoted.of_false {start : Bool} {text uri : List Char}
    (h : Quoted separator false text uri) : Quoted separator start text uri := by
  cases h with
  | behind hc hquoted => exact .behind hc hquoted
  | later h => exact .later h

/-- The characters of `URI="` are no separators, so nothing is quoted between them. -/
theorem Quoted.behind_uri (hsep : ∀ c ∈ "URI=\"".toList, separator c = false)
    {text uri : List Char}
    (h : Quoted separator false ('U' :: 'R' :: 'I' :: '=' :: '"' :: text) uri) :
    Quoted separator false text uri := by
  have hpeel : ∀ c ∈ "URI=\"".toList, ∀ rest : List Char,
      Quoted separator false (c :: rest) uri → Quoted separator false rest uri := by
    intro c hc rest h
    cases h with
    | behind hsome => exact absurd ((hsep c hc).symm.trans hsome) (by decide)
    | later h => exact h
  have hR := hpeel 'U' (by decide) _ h
  have hI := hpeel 'R' (by decide) _ hR
  have heq := hpeel 'I' (by decide) _ hI
  have hquote := hpeel '=' (by decide) _ heq
  exact hpeel '"' (by decide) _ hquote

theorem Quoted.append {before text uri : List Char} (h : Quoted separator false text uri) :
    Quoted separator false (before ++ text) uri := by
  induction before with
  | nil => exact h
  | cons c before ih => exact .later ih

theorem uriMatches_skip (skipped rest : List Char) (c : Char) :
    uriMatches separator (skipped.length + 1) false (skipped ++ c :: rest) =
      uriMatches separator 0 false rest := by
  induction skipped with
  | nil => simp [uriMatches]
  | cons x skipped ih => simpa [uriMatches] using ih

theorem uriAt_eq_some {start : Bool} {text uri : List Char} {length : Nat}
    (h : uriAt separator start text = some (uri, length)) :
    (start = true ∧ quotedUri text = some uri ∧ length = uri.length + 6) ∨
      ∃ c rest, text = c :: rest ∧ separator c = true ∧ quotedUri rest = some uri ∧
        length = uri.length + 7 := by
  unfold uriAt at h
  split at h
  next found hfound =>
    split_ifs at hfound with hstart
    cases h
    exact .inl ⟨hstart, hfound, rfl⟩
  next =>
    split at h
    next => cases h
    next c rest _ =>
      split_ifs at h with hc
      obtain ⟨found, hfound, heq⟩ := Option.map_eq_some_iff.mp h
      cases heq
      exact .inr ⟨c, rest, rfl, hc, hfound, rfl⟩

theorem Quoted.of_uriAt {start : Bool} {text uri : List Char} {length : Nat}
    (h : uriAt separator start text = some (uri, length)) : Quoted separator start text uri := by
  rcases uriAt_eq_some h with ⟨rfl, hquoted, -⟩ | ⟨c, rest, rfl, hc, hquoted, -⟩
  · exact .first hquoted
  · exact .behind hc hquoted

/-- A match of the pattern at the front, and what the global match goes on with. -/
theorem uriMatches_front {start : Bool} {c : Char} {text uri : List Char} {length : Nat}
    (hsep : ∀ c ∈ "URI=\"".toList, separator c = false)
    (h : uriAt separator start (c :: text) = some (uri, length)) :
    ∃ passed tail, text = passed ++ tail ∧ passed ≠ [] ∧ '"' ∉ uri ∧
      uriMatches separator (length - 1) false text = uriMatches separator 0 false tail ∧
      ∀ other, Quoted separator start (c :: text) other →
        other = uri ∨ Quoted separator false (uri ++ '"' :: tail) other := by
  rcases uriAt_eq_some h with ⟨rfl, hquoted, rfl⟩ | ⟨_, _, heq, hc, hquoted, rfl⟩
  · -- The match stands at the start of the line.
    obtain ⟨tail, htext, -, hquote⟩ := quotedUri_eq_some.mp hquoted
    cases htext
    refine ⟨'R' :: 'I' :: '=' :: '"' :: (uri ++ ['"']), tail, by simp, List.cons_ne_nil _ _,
      hquote, ?_, ?_⟩
    · exact uriMatches_skip ('R' :: 'I' :: '=' :: '"' :: uri) tail '"'
    · intro other hother
      cases hother with
      | first hother => exact .inl (Option.some.inj (hother.symm.trans hquoted))
      | behind hU => exact absurd ((hsep 'U' (by decide)).symm.trans hU) (by decide)
      | later hother => exact .inr (Quoted.behind_uri hsep (.later hother))
  · -- The match stands behind a separator.
    cases heq
    obtain ⟨tail, rfl, -, hquote⟩ := quotedUri_eq_some.mp hquoted
    refine ⟨'U' :: 'R' :: 'I' :: '=' :: '"' :: (uri ++ ['"']), tail, by simp, List.cons_ne_nil _ _,
      hquote, ?_, ?_⟩
    · exact uriMatches_skip ('U' :: 'R' :: 'I' :: '=' :: '"' :: uri) tail '"'
    · intro other hother
      cases hother with
      | first hother =>
        obtain ⟨_, hspell, -⟩ := quotedUri_eq_some.mp hother
        cases hspell
      | behind _ hother => exact .inl (Option.some.inj (hother.symm.trans hquoted))
      | later hother => exact .inr (Quoted.behind_uri hsep hother)

theorem mem_uriMatches (hsep : ∀ c ∈ "URI=\"".toList, separator c = false) (n : Nat) :
    ∀ {start : Bool} {text : List Char}, text.length ≤ n →
      (∀ uri, Quoted separator start text uri → ¬ EndsInUri separator uri) →
      ∀ {uri}, Quoted separator start text uri → uri ∈ uriMatches separator 0 start text := by
  induction n with
  | zero =>
    intro start text hlength _ uri h
    rw [List.eq_nil_of_length_eq_zero (Nat.le_zero.mp hlength)] at h
    cases h with
    | first hquoted => cases hquoted
  | succ n ih =>
    intro start text hlength hends uri h
    cases text with
    | nil =>
      cases h with
      | first hquoted => cases hquoted
    | cons c text =>
      have hshort : text.length ≤ n := Nat.le_of_succ_le_succ hlength
      rw [uriMatches]
      cases hat : uriAt separator start (c :: text) with
      | none =>
        -- Nothing is quoted here, so the URI stands further on.
        refine ih hshort ?_ ?_
        · intro other hother
          exact hends other (.later hother)
        · cases h with
          | first hquoted => simp [uriAt, hquoted] at hat
          | behind hc hquoted => 
            simp only [uriAt, hc, if_true, hquoted] at hat
            split at hat <;> cases hat
          | later h => exact h
      | some found =>
        obtain ⟨first, length⟩ := found
        obtain ⟨passed, tail, rfl, hpassed, hquote, hrest, hothers⟩ :=
          uriMatches_front hsep hat
        rcases hothers uri h with rfl | h
        · exact List.mem_cons_self
        · rcases Quoted.behind_quote (hsep '"' (by simp)) hquote h with h | h
          · have hlt : 0 < passed.length := List.length_pos_of_ne_nil hpassed
            rw [List.length_append] at hshort
            refine List.mem_cons_of_mem _ ?_
            rw [hrest]
            refine ih (by omega) ?_ h
            intro other hother
            exact hends other (.later hother.append)
          · exact absurd h (hends first (.of_uriAt hat))

/-- In a line none of whose quoted URIs ends in a separator and `URI=`, every quoted URI is one of
the references. -/
theorem mem_quotedReferences {line uri : String}
    (hends : ∀ other, Quoted isUriSeparator true line.toList other →
      ¬ EndsInUri isUriSeparator other)
    (h : Quoted isUriSeparator true line.toList uri.toList) : uri ∈ quotedReferences line := by
  have hsep : "URI=\"".toList.all (fun c => !isUriSeparator c) = true := by decide
  have hmem := mem_uriMatches (fun c hc => by simpa using List.all_eq_true.mp hsep c hc)
    line.toList.length (Nat.le_refl _) hends h
  exact List.mem_map.mpr ⟨uri.toList, hmem, String.ofList_toList⟩

/-- The URI behind one that ends in `,URI=` is not found. -/
example : quotedReferences "#EXT-X-KEY:METHOD=AES-128,KEYFORMAT=\"a,URI=\",URI=\"key.bin\"" =
    [",URI="] := by decide

end Youtick.Bridge
