import Youtick.Lib.Trace
import Youtick.Web.CardCheckout

/-!
# Web: recovery finds every ticket

The tickets of one key over a run of the chain. A purchase takes an index within the gap from a
scan's `nextIndex`; the scan may be old, and its reads may have met different states
(`ChainHistory.Shows`). The tickets then never have a gap a scan would stop at
(`dense_of_trace`), so that a scan of the last state either returns all of them or meets its limit
first (`recovery_finds_tickets`).
-/

set_option autoImplicit false

namespace Youtick.Web

open Youtick.Lib

/-! ## Histories -/

/-- The tickets on chain now and at the earlier moments. -/
structure ChainHistory (τ : Type) where
  past : List (String → Option τ)
  now : String → Option τ

section History

variable {τ : Type}

/-- Every read of a scan met some state so far. -/
def ChainHistory.Shows (h : ChainHistory τ) (seen : String → Option τ) : Prop :=
  ∀ id, ∃ chain ∈ h.now :: h.past, seen id = chain id

variable (library : KeyLibrary) (ckdKey root : Bytes) (gap : Nat)

/-- Before any ticket of the key. -/
structure ChainHistory.Fresh (h : ChainHistory τ) : Prop where
  past : h.past = []
  none : ∀ index, ticketAt library root h.now index = none

/-- No ticket is deleted, and a new ticket of the key is at an index between the `nextIndex` of a
scan and the gap after it. -/
structure historyStep (before : ChainHistory τ) (_ : PUnit.{1}) (after : ChainHistory τ) :
    Prop where
  past : after.past = before.now :: before.past
  kept : ∀ id, (before.now id).isSome = true → (after.now id).isSome = true
  chosen : ∀ index, ticketAt library root before.now index = none →
    (ticketAt library root after.now index).isSome = true →
    ∃ (seen : String → Option τ) (options : ScanOptions) (result : RecoveryResult τ)
      (reads : List String), before.Shows seen ∧ options.gapOrDefault = (gap : Int) ∧
      (scanTickets library (readChain seen) ckdKey options).run [] = .ok result reads ∧
      result.nextIndex ≤ index ∧ index < result.nextIndex + gap

/-! ## The invariant -/

/-- Every earlier ticket is still there, and no ticket of the key is beyond a gap. -/
structure ChainHistory.Sound (h : ChainHistory τ) : Prop where
  kept : ∀ chain ∈ h.past, ∀ id, (chain id).isSome = true → (h.now id).isSome = true
  dense : Dense gap (ticketAt library root h.now)

variable {library} {ckdKey} {root} {gap}

theorem ChainHistory.Shows.kept {h : ChainHistory τ} (hsound : h.Sound library root gap)
    {seen : String → Option τ} (hseen : h.Shows seen) {id : String}
    (hsome : (seen id).isSome = true) : (h.now id).isSome = true := by
  obtain ⟨chain, hmem, heq⟩ := hseen id
  rw [heq] at hsome
  rcases List.mem_cons.mp hmem with rfl | hmem
  · exact hsome
  · exact hsound.kept chain hmem id hsome

theorem ticketAt_kept {old new : String → Option τ}
    (h : ∀ id, (old id).isSome = true → (new id).isSome = true) {index : Nat}
    (hused : (ticketAt library root old index).isSome = true) :
    (ticketAt library root new index).isSome = true := by
  have hindex := index_le_of_used hused
  rw [ticketAt, if_pos hindex] at hused ⊢
  exact h _ hused

/-- The slot before a scan's `nextIndex` has a ticket. -/
theorem used_of_scan (hroot : deriveRootKey library ckdKey = .ok root)
    {chain : String → Option τ} {options : ScanOptions} (hoptions : options.gapOrDefault = gap)
    (hgap : 1 ≤ gap) {result : RecoveryResult τ} {reads : List String}
    (h : (scanTickets library (readChain chain) ckdKey options).run [] = .ok result reads)
    {index : Nat} (hnext : result.nextIndex = index + 1) :
    (ticketAt library root chain index).isSome = true := by
  have hscan := scanTickets_end chain hroot hoptions hgap
  rw [h] at hscan
  cases hscan with
  | gap hend hlimit hindex => exact found_of_nextAfter hnext

theorem ChainHistory.Sound.step (hroot : deriveRootKey library ckdKey = .ok root) (hgap : 1 ≤ gap)
    {h h' : ChainHistory τ} {label : PUnit} (hsound : h.Sound library root gap)
    (hstep : historyStep library ckdKey root gap h label h') : h'.Sound library root gap where
  kept := by
    intro chain hmem id hsome
    rw [hstep.past] at hmem
    rcases List.mem_cons.mp hmem with rfl | hmem
    · exact hstep.kept id hsome
    · exact hstep.kept id (hsound.kept chain hmem id hsome)
  dense := by
    refine hsound.dense.insert (fun index => ticketAt_kept hstep.kept) ?_
    intro index hnone hused
    obtain ⟨seen, options, result, reads, hseen, hoptions, hscan, hge, hlt⟩ :=
      hstep.chosen index hnone hused
    cases hnext : result.nextIndex with
    | zero => exact .inl (by omega)
    | succ last =>
      -- The ticket the scan saw last is still there.
      have hlast := used_of_scan hroot hoptions hgap hscan hnext
      have hnow := ticketAt_kept (fun id => hseen.kept hsound) hlast
      exact .inr ⟨last, by omega, ticketAt_kept hstep.kept hnow, by omega⟩

theorem dense_of_trace (hroot : deriveRootKey library ckdKey = .ok root) (hgap : 1 ≤ gap)
    {h₀ h : ChainHistory τ} {tr : List (Transition (ChainHistory τ) PUnit)}
    (hfresh : h₀.Fresh library root) (htr : Trace (historyStep library ckdKey root gap) h₀ tr h) :
    Dense gap (ticketAt library root h.now) := by
  have hsound : h.Sound library root gap := by
    refine htr.invariant (fun s label t hs hst => hs.step hroot hgap hst) ⟨?_, ?_⟩
    · intro chain hmem
      rw [hfresh.past] at hmem
      cases hmem
    · intro index hused
      rw [hfresh.none index] at hused
      cases hused
  exact hsound.dense

end History

/-! ## The last scan -/

section Last

variable {τ : Type} {library : KeyLibrary} {ckdKey root : Bytes} {gap : Nat}

/-- The largest index a scan may read. -/
def lastIndex (maxIndex : Int) : Int := min maxIndex maxTicketIndex

/-- The gap after the last ticket, or the first gap, ends before the limit. -/
def Fits (library : KeyLibrary) (root : Bytes) (chain : String → Option τ) (gap : Nat)
    (maxIndex : Int) : Prop :=
  gap ≤ lastIndex maxIndex + 1 ∧
    ∀ index : Nat, (ticketAt library root chain index).isSome = true →
      index ≤ lastIndex maxIndex - gap

/-- The error at the limit: the caller's, or the last index a key can have. -/
def limitError (maxIndex : Int) : String :=
  if maxIndex ≤ maxTicketIndex then "recovery_scan_limit" else "invalid_ticket_index"

theorem scan_fits (hroot : deriveRootKey library ckdKey = .ok root)
    (hseparates : library.Separates root) {chain : String → Option τ}
    (hdense : Dense gap (ticketAt library root chain)) {options : ScanOptions}
    (hoptions : options.gapOrDefault = gap) (hgap : 1 ≤ gap) :
    (Fits library root chain gap options.maxIndexOrDefault → ∃ result reads,
      (scanTickets library (readChain chain) ckdKey options).run [] = .ok result reads ∧
      Complete library root chain gap result reads) ∧
    (¬ Fits library root chain gap options.maxIndexOrDefault → ∃ reads,
      (scanTickets library (readChain chain) ckdKey options).run [] =
        .error (limitError options.maxIndexOrDefault) reads) := by
  have hscan := scanTickets_end chain hroot hoptions hgap
  generalize hrun : (scanTickets library (readChain chain) ckdKey options).run [] = outcome
    at hscan
  unfold Fits limitError lastIndex
  cases hscan with
  | @gap n hend hlimit hindex =>
    have hfits : ∀ index, (ticketAt library root chain index).isSome = true →
        (index : Int) ≤ min options.maxIndexOrDefault maxTicketIndex - gap := by
      intro index hused
      have hlt := lt_nextAfter (hdense.lt_of_end (Nat.le_of_eq hend.symm) hused) hused
      omega
    constructor
    · intro _
      exact ⟨_, _, rfl, complete_of_end (root_length hroot) hseparates hdense hend⟩
    · intro hnot
      exact absurd ⟨by omega, hfits⟩ hnot
  | @limit n hon hlimit hindex reads =>
    rw [if_pos (by omega)]
    constructor
    · rintro ⟨hfirst, hlast⟩
      rcases reason_to_go_on hon with hlt | ⟨j, hused, hle⟩
      · omega
      · have hfits := hlast j hused
        omega
    · intro _
      exact ⟨reads, rfl⟩
  | @index n hon hlimit hindex reads =>
    rw [if_neg (by omega)]
    constructor
    · rintro ⟨hfirst, hlast⟩
      rcases reason_to_go_on hon with hlt | ⟨j, hused, hle⟩
      · omega
      · have hfits := hlast j hused
        omega
    · intro _
      exact ⟨reads, rfl⟩

/-- In every history of purchases, a scan of the last state returns every ticket of the key, unless
a ticket or the first gap reaches its limit; and a card order is under one of the keys a purchase
may take. -/
theorem recovery_finds_tickets (hroot : deriveRootKey library ckdKey = .ok root)
    (hseparates : library.Separates root) (hgap : 1 ≤ gap) {h₀ h : ChainHistory τ}
    {tr : List (Transition (ChainHistory τ) PUnit)} (hfresh : h₀.Fresh library root)
    (htr : Trace (historyStep library ckdKey root gap) h₀ tr h) :
    (∀ options : ScanOptions, options.gapOrDefault = gap →
      (Fits library root h.now gap options.maxIndexOrDefault → ∃ result reads,
        (scanTickets library (readChain h.now) ckdKey options).run [] = .ok result reads ∧
        Complete library root h.now gap result reads) ∧
      (¬ Fits library root h.now gap options.maxIndexOrDefault → ∃ reads,
        (scanTickets library (readChain h.now) ckdKey options).run [] =
          .error (limitError options.maxIndexOrDefault) reads)) ∧
    ∀ codec service input requests, input.ckdKey = ckdKey →
      OffersOnly library root input.startIndex (input.startIndex + recoveryGap) requests
          (Fallible.after (openCardOrder codec library service input) requests) ∧
        ∀ opened after, openCardOrder codec library service input requests = .ok opened after →
          input.startIndex ≤ opened.ticketIndex ∧
            opened.ticketIndex < input.startIndex + recoveryGap ∧
            ticketKey library root opened.ticketIndex = .ok opened.ticket := by
  constructor
  · intro options hoptions
    exact scan_fits hroot hseparates (dense_of_trace hroot hgap hfresh htr) hoptions hgap
  · rintro codec service input requests rfl
    exact openCardOrder_window hroot requests

end Last

/-! ## A purchase at the first index -/

/-- Exchange the two byte strings of each pair. -/
def exchange (pairs : List (Bytes × Bytes)) : Equiv.Perm Bytes :=
  (pairs.map fun pair => Equiv.swap pair.1 pair.2).prod

theorem length_exchange {n : Nat} {pairs : List (Bytes × Bytes)}
    (h : ∀ pair ∈ pairs, pair.1.length = n ∧ pair.2.length = n) {bytes : Bytes}
    (hbytes : bytes.length = n) : (exchange pairs bytes).length = n := by
  induction pairs with
  | nil => exact hbytes
  | cons pair rest ih =>
    have hrest := ih fun other hmem => h other (List.mem_cons_of_mem _ hmem)
    obtain ⟨hfirst, hsecond⟩ := h pair List.mem_cons_self
    change (Equiv.swap pair.1 pair.2 (exchange rest bytes)).length = n
    rw [Equiv.swap_apply_def]
    split
    · exact hsecond
    · split
      · exact hfirst
      · exact hrest

namespace Vectors

def ckdKey : Bytes :=
  [81, 189, 49, 228, 40, 163, 147, 27, 51, 222, 197, 46, 84, 69, 51, 168, 247, 52, 85, 83, 159,
   249, 226, 179, 110, 54, 155, 159, 38, 226, 161, 98]
def ticketRoot : Bytes :=
  [103, 123, 218, 73, 161, 113, 82, 228, 47, 99, 135, 165, 21, 162, 247, 236, 135, 239, 173, 48,
   186, 61, 209, 139, 246, 111, 7, 139, 133, 13, 79, 171]
def firstSeed : Bytes :=
  [3, 200, 114, 233, 227, 86, 147, 212, 51, 168, 160, 170, 75, 24, 207, 178, 189, 221, 215, 212,
   32, 177, 78, 232, 46, 86, 66, 244, 155, 44, 65, 218]
def firstRaw : Bytes :=
  [14, 172, 188, 252, 105, 194, 140, 91, 89, 58, 198, 63, 76, 239, 141, 69, 192, 155, 157, 245, 5,
   11, 139, 155, 51, 1, 92, 174, 8, 17, 243, 176]
def firstId : Bytes :=
  [9, 210, 161, 200, 190, 141, 117, 198, 75, 224, 229, 127, 223, 248, 27, 71, 3, 143, 162, 169,
   153, 199, 104, 50, 196, 253, 4, 236, 90, 125, 249, 227]
def secondSeed : Bytes :=
  [43, 23, 200, 158, 181, 103, 147, 83, 57, 184, 7, 94, 166, 110, 217, 85, 108, 177, 175, 29, 166,
   41, 110, 109, 219, 236, 216, 210, 218, 115, 141, 222]
def secondRaw : Bytes :=
  [44, 175, 136, 65, 193, 2, 130, 26, 218, 192, 120, 222, 252, 160, 183, 220, 58, 6, 155, 233, 16,
   9, 120, 201, 24, 65, 236, 14, 14, 98, 150, 57]
def secondId : Bytes :=
  [62, 209, 123, 39, 175, 19, 243, 5, 153, 25, 139, 80, 142, 255, 69, 231, 101, 110, 165, 127, 248,
   153, 95, 238, 54, 12, 40, 243, 73, 46, 224, 147]
def thirdSeed : Bytes :=
  [205, 255, 215, 189, 109, 248, 40, 52, 185, 165, 5, 152, 103, 134, 233, 117, 99, 108, 37, 136,
   62, 160, 71, 245, 10, 142, 189, 29, 38, 9, 93, 38]
def thirdRaw : Bytes :=
  [169, 38, 105, 12, 196, 174, 129, 172, 55, 104, 9, 153, 120, 136, 64, 15, 123, 244, 123, 7, 19,
   187, 168, 209, 12, 248, 117, 234, 198, 152, 140, 55]
def thirdId : Bytes :=
  [6, 198, 28, 43, 224, 136, 40, 120, 85, 187, 237, 253, 66, 238, 252, 3, 66, 92, 135, 64, 255, 64,
   99, 232, 172, 127, 62, 48, 41, 106, 74, 142]

/-- The outputs of HKDF for the infos of the first three indexes. -/
def seeds : List (Bytes × Bytes) :=
  [(ticketSeedInfo 0 ++ [0], firstSeed), (ticketSeedInfo 1 ++ [0], secondSeed),
   (ticketSeedInfo 2 ++ [0], thirdSeed)]

/-- The functions' values for this CKD key and its first three indexes; no two inputs collide. -/
def keyLibrary : KeyLibrary where
  hkdf key _ info n :=
    let bytes := if key = ckdKey then ticketRoot else exchange seeds (info ++ [0])
    if h : bytes.length = n then ⟨bytes, h⟩ else ⟨List.replicate n 0, List.length_replicate⟩
  sha256 := exchange [(firstRaw, firstId), (secondRaw, secondId), (thirdRaw, thirdId)]
  ed25519PublicKey :=
    exchange [(firstSeed, firstRaw), (secondSeed, secondRaw), (thirdSeed, thirdRaw)]
  ed25519Sign message seed := seed ++ message
  baseEncode raw :=
    ([(firstRaw, "zHUk7HeksDWkiWQyxcJEGW5dKCtVg1G1RZ1B3rMG5e7"),
      (secondRaw, "41SBTarHKX6kmsbkxFUZGSWWVQMSZtvNpK3iqvFRbWZN"),
      (thirdRaw, "CPHsXpbZTc45nUy4qPbNxzi3XbifurReiHQz4u3nUBJn")].lookup raw).getD (hex raw)

theorem root_of_ckdKey : deriveRootKey keyLibrary ckdKey = .ok ticketRoot := by decide +kernel

theorem keyLibrary_separates : keyLibrary.Separates ticketRoot where
  hkdf := by
    have hkey : ticketRoot ≠ ckdKey := by decide
    have hvalue : ∀ info : Bytes, info.length = 31 →
        (keyLibrary.hkdf ticketRoot [] info 32).1 = exchange seeds (info ++ [0]) := by
      intro info hinfo
      have hlength : (exchange seeds (info ++ [0])).length = 32 := by
        apply length_exchange (by decide)
        rw [List.length_append, hinfo]
        rfl
      simp only [keyLibrary, if_neg hkey, hlength, dif_pos]
    intro info info' hinfo hinfo' heq
    rw [hvalue info hinfo, hvalue info' hinfo'] at heq
    exact List.append_cancel_right ((exchange seeds).injective heq)
  ed25519PublicKey := by
    intro seed seed' _ _ heq
    exact (exchange _).injective heq
  sha256 := by
    intro raw raw' heq
    exact (exchange _).injective heq

/-- No ticket yet. -/
def fresh : ChainHistory String := ⟨[], fun _ => none⟩

/-- A chain with one ticket. -/
def oneTicket (ticketId id : String) : Option String :=
  if id = ticketId then some "purchased" else none

theorem oneTicket_isSome {ticketId id : String} (h : (oneTicket ticketId id).isSome = true) :
    id = ticketId := by
  by_contra hne
  rw [oneTicket, if_neg hne] at h
  cases h

/-- A purchase has been made with the first key. -/
def bought : ChainHistory String := ⟨[fresh.now], oneTicket (idAt keyLibrary ticketRoot 0)⟩

theorem fresh_fresh : fresh.Fresh keyLibrary ticketRoot where
  past := rfl
  none := by
    intro index
    rw [ticketAt]
    split
    · rfl
    · rfl

theorem bought_used {index : Nat}
    (h : (ticketAt keyLibrary ticketRoot bought.now index).isSome = true) : index = 0 := by
  have hindex := index_le_of_used h
  rw [ticketAt, if_pos hindex] at h
  have hnow : bought.now = oneTicket (idAt keyLibrary ticketRoot 0) := rfl
  rw [hnow] at h
  exact ticketId_injective keyLibrary_separates hindex (Nat.zero_le _) (oneTicket_isSome h)

/-- What a scan answered, as far as it can be compared. -/
def scanOf (chain : String → Option String) (options : ScanOptions) :
    Except String (List (Nat × String) × Nat × Nat) :=
  match (scanTickets keyLibrary (readChain chain) ckdKey options).run [] with
  | .ok result reads => .ok (result.tickets.map fun found => (found.key.index, found.ticket),
      result.nextIndex, reads.length)
  | .error code _ => .error code

theorem bought_step : historyStep keyLibrary ckdKey ticketRoot 2 fresh ⟨⟩ bought where
  past := rfl
  kept := by
    intro id h
    cases h
  chosen := by
    intro index _ hused
    obtain rfl := bought_used hused
    have hscan : scanOf fresh.now { gap := some 2 } = .ok ([], 0, 2) := by decide +kernel
    unfold scanOf at hscan
    split at hscan
    · next result reads hrun =>
        refine ⟨fresh.now, { gap := some 2 }, result, reads, ?_, rfl, hrun, ?_, ?_⟩
        · intro id
          exact ⟨_, List.mem_cons_self, rfl⟩
        · exact Nat.le_of_eq (Prod.mk.inj (Prod.mk.inj (Except.ok.inj hscan)).2).1
        · omega
    · cases hscan

end Vectors

/-- With the first index as its limit a scan of an empty chain fails, though no index is used. -/
theorem scan_limit_unused :
    (∀ index, ticketAt Vectors.keyLibrary Vectors.ticketRoot Vectors.fresh.now index = none) ∧
      Vectors.scanOf Vectors.fresh.now { maxIndex := some 0 } = .error "recovery_scan_limit" :=
  ⟨Vectors.fresh_fresh.none, by decide +kernel⟩

/-- After a purchase with the first key a scan with a gap of two returns its ticket. -/
theorem recovery_finds_first_ticket :
    ∃ result reads,
      (scanTickets Vectors.keyLibrary (readChain Vectors.bought.now) Vectors.ckdKey
        { gap := some 2 }).run [] = .ok result reads ∧
      Complete Vectors.keyLibrary Vectors.ticketRoot Vectors.bought.now 2 result reads := by
  have hrecovery := recovery_finds_tickets Vectors.root_of_ckdKey Vectors.keyLibrary_separates
    (by decide) Vectors.fresh_fresh (.snoc .nil Vectors.bought_step)
  refine (hrecovery.1 { gap := some 2 } rfl).1 ⟨by decide, ?_⟩
  intro index hused
  obtain rfl := Vectors.bought_used hused
  decide

end Youtick.Web
