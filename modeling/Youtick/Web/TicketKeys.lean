import Youtick.Lib.Base64
import Youtick.Lib.Fallible
import Youtick.Lib.GapScan
import Youtick.Lib.Panic
import Youtick.Lib.Text

/-!
# Web: ticket keys and their recovery

`lib/ticket-keys/keys.ts` derives the ticket keys of one CKD key by index and
`lib/ticket-keys/recovery.ts` finds the ones that have a ticket: it reads the chain at the indexes
0, 1, 2, … until it has seen `RECOVERY_GAP` missing tickets in a row. `scanTickets_end` says how a
scan ends and `complete_of_end` what it has returned on tickets without a longer gap.

`findOwnedTickets` of `lib/v2/tickets.ts` scans with the CKD key of each gate of the session.

The hash functions, the curve and base58 are the libraries' (`KeyLibrary`); `KeyLibrary.Separates`
is the collision-freeness that keeps two indexes apart.
-/

set_option autoImplicit false

namespace Youtick.Web

open Youtick.Lib
open Youtick.Lib.Fallible (reject settle reject_pos reject_neg settle_ok settle_error)

/-! ## Keys -/

/-- `@noble/hashes`, `@noble/curves` and `near-api-js` as the keys use them. -/
structure KeyLibrary where
  /-- HKDF-SHA256 of key, salt and info, with as many bytes as asked for. -/
  hkdf : Bytes → Bytes → Bytes → (length : Nat) → { bytes : Bytes // bytes.length = length }
  sha256 : Bytes → Bytes
  ed25519PublicKey : Bytes → Bytes
  ed25519Sign : Bytes → Bytes → Bytes
  baseEncode : Bytes → String

def rootSalt : String := "youtick.market-v2.root.v1"
def rootInfo : String := "youtick.market-v2.ticket-root"
def ticketInfo : String := "youtick.market-v2.ticket.v1"

/-- The largest index of a ticket key. -/
def maxTicketIndex : Nat := 0xffffffff

/-- `DataView.setUint32`, big-endian. -/
def uint32 (n : Nat) : Bytes :=
  [UInt8.ofNat (n / 2 ^ 24), UInt8.ofNat (n / 2 ^ 16), UInt8.ofNat (n / 2 ^ 8), UInt8.ofNat n]

structure TicketKey where
  index : Nat
  publicKey : String
  ticketId : String
  sign : String → String

section Keys

variable (library : KeyLibrary)

def deriveRootKey (ckdKey : Bytes) : Result Bytes := do
  require (ckdKey.length = 32) "invalid_ckd_key"
  return (library.hkdf ckdKey (utf8 rootSalt) (utf8 rootInfo) 32).1

/-- The `info` of the key at an index. -/
def ticketSeedInfo (index : Nat) : Bytes := utf8 ticketInfo ++ uint32 index

def deriveTicketSeed (rootKey : Bytes) (index : Nat) : Result Bytes := do
  require (rootKey.length = 32) "invalid_root_key"
  require (index ≤ maxTicketIndex) "invalid_ticket_index"
  return (library.hkdf rootKey [] (ticketSeedInfo index) 32).1

def nearPublicKey (raw : Bytes) : String := "ed25519:" ++ library.baseEncode raw

def ticketIdFromPublicKey (raw : Bytes) : String := hex (library.sha256 raw)

def ticketKey (rootKey : Bytes) (index : Nat) : Result TicketKey := do
  let seed ← deriveTicketSeed library rootKey index
  let raw := library.ed25519PublicKey seed
  return {
    index := index
    publicKey := nearPublicKey library raw
    ticketId := ticketIdFromPublicKey library raw
    sign := fun message => Base64.encode (library.ed25519Sign (utf8 message) seed) }

end Keys

/-! ## The scan -/

/-- `RECOVERY_GAP` -/
def recoveryGap : Nat := 20

/-- What `getTicket` may resolve with; a JavaScript caller can also leave it `undefined`. -/
inductive Lookup (τ : Type) where
  | null
  | undefined
  | ticket (value : τ)

structure RecoveredTicket (τ : Type) where
  key : TicketKey
  ticket : τ

structure RecoveryResult (τ : Type) where
  tickets : List (RecoveredTicket τ)
  nextIndex : Nat

/-- The integers `scanTickets` can be given; any larger `maxIndex` acts as `Infinity` does. -/
structure ScanOptions where
  gap : Option Int := none
  maxIndex : Option Int := none

def ScanOptions.gapOrDefault (options : ScanOptions) : Int := options.gap.getD recoveryGap

def ScanOptions.maxIndexOrDefault (options : ScanOptions) : Int := options.maxIndex.getD 10000

section Scan

variable (library : KeyLibrary) {σ τ : Type} (getTicket : String → EStateM String σ (Lookup τ))

/-- The loop from `index`. The fuel counts the indexes up to `maxIndex`, so it runs out only where
the limit is passed anyway. -/
def scanFrom (root : Bytes) (gap maxIndex : Int) :
    (fuel : Nat) → (index nextIndex : Nat) → List (RecoveredTicket τ) →
      EStateM String σ (RecoveryResult τ)
  | 0, _, _, _ => throw "recovery_scan_limit"
  | fuel + 1, index, nextIndex, tickets =>
    if (index : Int) < nextIndex + gap then do
      reject ((index : Int) > maxIndex) "recovery_scan_limit"
      let key ← settle (ticketKey library root index)
      match ← getTicket key.ticketId with
      | .undefined => throw "invalid_ticket_lookup"
      | .null => scanFrom root gap maxIndex fuel (index + 1) nextIndex tickets
      | .ticket ticket =>
        scanFrom root gap maxIndex fuel (index + 1) (index + 1) (tickets ++ [⟨key, ticket⟩])
    else pure ⟨tickets, nextIndex⟩

def scanTickets (ckdKey : Bytes) (options : ScanOptions) : EStateM String σ (RecoveryResult τ) := do
  reject (options.gapOrDefault < 1) "invalid_recovery_gap"
  let root ← settle (deriveRootKey library ckdKey)
  scanFrom library getTicket root options.gapOrDefault options.maxIndexOrDefault
    (options.maxIndexOrDefault + 2).toNat 0 0 []

/-! ## Several gates -/

structure GateKey where
  gateAccountId : String
  ckdKey : Bytes

structure OwnedTicket (τ : Type) where
  key : TicketKey
  ticket : τ
  gateAccountId : String

/-- The scans of the gates after the first, whose tickets follow those already found. -/
def scanGates : List GateKey → List (OwnedTicket τ) → EStateM String σ (List (OwnedTicket τ))
  | [], tickets => pure tickets
  | gate :: rest, tickets => do
      let result ← scanTickets library getTicket gate.ckdKey {}
      scanGates rest
        (tickets ++ result.tickets.map fun found => ⟨found.key, found.ticket, gate.gateAccountId⟩)

/-- `findOwnedTickets`: the current gate is the first, and the next index is its own. -/
def findOwnedTickets : List GateKey → EStateM String σ (List (OwnedTicket τ) × Nat)
  | [] => throw "no_ckd_key"
  | gate :: rest => do
      let result ← scanTickets library getTicket gate.ckdKey {}
      let tickets ← scanGates library getTicket rest
        (result.tickets.map fun found => ⟨found.key, found.ticket, gate.gateAccountId⟩)
      return (tickets, result.nextIndex)

/-- What one gate's scan adds to the owned tickets. -/
def RecoveryResult.ownedAt (result : RecoveryResult τ) (gateAccountId : String) :
    List (OwnedTicket τ) :=
  result.tickets.map fun found => ⟨found.key, found.ticket, gateAccountId⟩

/-- A gate was scanned, and its tickets are among these. -/
def GateScanned (tickets : List (OwnedTicket τ)) (gate : GateKey) : Prop :=
  ∃ s s' result, scanTickets library getTicket gate.ckdKey {} s = .ok result s' ∧
    ∀ owned ∈ result.ownedAt gate.gateAccountId, owned ∈ tickets

variable {library} {getTicket}

theorem scanGates_eq_ok {gates : List GateKey} {tickets all : List (OwnedTicket τ)} {s s' : σ}
    (h : scanGates library getTicket gates tickets s = .ok all s') :
    (∀ owned ∈ tickets, owned ∈ all) ∧ ∀ gate ∈ gates, GateScanned library getTicket all gate := by
  induction gates generalizing tickets s with
  | nil =>
    obtain ⟨rfl, -⟩ := Fallible.pure_eq_ok.mp h
    exact ⟨fun _ hmem => hmem, fun _ hmem => absurd hmem List.not_mem_nil⟩
  | cons gate rest ih =>
    obtain ⟨result, mid, hscan, h⟩ := Fallible.bind_eq_ok.mp h
    obtain ⟨hkept, hrest⟩ := ih h
    constructor
    · intro owned hmem
      exact hkept owned (List.mem_append_left _ hmem)
    · intro other hmem
      rcases List.mem_cons.mp hmem with rfl | hmem
      · refine ⟨s, mid, result, hscan, ?_⟩
        intro owned howned
        exact hkept owned (List.mem_append_right _ howned)
      · exact hrest other hmem

/-- Every gate of the session was scanned, and the next index is the current gate's. -/
theorem findOwnedTickets_eq_ok {gates : List GateKey} {all : List (OwnedTicket τ)}
    {nextIndex : Nat} {s s' : σ}
    (h : findOwnedTickets library getTicket gates s = .ok (all, nextIndex) s') :
    (∀ gate ∈ gates, GateScanned library getTicket all gate) ∧
      ∃ gate rest result mid, gates = gate :: rest ∧
        scanTickets library getTicket gate.ckdKey {} s = .ok result mid ∧
        result.nextIndex = nextIndex := by
  cases gates with
  | nil => exact absurd h Fallible.throw_ne_ok
  | cons gate rest =>
    obtain ⟨result, mid, hscan, h⟩ := Fallible.bind_eq_ok.mp h
    obtain ⟨tickets, last, hgates, h⟩ := Fallible.bind_eq_ok.mp h
    obtain ⟨heq, -⟩ := Fallible.pure_eq_ok.mp h
    obtain ⟨rfl, rfl⟩ := Prod.mk.inj heq
    obtain ⟨hkept, hrest⟩ := scanGates_eq_ok hgates
    refine ⟨?_, gate, rest, result, mid, rfl, hscan, rfl⟩
    intro other hmem
    rcases List.mem_cons.mp hmem with rfl | hmem
    · exact ⟨s, mid, result, hscan, hkept⟩
    · exact hrest other hmem

end Scan

/-! ## Two indexes have two ticket ids -/

/-- No collision of the library's functions on what the keys of one root pass them. -/
structure KeyLibrary.Separates (library : KeyLibrary) (root : Bytes) : Prop where
  hkdf : ∀ info info', info.length = 31 → info'.length = 31 →
    (library.hkdf root [] info 32).1 = (library.hkdf root [] info' 32).1 → info = info'
  ed25519PublicKey : ∀ seed seed', seed.length = 32 → seed'.length = 32 →
    library.ed25519PublicKey seed = library.ed25519PublicKey seed' → seed = seed'
  sha256 : ∀ raw raw', library.sha256 raw = library.sha256 raw' → raw = raw'

theorem ticketSeedInfo_length (index : Nat) : (ticketSeedInfo index).length = 31 := by
  have htext : (utf8 ticketInfo).length = 27 := by decide
  rw [ticketSeedInfo, List.length_append, htext]
  rfl

theorem uint32_injective {m n : Nat} (hm : m ≤ maxTicketIndex) (hn : n ≤ maxTicketIndex)
    (h : uint32 m = uint32 n) : m = n := by
  simp only [uint32, List.cons.injEq, and_true, ← UInt8.toNat_inj, UInt8.toNat_ofNat'] at h
  obtain ⟨h₃, h₂, h₁, h₀⟩ := h
  unfold maxTicketIndex at hm hn
  omega

section Ids

variable {library : KeyLibrary} {root ckdKey : Bytes} {index : Nat} {key : TicketKey}

theorem deriveRootKey_eq_ok : deriveRootKey library ckdKey = .ok root ↔
    ckdKey.length = 32 ∧ (library.hkdf ckdKey (utf8 rootSalt) (utf8 rootInfo) 32).1 = root := by
  simp only [deriveRootKey, bind_eq_ok, require_eq_ok, pure_eq_ok, exists_and_left]
  constructor
  · rintro ⟨hlength, -, rfl⟩
    exact ⟨hlength, rfl⟩
  · rintro ⟨hlength, rfl⟩
    exact ⟨hlength, ⟨⟩, rfl⟩

theorem root_length (h : deriveRootKey library ckdKey = .ok root) : root.length = 32 := by
  obtain ⟨-, rfl⟩ := deriveRootKey_eq_ok.mp h
  exact (library.hkdf _ _ _ 32).2

/-- The key at an index that has one. -/
def keyAt (library : KeyLibrary) (root : Bytes) (index : Nat) : TicketKey :=
  let seed := (library.hkdf root [] (ticketSeedInfo index) 32).1
  { index := index
    publicKey := nearPublicKey library (library.ed25519PublicKey seed)
    ticketId := ticketIdFromPublicKey library (library.ed25519PublicKey seed)
    sign := fun message => Base64.encode (library.ed25519Sign (utf8 message) seed) }

/-- The ticket id at an index. -/
def idAt (library : KeyLibrary) (root : Bytes) (index : Nat) : String :=
  (keyAt library root index).ticketId

theorem ticketKey_eq (hroot : root.length = 32) :
    ticketKey library root index =
      if index ≤ maxTicketIndex then .ok (keyAt library root index)
      else .error "invalid_ticket_index" := by
  unfold ticketKey deriveTicketSeed require
  rw [if_pos hroot]
  by_cases hindex : index ≤ maxTicketIndex
  · rw [if_pos hindex, if_pos hindex]
    rfl
  · rw [if_neg hindex, if_neg hindex]
    rfl

theorem ticketId_injective (h : library.Separates root) {i j : Nat} (hi : i ≤ maxTicketIndex)
    (hj : j ≤ maxTicketIndex) (heq : idAt library root i = idAt library root j) : i = j := by
  have hraw := h.sha256 _ _ (hex_injective heq)
  have hseed := h.ed25519PublicKey _ _ (library.hkdf _ _ _ 32).2 (library.hkdf _ _ _ 32).2 hraw
  have hinfo := h.hkdf _ _ (ticketSeedInfo_length i) (ticketSeedInfo_length j) hseed
  exact uint32_injective hi hj (List.append_cancel_left hinfo)

end Ids

/-! ## A scan of the chain -/

/-- `get_ticket` of a chain with these tickets, keeping the ids asked for. -/
def readChain {τ : Type} (chain : String → Option τ) (id : String) :
    EStateM String (List String) (Lookup τ) := fun reads =>
  .ok (match chain id with
    | none => .null
    | some ticket => .ticket ticket) (reads ++ [id])

section Chain

variable {library : KeyLibrary} {τ : Type} {root : Bytes} {chain : String → Option τ}

/-- The ticket at an index. -/
def ticketAt (library : KeyLibrary) (root : Bytes) (chain : String → Option τ) (index : Nat) :
    Option τ :=
  if index ≤ maxTicketIndex then chain (idAt library root index) else none

/-- What the scan has collected before an index. -/
def recoveredBefore (library : KeyLibrary) (root : Bytes) (chain : String → Option τ) (n : Nat) :
    List (RecoveredTicket τ) :=
  (entriesBefore (ticketAt library root chain) n).map fun entry =>
    ⟨keyAt library root entry.1, entry.2⟩

/-- The ids it has read. -/
def idsBefore (library : KeyLibrary) (root : Bytes) (n : Nat) : List String :=
  (List.range n).map (idAt library root)

theorem idsBefore_succ (n : Nat) :
    idsBefore library root (n + 1) = idsBefore library root n ++ [idAt library root n] := by
  simp [idsBefore, List.range_succ]

/-- How a scan ends: with the gap, at the caller's limit, or at the last index a key can have. -/
inductive ScanEnd (library : KeyLibrary) (root : Bytes) (chain : String → Option τ) (gap : Nat)
    (maxIndex : Int) : EStateM.Result String (List String) (RecoveryResult τ) → Prop where
  | gap {n : Nat} (hend : n = nextAfter (ticketAt library root chain) n + gap)
      (hlimit : (n : Int) ≤ maxIndex + 1) (hindex : n ≤ maxTicketIndex + 1) :
      ScanEnd library root chain gap maxIndex
        (.ok ⟨recoveredBefore library root chain n, nextAfter (ticketAt library root chain) n⟩
          (idsBefore library root n))
  | limit {n : Nat} (hon : n < nextAfter (ticketAt library root chain) n + gap)
      (hlimit : maxIndex < n) (hindex : n ≤ maxTicketIndex + 1) (reads : List String) :
      ScanEnd library root chain gap maxIndex (.error "recovery_scan_limit" reads)
  | index {n : Nat} (hon : n < nextAfter (ticketAt library root chain) n + gap)
      (hlimit : (n : Int) ≤ maxIndex) (hindex : n = maxTicketIndex + 1) (reads : List String) :
      ScanEnd library root chain gap maxIndex (.error "invalid_ticket_index" reads)

theorem scanFrom_end (hroot : root.length = 32) {gap : Nat} {maxIndex : Int} (fuel n : Nat)
    (hfuel : maxIndex + 2 ≤ n + fuel) (hon : n ≤ nextAfter (ticketAt library root chain) n + gap)
    (hgap : 1 ≤ gap) (hlimit : n = 0 ∨ (n : Int) ≤ maxIndex + 1) (hindex : n ≤ maxTicketIndex + 1) :
    ScanEnd library root chain gap maxIndex
      ((scanFrom library (readChain chain) root gap maxIndex fuel n
        (nextAfter (ticketAt library root chain) n) (recoveredBefore library root chain n)).run
        (idsBefore library root n)) := by
  induction fuel generalizing n with
  | zero =>
    -- Only a limit below the first index leaves no fuel.
    have hzero : n = 0 := by omega
    subst hzero
    exact .limit (by omega) (by omega) hindex _
  | succ fuel ih =>
    rw [scanFrom]
    by_cases hgo : n < nextAfter (ticketAt library root chain) n + gap
    · rw [if_pos (by exact_mod_cast hgo)]
      by_cases hpast : (n : Int) > maxIndex
      · rw [reject_pos hpast]
        exact .limit hgo (by omega) hindex _
      · rw [reject_neg hpast, ticketKey_eq hroot, pure_bind]
        by_cases hkey : n ≤ maxTicketIndex
        · rw [if_pos hkey]
          have hat : ticketAt library root chain n = chain (idAt library root n) := if_pos hkey
          -- One read: the id is logged and the loop goes on with what the chain has.
          have hread : (readChain chain (keyAt library root n).ticketId).run
              (idsBefore library root n) = .ok (match chain (idAt library root n) with
                | none => .null
                | some ticket => .ticket ticket) (idsBefore library root (n + 1)) := by
            rw [idsBefore_succ]
            rfl
          rw [settle_ok, pure_bind, EStateM.run_bind, hread]
          cases hfound : chain (idAt library root n) with
          | none =>
            rw [hfound] at hat
            have hnext := nextAfter_succ_none hat
            have hentries := entriesBefore_succ_none hat
            have hrest := ih (n + 1) (by omega) (by omega) (by omega) (by omega)
            rw [hnext, recoveredBefore, hentries] at hrest
            exact hrest
          | some ticket =>
            rw [hfound] at hat
            have hnext := nextAfter_succ_some hat
            have hentries := entriesBefore_succ_some hat
            have hrest := ih (n + 1) (by omega) (by omega) (by omega) (by omega)
            rw [hnext, recoveredBefore, hentries, List.map_append] at hrest
            exact hrest
        · rw [if_neg hkey, settle_error]
          exact .index hgo (by omega) (by omega) _
    · rw [if_neg (by exact_mod_cast hgo)]
      exact .gap (by omega) (by omega) hindex

theorem scanTickets_end (chain : String → Option τ) {ckdKey : Bytes}
    (hroot : deriveRootKey library ckdKey = .ok root) {options : ScanOptions} {gap : Nat}
    (hoptions : options.gapOrDefault = gap) (hgap : 1 ≤ gap) :
    ScanEnd library root chain gap options.maxIndexOrDefault
      ((scanTickets library (readChain chain) ckdKey options).run []) := by
  rw [scanTickets, hoptions, reject_neg (by omega), pure_bind, hroot, settle_ok, pure_bind]
  exact scanFrom_end (root_length hroot) _ 0 (by omega) (by omega) hgap (.inl rfl) (by omega)

/-! ## A scan of tickets without long gaps -/

/-- What a complete scan returns: the tickets of the key in index order, the index after the last
one, and it has read up to the gap after that. -/
structure Complete (library : KeyLibrary) (root : Bytes) (chain : String → Option τ) (gap : Nat)
    (result : RecoveryResult τ) (reads : List String) : Prop where
  mem_iff : ∀ key ticket, ⟨key, ticket⟩ ∈ result.tickets ↔
    ∃ index, ticketKey library root index = .ok key ∧ chain key.ticketId = some ticket
  ordered : result.tickets.Pairwise fun a b => a.key.index < b.key.index
  distinct : result.tickets.Pairwise fun a b => a.key.ticketId ≠ b.key.ticketId
  used_lt : ∀ index, (ticketAt library root chain index).isSome = true → index < result.nextIndex
  next_used : ∀ index, result.nextIndex = index + 1 →
    (ticketAt library root chain index).isSome = true
  reads : reads = idsBefore library root (result.nextIndex + gap)

theorem index_le_of_used {index : Nat}
    (h : (ticketAt library root chain index).isSome = true) : index ≤ maxTicketIndex := by
  by_contra hgt
  rw [ticketAt, if_neg hgt] at h
  cases h

theorem mem_recoveredBefore {n : Nat} {found : RecoveredTicket τ} :
    found ∈ recoveredBefore library root chain n ↔
      ∃ index < n, ticketAt library root chain index = some found.ticket ∧
        found.key = keyAt library root index := by
  simp only [recoveredBefore, List.mem_map]
  constructor
  · rintro ⟨⟨index, ticket⟩, hmem, rfl⟩
    obtain ⟨hlt, hat⟩ := mem_entriesBefore.mp hmem
    exact ⟨index, hlt, hat, rfl⟩
  · rintro ⟨index, hlt, hat, hkey⟩
    refine ⟨(index, found.ticket), mem_entriesBefore.mpr ⟨hlt, hat⟩, ?_⟩
    rw [← hkey]

theorem recoveredBefore_sorted (n : Nat) :
    (recoveredBefore library root chain n).Pairwise fun a b => a.key.index < b.key.index := by
  rw [recoveredBefore, List.pairwise_map]
  exact entriesBefore_sorted _ n

theorem complete_of_end (hroot : root.length = 32) (hseparates : library.Separates root)
    {gap n : Nat} (hdense : Dense gap (ticketAt library root chain))
    (hend : n = nextAfter (ticketAt library root chain) n + gap) :
    Complete library root chain gap
      ⟨recoveredBefore library root chain n, nextAfter (ticketAt library root chain) n⟩
      (idsBefore library root n) where
  mem_iff := by
    intro key ticket
    rw [mem_recoveredBefore]
    constructor
    · rintro ⟨index, -, hat, rfl⟩
      have hindex : index ≤ maxTicketIndex := index_le_of_used (by rw [hat]; rfl)
      rw [ticketAt, if_pos hindex] at hat
      exact ⟨index, by rw [ticketKey_eq hroot, if_pos hindex], hat⟩
    · rintro ⟨index, hkey, hticket⟩
      rw [ticketKey_eq hroot] at hkey
      split at hkey
      · next hindex =>
          obtain rfl := Except.ok.inj hkey
          have hat : ticketAt library root chain index = some ticket := by
            rw [ticketAt, if_pos hindex]
            exact hticket
          exact ⟨index, hdense.lt_of_end (Nat.le_of_eq hend.symm) (by rw [hat]; rfl), hat, rfl⟩
      · cases hkey
  ordered := recoveredBefore_sorted n
  distinct := by
    refine (recoveredBefore_sorted n).imp_of_mem ?_
    intro a b ha hb hlt hid
    obtain ⟨i, -, hati, hkeya⟩ := mem_recoveredBefore.mp ha
    obtain ⟨j, -, hatj, hkeyb⟩ := mem_recoveredBefore.mp hb
    rw [hkeya, hkeyb] at hlt hid
    have hsame := ticketId_injective hseparates (index_le_of_used (by rw [hati]; rfl))
      (index_le_of_used (by rw [hatj]; rfl)) hid
    exact absurd hsame (Nat.ne_of_lt hlt)
  used_lt := fun index hused =>
    lt_nextAfter (hdense.lt_of_end (Nat.le_of_eq hend.symm) hused) hused
  next_used := fun _ hnext => found_of_nextAfter hnext
  reads := congrArg (idsBefore library root) hend

end Chain

end Youtick.Web
