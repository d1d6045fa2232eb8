import Youtick.Lib.Text
import Youtick.PaymentService.Refunds

/-!
# Web: rebasing the clocks of an observed segment

`rebaseObservedSegment` of `lib/livepeer-hls-timeline.ts` adds an offset to the presentation and
decoding times of an MPEG transport stream. A time is a 33-bit count spread over five bytes, with a
marker bit at the end of the first, third and fifth. `rebase_shifts_clocks` is that a segment is
left as it is or changed in these fields alone, all of them by the same offset.

The additions are of doubles, so that a sum beyond 2^53 can be rounded, and a header with fewer than
nine bytes in its packet is passed over (`rebase_misses`).
-/

set_option autoImplicit false

namespace Youtick.Web

open Youtick.Lib
open Youtick.PaymentService (toDouble)

/-! ## The source -/

/-- `bytes[i]`; every index read is inside the buffer (`scanPacket_congr`). -/
def byteAt (bytes : Bytes) (i : Nat) : Nat := (bytes.getD i 0).toNat

/-- `PTS_WRAP` -/
def ptsWrap : Nat := 2 ^ 33

/-- `read`: the clock of the field at `p`. -/
def clock (bytes : Bytes) (p : Nat) : Nat :=
  (byteAt bytes p &&& 0x0e) * 536870912 + byteAt bytes (p + 1) * 4194304 +
    (byteAt bytes (p + 2) &&& 0xfe) * 16384 + byteAt bytes (p + 3) * 128 +
    (byteAt bytes (p + 4) &&& 0xfe) / 2

structure Scan where
  fields : List Nat
  videoFirst : Option Nat
  audioFirst : Option Nat

/-- Where the payload of a packet begins, when it has one. -/
def payloadStart (bytes : Bytes) (packet : Nat) : Option Nat :=
  let mode := byteAt bytes (packet + 3) >>> 4 &&& 3
  if mode = 0 ∨ mode = 2 then none
  else if mode = 3 then some (packet + 4 + (1 + byteAt bytes (packet + 4)))
  else some (packet + 4)

def isVideo (stream : Nat) : Bool := decide (0xe0 ≤ stream) && decide (stream ≤ 0xef)

def isAudio (stream : Nat) : Bool := decide (0xc0 ≤ stream) && decide (stream ≤ 0xdf)

/-- The three marker bits of a field. -/
def marked (bytes : Bytes) (p : Nat) : Bool :=
  byteAt bytes p &&& byteAt bytes (p + 2) &&& byteAt bytes (p + 4) &&& 1 != 0

/-- The bytes of the times by the flags of a header. -/
def timesLength (bytes : Bytes) (pes : Nat) : Nat :=
  if byteAt bytes (pes + 7) &&& 0x40 ≠ 0 then 10 else 5

/-- The fields of a header whose flags have the presentation time. -/
def clockPositions (bytes : Bytes) (pes : Nat) : List Nat :=
  if byteAt bytes (pes + 7) &&& 0x40 ≠ 0 then [pes + 9, pes + 14] else [pes + 9]

/-- One round of the loop over the packets; `none` returns the buffer. -/
def scanPacket (bytes : Bytes) (scan : Scan) (packet : Nat) : Option Scan :=
  if byteAt bytes packet ≠ 0x47 then none
  else if byteAt bytes (packet + 1) &&& 0x40 = 0 then some scan
  else
    match payloadStart bytes packet with
    | none => some scan
    | some pes =>
      if packet + 188 < pes + 9 then some scan
      else if byteAt bytes pes ≠ 0 ∨ byteAt bytes (pes + 1) ≠ 0 ∨ byteAt bytes (pes + 2) ≠ 1 then
        some scan
      else
        let stream := byteAt bytes (pes + 3)
        if (!isVideo stream && !isAudio stream) = true ∨ byteAt bytes (pes + 7) &&& 0x80 = 0 then
          some scan
        else
          let length := timesLength bytes pes
          if byteAt bytes (pes + 8) < length ∨ packet + 188 < pes + 9 + length then none
          else if (clockPositions bytes pes).all (marked bytes) = true then
            let first := some (clock bytes (pes + 9))
            some {
              fields := scan.fields ++ clockPositions bytes pes
              videoFirst :=
                if isVideo stream then scan.videoFirst <|> first else scan.videoFirst
              audioFirst :=
                if isAudio stream then scan.audioFirst <|> first else scan.audioFirst }
          else none

/-- Write the shifted clock of the input's field at `p`. -/
def writeClock (bytes : Bytes) (offset : Nat) (result : Bytes) (p : Nat) : Bytes :=
  let time := toDouble (clock bytes p + offset) % ptsWrap
  ((((result.set p
    (UInt8.ofNat ((byteAt bytes p &&& 0xf1) ||| (time / 1073741824 &&& 7) <<< 1))).set
    (p + 1) (UInt8.ofNat (time / 4194304 &&& 255))).set
    (p + 2) (UInt8.ofNat ((time / 32768 &&& 127) <<< 1 ||| 1))).set
    (p + 3) (UInt8.ofNat (time / 128 &&& 255))).set
    (p + 4) (UInt8.ofNat ((time &&& 127) <<< 1 ||| 1))

/-- The starts of the packets. -/
def packets (bytes : Bytes) : List Nat := (List.range (bytes.length / 188)).map (188 * ·)

def rebaseObservedSegment (bytes : Bytes) (offset : Nat) : Bytes :=
  if offset = 0 ∨ bytes.length % 188 ≠ 0 then bytes
  else
    match (packets bytes).foldlM (scanPacket bytes) ⟨[], none, none⟩ with
    | none => bytes
    | some scan =>
      if scan.videoFirst = some 135000 ∧
          scan.audioFirst.any
            (fun first => decide (126000 ≤ first) && decide (first ≤ 132000)) = true
      then scan.fields.foldl (writeClock bytes offset) bytes
      else bytes

/-! ## The fields of a stream -/

/-- An audio or video PES header with a presentation time begins at `pes`, where the payload of a
packet with a payload unit start does, and has its first nine bytes in the packet. -/
structure TimedHeader (bytes : Bytes) (packet pes : Nat) : Prop where
  start : packet % 188 = 0 ∧ packet + 188 ≤ bytes.length
  unitStart : byteAt bytes (packet + 1) &&& 0x40 ≠ 0
  payload : payloadStart bytes packet = some pes
  fits : pes + 9 ≤ packet + 188
  startCode : byteAt bytes pes = 0 ∧ byteAt bytes (pes + 1) = 0 ∧ byteAt bytes (pes + 2) = 1
  stream : isVideo (byteAt bytes (pes + 3)) = true ∨ isAudio (byteAt bytes (pes + 3)) = true
  timed : byteAt bytes (pes + 7) &&& 0x80 ≠ 0

/-- `p` is a field of a packet's header. -/
def FieldIn (bytes : Bytes) (packet p : Nat) : Prop :=
  ∃ pes, TimedHeader bytes packet pes ∧ p ∈ clockPositions bytes pes

/-- `p` is a presentation or decoding time of the stream. -/
def ClockField (bytes : Bytes) (p : Nat) : Prop := ∃ packet, FieldIn bytes packet p

/-- All the fields are shifted, and nothing else is changed. -/
structure Rebased (bytes : Bytes) (offset : Nat) (result : Bytes) : Prop where
  length : result.length = bytes.length
  frame : ∀ i, byteAt result i ≠ byteAt bytes i → ∃ p, ClockField bytes p ∧ p ≤ i ∧ i < p + 5
  shifted : ∀ p, ClockField bytes p → clock result p = (clock bytes p + offset) % ptsWrap
  kept : ∀ p, ClockField bytes p → byteAt result p &&& 0xf1 = byteAt bytes p &&& 0xf1 ∧
    byteAt result (p + 2) &&& 1 = byteAt bytes (p + 2) &&& 1 ∧
    byteAt result (p + 4) &&& 1 = byteAt bytes (p + 4) &&& 1
  differences : ∀ p q, ClockField bytes p → ClockField bytes q →
    ((clock result p : Int) - clock result q) % ptsWrap =
      ((clock bytes p : Int) - clock bytes q) % ptsWrap
  inside : ∀ packet p, FieldIn bytes packet p → packet ≤ p ∧ p + 5 ≤ packet + 188

/-! ## Bits -/

theorem byteAt_lt (bytes : Bytes) (i : Nat) : byteAt bytes i < 256 := (bytes.getD i 0).toNat_lt

section Bits

theorem and_seven_shift {b n : Nat} (hb : b < 256) :
    ((b &&& 0xf1) ||| (n &&& 7) <<< 1) < 256 ∧
      ((b &&& 0xf1) ||| (n &&& 7) <<< 1) &&& 0x0e = n % 8 * 2 ∧
      ((b &&& 0xf1) ||| (n &&& 7) <<< 1) &&& 0xf1 = b &&& 0xf1 := by
  have hmask : n &&& 7 = n % 8 := Nat.and_two_pow_sub_one_eq_mod n 3
  have hall : ∀ b : Fin 256, ∀ m : Fin 8, ((b.val &&& 0xf1) ||| m.val <<< 1) < 256 ∧
      ((b.val &&& 0xf1) ||| m.val <<< 1) &&& 0x0e = m.val * 2 ∧
      ((b.val &&& 0xf1) ||| m.val <<< 1) &&& 0xf1 = b.val &&& 0xf1 := by
    decide +kernel
  rw [hmask]
  exact hall ⟨b, hb⟩ ⟨n % 8, Nat.mod_lt n (by decide)⟩

theorem and_shift_marker (n : Nat) : ((n &&& 127) <<< 1 ||| 1) < 256 ∧
    ((n &&& 127) <<< 1 ||| 1) &&& 0xfe = n % 128 * 2 ∧ ((n &&& 127) <<< 1 ||| 1) &&& 1 = 1 := by
  have hmask : n &&& 127 = n % 128 := Nat.and_two_pow_sub_one_eq_mod n 7
  have hall : ∀ m : Fin 128, (m.val <<< 1 ||| 1) < 256 ∧
      (m.val <<< 1 ||| 1) &&& 0xfe = m.val * 2 ∧ (m.val <<< 1 ||| 1) &&& 1 = 1 := by
    decide +kernel
  rw [hmask]
  exact hall ⟨n % 128, Nat.mod_lt n (by decide)⟩

theorem and_byte (n : Nat) : n &&& 255 = n % 256 := Nat.and_two_pow_sub_one_eq_mod n 8

/-- The five parts of a 33-bit count. -/
theorem clock_parts {time : Nat} (h : time < ptsWrap) :
    time / 1073741824 % 8 * 2 * 536870912 + time / 4194304 % 256 * 4194304 +
      time / 32768 % 128 * 2 * 16384 + time / 128 % 256 * 128 + time % 128 * 2 / 2 = time := by
  unfold ptsWrap at h
  omega

end Bits

/-! ## Writing a field -/

section Write

variable {bytes result : Bytes} {offset p i : Nat}

theorem byteAt_set (hp : p < result.length) (n : Nat) (hn : n < 256) :
    byteAt (result.set p (UInt8.ofNat n)) i = if i = p then n else byteAt result i := by
  unfold byteAt
  by_cases heq : i = p
  · subst heq
    rw [if_pos rfl, List.getD_eq_getElem?_getD, List.getElem?_set_self hp, Option.getD_some]
    exact UInt8.toNat_ofNat_of_lt' hn
  · rw [if_neg heq, List.getD_eq_getElem?_getD, List.getElem?_set_ne (Ne.symm heq),
      List.getD_eq_getElem?_getD]

@[simp] theorem length_writeClock :
    (writeClock bytes offset result p).length = result.length := by
  simp [writeClock]

/-- The bytes after a write: the five of the field, and the others as before. -/
theorem byteAt_writeClock (hp : p + 5 ≤ result.length) (time : Nat)
    (htime : toDouble (clock bytes p + offset) % ptsWrap = time) :
    byteAt (writeClock bytes offset result p) i =
      if i = p + 4 then (time &&& 127) <<< 1 ||| 1
      else if i = p + 3 then time / 128 &&& 255
      else if i = p + 2 then (time / 32768 &&& 127) <<< 1 ||| 1
      else if i = p + 1 then time / 4194304 &&& 255
      else if i = p then (byteAt bytes p &&& 0xf1) ||| (time / 1073741824 &&& 7) <<< 1
      else byteAt result i := by
  have hbyte : ∀ n : Nat, n &&& 255 < 256 := fun n => by
    rw [and_byte]
    exact Nat.mod_lt n (by decide)
  unfold writeClock
  rw [htime]
  dsimp only
  rw [byteAt_set (by simp; omega) _ (and_shift_marker time).1,
    byteAt_set (by simp; omega) _ (hbyte _),
    byteAt_set (by simp; omega) _ (and_shift_marker _).1,
    byteAt_set (by simp; omega) _ (hbyte _),
    byteAt_set (by omega) _ (and_seven_shift (byteAt_lt bytes p)).1]

theorem markers_of_marked (h : marked bytes p = true) : byteAt bytes p &&& 1 = 1 ∧
    byteAt bytes (p + 2) &&& 1 = 1 ∧ byteAt bytes (p + 4) &&& 1 = 1 := by
  simp only [marked, bne_iff_ne, ne_eq, Nat.and_one_is_mod] at h ⊢
  have hone : (byteAt bytes p &&& byteAt bytes (p + 2) &&& byteAt bytes (p + 4)) % 2 = 1 := by
    omega
  rw [Nat.and_mod_two_eq_one, Nat.and_mod_two_eq_one] at hone
  exact ⟨hone.1.1, hone.1.2, hone.2⟩

/-- What is read back is the shifted clock; prefix and markers are the input's. -/
theorem clock_of_bytes (hmarked : marked bytes p = true) (time : Nat)
    (htime : time < ptsWrap)
    (h₀ : byteAt result p = (byteAt bytes p &&& 0xf1) ||| (time / 1073741824 &&& 7) <<< 1)
    (h₁ : byteAt result (p + 1) = time / 4194304 &&& 255)
    (h₂ : byteAt result (p + 2) = (time / 32768 &&& 127) <<< 1 ||| 1)
    (h₃ : byteAt result (p + 3) = time / 128 &&& 255)
    (h₄ : byteAt result (p + 4) = (time &&& 127) <<< 1 ||| 1) :
    clock result p = time ∧ byteAt result p &&& 0xf1 = byteAt bytes p &&& 0xf1 ∧
      byteAt result (p + 2) &&& 1 = byteAt bytes (p + 2) &&& 1 ∧
      byteAt result (p + 4) &&& 1 = byteAt bytes (p + 4) &&& 1 := by
  obtain ⟨-, hclock, hlead⟩ :=
    and_seven_shift (n := time / 1073741824) (byteAt_lt bytes p)
  obtain ⟨-, hthird, hthirdMarker⟩ := and_shift_marker (time / 32768)
  obtain ⟨-, hlast, hlastMarker⟩ := and_shift_marker time
  obtain ⟨-, hthirdOne, hlastOne⟩ := markers_of_marked hmarked
  refine ⟨?_, ?_, ?_, ?_⟩
  · rw [clock, h₀, h₁, h₂, h₃, h₄, hclock, hthird, hlast, and_byte, and_byte]
    exact clock_parts htime
  · rw [h₀, hlead]
  · rw [h₂, hthirdMarker, hthirdOne]
  · rw [h₄, hlastMarker, hlastOne]

/-- After writing fields that do not overlap, each has its new bytes and the rest is the input. -/
theorem byteAt_writeClocks (bytes : Bytes) (offset : Nat) {fields : List Nat}
    (hgaps : fields.Pairwise fun a b => a + 5 ≤ b)
    (hinside : ∀ q ∈ fields, q + 5 ≤ result.length) :
    (fields.foldl (writeClock bytes offset) result).length = result.length ∧
      (∀ i, (∀ q ∈ fields, ¬ (q ≤ i ∧ i < q + 5)) →
        byteAt (fields.foldl (writeClock bytes offset) result) i = byteAt result i) ∧
      ∀ q ∈ fields, ∀ k < 5, byteAt (fields.foldl (writeClock bytes offset) result) (q + k) =
        byteAt (writeClock bytes offset result q) (q + k) := by
  induction fields generalizing result with
  | nil =>
    refine ⟨rfl, fun _ _ => rfl, ?_⟩
    intro q hq
    cases hq
  | cons first rest ih =>
    obtain ⟨hfirst, hrest⟩ := List.pairwise_cons.mp hgaps
    have hroom : first + 5 ≤ result.length := hinside first List.mem_cons_self
    have hlength : (writeClock bytes offset result first).length = result.length :=
      length_writeClock
    have hothers : ∀ q ∈ rest, q + 5 ≤ (writeClock bytes offset result first).length := by
      intro q hq
      rw [hlength]
      exact hinside q (List.mem_cons_of_mem _ hq)
    obtain ⟨hlengthRest, hframe, hwritten⟩ := ih hrest hothers
    rw [List.foldl_cons]
    refine ⟨hlengthRest.trans hlength, ?_, ?_⟩
    · intro i hi
      rw [hframe i fun q hq => hi q (List.mem_cons_of_mem _ hq),
        byteAt_writeClock hroom _ rfl]
      have hnot := hi first List.mem_cons_self
      simp only [show i ≠ first + 4 by omega, show i ≠ first + 3 by omega,
        show i ≠ first + 2 by omega, show i ≠ first + 1 by omega, show i ≠ first by omega,
        if_false]
    · intro q hq k hk
      rcases List.mem_cons.mp hq with rfl | hq
      · apply hframe
        intro other hother
        have hgap := hfirst other hother
        omega
      · have hgap := hfirst q hq
        rw [hwritten q hq k hk, byteAt_writeClock (hothers q hq) _ rfl,
          byteAt_writeClock (hinside q (List.mem_cons_of_mem _ hq)) _ rfl]
        -- The first field's bytes lie before this one's.
        have hsame : byteAt (writeClock bytes offset result first) (q + k) =
            byteAt result (q + k) := by
          rw [byteAt_writeClock hroom _ rfl]
          simp only [show q + k ≠ first + 4 by omega, show q + k ≠ first + 3 by omega,
            show q + k ≠ first + 2 by omega, show q + k ≠ first + 1 by omega,
            show q + k ≠ first by omega, if_false]
        rw [hsame]

end Write

/-! ## Scanning a packet -/

section Scanning

variable {bytes : Bytes} {packet pes p : Nat} {scan scan' : Scan}

theorem clockPositions_bounds (h : p ∈ clockPositions bytes pes) :
    pes + 9 ≤ p ∧ p + 5 ≤ pes + 9 + timesLength bytes pes := by
  unfold clockPositions at h
  unfold timesLength
  split at h
  · next hflag =>
      rw [if_pos hflag]
      rcases List.mem_cons.mp h with rfl | h
      · omega
      · rw [List.mem_singleton.mp h]
        omega
  · next hflag =>
      rw [if_neg hflag, List.mem_singleton.mp h]
      omega

theorem clockPositions_gaps : (clockPositions bytes pes).Pairwise fun a b => a + 5 ≤ b := by
  unfold clockPositions
  split
  · simp
  · simp

theorem le_of_payloadStart (h : payloadStart bytes packet = some pes) : packet + 4 ≤ pes := by
  unfold payloadStart at h
  dsimp only at h
  split at h
  · cases h
  · split at h
    · obtain rfl := Option.some.inj h
      omega
    · obtain rfl := Option.some.inj h
      omega

/-- What a round adds: the fields of the packet's header, inside the packet and marked. -/
structure AddedFields (bytes : Bytes) (packet : Nat) (new : List Nat) : Prop where
  mem_iff : ∀ p, p ∈ new ↔ FieldIn bytes packet p
  inside : ∀ p ∈ new, packet ≤ p ∧ p + 5 ≤ packet + 188
  marked : ∀ p ∈ new, marked bytes p = true
  gaps : new.Pairwise fun a b => a + 5 ≤ b

theorem AddedFields.nil (h : ∀ pes, ¬ TimedHeader bytes packet pes) : AddedFields bytes packet [] where
  mem_iff := by
    intro p
    constructor
    · intro hmem
      cases hmem
    · rintro ⟨pes, hheader, -⟩
      exact absurd hheader (h pes)
  inside := fun _ hmem => absurd hmem List.not_mem_nil
  marked := fun _ hmem => absurd hmem List.not_mem_nil
  gaps := .nil

theorem scanPacket_eq_some (hstart : packet % 188 = 0 ∧ packet + 188 ≤ bytes.length)
    (h : scanPacket bytes scan packet = some scan') :
    ∃ new, scan'.fields = scan.fields ++ new ∧ AddedFields bytes packet new := by
  have hnone : scan' = scan → (∀ pes, ¬ TimedHeader bytes packet pes) →
      ∃ new, scan'.fields = scan.fields ++ new ∧ AddedFields bytes packet new := by
    rintro rfl hheader
    exact ⟨[], (List.append_nil _).symm, .nil hheader⟩
  unfold scanPacket at h
  split at h
  · cases h
  split at h
  · next hunit =>
      exact hnone (Option.some.inj h).symm fun pes hheader => hheader.unitStart hunit
  next hunit =>
  split at h
  · next hpayload =>
      refine hnone (Option.some.inj h).symm fun pes hheader => ?_
      cases hpayload.symm.trans hheader.payload
  next pes hpayload =>
  -- A header of this packet begins where its payload does.
  have hat : ∀ other, TimedHeader bytes packet other → other = pes := fun other hheader =>
    Option.some.inj (hheader.payload.symm.trans hpayload)
  split at h
  · next hsplit =>
      refine hnone (Option.some.inj h).symm fun other hheader => ?_
      obtain rfl := hat other hheader
      exact absurd hheader.fits (Nat.not_le.mpr hsplit)
  next hfits =>
  split at h
  · next hcode =>
      refine hnone (Option.some.inj h).symm fun other hheader => ?_
      obtain rfl := hat other hheader
      obtain ⟨hzero, hone, htwo⟩ := hheader.startCode
      rcases hcode with hcode | hcode | hcode
      · exact hcode hzero
      · exact hcode hone
      · exact hcode htwo
  next hcode =>
  dsimp only at h
  split at h
  · next hother =>
      refine hnone (Option.some.inj h).symm fun other hheader => ?_
      obtain rfl := hat other hheader
      rcases hother with hother | hother
      · rcases hheader.stream with hstream | hstream
        · rw [hstream] at hother
          cases hother
        · rw [hstream, Bool.not_true, Bool.and_false] at hother
          cases hother
      · exact hheader.timed hother
  next hstream =>
  split at h
  · cases h
  next hroom =>
  split at h
  · next hmarked =>
      obtain rfl := Option.some.inj h
      refine ⟨clockPositions bytes pes, rfl, ?_, ?_, ?_, clockPositions_gaps⟩
      · intro p
        constructor
        · intro hmem
          refine ⟨pes, ⟨hstart, hunit, hpayload, Nat.not_lt.mp hfits, ?_, ?_, ?_⟩, hmem⟩
          · simpa [not_or] using hcode
          · by_contra hneither
            rw [not_or, Bool.not_eq_true, Bool.not_eq_true] at hneither
            exact hstream (.inl (by rw [hneither.1, hneither.2]; rfl))
          · exact fun htimed => hstream (.inr htimed)
        · rintro ⟨other, hheader, hmem⟩
          obtain rfl := hat other hheader
          exact hmem
      · intro p hmem
        have hbounds := clockPositions_bounds hmem
        have hpes := le_of_payloadStart hpayload
        rw [not_or] at hroom
        omega
      · exact List.all_eq_true.mp hmarked
  · cases h

/-- A round reads its packet's bytes only. -/
theorem scanPacket_congr {bytes' : Bytes}
    (h : ∀ i, packet ≤ i → i < packet + 188 → byteAt bytes' i = byteAt bytes i) :
    scanPacket bytes' scan packet = scanPacket bytes scan packet := by
  have hpayload : payloadStart bytes' packet = payloadStart bytes packet := by
    unfold payloadStart
    rw [h (packet + 3) (by omega) (by omega), h (packet + 4) (by omega) (by omega)]
  unfold scanPacket
  rw [h packet (by omega) (by omega), h (packet + 1) (by omega) (by omega), hpayload]
  cases hstart : payloadStart bytes packet with
  | none => rfl
  | some pes =>
    have hpes := le_of_payloadStart hstart
    dsimp only
    by_cases hfits : packet + 188 < pes + 9
    · simp only [if_pos hfits]
    · have hlength : timesLength bytes' pes = timesLength bytes pes := by
        unfold timesLength
        rw [h (pes + 7) (by omega) (by omega)]
      have hpositions : clockPositions bytes' pes = clockPositions bytes pes := by
        unfold clockPositions
        rw [h (pes + 7) (by omega) (by omega)]
      rw [h pes (by omega) (by omega), h (pes + 1) (by omega) (by omega),
        h (pes + 2) (by omega) (by omega), h (pes + 3) (by omega) (by omega),
        h (pes + 7) (by omega) (by omega), h (pes + 8) (by omega) (by omega), hlength,
        hpositions]
      by_cases hroom : byteAt bytes (pes + 8) < timesLength bytes pes ∨
          packet + 188 < pes + 9 + timesLength bytes pes
      · simp only [if_pos hroom]
      · rw [not_or, Nat.not_lt, Nat.not_lt] at hroom
        -- The fields lie in the packet, and so do the bytes of their clocks.
        have hclock : ∀ p ∈ clockPositions bytes pes,
            marked bytes' p = marked bytes p ∧ clock bytes' p = clock bytes p := by
          intro p hp
          have hbounds := clockPositions_bounds hp
          unfold marked clock
          rw [h p (by omega) (by omega), h (p + 1) (by omega) (by omega),
            h (p + 2) (by omega) (by omega), h (p + 3) (by omega) (by omega),
            h (p + 4) (by omega) (by omega)]
          exact ⟨rfl, rfl⟩
        have hall : (clockPositions bytes pes).all (marked bytes') =
            (clockPositions bytes pes).all (marked bytes) := by
          rw [Bool.eq_iff_iff, List.all_eq_true, List.all_eq_true]
          exact forall₂_congr fun p hp => by rw [(hclock p hp).1]
        have hfirst : pes + 9 ∈ clockPositions bytes pes := by
          unfold clockPositions
          split <;> simp
        rw [hall, (hclock _ hfirst).2]

/-- The fields found in the packets before the `n`-th. -/
structure Found (bytes : Bytes) (n : Nat) (fields : List Nat) : Prop where
  mem_iff : ∀ p, p ∈ fields ↔ ∃ k < n, FieldIn bytes (188 * k) p
  within : ∀ k < n, ∀ p, FieldIn bytes (188 * k) p → 188 * k ≤ p ∧ p + 5 ≤ 188 * k + 188
  marked : ∀ p ∈ fields, marked bytes p = true
  gaps : fields.Pairwise fun a b => a + 5 ≤ b

theorem Found.inside {n : Nat} {fields : List Nat} (h : Found bytes n fields) (hp : p ∈ fields) :
    p + 5 ≤ 188 * n := by
  obtain ⟨k, hk, hfield⟩ := (h.mem_iff p).mp hp
  have hwithin := h.within k hk p hfield
  omega

theorem Found.append {n : Nat} {fields new : List Nat} (hfields : Found bytes n fields)
    (hnew : AddedFields bytes (188 * n) new) : Found bytes (n + 1) (fields ++ new) where
  mem_iff := by
    intro p
    rw [List.mem_append, hfields.mem_iff, hnew.mem_iff]
    constructor
    · rintro (⟨k, hk, hfield⟩ | hfield)
      · exact ⟨k, Nat.lt_succ_of_lt hk, hfield⟩
      · exact ⟨n, Nat.lt_succ_self n, hfield⟩
    · rintro ⟨k, hk, hfield⟩
      rcases Nat.lt_succ_iff_lt_or_eq.mp hk with hlt | rfl
      · exact .inl ⟨k, hlt, hfield⟩
      · exact .inr hfield
  within := by
    intro k hk p hfield
    rcases Nat.lt_succ_iff_lt_or_eq.mp hk with hlt | rfl
    · exact hfields.within k hlt p hfield
    · exact hnew.inside p ((hnew.mem_iff p).mpr hfield)
  marked := by
    intro p hp
    rcases List.mem_append.mp hp with hp | hp
    · exact hfields.marked p hp
    · exact hnew.marked p hp
  gaps := by
    refine List.pairwise_append.mpr ⟨hfields.gaps, hnew.gaps, ?_⟩
    intro a ha b hb
    have hbefore := hfields.inside ha
    have hafter := (hnew.inside b hb).1
    omega

theorem found_of_scan (n : Nat) (hn : 188 * n ≤ bytes.length)
    (h : ((List.range n).map (188 * ·)).foldlM (scanPacket bytes) ⟨[], none, none⟩ = some scan) :
    Found bytes n scan.fields := by
  induction n generalizing scan with
  | zero =>
    obtain rfl := Option.some.inj h
    refine ⟨?_, ?_, ?_, .nil⟩
    · intro p
      constructor
      · intro hp
        cases hp
      · rintro ⟨k, hk, -⟩
        cases hk
    · intro k hk
      cases hk
    · intro p hp
      cases hp
  | succ n ih =>
    rw [List.range_succ, List.map_append, List.foldlM_append] at h
    obtain ⟨before, hbefore, h⟩ := Option.bind_eq_some_iff.mp h
    rw [List.map_singleton, List.foldlM_cons] at h
    obtain ⟨after, hround, h⟩ := Option.bind_eq_some_iff.mp h
    obtain rfl := Option.some.inj h
    obtain ⟨new, hfields, hadded⟩ :=
      scanPacket_eq_some ⟨Nat.mul_mod_right 188 n, by omega⟩ hround
    rw [hfields]
    exact (ih (by omega) hbefore).append hadded

end Scanning

/-! ## The result -/

theorem rebased_of_found {bytes : Bytes} {offset n : Nat} {fields : List Nat}
    (hfound : Found bytes n fields) (hn : 188 * n = bytes.length)
    (hexact : ∀ p, ClockField bytes p →
      toDouble (clock bytes p + offset) = clock bytes p + offset) :
    Rebased bytes offset (fields.foldl (writeClock bytes offset) bytes) := by
  have hroom : ∀ p ∈ fields, p + 5 ≤ bytes.length := by
    intro p hp
    have hinside := hfound.inside hp
    omega
  have hpacket : ∀ packet p, FieldIn bytes packet p → ∃ k < n, packet = 188 * k := by
    rintro packet p ⟨pes, hheader, -⟩
    obtain ⟨hstart, hwhole⟩ := hheader.start
    exact ⟨packet / 188, by omega, by omega⟩
  have hmem : ∀ p, p ∈ fields ↔ ClockField bytes p := by
    intro p
    rw [hfound.mem_iff]
    constructor
    · rintro ⟨k, -, hfield⟩
      exact ⟨188 * k, hfield⟩
    · rintro ⟨packet, hfield⟩
      obtain ⟨k, hk, rfl⟩ := hpacket packet p hfield
      exact ⟨k, hk, hfield⟩
  obtain ⟨hlength, hframe, hwritten⟩ :=
    byteAt_writeClocks bytes offset hfound.gaps hroom
  generalize fields.foldl (writeClock bytes offset) bytes = result at hlength hframe hwritten
  have hfield : ∀ p, ClockField bytes p →
      clock result p = (clock bytes p + offset) % ptsWrap ∧
        byteAt result p &&& 0xf1 = byteAt bytes p &&& 0xf1 ∧
        byteAt result (p + 2) &&& 1 = byteAt bytes (p + 2) &&& 1 ∧
        byteAt result (p + 4) &&& 1 = byteAt bytes (p + 4) &&& 1 := by
    intro p hp
    have hin := (hmem p).mpr hp
    have htime : toDouble (clock bytes p + offset) % ptsWrap =
        (clock bytes p + offset) % ptsWrap := by rw [hexact p hp]
    have hbyte : ∀ k < 5,
        byteAt result (p + k) = byteAt (writeClock bytes offset bytes p) (p + k) :=
      hwritten p hin
    have hwrite := fun i => byteAt_writeClock (i := i) (hroom p hin) _ htime
    refine clock_of_bytes (hfound.marked p hin) _ (Nat.mod_lt _ (by decide)) ?_ ?_ ?_ ?_ ?_
    · have hfirst := (hbyte 0 (by decide)).trans (hwrite (p + 0))
      simpa using hfirst
    · have hsecond := (hbyte 1 (by decide)).trans (hwrite (p + 1))
      simpa using hsecond
    · have hthird := (hbyte 2 (by decide)).trans (hwrite (p + 2))
      simpa using hthird
    · have hfourth := (hbyte 3 (by decide)).trans (hwrite (p + 3))
      simpa using hfourth
    · have hlast := (hbyte 4 (by decide)).trans (hwrite (p + 4))
      simpa using hlast
  refine ⟨hlength, ?_, fun p hp => (hfield p hp).1, fun p hp => (hfield p hp).2, ?_, ?_⟩
  · intro i hchanged
    by_contra hnone
    apply hchanged
    apply hframe
    intro p hp hrange
    exact hnone ⟨p, (hmem p).mp hp, hrange⟩
  · intro p q hp hq
    rw [(hfield p hp).1, (hfield q hq).1]
    unfold ptsWrap
    omega
  · intro packet p hin
    obtain ⟨k, hk, rfl⟩ := hpacket packet p hin
    exact hfound.within k hk p hin

/-- A segment comes back as it is, or with all its clocks shifted by the offset and nothing else
changed, when the sums are exact; and a packet is scanned by its own bytes. -/
theorem rebase_shifts_clocks (bytes : Bytes) (offset : Nat)
    (hexact : ∀ p, ClockField bytes p →
      toDouble (clock bytes p + offset) = clock bytes p + offset) :
    (rebaseObservedSegment bytes offset = bytes ∨
      Rebased bytes offset (rebaseObservedSegment bytes offset)) ∧
    ∀ packet scan other,
      (∀ i, packet ≤ i → i < packet + 188 → byteAt other i = byteAt bytes i) →
      scanPacket other scan packet = scanPacket bytes scan packet := by
  constructor
  · unfold rebaseObservedSegment
    split
    · exact .inl rfl
    · next hinput =>
        rw [not_or, not_not] at hinput
        split
        · exact .inl rfl
        · next scan hscan =>
            split
            · right
              have hlength : 188 * (bytes.length / 188) = bytes.length := by omega
              exact rebased_of_found (found_of_scan _ (Nat.le_of_eq hlength) hscan) hlength hexact
            · exact .inl rfl
  · intro packet scan other hsame
    exact scanPacket_congr hsame

/-! ## Two segments -/

theorem clock_lt (bytes : Bytes) (p : Nat) : clock bytes p < ptsWrap := by
  have hfirst : byteAt bytes p &&& 0x0e ≤ 0x0e := Nat.and_le_right
  have hsecond := byteAt_lt bytes (p + 1)
  have hthird : byteAt bytes (p + 2) &&& 0xfe ≤ 0xfe := Nat.and_le_right
  have hfourth := byteAt_lt bytes (p + 3)
  have hlast : byteAt bytes (p + 4) &&& 0xfe ≤ 0xfe := Nat.and_le_right
  unfold clock ptsWrap
  omega

/-- Sums below 2^53 are exact. -/
theorem toDouble_clock {bytes : Bytes} {offset : Nat} (h : offset ≤ 2 ^ 53 - ptsWrap) (p : Nat) :
    toDouble (clock bytes p + offset) = clock bytes p + offset := by
  have hclock := clock_lt bytes p
  unfold ptsWrap at h hclock
  exact if_pos (by omega)

namespace Vectors

/-- A field with this first nibble. -/
def clockBytes (lead time : Nat) : Bytes :=
  [lead + time / 1073741824 % 8 * 2 + 1, time / 4194304 % 256, time / 32768 % 128 * 2 + 1,
    time / 128 % 256, time % 128 * 2 + 1].map UInt8.ofNat

/-- A packet filled up to its 188 bytes. -/
def filled (head : Bytes) : Bytes := head ++ List.replicate (188 - head.length) 0xff

/-- A video packet with both times and an audio packet with one. -/
def observedSegment : Bytes :=
  filled ([0x47, 0x40, 0, 0x10, 0, 0, 1, 0xe0, 0, 0, 0x80, 0xc0, 10] ++ clockBytes 0x30 135000 ++
    clockBytes 0x10 129000) ++
  filled ([0x47, 0x40, 0, 0x10, 0, 0, 1, 0xc0, 0, 0, 0x80, 0x80, 5] ++ clockBytes 0x20 127541)

/-- Then a video header whose first eight bytes end one packet and whose time begins the next. -/
def splitSegment : Bytes :=
  observedSegment ++
  ([0x47, 0x40, 0, 0x30, 175] ++ List.replicate 175 0xff ++ [0, 0, 1, 0xe0, 0, 0, 0x80, 0x80]) ++
  filled ([0x47, 0, 0, 0x10, 5] ++ clockBytes 0x20 141000)

end Vectors

/-- An offset of 2^53 changes the audio time of the segment by one, and the time of the header that
is split is left behind when the others are shifted. -/
theorem rebase_misses :
    (ClockField Vectors.observedSegment 201 ∧
      clock (rebaseObservedSegment Vectors.observedSegment (2 ^ 53)) 201 ≠
        (clock Vectors.observedSegment 201 + 2 ^ 53) % ptsWrap) ∧
    clock (rebaseObservedSegment Vectors.splitSegment 1088550) 13 =
        clock Vectors.splitSegment 13 + 1088550 ∧
      clock Vectors.splitSegment 569 = 141000 ∧
      clock (rebaseObservedSegment Vectors.splitSegment 1088550) 569 = 141000 := by
  refine ⟨⟨⟨188, 192, ⟨?_, ?_, ?_, ?_, ?_, ?_, ?_⟩, ?_⟩, ?_⟩, ?_, ?_, ?_⟩
  all_goals decide +kernel

/-- The observed segment is rebased. -/
theorem rebase_observedSegment : Rebased Vectors.observedSegment 1088550
    (rebaseObservedSegment Vectors.observedSegment 1088550) := by
  have hrebase := (rebase_shifts_clocks Vectors.observedSegment 1088550 fun p _ =>
    toDouble_clock (by decide) p).1
  have hchanged : clock (rebaseObservedSegment Vectors.observedSegment 1088550) 13 ≠
      clock Vectors.observedSegment 13 := by decide +kernel
  refine hrebase.resolve_left ?_
  intro hsame
  rw [hsame] at hchanged
  exact hchanged rfl

end Youtick.Web
