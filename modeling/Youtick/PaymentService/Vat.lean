import Youtick.MarketV2.Checks
import Youtick.PaymentService.Config
import Mathlib.Data.Rat.Floor

/-!
# Payment service: the VAT share

The service reads a ticket price from the Market and attests the VAT it contains; the contract splits
the same price and refuses a VAT above its cap. Both work on integers: the service rounds up, and
rounds down only where rounding up would pass the cap. `vat_split_agrees` says that for every price
the service accepts and every rate it can hold the contract takes the attested VAT and the three parts
add up to the price.
-/

set_option autoImplicit false

namespace Youtick.PaymentService

open Youtick.Lib Youtick.MarketV2

/-! ## Reading the price -/

/-- The fields of a publication the service reads from a view; `none` is a value that is no text. -/
structure PublicationView where
  publicationId : Option String
  priceUsdc : Option String
  availability : Option String

def readPurchasablePublication (view : String → Result (Option PublicationView))
    (publicationId : String) : Result Int := do
  let publication ← expect (← view publicationId) "publication_not_found"
  require (publication.publicationId = some publicationId) "publication_not_found"
  require (publication.availability = some "ACTIVE") "publication_not_available"
  let price ← expect (publication.priceUsdc.filter (isPositiveDecimal 30)) "rpc_unavailable"
  return digitsValue price.toList

/-! ## The share -/

def maxVatRateBps : Int := 2700

def minGrossUsdcMicro : Int := 5000000

/-- The contract would accept `vat` for `gross`. -/
def withinCap (gross vat : Int) : Prop :=
  0 ≤ vat ∧ vat * (10000 + maxVatRateBps) ≤ gross * maxVatRateBps

instance (gross vat : Int) : Decidable (withinCap gross vat) := inferInstanceAs (Decidable (_ ∧ _))

/-- VAT contained in a VAT-inclusive price, rounded up so tax is never under-collected. -/
def inclusiveVat (gross rateBps : Int) : Result Int := do
  require (¬ (rateBps < 0 ∨ rateBps > maxVatRateBps)) "vat_rate_invalid"
  let numerator := gross * rateBps
  let denominator := 10000 + rateBps
  let ceil := (numerator + denominator - 1).tdiv denominator
  return if withinCap gross ceil then ceil else numerator.tdiv denominator

/-- The exact share of `gross`, not rounded. -/
def exactVat (gross rateBps : Int) : ℚ := (gross * rateBps : ℚ) / (10000 + rateBps)

/-! ## Rounding -/

section Rounding

variable {n d : Int}

theorem tdiv_eq_floor (hn : 0 ≤ n) (hd : 0 < d) : n.tdiv d = ⌊(n : ℚ) / d⌋ := by
  rw [Int.tdiv_eq_ediv_of_nonneg hn]
  lift d to ℕ using hd.le
  exact (Rat.floor_intCast_div_natCast n d).symm

/-- Adding one less than the divisor before dividing rounds up. -/
theorem tdiv_eq_ceil (hn : 0 ≤ n) (hd : 0 < d) : (n + d - 1).tdiv d = ⌈(n : ℚ) / d⌉ := by
  have hceil : (n + d - 1) / d = -((-n) / d) := by
    have hdivision := Int.mul_ediv_add_emod (-n) d
    have hrest := Int.emod_nonneg (-n) hd.ne'
    have hbound := Int.emod_lt_of_pos (-n) hd
    have hsum : d - 1 - (-n) % d + d * -((-n) / d) = n + d - 1 := by
      rw [Int.mul_neg]
      omega
    exact ((Int.ediv_emod_unique hd).mpr ⟨hsum, by omega, by omega⟩).1
  rw [Int.tdiv_eq_ediv_of_nonneg (by omega), hceil]
  lift d to ℕ using hd.le
  exact (Rat.ceil_intCast_div_natCast n d).symm

end Rounding

/-! ## Agreement with the contract -/

/-- The bound of the contract's split. -/
def underContractCap (gross vat : Int) : Prop :=
  vat * (10000 + MarketV2.maxVatRateBps) ≤ gross * MarketV2.maxVatRateBps

section Agreement

variable {gross rateBps vat : Int}

theorem exactVat_eq (gross rateBps : Int) :
    exactVat gross rateBps = ((gross * rateBps : Int) : ℚ) / ((10000 + rateBps : Int) : ℚ) := by
  push_cast [exactVat]
  rfl

theorem exactVat_nonneg (hgross : 0 ≤ gross) (hrate : 0 ≤ rateBps) :
    0 ≤ exactVat gross rateBps := by
  rw [exactVat_eq]
  apply div_nonneg
  · exact_mod_cast Int.mul_nonneg hgross hrate
  · exact_mod_cast (by omega : 0 ≤ 10000 + rateBps)

theorem withinCap_iff (hvat : 0 ≤ vat) : withinCap gross vat ↔ underContractCap gross vat :=
  and_iff_right hvat

/-- A share at a rate the service can hold is under the cap, and within the price. -/
theorem underContractCap_of_mul_le (hgross : 0 ≤ gross) (hrate : 0 ≤ rateBps)
    (hmax : rateBps ≤ maxVatRateBps) (hmul : vat * (10000 + rateBps) ≤ gross * rateBps) :
    vat ≤ gross ∧ underContractCap gross vat := by
  have hle : vat ≤ gross := by
    have hwider : gross * rateBps ≤ gross * (10000 + rateBps) :=
      Int.mul_le_mul_of_nonneg_left (by omega) hgross
    exact le_of_mul_le_mul_right (hmul.trans hwider) (by omega)
  have hnet : (gross - vat) * rateBps ≤ (gross - vat) * maxVatRateBps :=
    Int.mul_le_mul_of_nonneg_left hmax (Int.sub_nonneg.mpr hle)
  refine ⟨hle, ?_⟩
  simp only [underContractCap, maxVatRateBps, MarketV2.maxVatRateBps] at hnet ⊢
  push_cast
  linarith

/-- Rounding down keeps the share under the cap. -/
theorem floor_underContractCap (hgross : 0 ≤ gross) (hrate : 0 ≤ rateBps)
    (hmax : rateBps ≤ maxVatRateBps) :
    ⌊exactVat gross rateBps⌋ ≤ gross ∧ underContractCap gross ⌊exactVat gross rateBps⌋ := by
  apply underContractCap_of_mul_le hgross hrate hmax
  have hfloor : (⌊exactVat gross rateBps⌋ : ℚ) ≤ exactVat gross rateBps := Int.floor_le _
  have hpos : (0 : ℚ) < ((10000 + rateBps : Int) : ℚ) := by
    exact_mod_cast (by omega : 0 < 10000 + rateBps)
  conv_rhs at hfloor => rw [exactVat_eq]
  rw [le_div_iff₀ hpos] at hfloor
  exact_mod_cast hfloor

/-- A VAT under the cap is within the price. -/
theorem le_of_underContractCap (hgross : 0 ≤ gross) (hcap : underContractCap gross vat) :
    vat ≤ gross := by
  simp only [underContractCap, MarketV2.maxVatRateBps] at hcap
  push_cast at hcap
  omega

/-- The service's share: rounded up, or rounded down where rounding up passes the cap. -/
theorem inclusiveVat_eq (hgross : 0 ≤ gross) (hrate : 0 ≤ rateBps)
    (hmax : rateBps ≤ maxVatRateBps) :
    inclusiveVat gross rateBps =
      .ok (if withinCap gross ⌈exactVat gross rateBps⌉ then ⌈exactVat gross rateBps⌉
        else ⌊exactVat gross rateBps⌋) := by
  have hn : 0 ≤ gross * rateBps := Int.mul_nonneg hgross hrate
  have hd : 0 < 10000 + rateBps := by omega
  have hvalid : ¬ (rateBps < 0 ∨ rateBps > maxVatRateBps) := by omega
  simp only [inclusiveVat, require, if_pos hvalid, tdiv_eq_floor hn hd, tdiv_eq_ceil hn hd,
    exactVat_eq]
  rfl

/-- The contract's split takes every VAT under its cap, at prices that fit the service's format. -/
theorem splitTicketAmount_of_underCap {gross vat : Nat} (hmin : minTicketPriceUsdc ≤ gross)
    (hmax : gross < 10 ^ 31) (hcap : underContractCap gross vat) :
    ∃ split, splitTicketAmount gross vat = .ok split ∧ split.vat = vat ∧
      split.vat + split.platform + split.creator = gross := by
  have hcap' : vat * (10000 + MarketV2.maxVatRateBps) ≤ gross * MarketV2.maxVatRateBps := by
    unfold underContractCap at hcap
    exact_mod_cast hcap
  have hgross : gross * MarketV2.maxVatRateBps ≤ maxOf 128 := by
    simp only [MarketV2.maxVatRateBps, maxOf]
    omega
  have hsplit : splitTicketAmount gross vat = .ok
      { vat := vat, platform := (gross - vat) / platformDivisor,
        creator := gross - vat - (gross - vat) / platformDivisor } := by
    simp only [splitTicketAmount, bind_eq_ok, require_eq_ok, checkedMul_eq_ok, pure_eq_ok]
    exact ⟨⟨⟩, hmin, _, ⟨hcap'.trans hgross, rfl⟩, _, ⟨hgross, rfl⟩, ⟨⟩, hcap', trivial⟩
  exact ⟨_, hsplit, rfl, splitTicketAmount_ok hsplit⟩

/-- A price the service accepts is a positive number of at most 31 digits. -/
theorem readPurchasablePublication_ok {view : String → Result (Option PublicationView)}
    {publicationId : String} (h : readPurchasablePublication view publicationId = .ok gross) :
    0 < gross ∧ gross < 10 ^ 31 := by
  simp only [readPurchasablePublication, bind_eq_ok, expect_eq_ok, pure_eq_ok,
    Option.filter_eq_some_iff] at h
  obtain ⟨_, -, _, -, _, -, _, -, price, ⟨-, hprice⟩, rfl⟩ := h
  exact ⟨by exact_mod_cast digitsValue_pos hprice,
    by exact_mod_cast digitsValue_lt_of_isPositiveDecimal hprice⟩

end Agreement

/-- For every price the service reads from the Market, from the minimum on, and every rate it can
hold, the contract takes the VAT the service attests: nothing overflows, the three parts add up to
the price, and the VAT is the exact share rounded up, or rounded down where rounding up would pass
the contract's cap, which rounding down never does. -/
theorem vat_split_agrees {keyPairFromString : Option String → Option KeyPair} {env : Env}
    {config : PaymentConfig} (hconfig : paymentConfig keyPairFromString env = some config)
    {view : String → Result (Option PublicationView)} {publicationId : String} {gross : Int}
    (hprice : readPurchasablePublication view publicationId = .ok gross)
    (hmin : minGrossUsdcMicro ≤ gross) :
    ∃ vat split, inclusiveVat gross config.rateBps = .ok vat ∧ 0 ≤ vat ∧ vat ≤ gross ∧
      splitTicketAmount gross.toNat vat.toNat = .ok split ∧ (split.vat : Int) = vat ∧
      (split.vat + split.platform + split.creator : Int) = gross ∧
      (underContractCap gross ⌈exactVat gross config.rateBps⌉ →
        vat = ⌈exactVat gross config.rateBps⌉) ∧
      (¬ underContractCap gross ⌈exactVat gross config.rateBps⌉ →
        vat = ⌊exactVat gross config.rateBps⌋) ∧
      underContractCap gross ⌊exactVat gross config.rateBps⌋ := by
  obtain ⟨-, -, hrate, hmax⟩ := paymentConfig_eq_some hconfig
  obtain ⟨hpos, hdigits⟩ := readPurchasablePublication_ok hprice
  have hshare := exactVat_nonneg hpos.le hrate
  have hceil : 0 ≤ ⌈exactVat gross config.rateBps⌉ := Int.ceil_nonneg hshare
  have hfloor := floor_underContractCap hpos.le hrate hmax
  -- Whichever way the service rounds, the result is under the cap.
  obtain ⟨vat, hvat, hnonneg, hcap, hup, hdown⟩ : ∃ vat,
      inclusiveVat gross config.rateBps = .ok vat ∧ 0 ≤ vat ∧ underContractCap gross vat ∧
        (underContractCap gross ⌈exactVat gross config.rateBps⌉ →
          vat = ⌈exactVat gross config.rateBps⌉) ∧
        (¬ underContractCap gross ⌈exactVat gross config.rateBps⌉ →
          vat = ⌊exactVat gross config.rateBps⌋) := by
    have hvat := inclusiveVat_eq hpos.le hrate hmax
    by_cases hunder : underContractCap gross ⌈exactVat gross config.rateBps⌉
    · rw [if_pos ((withinCap_iff hceil).mpr hunder)] at hvat
      exact ⟨_, hvat, hceil, hunder, fun _ => rfl, fun hover => absurd hunder hover⟩
    · rw [if_neg ((withinCap_iff hceil).not.mpr hunder)] at hvat
      exact ⟨_, hvat, Int.floor_nonneg.mpr hshare, hfloor.2, fun h => absurd h hunder,
        fun _ => rfl⟩
  have hle := le_of_underContractCap hpos.le hcap
  lift gross to ℕ using hpos.le
  lift vat to ℕ using hnonneg
  have hminimum : minTicketPriceUsdc ≤ gross := Int.ofNat_le.mp hmin
  obtain ⟨split, hsplit, hpart, hsum⟩ := splitTicketAmount_of_underCap hminimum
    (by exact_mod_cast hdigits) hcap
  refine ⟨vat, split, hvat, Int.natCast_nonneg vat, hle, hsplit, ?_, ?_, hup, hdown, hfloor.2⟩
  · exact_mod_cast hpart
  · exact_mod_cast hsum

/-- At 5.000001 USDC and the highest rate, rounding up would pass the cap. -/
theorem vat_split_agrees_highest :
    ∃ vat split, inclusiveVat 5000001 2700 = .ok vat ∧
      splitTicketAmount 5000001 vat.toNat = .ok split ∧ vat = 1062992 := by
  have hprice : readPurchasablePublication
      (fun id => .ok (some ⟨some id, some "5000001", some "ACTIVE"⟩)) "job-001" = .ok 5000001 := by
    rfl
  obtain ⟨vat, split, hvat, -, -, hsplit, -⟩ :=
    vat_split_agrees Vectors.paymentConfig_settings hprice (by decide)
  refine ⟨vat, split, hvat, hsplit, ?_⟩
  exact (Except.ok.inj ((show inclusiveVat 5000001 2700 = .ok 1062992 by rfl).symm.trans hvat)).symm

end Youtick.PaymentService
