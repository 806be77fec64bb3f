import FilmIndex.Number.Decimal
import FilmIndex.Proofs.Number.Bits
import Mathlib.Algebra.Group.Nat.Defs
import Mathlib.Order.Monotone.Basic

/-!
Rounding to doubles. A quotient is rounded to a rank when it lies between the midpoints
to the two neighbours, and on a midpoint only if the rank is even. Exactly one rank is
such, and it is the one that is computed, the cut-offs for exponents far out of range
included.
-/

namespace FilmIndex
namespace Number

theorem tenPow_eq (n : Nat) : tenPow n = 10 ^ n := rfl

theorem tenPow_le {m n : Nat} (h : m ≤ n) : tenPow m ≤ tenPow n :=
  Nat.pow_le_pow_right (by decide) h

namespace Double

theorem units_eq (r : Nat) :
    units r = if r < 2 ^ 52 then r else (2 ^ 52 + r % 2 ^ 52) * 2 ^ (r / 2 ^ 52 - 1) := rfl

/-- A rank as a significand and the number of places it is shifted by. -/
theorem units_add {s m : Nat} (h : s = 0 ∨ 2 ^ 52 ≤ m) (hm : m ≤ 2 ^ 53) :
    units (s * 2 ^ 52 + m) = m * 2 ^ s := by
  rw [units_eq]
  by_cases hlow : m < 2 ^ 52
  · have hs : s = 0 := by omega
    subst hs
    rw [if_pos (by omega)]
    simp
  · rw [if_neg (by omega)]
    by_cases htop : m = 2 ^ 53
    · subst htop
      have hmod : (s * 2 ^ 52 + 2 ^ 53) % 2 ^ 52 = 0 := by omega
      have hdiv : (s * 2 ^ 52 + 2 ^ 53) / 2 ^ 52 - 1 = s + 1 := by omega
      rw [hmod, hdiv, Nat.pow_succ]
      omega
    · have hmod : 2 ^ 52 + (s * 2 ^ 52 + m) % 2 ^ 52 = m := by omega
      have hdiv : (s * 2 ^ 52 + m) / 2 ^ 52 - 1 = s := by omega
      rw [hmod, hdiv]

theorem exists_shift (r : Nat) :
    ∃ s m, r = s * 2 ^ 52 + m ∧ (s = 0 ∨ 2 ^ 52 ≤ m) ∧ m < 2 ^ 53 := by
  by_cases h : r < 2 ^ 52
  · exact ⟨0, r, by omega, .inl rfl, by omega⟩
  · exact ⟨r / 2 ^ 52 - 1, 2 ^ 52 + r % 2 ^ 52, by omega, .inr (by omega), by omega⟩

theorem units_strictMono : StrictMono units := by
  refine strictMono_nat_of_lt_succ fun r => ?_
  obtain ⟨s, m, rfl, h, hm⟩ := exists_shift r
  have hnext : s = 0 ∨ 2 ^ 52 ≤ m + 1 := by omega
  rw [Nat.add_assoc, units_add hnext (by omega), units_add h (by omega)]
  exact Nat.mul_lt_mul_of_pos_right (Nat.lt_succ_self m) (Nat.two_pow_pos s)

/-- Rounding takes the quotient of `n` and `b`, in smallest steps, to the rank. -/
structure RoundsTo (rank n b : Nat) : Prop where
  low : (units (rank - 1) + units rank) * b ≤ 2 * n
  high : 2 * n ≤ (units rank + units (rank + 1)) * b
  even_of_low : 2 * n = (units (rank - 1) + units rank) * b → rank % 2 = 0
  even_of_high : 2 * n = (units rank + units (rank + 1)) * b → rank % 2 = 0

namespace RoundsTo

variable {r r' n b n' b' : Nat}

theorem not_lt (hb : 0 < b) (h : RoundsTo r n b) (h' : RoundsTo r' n b) : ¬ r < r' := by
  intro hlt
  have hlow : units r ≤ units (r' - 1) := units_strictMono.monotone (by omega)
  have hhigh : units (r + 1) ≤ units r' := units_strictMono.monotone hlt
  have hsum : (units r + units (r + 1)) * b ≤ (units (r' - 1) + units r') * b :=
    Nat.mul_le_mul_right b (Nat.add_le_add hlow hhigh)
  have heven := h.even_of_high (Nat.le_antisymm h.high (Nat.le_trans hsum h'.low))
  have heven' := h'.even_of_low (Nat.le_antisymm (Nat.le_trans h.high hsum) h'.low)
  have hnext : r + 1 < r' := by omega
  have hlow' : units r < units (r' - 1) := units_strictMono (by omega)
  have hstrict : (units r + units (r + 1)) * b < (units (r' - 1) + units r') * b :=
    Nat.mul_lt_mul_of_pos_right (Nat.add_lt_add_of_lt_of_le hlow' hhigh) hb
  exact absurd (Nat.le_trans h'.low h.high) (Nat.not_le_of_lt hstrict)

/-- No quotient is rounded to two ranks. -/
theorem unique (hb : 0 < b) (h : RoundsTo r n b) (h' : RoundsTo r' n b) : r = r' :=
  Nat.le_antisymm (Nat.le_of_not_lt (h'.not_lt hb h)) (Nat.le_of_not_lt (h.not_lt hb h'))

theorem congr (hb : 0 < b) (hb' : 0 < b') (hn : n * b' = n' * b) (h : RoundsTo r n b) :
    RoundsTo r n' b' := by
  have scale (x : Nat) : x * b' * b = x * b * b' := Nat.mul_right_comm x b' b
  have hn2 : 2 * n' * b = 2 * n * b' := by rw [Nat.mul_assoc, ← hn, Nat.mul_assoc]
  have back {x : Nat} (heq : 2 * n' = x * b') : 2 * n = x * b := by
    apply Nat.eq_of_mul_eq_mul_right hb'
    rw [← hn2, heq, scale]
  refine ⟨?_, ?_, fun heq => h.even_of_low (back heq), fun heq => h.even_of_high (back heq)⟩
  · apply Nat.le_of_mul_le_mul_right _ hb
    rw [scale, hn2]
    exact Nat.mul_le_mul_right b' h.low
  · apply Nat.le_of_mul_le_mul_right _ hb
    rw [scale, hn2]
    exact Nat.mul_le_mul_right b' h.high

theorem of_units (hb : 0 < b) : RoundsTo r (units r * b) b := by
  have hle : units (r - 1) * b ≤ units r * b :=
    Nat.mul_le_mul_right b (units_strictMono.monotone (Nat.sub_le r 1))
  have hlt : units r * b < units (r + 1) * b :=
    Nat.mul_lt_mul_of_pos_right (units_strictMono (Nat.lt_succ_self r)) hb
  have hlow := Nat.add_mul (units (r - 1)) (units r) b
  have hhigh := Nat.add_mul (units r) (units (r + 1)) b
  refine ⟨by omega, by omega, fun heq => ?_, fun heq => by omega⟩
  -- Only the rank of zero is its own neighbour below.
  have hsame : units (r - 1) = units r := Nat.eq_of_mul_eq_mul_right hb (by omega)
  have hzero : r - 1 = r := units_strictMono.injective hsame
  omega

end RoundsTo

section RoundedQuotient

variable (a : Nat) {b : Nat}

theorem roundedQuotient_eq (hb : 0 < b) :
    2 * (roundedQuotient a b * b) ≤ 2 * a + b ∧ 2 * a ≤ 2 * (roundedQuotient a b * b) + b ∧
      (2 * (roundedQuotient a b * b) = 2 * a + b ∨ 2 * a = 2 * (roundedQuotient a b * b) + b →
        roundedQuotient a b % 2 = 0) := by
  have hdiv : a / b * b + a % b = a := Nat.div_add_mod' a b
  have hmod : a % b < b := Nat.mod_lt a hb
  have hsucc : (a / b + 1) * b = a / b * b + b := Nat.succ_mul (a / b) b
  rw [roundedQuotient]
  by_cases h : 2 * (a % b) < b
  · simp only [if_pos h]
    omega
  · by_cases h' : b < 2 * (a % b)
    · simp only [if_neg h, if_pos h', hsucc]
      omega
    · by_cases he : a / b % 2 = 0
      · simp only [if_neg h, if_neg h', if_pos he]
        omega
      · simp only [if_neg h, if_neg h', if_neg he, hsucc]
        omega

end RoundedQuotient

/-- The places that the significand of a quotient is shifted by. -/
def shift (n b : Nat) : Nat := if n / b < 2 ^ 53 then 0 else (n / b).log2 - 52

def rankOf (n b : Nat) : Nat :=
  shift n b * 2 ^ 52 + roundedQuotient n (b * 2 ^ shift n b)

theorem nearestRank_eq (a b : Nat) :
    nearestRank a b = min infinityRank (rankOf (a * twoPow unitExponent) b) := by
  rw [nearestRank, rankOf, shift]
  rfl

theorem shift_bounds (n : Nat) {b : Nat} (hb : 0 < b) :
    (shift n b = 0 ∨ 2 ^ 52 * (b * 2 ^ shift n b) ≤ n) ∧ n < 2 ^ 53 * (b * 2 ^ shift n b) := by
  rw [shift]
  by_cases h : n / b < 2 ^ 53
  · rw [if_pos h, Nat.pow_zero, Nat.mul_one]
    exact ⟨.inl rfl, (Nat.div_lt_iff_lt_mul hb).1 h⟩
  · have hne : n / b ≠ 0 := by omega
    have hlog : 53 ≤ (n / b).log2 := (Nat.le_log2 hne).2 (by omega)
    have hself : 2 ^ (n / b).log2 ≤ n / b := Nat.log2_self_le hne
    have hlt : n / b < 2 ^ ((n / b).log2 + 1) := Nat.lt_log2_self
    have hpow (k : Nat) : 2 ^ (k + ((n / b).log2 - 52)) * b = 2 ^ k * (b * 2 ^ ((n / b).log2 - 52)) := by
      rw [Nat.pow_add, Nat.mul_assoc, Nat.mul_comm b]
    have h52 : 52 + ((n / b).log2 - 52) = (n / b).log2 := by omega
    have h53 : 53 + ((n / b).log2 - 52) = (n / b).log2 + 1 := by omega
    rw [if_neg h, ← hpow, ← hpow, h52, h53]
    exact ⟨.inr ((Nat.le_div_iff_mul_le hb).1 hself), (Nat.div_lt_iff_lt_mul hb).1 hlt⟩

/-- The significand after rounding fits, the next power of two included. -/
theorem roundedQuotient_bounds {n c : Nat} (hc : 0 < c) (h : n < 2 ^ 53 * c) :
    roundedQuotient n c ≤ 2 ^ 53 ∧ (2 ^ 52 * c ≤ n → 2 ^ 52 ≤ roundedQuotient n c) := by
  obtain ⟨hlow, hhigh, -⟩ := roundedQuotient_eq n hc
  constructor
  · by_contra hq
    have hm : (2 ^ 53 + 1) * c ≤ roundedQuotient n c * c := Nat.mul_le_mul_right c (by omega)
    rw [Nat.succ_mul] at hm
    omega
  · intro hn
    by_contra hq
    have hm : (roundedQuotient n c + 1) * c ≤ 2 ^ 52 * c := Nat.mul_le_mul_right c (by omega)
    rw [Nat.succ_mul] at hm
    omega

/-- The rank above is at least one step of the significand away. -/
theorem le_units_succ {s q : Nat} (h : s = 0 ∨ 2 ^ 52 ≤ q) (hq : q ≤ 2 ^ 53) :
    (q + 1) * 2 ^ s ≤ units (s * 2 ^ 52 + q + 1) := by
  by_cases htop : q = 2 ^ 53
  · have hr : s * 2 ^ 52 + q + 1 = (s + 1) * 2 ^ 52 + (2 ^ 52 + 1) := by omega
    have hpow : (2 ^ 52 + 1) * 2 ^ (s + 1) = (2 ^ 53 + 2) * 2 ^ s := by
      have hsucc : 2 ^ (s + 1) = 2 ^ s * 2 ^ 1 := Nat.pow_add 2 s 1
      omega
    rw [hr, units_add (.inr (by omega)) (by omega), hpow, htop]
    exact Nat.mul_le_mul_right _ (by omega)
  · have hnext : s = 0 ∨ 2 ^ 52 ≤ q + 1 := by omega
    rw [Nat.add_assoc, units_add hnext (by omega)]

/-- The midpoint to the rank below. Where the significand is the least one, the ranks
below lie closer together, but the quotient is not below the rank then. -/
theorem midpoint_below {s q n b : Nat} (hb : 0 < b) (hs : s = 0 ∨ 2 ^ 52 ≤ q) (hq : q ≤ 2 ^ 53)
    (hn : s = 0 ∨ 2 ^ 52 * (b * 2 ^ s) ≤ n) (hlow : 2 * (q * (b * 2 ^ s)) ≤ 2 * n + b * 2 ^ s)
    (heven : 2 * (q * (b * 2 ^ s)) = 2 * n + b * 2 ^ s → q % 2 = 0) :
    (units (s * 2 ^ 52 + q - 1) + units (s * 2 ^ 52 + q)) * b ≤ 2 * n ∧
      (2 * n = (units (s * 2 ^ 52 + q - 1) + units (s * 2 ^ 52 + q)) * b →
        (s * 2 ^ 52 + q) % 2 = 0) := by
  have hunits : units (s * 2 ^ 52 + q) * b = q * (b * 2 ^ s) := by
    rw [units_add hs hq, Nat.mul_assoc, Nat.mul_comm b]
  rw [Nat.add_mul, hunits]
  by_cases h : q * (b * 2 ^ s) ≤ n
  · by_cases hr : s * 2 ^ 52 + q = 0
    · rw [hr, ← hunits, hr]
      have hz : units 0 = 0 := by rw [units_eq]; rfl
      simp [hz]
    · have hlt : units (s * 2 ^ 52 + q - 1) < units (s * 2 ^ 52 + q) :=
        units_strictMono (by omega)
      have hmul := Nat.mul_lt_mul_of_pos_right hlt hb
      omega
  · have hq' : s = 0 ∨ 2 ^ 52 < q := by
      refine hn.imp_right fun hn => ?_
      by_contra hle
      have hm : q * (b * 2 ^ s) ≤ 2 ^ 52 * (b * 2 ^ s) := Nat.mul_le_mul_right _ (by omega)
      omega
    have hpos : 0 < q := by
      by_contra hz
      have hz : q = 0 := by omega
      rw [hz, Nat.zero_mul] at h
      omega
    have hprev : units (s * 2 ^ 52 + q - 1) * b + b * 2 ^ s = q * (b * 2 ^ s) := by
      have hs' : s = 0 ∨ 2 ^ 52 ≤ q - 1 := by omega
      rw [Nat.add_sub_assoc hpos, units_add hs' (by omega), Nat.mul_assoc, Nat.mul_comm _ b,
        ← Nat.succ_mul, Nat.succ_eq_add_one, Nat.sub_add_cancel hpos]
    omega

/-- The computed rank is one that rounding takes the quotient to. -/
theorem roundsTo_rankOf (n : Nat) {b : Nat} (hb : 0 < b) : RoundsTo (rankOf n b) n b := by
  obtain ⟨hbelow, habove⟩ := shift_bounds n hb
  have hc : 0 < b * 2 ^ shift n b := Nat.mul_pos hb (Nat.two_pow_pos _)
  obtain ⟨htop, hbottom⟩ := roundedQuotient_bounds hc habove
  obtain ⟨hlow, hhigh, heven⟩ := roundedQuotient_eq n hc
  rw [rankOf]
  generalize shift n b = s at *
  generalize roundedQuotient n (b * 2 ^ s) = q at *
  have hs : s = 0 ∨ 2 ^ 52 ≤ q := hbelow.imp_right hbottom
  obtain ⟨hmid, htie⟩ := midpoint_below hb hs htop hbelow hlow fun h => heven (.inl h)
  have hnext : 2 * (q * (b * 2 ^ s)) + b * 2 ^ s ≤
      (units (s * 2 ^ 52 + q) + units (s * 2 ^ 52 + q + 1)) * b := by
    have hmul (x : Nat) : x * 2 ^ s * b = x * (b * 2 ^ s) := by
      rw [Nat.mul_assoc, Nat.mul_comm b]
    have h := Nat.mul_le_mul_right b (le_units_succ hs htop)
    rw [hmul, Nat.succ_mul] at h
    rw [Nat.add_mul, units_add hs htop, hmul]
    omega
  exact ⟨hmid, by omega, htie, fun h => by have := heven (.inr (by omega)); omega⟩

end Double

namespace Decimal
open Double

theorem two_mul_twoPow (n : Nat) : 2 * twoPow n = 2 ^ (n + 1) := by
  rw [twoPow_eq, Nat.pow_succ, Nat.mul_comm]

theorem denominator_pos (d : Decimal) : 0 < d.denominator := Nat.pow_pos (by decide)

/-- A decimal in smallest steps of a double, over its denominator. -/
def steps (d : Decimal) : Nat := d.numerator * twoPow unitExponent

theorem roundsTo_iff (rank : Nat) (d : Decimal) :
    d.roundsTo rank = true ↔ RoundsTo rank d.steps d.denominator := by
  have hv : d.numerator * twoPow (unitExponent + 1) = 2 * d.steps := by
    rw [steps, twoPow_eq, twoPow_eq, Nat.pow_succ, ← Nat.mul_assoc, Nat.mul_comm]
  rw [roundsTo]
  simp only [hv]
  by_cases hr : rank % 2 = 0
  · rw [if_pos hr, decide_eq_true_eq]
    exact ⟨fun h => ⟨h.1, h.2, fun _ => hr, fun _ => hr⟩, fun h => ⟨h.low, h.high⟩⟩
  · rw [if_neg hr, decide_eq_true_eq]
    constructor
    · exact fun h => ⟨Nat.le_of_lt h.1, Nat.le_of_lt h.2, fun he => by omega, fun he => by omega⟩
    · intro h
      exact ⟨Nat.lt_of_le_of_ne h.low fun he => hr (h.even_of_low he.symm),
        Nat.lt_of_le_of_ne h.high fun he => hr (h.even_of_high he)⟩

/-- Digits and exponents as in `d`, with `k` zeros more. -/
def padded (d : Decimal) (k : Nat) : Decimal := ⟨d.digits * 10 ^ k, d.exponent - k⟩

theorem padded_mk (n : Nat) (e : Int) (k : Nat) : padded ⟨n, e⟩ k = ⟨n * 10 ^ k, e - k⟩ := rfl

theorem steps_padded (d : Decimal) (k : Nat) :
    d.steps * (d.padded k).denominator = (d.padded k).steps * d.denominator := by
  have hexp : d.exponent.toNat + (-(d.exponent - k)).toNat =
      k + (d.exponent - k).toNat + (-d.exponent).toNat := by omega
  have hpow : 10 ^ d.exponent.toNat * 10 ^ (-(d.exponent - k)).toNat =
      10 ^ k * 10 ^ (d.exponent - k).toNat * 10 ^ (-d.exponent).toNat := by
    rw [← Nat.pow_add, ← Nat.pow_add, ← Nat.pow_add, hexp]
  simp only [steps, numerator, denominator, padded, tenPow_eq]
  generalize twoPow unitExponent = u
  calc d.digits * 10 ^ d.exponent.toNat * u * 10 ^ (-(d.exponent - k)).toNat
      = d.digits * u * (10 ^ d.exponent.toNat * 10 ^ (-(d.exponent - k)).toNat) := by ac_rfl
    _ = d.digits * u * (10 ^ k * 10 ^ (d.exponent - k).toNat * 10 ^ (-d.exponent).toNat) := by
        rw [hpow]
    _ = d.digits * 10 ^ k * 10 ^ (d.exponent - k).toNat * u * 10 ^ (-d.exponent).toNat := by ac_rfl

theorem roundsTo_padded (rank : Nat) (d : Decimal) (k : Nat) :
    (d.padded k).roundsTo rank = true ↔ d.roundsTo rank = true := by
  rw [roundsTo_iff, roundsTo_iff]
  exact ⟨RoundsTo.congr (denominator_pos _) (denominator_pos _) (d.steps_padded k).symm,
    RoundsTo.congr (denominator_pos _) (denominator_pos _) (d.steps_padded k)⟩

theorem units_infinityRank : units infinityRank = 2 ^ 52 * 2 ^ 2046 := by
  have hr : infinityRank = 2046 * 2 ^ 52 + 2 ^ 52 := rfl
  rw [hr, units_add (.inr (Nat.le_refl _)) (by omega)]

theorem exponent_le {d : Decimal} {rank : Nat} (hd : d.digits ≠ 0) (hr : rank < infinityRank)
    (h : RoundsTo rank d.steps d.denominator) : d.exponent ≤ 310 := by
  by_contra he
  have hden : d.denominator = 1 := by
    have h0 : (-d.exponent).toNat = 0 := by omega
    rw [denominator, h0]
    rfl
  have hnum : tenPow 311 ≤ d.numerator := by
    have hten : tenPow 311 ≤ tenPow d.exponent.toNat := tenPow_le (by omega)
    exact Nat.le_trans hten (Nat.le_mul_of_pos_left _ (Nat.pos_of_ne_zero hd))
  have hhigh := h.high
  have hle : units rank ≤ units infinityRank := units_strictMono.monotone (Nat.le_of_lt hr)
  have hle' : units (rank + 1) ≤ units infinityRank := units_strictMono.monotone hr
  have hbig : units infinityRank < tenPow 311 * twoPow unitExponent := by
    rw [units_infinityRank]
    decide +kernel
  have hsteps : tenPow 311 * twoPow unitExponent ≤ d.steps := Nat.mul_le_mul_right _ hnum
  rw [hden, Nat.mul_one] at hhigh
  omega

theorem le_log2_of_roundsTo {d : Decimal} {rank : Nat} (hr : 0 < rank)
    (h : RoundsTo rank d.steps d.denominator) :
    3 * (-d.exponent).toNat ≤ d.digits.log2 + 1101 := by
  by_contra he
  have hnum : d.steps = d.digits * twoPow unitExponent := by
    have h0 : d.exponent.toNat = 0 := by omega
    rw [steps, numerator, h0, tenPow_eq, Nat.pow_zero, Nat.mul_one]
  have hone : 1 ≤ units (rank - 1) + units rank := by
    have hlt : units (rank - 1) < units rank := units_strictMono (by omega)
    omega
  have hlow : d.denominator ≤ 2 * d.steps :=
    Nat.le_trans (Nat.le_mul_of_pos_left _ hone) h.low
  have hdigits : d.digits < 2 ^ (d.digits.log2 + 1) := Nat.lt_log2_self
  have hden : 2 ^ (3 * (-d.exponent).toNat) ≤ d.denominator := by
    rw [denominator, tenPow_eq, Nat.pow_mul]
    exact Nat.pow_le_pow_left (by decide) _
  have hunit : unitExponent = 1074 := by rw [unitExponent]
  have hsteps : 2 * d.steps < 2 ^ (d.digits.log2 + 1 + (unitExponent + 1)) := by
    rw [hnum, Nat.mul_left_comm, two_mul_twoPow, Nat.pow_add 2 (d.digits.log2 + 1)]
    exact Nat.mul_lt_mul_of_pos_right hdigits (Nat.two_pow_pos _)
  have hpow : 2 ^ (d.digits.log2 + 1 + (unitExponent + 1)) ≤ 2 ^ (3 * (-d.exponent).toNat) :=
    Nat.pow_le_pow_right (by decide) (by omega)
  omega

theorem digits_ne_zero_of_roundsTo {d : Decimal} {rank : Nat} (h0 : 0 < rank)
    (h : RoundsTo rank d.steps d.denominator) : d.digits ≠ 0 := by
  intro hd
  have hz : d.steps = 0 := by rw [steps, numerator, hd, Nat.zero_mul, Nat.zero_mul]
  have hlt : units (rank - 1) < units rank := units_strictMono (by omega)
  have hlow : 0 < (units (rank - 1) + units rank) * d.denominator :=
    Nat.mul_pos (by omega) (denominator_pos d)
  have := h.low
  omega

/-- A decimal that rounding takes to a finite rank is read as the double of that rank. -/
theorem rank_of_roundsTo {d : Decimal} {rank : Nat} (h0 : 0 < rank) (hr : rank < infinityRank)
    (h : d.roundsTo rank = true) : d.rank = rank := by
  rw [roundsTo_iff] at h
  have hd := digits_ne_zero_of_roundsTo h0 h
  have hlarge := exponent_le hd hr h
  have hsmall := le_log2_of_roundsTo h0 h
  have hrank : rankOf d.steps d.denominator = rank :=
    (roundsTo_rankOf d.steps (denominator_pos d)).unique (denominator_pos d) h
  rw [Decimal.rank, if_neg hd, if_neg (by omega), if_neg (by omega), nearestRank_eq]
  change min infinityRank (rankOf d.steps d.denominator) = rank
  omega

theorem roundsTo_exact (rank : Nat) : (exact rank).roundsTo rank = true := by
  have hsteps (n u : Nat) : n * Nat.pow 5 u * tenPow (-(u : Int)).toNat * twoPow u =
      n * tenPow (-(-(u : Int))).toNat := by
    have hnum : (-(u : Int)).toNat = 0 := by omega
    have hpow : 10 ^ u = 5 ^ u * 2 ^ u := Nat.mul_pow 5 2 u
    rw [Int.neg_neg, Int.toNat_natCast, hnum, tenPow_eq, tenPow_eq, twoPow_eq, Nat.pow_zero,
      Nat.mul_one, hpow, Nat.mul_assoc]
    rfl
  have hexact : (exact rank).steps = units rank * (exact rank).denominator :=
    hsteps (units rank) unitExponent
  rw [roundsTo_iff, hexact]
  exact .of_units (denominator_pos _)

theorem roundsTo_onGrid? {rank : Nat} {e : Int} {d : Decimal} (h : onGrid? rank e = some d) :
    d.roundsTo rank = true := by
  have pick (p : Decimal × Decimal)
      (hp : (if p.1.roundsTo rank then some p.1 else if p.2.roundsTo rank then some p.2 else none) =
        some d) : d.roundsTo rank = true := by
    split at hp
    next hd => cases hp; exact hd
    next =>
      split at hp
      next hd => cases hp; exact hd
      next => cases hp
  rw [onGrid?] at h
  exact pick _ h

theorem roundsTo_firstOnGrid (rank : Nat) (e : Int) (grids : Nat) :
    (firstOnGrid rank e grids).roundsTo rank = true := by
  induction grids generalizing e with
  | zero =>
      rw [firstOnGrid]
      exact roundsTo_exact rank
  | succ grids ih =>
      rw [firstOnGrid]
      split
      next d hd => exact roundsTo_onGrid? hd
      next => exact ih (e - 1)

/-- The shortest decimal of a double is read back as that double. -/
theorem roundsTo_shortest (rank : Nat) : (shortest rank).roundsTo rank = true :=
  roundsTo_firstOnGrid rank _ _

theorem digits_shortest_ne_zero {rank : Nat} (h0 : 0 < rank) : (shortest rank).digits ≠ 0 :=
  digits_ne_zero_of_roundsTo h0 ((roundsTo_iff _ _).1 (roundsTo_shortest rank))

end Decimal
end Number
end FilmIndex
