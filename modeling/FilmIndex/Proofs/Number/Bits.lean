import FilmIndex.Number.Double
import Mathlib

/-!
Doubles and their bit patterns. What a double stands for determines its bits, since
there is one bit pattern only for no number.
-/

namespace FilmIndex
namespace Number
namespace Double

open Float.Model (Format)
open Float.Model.UnpackedFloat

/-- A bit pattern of a double, with the width written out. -/
abbrev Pattern : Type := BitVec Format.binary64.numBits

theorem toNat_unpackExponent (b : Pattern) :
    (unpackExponent b).toNat = b.toNat / 2 ^ 52 % 2 ^ 11 := by
  simp [unpackExponent, BitVec.extractLsb_toNat, Nat.shiftRight_eq_div_pow]

theorem toNat_unpackMantissa (b : Pattern) : (unpackMantissa b).toNat = b.toNat % 2 ^ 52 := by
  simp [unpackMantissa, BitVec.extractLsb_toNat]

/-- The one bit pattern of no number. -/
theorem toBits_of_infinityRank_lt {x : Float} (h : infinityRank < x.toBits.toNat % 2 ^ 63) :
    x.toBits.toNat = infinityRank + 2 ^ 51 := by
  obtain ⟨⟨bits, valid⟩⟩ := x
  have hr : infinityRank < bits.toBitVec.toNat % 2 ^ 63 := h
  have hb : bits.toBitVec.toNat < 2 ^ 64 := bits.toBitVec.isLt
  rw [infinityRank] at hr
  have he : @unpackExponent Format.binary64 bits.toBitVec = -1#_ := by
    apply BitVec.eq_of_toNat_eq
    rw [toNat_unpackExponent]
    change _ = 2047
    omega
  have hm : @unpackMantissa Format.binary64 bits.toBitVec ≠ 0#_ := by
    intro hm
    have h0 := congrArg BitVec.toNat hm
    rw [toNat_unpackMantissa, BitVec.toNat_zero] at h0
    omega
  exact congrArg BitVec.toNat (valid.eq_packedNaN he hm)

theorem twoPow_eq (n : Nat) : twoPow n = 2 ^ n := rfl

theorem ofBitPattern_toBits (x : Float) :
    ofBitPattern (decide (twoPow 63 ≤ x.toBits.toNat)) (x.toBits.toNat % twoPow 63) = x := by
  have hb : x.toBits.toNat < 2 ^ 64 := x.toBits.toBitVec.isLt
  have hn : (if decide (2 ^ 63 ≤ x.toBits.toNat) = true then 2 ^ 63 + x.toBits.toNat % 2 ^ 63
      else x.toBits.toNat % 2 ^ 63) = x.toBits.toNat := by
    split
    next h => have := of_decide_eq_true h; omega
    next h => have := of_decide_eq_false (Bool.not_eq_true _ ▸ h); omega
  rw [ofBitPattern, twoPow_eq, hn, UInt64.ofNat_toNat, Float.ofBits_toBits]

/-- A double is known from what it stands for. -/
theorem toFloat_ofFloat (x : Float) : (ofFloat x).toFloat = x := by
  have hx := ofBitPattern_toBits x
  rw [ofFloat]
  by_cases h : x.toBits.toNat % twoPow 63 < infinityRank
  · rw [if_pos h]
    exact hx
  · by_cases heq : x.toBits.toNat % twoPow 63 = infinityRank
    · rw [if_neg h, if_pos heq]
      rw [heq] at hx
      exact hx
    · rw [if_neg h, if_neg heq]
      have hr : infinityRank < x.toBits.toNat % 2 ^ 63 := by
        rw [twoPow_eq] at h heq
        omega
      have hb := toBits_of_infinityRank_lt hr
      rw [← Float.ofBits_toBits x, ← UInt64.ofNat_toNat (x := x.toBits), hb]
      rfl

theorem toBits_ofBits {bits : UInt64} (h : bits.toNat % 2 ^ 63 < infinityRank) :
    (Float.ofBits bits).toBits = bits := by
  have valid : Format.binary64.Valid bits.toBitVec := by
    refine ⟨fun he => absurd h (Nat.not_lt.2 ?_)⟩
    have hexponent := congrArg BitVec.toNat he
    rw [toNat_unpackExponent] at hexponent
    change bits.toNat / 2 ^ 52 % 2 ^ 11 = 2047 at hexponent
    rw [infinityRank]
    omega
  exact congrArg Float.toBits (Float.ofBits_toBits ⟨⟨bits, valid⟩⟩)

/-- Every rank below that of infinity is the rank of a double. -/
theorem ofFloat_toFloat (negative : Bool) {rank : Nat} (h : rank < infinityRank) :
    ofFloat (toFloat (.finite negative rank)) = .finite negative rank := by
  have hrank : rank < 2 ^ 63 := Nat.lt_trans h (by decide)
  obtain ⟨n, hn⟩ : ∃ n, (if negative then twoPow 63 + rank else rank) = n := ⟨_, rfl⟩
  have hlt : n < 2 ^ 64 ∧ n % 2 ^ 63 = rank ∧ decide (2 ^ 63 ≤ n) = negative := by
    rw [← hn, twoPow_eq]
    cases negative <;> simp <;> omega
  obtain ⟨hsize, hmod, hsign⟩ := hlt
  have hbits : (ofBitPattern negative rank).toBits.toNat = n := by
    have hnat : (UInt64.ofNat n).toNat = n := Nat.mod_eq_of_lt hsize
    rw [ofBitPattern, hn, toBits_ofBits (by rwa [hnat, hmod]), hnat]
  rw [toFloat, ofFloat, hbits, twoPow_eq, hmod, if_pos h, hsign]

end Double
end Number
end FilmIndex
