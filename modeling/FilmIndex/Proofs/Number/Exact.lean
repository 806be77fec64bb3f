import FilmIndex.Proofs.Number.Equality

/-!
Quotients that are doubles. A whole number of 53 bits is one, and stays one when it is divided
by a power of two that is not too large; rounding then finds the quotient itself.
-/

namespace FilmIndex
namespace Number
namespace Double

/-- The number that a finite double is. -/
def number? : Double → Option ℚ
  | .nan | .infinite _ => none
  | .finite negative rank => some (signed negative (units rank) / 2 ^ unitExponent)

theorem exists_units_eq {n : Nat} (h : n < 2 ^ 53) (e : Nat) :
    ∃ rank < (e + 2) * 2 ^ 52, units rank = n * 2 ^ e := by
  induction e generalizing n with
  | zero =>
      refine ⟨n, by omega, ?_⟩
      have hunits : units (0 * 2 ^ 52 + n) = n * 2 ^ 0 := units_add (.inl rfl) (Nat.le_of_lt h)
      rwa [Nat.zero_mul, Nat.zero_add] at hunits
  | succ e ih =>
      -- With a bit to spare the number is shifted once less; else it is a significand.
      by_cases hlow : n < 2 ^ 52
      · obtain ⟨rank, hrank, hunits⟩ := ih (n := 2 * n) (by omega)
        refine ⟨rank, Nat.lt_of_lt_of_le hrank (Nat.mul_le_mul_right _ (by omega)), ?_⟩
        rw [hunits, Nat.pow_succ']
        ac_rfl
      · exact ⟨(e + 1) * 2 ^ 52 + n, by omega, units_add (.inr (by omega)) (Nat.le_of_lt h)⟩

theorem nearestRank_of_units {a b rank : Nat} (hb : 0 < b) (hr : rank < infinityRank)
    (h : a * twoPow unitExponent = units rank * b) : nearestRank a b = rank := by
  rw [nearestRank_eq, h, (roundsTo_rankOf (units rank * b) hb).unique hb (.of_units hb)]
  exact Nat.min_eq_right (Nat.le_of_lt hr)

/-- A whole number of 53 bits over a power of two is rounded to itself. -/
theorem number?_nearestRank {k s : Nat} (hk : k < 2 ^ 53) (hs : s ≤ unitExponent) :
    (ofFloat (toFloat (.finite false (nearestRank k (twoPow s))))).number? =
      some (k / 2 ^ s : ℚ) := by
  obtain ⟨e, he⟩ := Nat.exists_eq_add_of_le hs
  obtain ⟨rank, hrank, hunits⟩ := exists_units_eq hk e
  have hfinite : rank < infinityRank := by
    have hexponent : unitExponent = 1074 := by rw [unitExponent]
    rw [infinityRank]
    omega
  have hscaled : k * twoPow unitExponent = units rank * twoPow s := by
    rw [hunits, he, twoPow_eq, twoPow_eq, Nat.pow_add, Nat.mul_assoc, Nat.mul_comm (2 ^ e)]
  have hpos : 0 < twoPow s := Nat.two_pow_pos s
  rw [nearestRank_of_units hpos hfinite hscaled, ofFloat_toFloat false hfinite, number?, hunits, he,
    pow_add]
  simp only [signed, Bool.false_eq_true, if_false]
  push_cast
  rw [mul_div_mul_right _ _ (by positivity)]

end Double
end Number
end FilmIndex
