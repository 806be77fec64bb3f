import FilmIndex.Proofs.Number.Rounding

/-!
Equality of doubles. Two of them are equal if they are of one size, counted in the smallest
steps of a double; the two zeros are of one size, and no number has none. A double that is a
whole number is of the size of that number.
-/

namespace FilmIndex
namespace Number
namespace Double

/-- How large a double is, counted in smallest steps. -/
inductive Size where
  | steps (n : Int)
  | infinite (negative : Bool)

def signed (negative : Bool) (n : Nat) : Int := if negative then -(n : Int) else n

def size? : Double → Option Size
  | .nan => none
  | .infinite negative => some (.infinite negative)
  | .finite negative rank => some (.steps (signed negative (units rank)))

theorem natAbs_signed (negative : Bool) (n : Nat) : (signed negative n).natAbs = n := by
  cases negative <;> simp [signed]

theorem signed_mul (negative : Bool) (m n : Nat) :
    signed negative (m * n) = signed negative n * m := by
  cases negative <;> simp [signed, Int.mul_comm]

theorem toInt?_eq_some_iff (d : Double) (n : Int) :
    d.toInt? = some n ↔ d.size? = some (.steps (n * twoPow unitExponent)) := by
  have positive : 0 < twoPow unitExponent := Nat.two_pow_pos _
  cases d with
  | nan | infinite => simp [toInt?, size?]
  | finite negative rank =>
      simp only [toInt?, size?, Option.some.injEq, Size.steps.injEq]
      generalize twoPow unitExponent = p at positive
      generalize units rank = u
      by_cases whole : u % p = 0
      · obtain ⟨k, rfl⟩ := Nat.dvd_of_mod_eq_zero whole
        rw [if_pos whole, Nat.mul_div_cancel_left k positive, signed_mul, Option.some.injEq,
          Int.mul_eq_mul_right_iff (by omega)]
        rfl
      · rw [if_neg whole]
        refine iff_of_false nofun fun h => whole (Nat.mod_eq_zero_of_dvd ?_)
        have divides : (p : Int) ∣ signed negative u := ⟨n, by rw [h, Int.mul_comm]⟩
        rwa [Int.natCast_dvd, natAbs_signed] at divides

/-- Of doubles apart from zero the size tells which they are. -/
theorem signed_units_iff {negative negative' : Bool} {rank rank' : Nat} :
    signed negative (units rank) = signed negative' (units rank') ↔
      rank = rank' ∧ (negative = negative' ∨ rank = 0) := by
  have injective {r r' : Nat} : units r = units r' ↔ r = r' := units_strictMono.injective.eq_iff
  have zero : units rank = units 0 ↔ rank = 0 := injective
  rw [show units 0 = 0 by rw [units_eq]; rfl] at zero
  rw [← injective (r := rank), ← zero]
  cases negative <;> cases negative' <;> simp [signed] <;> omega

theorem ofFloat_injective : Function.Injective ofFloat :=
  Function.LeftInverse.injective toFloat_ofFloat

theorem ofFloat_nan : ofFloat Float.nan = .nan := by decide +kernel

theorem ofFloat_zero : ofFloat 0 = .finite false 0 := by decide +kernel

theorem ofFloat_neg_zero : ofFloat (-0) = .finite true 0 := by decide +kernel

theorem beq_iff_size (x y : Float) :
    (x == y) = true ↔ ∃ size, (ofFloat x).size? = some size ∧ (ofFloat y).size? = some size := by
  simp only [Float.beq_iff_ne_nan_and_eq, ne_eq, ← ofFloat_injective.eq_iff, ofFloat_nan,
    ofFloat_zero, ofFloat_neg_zero]
  cases ofFloat x with
  | nan => simp [size?]
  | infinite negative => cases ofFloat y <;> simp [size?, eq_comm]
  | finite negative rank =>
      cases ofFloat y with
      | nan | infinite => simp [size?]
      | finite negative' rank' =>
          have same : signed negative' (units rank') = signed negative (units rank) ↔ _ :=
            signed_units_iff
          simp only [size?, Option.some.injEq, exists_eq_left', Size.steps.injEq, same, reduceCtorEq,
            not_false_eq_true, true_and, finite.injEq]
          cases negative <;> cases negative' <;> simp <;> omega

end Double
end Number
end FilmIndex
