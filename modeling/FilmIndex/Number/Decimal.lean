import FilmIndex.Number.Double

/-!
Decimal numbers and the doubles nearest to them. The shortest decimal of a
double is the one of fewest digits that is read back as that double, and among
those the nearest to it.
-/

namespace FilmIndex
namespace Number

/-- The number `digits * 10 ^ exponent`. -/
structure Decimal where
  digits : Nat
  exponent : Int
  deriving DecidableEq

namespace Decimal
open Double

def numerator (d : Decimal) : Nat := d.digits * tenPow d.exponent.toNat
def denominator (d : Decimal) : Nat := tenPow (-d.exponent).toNat

/-- The rank of the nearest double. Exponents far out of range are decided
without computing the power: `digits` is at least one and below `2 ^ (log2 + 1)`. -/
def rank (d : Decimal) : Nat :=
  if d.digits = 0 then 0
  else if 310 < d.exponent then infinityRank
  else if d.digits.log2 + 1101 < 3 * (-d.exponent).toNat then 0
  else nearestRank d.numerator d.denominator

def nearest (negative : Bool) (d : Decimal) : Float := (ofRank negative d.rank).toFloat

/-- Whether rounding takes the decimal to the rank: it lies between the midpoints
towards the two neighbours, which themselves go to the even rank. -/
def roundsTo (rank : Nat) (d : Decimal) : Bool :=
  let value := d.numerator * twoPow (unitExponent + 1)
  let low := (units (rank - 1) + units rank) * d.denominator
  let high := (units rank + units (rank + 1)) * d.denominator
  if rank % 2 = 0 then decide (low ≤ value ∧ value ≤ high)
  else decide (low < value ∧ value < high)

/-- The two neighbours of a rank's double among the multiples of `10 ^ exponent`;
the nearer one that rounds back, of equally near ones the even one. -/
def onGrid? (rank : Nat) (exponent : Int) : Option Decimal :=
  let value := units rank * tenPow (-exponent).toNat
  let step := twoPow unitExponent * tenPow exponent.toNat
  let below : Decimal := ⟨value / step, exponent⟩
  let above : Decimal := ⟨value / step + 1, exponent⟩
  let rest := 2 * (value % step)
  let preferBelow := decide (rest < step) || (rest == step && below.digits % 2 == 0)
  let (first, second) := if preferBelow then (below, above) else (above, below)
  if first.roundsTo rank then some first
  else if second.roundsTo rank then some second
  else none

/-- All digits of a rank's double. -/
def exact (rank : Nat) : Decimal := ⟨units rank * Nat.pow 5 unitExponent, -unitExponent⟩

def firstOnGrid (rank : Nat) (exponent : Int) : Nat → Decimal
  | 0 => exact rank
  | grids + 1 =>
    match onGrid? rank exponent with
    | some d => d
    | none => firstOnGrid rank (exponent - 1) grids

/-- The exponent of the first digit of a positive number of units. -/
def leadingExponent (u : Nat) : Int :=
  let one := twoPow unitExponent
  if one ≤ u then ((Nat.toDigits 10 (u / one)).length : Int) - 1
  else -((Nat.toDigits 10 ((one + u - 1) / u - 1)).length : Int)

/-- Grids of one digit, two digits and so on; seventeen digits tell all doubles apart. -/
def shortest (rank : Nat) : Decimal :=
  firstOnGrid rank (leadingExponent (units rank)) 17

end Decimal
end Number
end FilmIndex
