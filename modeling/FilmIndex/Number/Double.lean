/-!
Doubles as exact numbers. The finite doubles of one sign are ranked by size:
the double of rank `r` is `units r` steps of `2 ^ -1074`, and one rank more is
the next double. Rounding to a double is then rounding to a rank.
-/

namespace FilmIndex
namespace Number

def twoPow (n : Nat) : Nat := Nat.pow 2 n

def tenPow (n : Nat) : Nat := Nat.pow 10 n

/-- What a double stands for. Zero is finite of rank zero and has a sign. -/
inductive Double where
  | nan
  | infinite (negative : Bool)
  | finite (negative : Bool) (rank : Nat)
  deriving DecidableEq

namespace Double

/-- The rank that would follow the largest finite double. -/
def infinityRank : Nat := 0x7FF0000000000000

/-- One unit is this power of two, counted in the smallest steps of a double. Powers with
this exponent are never meant to be unfolded. -/
@[irreducible] def unitExponent : Nat := 1074

def ofFloat (x : Float) : Double :=
  let bits := x.toBits.toNat
  let negative := decide (twoPow 63 ≤ bits)
  let rank := bits % twoPow 63
  if rank < infinityRank then .finite negative rank
  else if rank = infinityRank then .infinite negative
  else .nan

def ofBitPattern (negative : Bool) (rank : Nat) : Float :=
  Float.ofBits (UInt64.ofNat (if negative then twoPow 63 + rank else rank))

def toFloat : Double → Float
  | .nan => ofBitPattern false (infinityRank + twoPow 51)
  | .infinite negative => ofBitPattern negative infinityRank
  | .finite negative rank => ofBitPattern negative rank

/-- The double of a rank, counted in steps of `2 ^ -1074`. -/
def units (rank : Nat) : Nat :=
  if rank < twoPow 52 then rank
  else (twoPow 52 + rank % twoPow 52) * twoPow (rank / twoPow 52 - 1)

/-- The whole number nearest to a quotient; of two equally near ones the even one. -/
def roundedQuotient (a b : Nat) : Nat :=
  let q := a / b
  let r := a % b
  if 2 * r < b then q
  else if b < 2 * r then q + 1
  else if q % 2 = 0 then q
  else q + 1

/-- The rank of the double nearest to a quotient, a tie going to the even rank. -/
def nearestRank (a b : Nat) : Nat :=
  let scaled := a * twoPow unitExponent
  let whole := scaled / b
  let shift := if whole < twoPow 53 then 0 else whole.log2 - 52
  min infinityRank (shift * twoPow 52 + roundedQuotient scaled (b * twoPow shift))

/-- The finite double or infinity of a rank that rounding gave. -/
def ofRank (negative : Bool) (rank : Nat) : Double :=
  if rank < infinityRank then .finite negative rank else .infinite negative

/-- A whole number as a double, unless it is too large for one. -/
def ofInt? (n : Int) : Option Float :=
  let rank := nearestRank n.natAbs 1
  if rank < infinityRank then some (toFloat (.finite (decide (n < 0)) rank)) else none

/-- The whole number that a double is, if it is one. -/
def toInt? : Double → Option Int
  | .finite negative rank =>
    let u := units rank
    if u % twoPow unitExponent = 0 then
      let n : Int := (u / twoPow unitExponent : Nat)
      some (if negative then -n else n)
    else none
  | _ => none

end Double
end Number
end FilmIndex
