import FilmIndex.Number.Reading

/-!
How numbers are written: whole numbers with all their digits, doubles with the
fewest digits that read back. A layout fixes what the digits leave open.
-/

namespace FilmIndex
namespace Number

/-- Doubles whose first digit has an exponent from `pointFrom` to below
`pointBelow` are written with a point, others with an exponent. -/
structure Layout where
  nan : String
  infinity : String
  pointFrom : Int := -4
  pointBelow : Int := 16
  exponentDigits : Nat := 2

/-- Numbers as they stand in embeddings, messages and printed results. -/
def Layout.plain : Layout := ⟨"nan", "inf", -4, 16, 2⟩

/-- Numbers as they stand in the printed statistics. -/
def Layout.stats : Layout := ⟨"NaN", "Infinity", -4, 16, 2⟩

def natText (n : Nat) : List Char := Nat.toDigits 10 n

/-- All digits of a number. Where the program itself has to write one, it asks first
whether the number is `writable`; the texts of errors and events are given for any number. -/
def intText (n : Int) : String := toString n

/-- Whole numbers are written with at most as many digits as they are read with. -/
def writable (n : Int) : Bool := decide ((natText n.natAbs).length ≤ digitLimit)

namespace Layout

/-- Digits without trailing zeros, and the number of them before the point. -/
def significant (d : Decimal) : List Char × Int :=
  let all := natText d.digits
  ((all.reverse.dropWhile (· == '0')).reverse, all.length + d.exponent)

def exponentText (width : Nat) (e : Int) : List Char :=
  let ds := natText e.natAbs
  (if e < 0 then '-' else '+') :: (List.replicate (width - ds.length) '0' ++ ds)

def decimalText (layout : Layout) (d : Decimal) : List Char :=
  let (ds, point) := significant d
  let e := point - 1
  if layout.pointFrom ≤ e ∧ e < layout.pointBelow then
    if point ≤ 0 then '0' :: '.' :: (List.replicate (-point).toNat '0' ++ ds)
    else
      let whole := ds.take point.toNat
      let fraction := ds.drop point.toNat
      whole ++ List.replicate (point.toNat - ds.length) '0' ++
        '.' :: (if fraction.isEmpty then ['0'] else fraction)
  else
    ds.take 1 ++ (if ds.length ≤ 1 then [] else '.' :: ds.drop 1) ++
      'e' :: exponentText layout.exponentDigits e

def doubleText (layout : Layout) : Double → List Char
  | .nan => layout.nan.toList
  | .infinite negative => (if negative then ['-'] else []) ++ layout.infinity.toList
  | .finite negative rank =>
    (if negative then ['-'] else []) ++
      (if rank = 0 then ['0', '.', '0'] else layout.decimalText (Decimal.shortest rank))

def write (layout : Layout) (x : Float) : String :=
  String.ofList (layout.doubleText (Double.ofFloat x))

end Layout
end Number
end FilmIndex
