import FilmIndex.Number.Decimal
import FilmIndex.Text.Blank
import FilmIndex.Text.DecimalDigit

/-!
Numerals as they are accepted in film files and on the command line: blanks
around them, a sign, decimal digits of any script, and single underscores
between digits.
-/

namespace FilmIndex
namespace Number
open Text

/-- Digits with single underscores between them. The flag tells whether a digit
comes right before. -/
def digitsFrom (value? : Char → Option Nat) (afterDigit : Bool) (read : List Nat) :
    List Char → Option (List Nat)
  | [] => if afterDigit then some read.reverse else none
  | c :: cs =>
    if c = '_' then
      if afterDigit then digitsFrom value? false read cs else none
    else
      match value? c with
      | some d => digitsFrom value? true (d :: read) cs
      | none => none

def digits? (value? : Char → Option Nat) (cs : List Char) : Option (List Nat) :=
  digitsFrom value? false [] cs

def ofDigits (ds : List Nat) : Nat := ds.foldl (fun n d => 10 * n + d) 0

/-- A sign, if there is one, and what follows. -/
def signed : List Char → Bool × List Char
  | '-' :: cs => (true, cs)
  | '+' :: cs => (false, cs)
  | cs => (false, cs)

def withSign (negative : Bool) (n : Nat) : Int := if negative then -n else n

/-- Whole numerals have at most this many digits, those that are read and those written. -/
def digitLimit : Nat := 4300

def integerChars? (cs : List Char) : Option Int :=
  let (negative, body) := signed (trim isNumeralBlank cs)
  match digits? digitValue? body with
  | some ds => if ds.length ≤ digitLimit then some (withSign negative (ofDigits ds)) else none
  | none => none

def integer? (s : String) : Option Int := integerChars? s.toList

def isNumeralChar (c : Char) : Bool := c == '_' || (digitValue? c).isSome

/-- A run of digits that may be missing. -/
def run? (cs : List Char) : Option (List Nat) :=
  if cs.isEmpty then some [] else digits? digitValue? cs

/-- The exponent part: nothing, or a letter, a sign and digits. -/
def exponent? : List Char → Option Int
  | [] => some 0
  | c :: cs =>
    if c = 'e' ∨ c = 'E' then
      let (negative, body) := signed cs
      (digits? digitValue? body).map fun ds => withSign negative (ofDigits ds)
    else none

/-- The run of digits after a point, if there is one, and what follows. -/
def afterPoint : List Char → List Char × List Char
  | '.' :: rest => (rest.takeWhile isNumeralChar, rest.dropWhile isNumeralChar)
  | rest => ([], rest)

def unsignedDecimal? (cs : List Char) : Option Decimal := do
  let whole ← run? (cs.takeWhile isNumeralChar)
  let (fractionChars, tail) := afterPoint (cs.dropWhile isNumeralChar)
  let fraction ← run? fractionChars
  let e ← exponent? tail
  if whole.isEmpty && fraction.isEmpty then none
  else some ⟨ofDigits (whole ++ fraction), e - fraction.length⟩

def lowerAscii (c : Char) : Char := if 'A' ≤ c ∧ c ≤ 'Z' then Char.ofNat (c.toNat + 32) else c

/-- A number with fraction and exponent, or one of the words for infinity and for no number. -/
def realChars? (cs : List Char) : Option Float :=
  let (negative, body) := signed (trim isNumeralBlank cs)
  let word := body.map lowerAscii
  if word = "inf".toList ∨ word = "infinity".toList then
    some (Double.toFloat (.infinite negative))
  else if word = "nan".toList then some (Double.toFloat .nan)
  else (unsignedDecimal? body).map (Decimal.nearest negative)

def real? (s : String) : Option Float := realChars? s.toList

end Number
end FilmIndex
