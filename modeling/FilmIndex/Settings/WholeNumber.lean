import FilmIndex.Value.Basic

/-!
Whole numbers as settings accept them: whole numbers themselves, truth values,
doubles without a fraction, and texts. A text is digits after an optional minus
sign, or can be brought into that form: blanks around it, a plus sign, zeros in
front, single underscores, and a point with zeros at the end go. In front, zeros
and underscores may alternate freely, and a minus sign may also follow them.
-/

namespace FilmIndex

/-- What is wrong with the value of a setting. -/
inductive SettingFault where
  | notText
  | notList
  | notWhole
  | notNumeral
  | tooLarge
  | hasFraction
  | notFinite
  | notPositive
  | unknownLevel (name : String)
  deriving DecidableEq

namespace WholeNumber
open Number Text

def isDigit (c : Char) : Bool := (asciiDigitValue? c).isSome

/-- The number of a text that is zero alone or digits that do not begin with zero.
Too many digits are noticed before what follows them. -/
def unsigned (cs : List Char) : Except SettingFault Nat :=
  let ds := (cs.takeWhile isDigit).filterMap asciiDigitValue?
  let ends := (cs.dropWhile isDigit).isEmpty
  match ds with
  | [] => .error .notNumeral
  | 0 :: more => if more.isEmpty && ends then .ok 0 else .error .notNumeral
  | _ =>
    if digitLimit < ds.length then .error .tooLarge
    else if ends then .ok (ofDigits ds)
    else .error .notNumeral

/-- The number of a text in its plain form: digits, perhaps after a minus sign. -/
def ofPlain : List Char → Except SettingFault Int
  | '-' :: cs => (unsigned cs).map fun n => withSign true n
  | cs => (unsigned cs).map fun n => withSign false n

/-- The text from where zeros and underscores end, with a digit or a minus sign
there. Before a point, and at the end of the text, the character in front stays. -/
def afterZeros? (front : Char) : List Char → Option (List Char)
  | [] => some [front]
  | c :: cs =>
    if c = '0' ∨ c = '_' then afterZeros? c cs
    else if c = '.' then some (front :: c :: cs)
    else if c = '-' ∨ isDigit c then some (c :: cs)
    else none

/-- A text that begins with a digit, without the zeros at its start. -/
def withoutZeros? : List Char → Option (List Char)
  | [] => none
  | c :: cs =>
    if c = '0' then afterZeros? c cs
    else if isDigit c then some (c :: cs)
    else none

/-- The text before a point that is followed by zeros only. -/
def withoutZeroFraction (cs : List Char) : List Char :=
  let whole := cs.takeWhile (· != '.')
  match cs.dropWhile (· != '.') with
  | '.' :: zeros => if !zeros.isEmpty && zeros.all (· == '0') then whole else cs
  | _ => whole

/-- Whether each underscore stands alone between two other characters. The flag
tells whether one of these comes right before. -/
def separates (afterOther : Bool) : List Char → Bool
  | [] => afterOther
  | c :: cs => if c = '_' then afterOther && separates false cs else separates true cs

def withoutUnderscores? (cs : List Char) : Option (List Char) :=
  if separates false cs then some (cs.filter (· != '_')) else none

/-- The plain form of a text with blanks around it, a plus sign, zeros in front,
underscores, or a point and zeros at the end. -/
def plainForm? (cs : List Char) : Option (List Char) := do
  let (negative, body) := signed (trim isNumeralBlank cs)
  let digits ← withoutUnderscores? (withoutZeroFraction (← withoutZeros? body))
  return if negative then '-' :: digits else digits

/-- A text is read as it stands, and otherwise in its plain form. Only as it
stands it can be too large. -/
def ofChars (cs : List Char) : Except SettingFault Int :=
  match ofPlain cs with
  | .error .notNumeral =>
    match plainForm? cs with
    | some plain => (ofPlain plain).mapError fun _ => .notNumeral
    | none => .error .notNumeral
  | read => read

/-- Doubles of `2 ^ 63` and more are too large. -/
def ofDouble (x : Double) : Except SettingFault Int :=
  match x with
  | .finite _ _ =>
    match x.toInt? with
    | none => .error .hasFraction
    | some n => if n.natAbs < twoPow 63 then .ok n else .error .tooLarge
  | _ => .error .notFinite

def ofValue : Value → Except SettingFault Int
  | .int n => .ok n
  | .bool b => .ok (Value.truthInt b)
  | .float x => ofDouble (Double.ofFloat x)
  | .text s => ofChars s.toList
  | _ => .error .notWhole

end WholeNumber
end FilmIndex
