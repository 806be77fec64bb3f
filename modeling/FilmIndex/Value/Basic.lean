import FilmIndex.Keyed
import FilmIndex.Number.Reading

/-!
Values whose kind is known only when they arrive: literals of filters, index and
search parameters, statistics, settings as they are given.
-/

namespace FilmIndex

inductive Value where
  | null
  | bool (b : Bool)
  | int (n : Int)
  | float (x : Float)
  | text (s : String)
  | list (items : List Value)
  | record (fields : List (String × Value))
  deriving Inhabited

abbrev Fields := List (String × Value)

namespace Value

/-- The name of a value's kind in messages. -/
def kind : Value → String
  | null => "NoneType"
  | bool _ => "bool"
  | int _ => "int"
  | float _ => "float"
  | text _ => "str"
  | list _ => "list"
  | record _ => "dict"

def isNull : Value → Bool
  | null => true
  | _ => false

/-- The number that a truth value counts as. -/
def truthInt (b : Bool) : Int := if b then 1 else 0

def floats (xs : List Float) : Value := list (xs.map float)

end Value

/-- Why a value is no number, or cannot be written. -/
inductive NumberError where
  | badNumeral (text : String)
  | tooLarge
  | wrongKind (kind : String)
  | tooManyDigits
  deriving DecidableEq

namespace Value
open Number

/-- A value as a double: numbers and truth values as they are, texts read as numerals. -/
def toFloat : Value → Except NumberError Float
  | float x => .ok x
  | int n =>
    match Double.ofInt? n with
    | some x => .ok x
    | none => .error .tooLarge
  | bool b => .ok (Double.toFloat (.finite false (if b then Double.nearestRank 1 1 else 0)))
  | text s =>
    match real? s with
    | some x => .ok x
    | none => .error (.badNumeral s)
  | v => .error (.wrongKind v.kind)

end Value
end FilmIndex
