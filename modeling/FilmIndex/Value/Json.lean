import FilmIndex.Number.Layout
import FilmIndex.Text.Quoted
import FilmIndex.Value.Text

/-!
Values as JSON: an indented writer for statistics, and a reader for settings
that hold a list. Both know the numbers `NaN`, `Infinity` and `-Infinity`.
-/

namespace FilmIndex
namespace Json
open Number Text

def unitEscape (n : Nat) : List Char := '\\' :: 'u' :: hexDigits 4 n

/-- Anything but printable ASCII is escaped, by surrogate pairs above U+FFFF. -/
def escapedChar (c : Char) : List Char :=
  let n := c.toNat
  if c = '"' ∨ c = '\\' then ['\\', c]
  else if c = '\n' then ['\\', 'n']
  else if c = '\r' then ['\\', 'r']
  else if c = '\t' then ['\\', 't']
  else if n = 8 then ['\\', 'b']
  else if n = 12 then ['\\', 'f']
  else if 0x20 ≤ n ∧ n ≤ 0x7E then [c]
  else if n < 0x10000 then unitEscape n
  else unitEscape (0xD800 + (n - 0x10000) / 0x400) ++ unitEscape (0xDC00 + (n - 0x10000) % 0x400)

def writeText (s : String) : String :=
  String.ofList ('"' :: (s.toList.flatMap escapedChar ++ ['"']))

def newLine (depth : Nat) : String := String.ofList ('\n' :: List.replicate (4 * depth) ' ')

mutual

/-- A value whose inner lines stand `depth + 1` levels deep. -/
def write (depth : Nat) : Value → String
  | .null => "null"
  | .bool b => if b then "true" else "false"
  | .int n => intText n
  | .float x => Layout.stats.write x
  | .text s => writeText s
  | .list [] => "[]"
  | .list (v :: rest) =>
    "[" ++ newLine (depth + 1) ++ write (depth + 1) v ++ writeItems (depth + 1) rest ++
      newLine depth ++ "]"
  | .record [] => "\x7b\x7d"
  | .record ((k, v) :: rest) =>
    "\x7b" ++ newLine (depth + 1) ++ writeText k ++ ": " ++ write (depth + 1) v ++
      writeFields (depth + 1) rest ++ newLine depth ++ "\x7d"

def writeItems (depth : Nat) : List Value → String
  | [] => ""
  | v :: rest => "," ++ newLine depth ++ write depth v ++ writeItems depth rest

def writeFields (depth : Nat) : List (String × Value) → String
  | [] => ""
  | (k, v) :: rest =>
    "," ++ newLine depth ++ writeText k ++ ": " ++ write depth v ++ writeFields depth rest

end

/-- The text of a value that stands alone. -/
def written (v : Value) : Except NumberError String := v.checkWritable.map fun _ => write 0 v

theorem written_ok {v : Value} (h : v.writable = true) : written v = .ok (write 0 v) := by
  rw [written, Value.checkWritable, if_pos h]
  rfl

theorem written_error {v : Value} (h : ¬ v.writable = true) :
    written v = .error .tooManyDigits := by
  rw [written, Value.checkWritable, if_neg h]
  rfl

def isSpace (c : Char) : Bool := c == ' ' || c == '\t' || c == '\n' || c == '\r'

def skipSpace (cs : List Char) : List Char := cs.dropWhile isSpace

def hexValue? (c : Char) : Option Nat :=
  if '0' ≤ c ∧ c ≤ '9' then some (c.toNat - 48)
  else if 'a' ≤ c ∧ c ≤ 'f' then some (c.toNat - 87)
  else if 'A' ≤ c ∧ c ≤ 'F' then some (c.toNat - 55)
  else none

def hexUnit? (a b c d : Char) : Option Nat := do
  let w ← hexValue? a
  let x ← hexValue? b
  let y ← hexValue? c
  let z ← hexValue? d
  some (((w * 16 + x) * 16 + y) * 16 + z)

/-- The character of two UTF-16 units that form a pair. -/
def pairChar? (high low : Nat) : Option Char :=
  if 0xD800 ≤ high ∧ high < 0xDC00 ∧ 0xDC00 ≤ low ∧ low < 0xE000 then
    some (Char.ofNat (0x10000 + (high - 0xD800) * 0x400 + (low - 0xDC00)))
  else none

/-- A unit alone; half of a pair becomes the replacement character. -/
def unitChar (n : Nat) : Char :=
  if 0xD800 ≤ n ∧ n < 0xE000 then Char.ofNat 0xFFFD else Char.ofNat n

def simpleEscape? : Char → Option Char
  | '"' => some '"'
  | '\\' => some '\\'
  | '/' => some '/'
  | 'b' => some (Char.ofNat 8)
  | 'f' => some (Char.ofNat 12)
  | 'n' => some '\n'
  | 'r' => some '\r'
  | 't' => some '\t'
  | _ => none

/-- The text up to the closing quote, and what follows it. -/
def readText (read : List Char) : List Char → Option (String × List Char)
  | '"' :: rest => some (String.ofList read.reverse, rest)
  | '\\' :: 'u' :: a :: b :: c :: d :: '\\' :: 'u' :: e :: f :: g :: h :: rest =>
    match hexUnit? a b c d with
    | none => none
    | some high =>
      match (hexUnit? e f g h).bind (pairChar? high) with
      | some x => readText (x :: read) rest
      | none => readText (unitChar high :: read) ('\\' :: 'u' :: e :: f :: g :: h :: rest)
  | '\\' :: 'u' :: a :: b :: c :: d :: rest =>
    match hexUnit? a b c d with
    | none => none
    | some n => readText (unitChar n :: read) rest
  | '\\' :: c :: rest =>
    match simpleEscape? c with
    | some x => readText (x :: read) rest
    | none => none
  | c :: rest => if c.toNat < 0x20 ∨ c = '\\' then none else readText (c :: read) rest
  | [] => none

def isDigit (c : Char) : Bool := decide ('0' ≤ c ∧ c ≤ '9')

/-- The digits of a whole part: a single zero, or digits that do not begin with one. -/
def wholePart (cs : List Char) : List Char × List Char :=
  match cs with
  | '0' :: rest => (['0'], rest)
  | _ => (cs.takeWhile isDigit, cs.dropWhile isDigit)

/-- A point and digits, or else nothing. -/
def fractionPart (cs : List Char) : List Char × List Char :=
  match cs with
  | '.' :: rest =>
    if (rest.takeWhile isDigit).isEmpty then ([], cs)
    else ('.' :: rest.takeWhile isDigit, rest.dropWhile isDigit)
  | _ => ([], cs)

/-- A letter, a sign and digits, or else nothing. -/
def exponentPart (cs : List Char) : List Char × List Char :=
  match cs with
  | c :: rest =>
    if c = 'e' ∨ c = 'E' then
      let (sign, body) :=
        match rest with
        | '+' :: body => (['+'], body)
        | '-' :: body => (['-'], body)
        | _ => ([], rest)
      if (body.takeWhile isDigit).isEmpty then ([], cs)
      else (c :: sign ++ body.takeWhile isDigit, body.dropWhile isDigit)
    else ([], cs)
  | [] => ([], [])

def readNumber (cs : List Char) : Option (Value × List Char) :=
  let (sign, body) :=
    match cs with
    | '-' :: rest => (['-'], rest)
    | _ => ([], cs)
  let (whole, rest) := wholePart body
  if whole.isEmpty then none
  else
    let (fraction, rest) := fractionPart rest
    let (power, rest) := exponentPart rest
    if fraction.isEmpty && power.isEmpty then
      (integerChars? (sign ++ whole)).map fun n => (.int n, rest)
    else (realChars? (sign ++ whole ++ fraction ++ power)).map fun x => (.float x, rest)

def dropWord (word : String) (cs : List Char) : Option (List Char) :=
  if word.toList.isPrefixOf cs then some (cs.drop word.length) else none

/-- The words that stand for a value. -/
def readWord (cs : List Char) : Option (Value × List Char) :=
  [("null", Value.null), ("true", .bool true), ("false", .bool false),
    ("NaN", .float (Double.toFloat .nan)), ("Infinity", .float (Double.toFloat (.infinite false))),
    ("-Infinity", .float (Double.toFloat (.infinite true)))].findSome? fun w =>
      (dropWord w.1 cs).map fun rest => (w.2, rest)

mutual

/-- A value and what follows it; every step down costs fuel. -/
def readValue : Nat → List Char → Option (Value × List Char)
  | 0, _ => none
  | fuel + 1, cs =>
    match cs with
    | '"' :: rest => (readText [] rest).map fun r => (.text r.1, r.2)
    | '[' :: rest =>
      match skipSpace rest with
      | ']' :: rest => some (.list [], rest)
      | rest => (readItems fuel [] rest).map fun r => (.list r.1, r.2)
    | '\x7b' :: rest =>
      match skipSpace rest with
      | '\x7d' :: rest => some (.record [], rest)
      | rest => (readFields fuel [] rest).map fun r => (.record r.1, r.2)
    | _ =>
      match readWord cs with
      | some r => some r
      | none => readNumber cs

/-- The items up to the closing bracket. -/
def readItems : Nat → List Value → List Char → Option (List Value × List Char)
  | 0, _, _ => none
  | fuel + 1, read, cs =>
    match readValue fuel (skipSpace cs) with
    | none => none
    | some (v, rest) =>
      match skipSpace rest with
      | ',' :: rest => readItems fuel (v :: read) rest
      | ']' :: rest => some ((v :: read).reverse, rest)
      | _ => none

/-- The fields up to the closing brace; a repeated key has its last value. -/
def readFields : Nat → Fields → List Char → Option (Fields × List Char)
  | 0, _, _ => none
  | fuel + 1, read, cs =>
    match skipSpace cs with
    | '"' :: rest =>
      match readText [] rest with
      | none => none
      | some (k, rest) =>
        match skipSpace rest with
        | ':' :: rest =>
          match readValue fuel (skipSpace rest) with
          | none => none
          | some (v, rest) =>
            match skipSpace rest with
            | ',' :: rest => readFields fuel (Keyed.put k v read) rest
            | '\x7d' :: rest => some (Keyed.put k v read, rest)
            | _ => none
        | _ => none
    | _ => none

end

/-- The value that a whole text holds. It may be nested to any depth; no limit on the depth
of a recursion is modelled, here or elsewhere. -/
def read? (s : String) : Option Value :=
  let cs := s.toList
  match readValue (2 * cs.length + 2) (skipSpace cs) with
  | some (v, rest) => if (skipSpace rest).isEmpty then some v else none
  | none => none

end Json
end FilmIndex
