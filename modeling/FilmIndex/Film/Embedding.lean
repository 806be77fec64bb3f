import FilmIndex.Number.Layout
import FilmIndex.Text.Pieces
import FilmIndex.Value.Text

/-!
Embeddings as they stand in a film file: a bracketed list of numbers, which may
have double quotes around it.
-/

namespace FilmIndex

abbrev Embedding := List Float

/-- What is wrong with a film's line or with its embedding. -/
inductive FormatError where
  | notBracketed (text : String)
  | wrongCount (expected : Int) (found : Nat)
  | badNumber (text : String)
  | noEmbedding (line : String)
  | badInteger (line : String)
  deriving DecidableEq

namespace FormatError
open Number Text

/-- The numbers are written whether or not they are `writable`: a dimension of more digits than
that is an idealization here. -/
def message : FormatError → String
  | .notBracketed text => "embedding must be a bracketed list, got " ++ quoted text
  | .wrongCount expected found =>
    "expected " ++ intText expected ++ " embedding values, got " ++ intText found
  | .badNumber text => "bad embedding value in " ++ quoted text
  | .noEmbedding line =>
    "expected id,title,year,embedding; no embedding list in " ++ quoted line
  | .badInteger line => "id and release_year must be integers: " ++ quoted line

end FormatError

namespace Embedding
open Number Text

def defaultDimension : Int := 8

/-- The text between its first and last character, when these are the given ones. -/
def between? (first last : Char) (cs : List Char) : Option (List Char) :=
  match cs with
  | a :: b :: rest =>
    if a = first ∧ (b :: rest).getLast? = some last then some (b :: rest).dropLast else none
  | _ => none

/-- The inside of the brackets, without blanks around it. -/
def body? (text : List Char) : Option (List Char) :=
  let raw := trim isBlank text
  let bare :=
    match between? '"' '"' raw with
    | some inner => trim isBlank inner
    | none => raw
  (between? '[' ']' bare).map (trim isBlank)

def tokens (body : List Char) : List (List Char) :=
  if body.isEmpty then [] else (pieces ',' body).map (trim isBlank)

def parseChars (dim : Int) (text : List Char) : Except FormatError Embedding :=
  match body? text with
  | none => .error (.notBracketed (String.ofList text))
  | some body =>
    let found := tokens body
    if (found.length : Int) ≠ dim then .error (.wrongCount dim found.length)
    else
      match found.mapM realChars? with
      | some xs => .ok xs
      | none => .error (.badNumber (String.ofList text))

def parse (dim : Int) (text : String) : Except FormatError Embedding := parseChars dim text.toList

def formatChars (v : Embedding) : List Char :=
  '[' :: (joined [',', ' '] (v.map fun x => Layout.plain.doubleText (Double.ofFloat x)) ++ [']'])

def format (v : Embedding) : String := String.ofList (formatChars v)

/-- An embedding of values that need not be doubles yet; the first one that is
no number is reported. -/
def formatValues (v : List Value) : Except NumberError String := do
  let xs ← v.mapM Value.toFloat
  return format xs

end Embedding
end FilmIndex
