import FilmIndex.Film.Columns
import FilmIndex.Film.Embedding

/-!
A film as a line of a film file: id, title, release year and embedding. Title
and embedding may hold commas; the embedding begins with the first column after
the third that opens a list.
-/

namespace FilmIndex

structure Film where
  id : Int
  title : String
  releaseYear : Int
  embedding : Embedding

inductive RowError where
  | columns (e : ColumnError)
  | format (e : FormatError)
  deriving DecidableEq

namespace Film
open Number Text

def opensList (column : List Char) : Bool := (trimStart isBlank column).head? == some '['

/-- The columns before and from the one that opens the embedding. -/
def splitAtEmbedding? (columns : List (List Char)) :
    Option (List (List Char) × List (List Char)) :=
  let rest := columns.drop 3
  let before := rest.takeWhile fun c => !opensList c
  let list := rest.dropWhile fun c => !opensList c
  if list.isEmpty then none else some (columns.take 3 ++ before, list)

def ofColumns (dim : Int) (line : List Char) (columns : List (List Char)) :
    Except FormatError Film :=
  match splitAtEmbedding? columns with
  | none => .error (.noEmbedding (String.ofList line))
  | some (before, list) =>
    match before.head?.bind integerChars?, before.getLast?.bind integerChars? with
    | some id, some year =>
      match Embedding.parseChars dim (joined [','] list) with
      | .ok embedding =>
        .ok ⟨id, String.ofList (joined [','] (before.drop 1).dropLast), year, embedding⟩
      | .error e => .error e
    | _, _ => .error (.badInteger (String.ofList line))

def parseChars (dim : Int) (line : List Char) : Except RowError Film :=
  match Columns.read line with
  | .error e => .error (.columns e)
  | .ok columns => (ofColumns dim line columns).mapError .format

def parse (dim : Int) (line : String) : Except RowError Film := parseChars dim line.toList

end Film
end FilmIndex
