import FilmIndex.Film.Disk
import FilmIndex.Keyed
import FilmIndex.Film.Row
import FilmIndex.Text.Lines
import FilmIndex.Text.Utf8

/-!
Films in the order of their file. A film file is read line by line up to the
first line that is no film; lines of white space alone do not count as films but
do count as lines.
-/

namespace FilmIndex

abbrev Catalog := List Film

/-- Films by column, in the order in which they were appended. -/
structure FilmColumns where
  ids : List Int := []
  titles : List String := []
  releaseYears : List Int := []
  embeddings : List Embedding := []

namespace FilmColumns

def append (c : FilmColumns) (f : Film) : FilmColumns :=
  ⟨c.ids ++ [f.id], c.titles ++ [f.title], c.releaseYears ++ [f.releaseYear],
    c.embeddings ++ [f.embedding]⟩

def size (c : FilmColumns) : Nat := c.ids.length

end FilmColumns

inductive CatalogError where
  | disk (path : String) (e : DiskError)
  | undecodable (report : Text.Utf8.Report)
  | columns (e : ColumnError)
  | format (line : Nat) (e : FormatError)
  deriving DecidableEq

def CatalogError.message : CatalogError → String
  | .disk path e => e.message path
  | .undecodable r => r.message
  | .columns e => e.message
  | .format line e => "line " ++ Number.intText line ++ ": " ++ e.message

namespace Catalog
open Text

def ids (films : Catalog) : List Int := films.map (·.id)
def titles (films : Catalog) : List String := films.map (·.title)
def releaseYears (films : Catalog) : List Int := films.map (·.releaseYear)
def embeddings (films : Catalog) : List Embedding := films.map (·.embedding)

def columns (films : Catalog) : FilmColumns := films.foldl FilmColumns.append {}

theorem columns_eq (films : Catalog) :
    films.columns = ⟨films.ids, films.titles, films.releaseYears, films.embeddings⟩ := by
  suffices h : ∀ c, films.foldl FilmColumns.append c =
      ⟨c.ids ++ films.ids, c.titles ++ films.titles, c.releaseYears ++ films.releaseYears,
        c.embeddings ++ films.embeddings⟩ from h {}
  induction films with
  | nil => simp [ids, titles, releaseYears, embeddings]
  | cons f films ih =>
      intro c
      rw [List.foldl_cons, ih]
      simp [FilmColumns.append, ids, titles, releaseYears, embeddings]

/-- The title of each id; of several films with one id the last one counts. -/
def titlesById (films : Catalog) : List (Int × String) :=
  Keyed.ofList (films.map fun f => (f.id, f.title))

/-- The films of the lines, of which the first has the given number; `read`,
reversed, are those before. -/
def ofLinesFrom (dim : Int) (number : Nat) (read : Catalog) :
    List (List Char) → Except CatalogError Catalog
  | [] => .ok read.reverse
  | line :: rest =>
    if line.all isBlank then ofLinesFrom dim (number + 1) read rest
    else
      match Film.parseChars dim line with
      | .ok film => ofLinesFrom dim (number + 1) (film :: read) rest
      | .error (.columns e) => .error (.columns e)
      | .error (.format e) => .error (.format number e)

def ofLines (dim : Int) (ls : List (List Char)) : Except CatalogError Catalog :=
  ofLinesFrom dim 1 [] ls

def parse (dim : Int) (text : String) : Except CatalogError Catalog :=
  ofLines dim (lines text.toList)

/-- The lines that end before the bytes a fault leaves undecided. -/
def linesBefore (bytes : ByteArray) (undecided : Nat) : List (List Char) :=
  lines (endedPart ((String.fromUTF8? (bytes.extract 0 undecided)).getD "").toList)

/-- A faulty line that comes before the first undecodable byte is noticed first. -/
def ofBytes (dim : Int) (bytes : ByteArray) : Except CatalogError Catalog :=
  match String.fromUTF8? bytes with
  | some text => parse dim text
  | none =>
    match Utf8.fault? bytes.toList with
    | none => .ok []  -- bytes that are no text have a fault
    | some fault =>
      match ofLines dim (linesBefore bytes (fault.undecidedFrom bytes.data)) with
      | .error e => .error e
      | .ok _ => .error (.undecodable (fault.report bytes.data))

def read (files : Files) (dim : Int) (path : String) : Except CatalogError Catalog :=
  match files path with
  | .error e => .error (.disk path e)
  | .ok bytes => ofBytes dim bytes

end Catalog
end FilmIndex
