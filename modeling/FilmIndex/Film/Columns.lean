/-!
The columns of a line, parted by commas. A column that begins with a double
quote runs to the closing one; two double quotes in it stand for one. What
follows the closing quote belongs to the column as well, and a quote that is
never closed closes at the end of the line.
-/

namespace FilmIndex

inductive ColumnError where
  | columnTooLong
  | breakInColumn
  deriving DecidableEq

namespace ColumnError

def message : ColumnError → String
  | .columnTooLong => "field larger than field limit (131072)"
  | .breakInColumn =>
    "new-line character seen in unquoted field - do you need to open the file in universal-newline mode?"

end ColumnError

namespace Columns

/-- A column has at most this many characters. -/
def columnLimit : Nat := 131072

/-- Where in a line the reader stands. After a line break only more breaks may follow. -/
inductive Place where
  | lineStart
  | columnStart
  | plain
  | quoted
  | quoteInQuoted
  | afterBreak
  deriving DecidableEq

def isBreak (c : Char) : Bool := c == '\n' || c == '\r'

/-- What one character does at a place: it changes the place, ends a column, or
joins the column. -/
inductive Step where
  | move (next : Place)
  | finish (next : Place)
  | join (next : Place)
  | refuse
  deriving DecidableEq

def step (place : Place) (c : Char) : Step :=
  match place with
  | .lineStart =>
    if isBreak c then .move .afterBreak
    else if c = '"' then .move .quoted
    else if c = ',' then .finish .columnStart
    else .join .plain
  | .columnStart =>
    if isBreak c then .finish .afterBreak
    else if c = '"' then .move .quoted
    else if c = ',' then .finish .columnStart
    else .join .plain
  | .plain =>
    if isBreak c then .finish .afterBreak
    else if c = ',' then .finish .columnStart
    else .join .plain
  | .quoted => if c = '"' then .move .quoteInQuoted else .join .quoted
  | .quoteInQuoted =>
    if c = '"' then .join .quoted
    else if isBreak c then .finish .afterBreak
    else if c = ',' then .finish .columnStart
    else .join .plain
  | .afterBreak => if isBreak c then .move .afterBreak else .refuse

/-- Whether a column is under way that the end of the line ends. -/
def Place.isOpen : Place → Bool
  | .lineStart | .afterBreak => false
  | _ => true

/-- The columns when `column`, of `size` characters and reversed, is under way
and `row`, reversed, has been read before it. -/
def readFrom (place : Place) (column : List Char) (size : Nat) (row : List (List Char)) :
    List Char → Except ColumnError (List (List Char))
  | [] => .ok (if place.isOpen then (column.reverse :: row).reverse else row.reverse)
  | c :: cs =>
    match step place c with
    | .move next => readFrom next column size row cs
    | .finish next => readFrom next [] 0 (column.reverse :: row) cs
    | .join next =>
      if size < columnLimit then readFrom next (c :: column) (size + 1) row cs
      else .error .columnTooLong
    | .refuse => .error .breakInColumn

def read (line : List Char) : Except ColumnError (List (List Char)) :=
  readFrom .lineStart [] 0 [] line

end Columns
end FilmIndex
