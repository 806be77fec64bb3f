/-!
The lines of a text. A line ends at a line feed, at a carriage return, or at
the two together, and at no other separator; the last line may lack its end.
-/

namespace FilmIndex
namespace Text

/-- The lines of `cs` when `line`, reversed, has been read of the first one.
The flag tells that the character before `cs` was a carriage return, so that a
line feed ends no further line. -/
def linesFrom (line : List Char) (afterReturn : Bool) : List Char → List (List Char)
  | [] => if line.isEmpty then [] else [line.reverse]
  | c :: cs =>
    if c = '\n' then
      if afterReturn then linesFrom [] false cs else line.reverse :: linesFrom [] false cs
    else if c = '\r' then line.reverse :: linesFrom [] true cs
    else linesFrom (c :: line) false cs

def lines (cs : List Char) : List (List Char) := linesFrom [] false cs

def isBreak (c : Char) : Bool := c == '\n' || c == '\r'

/-- The part of a growing text whose lines are known to be ended: a carriage
return at its very end may still turn out to be half of a line end. -/
def endedPart (cs : List Char) : List Char :=
  match cs.reverse with
  | '\r' :: before => (before.dropWhile fun c => !isBreak c).reverse
  | back => (back.dropWhile fun c => !isBreak c).reverse

end Text
end FilmIndex
