import FilmIndex.Text.Printable

/-!
A text between quotes on one line, as it stands in messages. Single quotes are
used unless the text has a single quote and no double one. The quote in use and
the backslash take a backslash, unprintable characters become escapes.
-/

namespace FilmIndex
namespace Text

def hexDigit (n : Nat) : Char :=
  if n < 10 then Char.ofNat (48 + n) else Char.ofNat (87 + n)

/-- The last `width` hexadecimal digits of a number. -/
def hexDigits : Nat → Nat → List Char
  | 0, _ => []
  | width + 1, n => hexDigits width (n / 16) ++ [hexDigit (n % 16)]

def escaped (c : Char) : List Char :=
  let n := c.toNat
  if c = '\n' then ['\\', 'n']
  else if c = '\r' then ['\\', 'r']
  else if c = '\t' then ['\\', 't']
  else if n < 0x100 then '\\' :: 'x' :: hexDigits 2 n
  else if n < 0x10000 then '\\' :: 'u' :: hexDigits 4 n
  else '\\' :: 'U' :: hexDigits 8 n

def quotedChar (mark c : Char) : List Char :=
  if c = mark ∨ c = '\\' then ['\\', c]
  else if isPrintable c then [c]
  else escaped c

def quoteMark (cs : List Char) : Char :=
  if cs.contains '\'' && !cs.contains '"' then '"' else '\''

def quotedChars (cs : List Char) : List Char :=
  let mark := quoteMark cs
  mark :: (cs.flatMap (quotedChar mark) ++ [mark])

def quoted (s : String) : String := String.ofList (quotedChars s.toList)

end Text
end FilmIndex
