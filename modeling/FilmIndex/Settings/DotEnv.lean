import FilmIndex.Keyed
import FilmIndex.Text.Blank

/-!
Files of environment settings. A line holds a name, an equals sign and a value;
values may be quoted and then go over several lines; a line that cannot be read
is skipped. In a value `$\x7bNAME\x7d` and `$\x7bNAME:-other\x7d` stand for a name's value.
-/

namespace FilmIndex
namespace DotEnv
open Text

abbrev Chars := List Char

def isInlineBlank (c : Char) : Bool := isBlank c && c != '\n'

def skipInline (cs : Chars) : Chars := cs.dropWhile isInlineBlank

/-- The rest after the line in which `cs` begins. -/
def skipLine (cs : Chars) : Chars :=
  match cs.dropWhile (· != '\n') with
  | [] => []
  | _ :: rest => rest

/-- What follows the word `export` and blanks, if that is how the text begins. -/
def skipExport (cs : Chars) : Chars :=
  match cs with
  | 'e' :: 'x' :: 'p' :: 'o' :: 'r' :: 't' :: c :: rest =>
    if isInlineBlank c then skipInline rest else cs
  | _ => cs

def isNameChar (c : Char) : Bool := c != '=' && c != '#' && !isBlank c

/-- Where reading stopped, and what was read unless it failed. -/
structure Reading (α : Type) where
  result? : Option α
  rest : Chars

/-- A name, which a comment lacks. -/
def readName (cs : Chars) : Reading (Option Chars) :=
  match cs with
  | '#' :: _ => ⟨some none, cs⟩
  | '\'' :: quotedPart =>
    match quotedPart.dropWhile (· != '\'') with
    | '\'' :: rest =>
      let name := quotedPart.takeWhile (· != '\'')
      if name.isEmpty then ⟨none, cs⟩ else ⟨some (some name), rest⟩
    | _ => ⟨none, cs⟩
  | _ =>
    let name := cs.takeWhile isNameChar
    if name.isEmpty then ⟨none, cs⟩ else ⟨some (some name), cs.dropWhile isNameChar⟩

/-- The text up to the closing quote and what follows it. A backslash keeps the
character after it from closing. -/
def closing? (mark : Char) (read : Chars) : Chars → Option (Chars × Chars)
  | [] => none
  | '\\' :: c :: cs => closing? mark (c :: '\\' :: read) cs
  | c :: cs =>
    if c = mark then some (read.reverse, cs)
    else if c = '\\' then none
    else closing? mark (c :: read) cs

def singleEscape? : Char → Option Char
  | '\\' => some '\\'
  | '\'' => some '\''
  | _ => none

def doubleEscape? : Char → Option Char
  | '\\' => some '\\'
  | '\'' => some '\''
  | '"' => some '"'
  | 'a' => some (Char.ofNat 7)
  | 'b' => some (Char.ofNat 8)
  | 't' => some '\t'
  | 'n' => some '\n'
  | 'v' => some (Char.ofNat 11)
  | 'f' => some (Char.ofNat 12)
  | 'r' => some '\r'
  | _ => none

def unescape (escape? : Char → Option Char) (done : Chars) : Chars → Chars
  | [] => done.reverse
  | '\\' :: c :: cs =>
    match escape? c with
    | some x => unescape escape? (x :: done) cs
    | none => unescape escape? ('\\' :: done) (c :: cs)
  | c :: cs => unescape escape? (c :: done) cs

/-- The part before a comment that follows blanks. The first list holds, reversed,
what is kept, the second the blanks just read. -/
def beforeComment (kept blanks : Chars) : Chars → Chars
  | [] => kept.reverse
  | c :: cs =>
    if c = '#' ∧ blanks ≠ [] then kept.reverse
    else if isBlank c then beforeComment kept (c :: blanks) cs
    else beforeComment (c :: (blanks ++ kept)) [] cs

/-- A value. The flag tells whether blanks come before it, after which a comment
may take its place. -/
def readValue (afterBlanks : Bool) (cs : Chars) : Reading Chars :=
  match cs with
  | '\'' :: inside =>
    match closing? '\'' [] inside with
    | some (text, rest) => ⟨some (unescape singleEscape? [] text), rest⟩
    | none => ⟨none, cs⟩
  | '"' :: inside =>
    match closing? '"' [] inside with
    | some (text, rest) => ⟨some (unescape doubleEscape? [] text), rest⟩
    | none => ⟨none, cs⟩
  | _ =>
    let line := cs.takeWhile (· != '\n')
    let isComment := afterBlanks && line.head? == some '#'
    ⟨some (if isComment then [] else beforeComment [] [] line), cs.dropWhile (· != '\n')⟩

/-- What follows the end of a line, before which only blanks and a comment may stand. -/
def lineEnd? (cs : Chars) : Option Chars :=
  let cs :=
    match skipInline cs with
    | '#' :: rest => rest.dropWhile (· != '\n')
    | _ => cs
  match skipInline cs with
  | [] => some []
  | c :: rest => if c = '\n' then some rest else none

/-- A name with its value, which a name without equals sign lacks. -/
abbrev Entry := Chars × Option Chars

def readOptionalValue (cs : Chars) : Reading (Option Chars) :=
  match cs with
  | '=' :: rest =>
    let r := readValue (rest.head?.any isInlineBlank) (skipInline rest)
    ⟨r.result?.map some, r.rest⟩
  | _ => ⟨some none, cs⟩

/-- One entry or comment, and the rest of the text. -/
def readEntry (cs : Chars) : Option Entry × Chars :=
  let name := readName (skipExport cs)
  match name.result? with
  | none => (none, skipLine name.rest)
  | some name? =>
    let value := readOptionalValue (skipInline name.rest)
    match value.result? with
    | none => (none, skipLine value.rest)
    | some value? =>
      match lineEnd? value.rest with
      | none => (none, skipLine value.rest)
      | some rest => (name?.map fun n => (n, value?), rest)

/-- The entries of a text; each takes at least one character of it. -/
def readEntries : Nat → Chars → List Entry
  | 0, _ => []
  | fuel + 1, cs =>
    match cs.dropWhile isBlank with
    | [] => []
    | c :: rest =>
      match readEntry (c :: rest) with
      | (some e, rest) => e :: readEntries fuel rest
      | (none, rest) => readEntries fuel rest

/-- A piece of a value: text as it stands, or the value of a name, with another
text for when the name is unknown. -/
inductive Piece where
  | text (cs : Chars)
  | reference (name other : Chars)

/-- A reference up to its closing brace, and what follows. -/
def readReference? (cs : Chars) : Option (Piece × Chars) :=
  let isNamePart := fun c : Char => c != '\x7d' && c != ':'
  let name := cs.takeWhile isNamePart
  match cs.dropWhile isNamePart with
  | '\x7d' :: rest => some (.reference name [], rest)
  | ':' :: '-' :: more =>
    match more.dropWhile (· != '\x7d') with
    | '\x7d' :: rest => some (.reference name (more.takeWhile (· != '\x7d')), rest)
    | _ => none
  | _ => none

def splitPieces : Nat → Chars → Chars → List Piece
  | 0, read, cs => [.text (read.reverse ++ cs)]
  | _ + 1, read, [] => [.text read.reverse]
  | fuel + 1, read, '$' :: '\x7b' :: cs =>
    match readReference? cs with
    | some (p, rest) => .text read.reverse :: p :: splitPieces fuel [] rest
    | none => splitPieces fuel ('$' :: read) ('\x7b' :: cs)
  | fuel + 1, read, c :: cs => splitPieces fuel (c :: read) cs

abbrev Bindings := List (Chars × Option Chars)

/-- The text that a piece stands for; a name set without a value stands for none. -/
def Piece.resolve (known : Bindings) : Piece → Chars
  | text cs => cs
  | reference name other =>
    match Keyed.get? name known with
    | some value? => value?.getD []
    | none => other

def resolve (known : Bindings) (value : Chars) : Chars :=
  (splitPieces (value.length + 1) [] value).flatMap (Piece.resolve known)

/-- One more name with its value, in which earlier entries and then the
environment are known. -/
def resolveEntry (environment done : Bindings) (e : Entry) : Bindings :=
  Keyed.put e.1 (e.2.map (resolve (Keyed.putAll environment done))) done

def resolveAll (environment : Bindings) (entries : List Entry) : Bindings :=
  entries.foldl (resolveEntry environment) []

/-- Line ends written in any of the three ways become line feeds. -/
def unifyBreaks : Chars → Chars
  | [] => []
  | '\r' :: '\n' :: cs => '\n' :: unifyBreaks cs
  | '\r' :: cs => '\n' :: unifyBreaks cs
  | c :: cs => c :: unifyBreaks cs

/-- A byte order mark at the start of the file is no part of its text. -/
def skipMark (cs : Chars) : Chars :=
  match cs with
  | '\uFEFF' :: rest => rest
  | _ => cs

def entries (content : String) : List Entry :=
  let cs := unifyBreaks (skipMark content.toList)
  readEntries (cs.length + 1) cs

def read (environment : List (String × String)) (content : String) :
    List (String × Option String) :=
  let known : Bindings := environment.map fun e => (e.1.toList, some e.2.toList)
  (resolveAll known (entries content)).map fun e => (String.ofList e.1, e.2.map String.ofList)

end DotEnv
end FilmIndex
