import FilmIndex.Number.Layout
import FilmIndex.Text.Quoted

/-!
UTF-8 text and its faults. A text may be decoded at once, or in windows of a fixed
size while its lines are consumed. Then a fault is noticed only once the window
that shows it is reached, its position counts from the start of what is then
undecided, and the lines ended before are already known.
-/

namespace FilmIndex
namespace Text
namespace Utf8

inductive Defect where
  | invalidStart
  | invalidContinuation
  | unexpectedEnd
  deriving DecidableEq

def Defect.text : Defect → String
  | .invalidStart => "invalid start byte"
  | .invalidContinuation => "invalid continuation byte"
  | .unexpectedEnd => "unexpected end of data"

/-- The first bytes of a sequence: a whole character of some length, or a defect
of the first `length` bytes that shows once `needed` bytes are there. -/
inductive Head where
  | character (length : Nat)
  | defect (kind : Defect) (length needed : Nat)
  deriving DecidableEq

def isContinuation (b : UInt8) : Bool := decide (0x80 ≤ b ∧ b < 0xC0)

/-- Whether `b` may follow the lead byte: the shortest forms, no surrogates, and
nothing above the last code point. -/
def isSecond (lead b : UInt8) : Bool :=
  isContinuation b && !(lead == 0xE0 && decide (b < 0xA0)) && !(lead == 0xED && decide (0xA0 ≤ b)) &&
    !(lead == 0xF0 && decide (b < 0x90)) && !(lead == 0xF4 && decide (0x90 ≤ b))

/-- How many bytes the character of a lead byte takes; `0` for no lead byte. -/
def width (lead : UInt8) : Nat :=
  if lead < 0x80 then 1
  else if lead < 0xC2 then 0
  else if lead < 0xE0 then 2
  else if lead < 0xF0 then 3
  else if lead < 0xF5 then 4
  else 0

/-- A surrogate's second byte is judged only with the byte after it. -/
def secondNeeds (lead b : UInt8) : Nat :=
  if lead == 0xED && isContinuation b then 3 else 2

/-- The bytes after the second one, of which `want` more must be continuations. -/
def later (soFar : Nat) : Nat → List UInt8 → Head
  | 0, _ => .character soFar
  | _ + 1, [] => .defect .unexpectedEnd soFar (soFar + 1)
  | want + 1, b :: rest =>
    if isContinuation b then later (soFar + 1) want rest
    else .defect .invalidContinuation soFar (soFar + 1)

def head (lead : UInt8) (rest : List UInt8) : Head :=
  match width lead, rest with
  | 0, _ => .defect .invalidStart 1 1
  | 1, _ => .character 1
  | _ + 2, [] => .defect .unexpectedEnd 1 2
  | want + 2, b :: rest =>
    if isSecond lead b then later 2 want rest
    else .defect .invalidContinuation 1 (secondNeeds lead b)

structure Fault where
  kind : Defect
  /-- First byte of the faulty sequence, counted from the start of the text. -/
  start : Nat
  length : Nat
  needed : Nat
  deriving DecidableEq

/-- The first fault of the bytes, which stand at offset `start`; the first
`skip` of them belong to a character already read. -/
def faultFrom (start skip : Nat) : List UInt8 → Option Fault
  | [] => none
  | b :: rest =>
    match skip with
    | skip + 1 => faultFrom (start + 1) skip rest
    | 0 =>
      match head b rest with
      | .character n => faultFrom (start + 1) (n - 1) rest
      | .defect kind length needed => some ⟨kind, start, length, needed⟩

def fault? (bytes : List UInt8) : Option Fault := faultFrom 0 0 bytes

def windowSize : Nat := 8192

/-- Where the character that lies across an offset begins. -/
def boundaryBefore (bytes : Array UInt8) (offset : Nat) : Nat :=
  let continues (n : Nat) : Bool := (bytes[n]?).any isContinuation
  if !continues offset then offset
  else if !continues (offset - 1) then offset - 1
  else if !continues (offset - 2) then offset - 2
  else offset - 3

/-- Where the undecided bytes begin when the fault is noticed: bytes left over
from the window before, or else the window itself. -/
def Fault.undecidedFrom (f : Fault) (bytes : Array UInt8) : Nat :=
  let shown := f.start + f.needed
  if bytes.size < shown then f.start
  else
    let window := (shown - 1) / windowSize * windowSize
    if f.start ≤ window then f.start else boundaryBefore bytes window

/-- A fault as it is reported: the offending bytes and their position. -/
structure Report where
  kind : Defect
  position : Nat
  bytes : List UInt8
  deriving DecidableEq

def Report.message (r : Report) : String :=
  let last := r.position + r.bytes.length - 1
  let place :=
    match r.bytes with
    | [b] => "byte 0x" ++ String.ofList (hexDigits 2 b.toNat) ++ " in position " ++
        Number.intText r.position
    | _ => "bytes in position " ++ Number.intText r.position ++ "-" ++ Number.intText last
  "'utf-8' codec can't decode " ++ place ++ ": " ++ r.kind.text

/-- The report of a fault when the bytes from an offset on are undecided. -/
def Fault.reportFrom (f : Fault) (undecided : Nat) (bytes : Array UInt8) : Report :=
  ⟨f.kind, f.start - undecided, (bytes.toList.drop f.start).take f.length⟩

def Fault.report (f : Fault) (bytes : Array UInt8) : Report :=
  f.reportFrom (f.undecidedFrom bytes) bytes

/-- The text of some bytes that are decoded at once. -/
def decode (bytes : ByteArray) : Except Report String :=
  match String.fromUTF8? bytes with
  | some text => .ok text
  | none =>
    match fault? bytes.toList with
    | none => .ok ""  -- bytes that are no text have a fault
    | some fault => .error (fault.reportFrom 0 bytes.data)

end Utf8
end Text
end FilmIndex
