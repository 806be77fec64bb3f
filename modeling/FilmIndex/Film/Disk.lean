import FilmIndex.Text.Quoted
import FilmIndex.Text.Pieces

/-!
Named files below a current directory, and what goes wrong when a path is opened
for reading.
-/

namespace FilmIndex

inductive DiskError where
  | nullByte
  | notFound
  | notDirectory
  | isDirectory
  | nameTooLong
  deriving DecidableEq

namespace DiskError

def code? : DiskError → Option Nat
  | .nullByte => none
  | .notFound => some 2
  | .notDirectory => some 20
  | .isDirectory => some 21
  | .nameTooLong => some 36

def text : DiskError → String
  | .nullByte => "embedded null byte"
  | .notFound => "No such file or directory"
  | .notDirectory => "Not a directory"
  | .isDirectory => "Is a directory"
  | .nameTooLong => "File name too long"

def message (path : String) (e : DiskError) : String :=
  match e.code? with
  | none => e.text
  | some n => "[Errno " ++ toString n ++ "] " ++ e.text ++ ": " ++ Text.quoted path

end DiskError

/-- What opening each path for reading gives. -/
abbrev Files := String → Except DiskError ByteArray

/-- The files of the current directory by their names, in which slashes part
the names of directories. -/
structure Disk where
  files : List (String × ByteArray)

namespace Disk
open Text

abbrev Segments := List (List Char)

def segments (path : String) : Segments := pieces '/' path.toList

def byteLength (name : List Char) : Nat := (String.ofList name).utf8ByteSize

/-- What a path leads to. Above the current directory only directories are known. -/
inductive Node where
  | file (content : ByteArray)
  | inside (directory : Segments)
  | above

def lookup? (disk : Disk) (full : Segments) : Option Node :=
  match disk.files.find? fun f => segments f.1 == full with
  | some f => some (.file f.2)
  | none =>
    if disk.files.any fun f => full.isPrefixOf (segments f.1) then some (.inside full) else none

def enter (disk : Disk) (node : Node) (name : List Char) : Except DiskError Node :=
  match node with
  | .file _ => .error .notDirectory
  | .above =>
    if name = [] ∨ name = ['.'] ∨ name = ['.', '.'] then .ok .above
    else if 255 < byteLength name then .error .nameTooLong
    else .error .notFound
  | .inside here =>
    if name = [] ∨ name = ['.'] then .ok (.inside here)
    else if name = ['.', '.'] then
      .ok (if here.isEmpty then .above else .inside here.dropLast)
    else if 255 < byteLength name then .error .nameTooLong
    else
      match disk.lookup? (here ++ [name]) with
      | some node => .ok node
      | none => .error .notFound

def resolve (disk : Disk) (path : String) : Except DiskError Node :=
  let start : Node := if path.toList.head? = some '/' then .above else .inside []
  (segments path).foldlM disk.enter start

/-- The content of the file that a path names. -/
def read (disk : Disk) (path : String) : Except DiskError ByteArray :=
  if path.toList.contains (Char.ofNat 0) then .error .nullByte
  else if path.isEmpty then .error .notFound
  else if 4096 ≤ path.utf8ByteSize then .error .nameTooLong
  else
    match disk.resolve path with
    | .error e => .error e
    | .ok (.file content) => .ok content
    | .ok _ => .error .isDirectory

end Disk
end FilmIndex
