import FilmIndex.Number.Layout
import FilmIndex.Text.Quoted
import FilmIndex.Value.Basic

/-!
Values in messages and printed results. Inside a list or a record a text is
quoted; a text that stands alone can also be shown as it is. A value is not
written at all if a whole number in it has too many digits.
-/

namespace FilmIndex
namespace Value
open Number Text

mutual

def shown : Value → String
  | null => "None"
  | bool b => if b then "True" else "False"
  | int n => intText n
  | float x => Layout.plain.write x
  | text s => quoted s
  | list items => "[" ++ shownItems items ++ "]"
  | record fields => "\x7b" ++ shownFields fields ++ "\x7d"

def shownItems : List Value → String
  | [] => ""
  | [v] => shown v
  | v :: rest => shown v ++ ", " ++ shownItems rest

def shownFields : List (String × Value) → String
  | [] => ""
  | [(k, v)] => quoted k ++ ": " ++ shown v
  | (k, v) :: rest => quoted k ++ ": " ++ shown v ++ ", " ++ shownFields rest

end

mutual

/-- Whether all whole numbers in the value can be written. -/
def writable : Value → Bool
  | int n => Number.writable n
  | list items => writableItems items
  | record fields => writableFields fields
  | _ => true

def writableItems : List Value → Bool
  | [] => true
  | v :: rest => writable v && writableItems rest

def writableFields : List (String × Value) → Bool
  | [] => true
  | (_, v) :: rest => writable v && writableFields rest

end

@[simp] theorem writable_int (n : Int) : (int n).writable = Number.writable n := by rw [writable]

@[simp] theorem writable_text (s : String) : (text s).writable = true := by simp [writable]

theorem writable_list_iff {items : List Value} :
    (list items).writable = true ↔ ∀ v ∈ items, v.writable = true := by
  rw [writable]
  induction items with
  | nil => simp [writableItems]
  | cons v rest ih => simp [writableItems, ih]

theorem writable_record_iff {fields : List (String × Value)} :
    (record fields).writable = true ↔ ∀ f ∈ fields, f.2.writable = true := by
  rw [writable]
  induction fields with
  | nil => simp [writableFields]
  | cons f rest ih => simp [writableFields, ih]

def checkWritable (v : Value) : Except NumberError Unit :=
  if v.writable then .ok () else .error .tooManyDigits

/-- The value with a text taken as it is. -/
def plain : Value → String
  | text s => s
  | v => shown v

end Value

def NumberError.message : NumberError → String
  | .badNumeral s => "could not convert string to float: " ++ Text.quoted s
  | .tooLarge => "int too large to convert to float"
  | .wrongKind kind => "float() argument must be a string or a real number, not '" ++ kind ++ "'"
  | .tooManyDigits => "Exceeds the limit (" ++ Number.intText Number.digitLimit ++
      " digits) for integer string conversion; use sys.set_int_max_str_digits() to increase the limit"

end FilmIndex
