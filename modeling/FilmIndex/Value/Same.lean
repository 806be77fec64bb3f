import FilmIndex.Value.Basic

/-!
Sameness of values. Numbers and truth values are compared by their size, records
without regard to the order of their keys, and no number is the same as the
value that is no number.
-/

namespace FilmIndex
namespace Value
open Number

def intIsFloat (n : Int) (x : Float) : Bool := Double.toInt? (Double.ofFloat x) == some n

mutual

def same : Value → Value → Bool
  | null, null => true
  | bool a, bool b => a == b
  | bool a, int n => truthInt a == n
  | int n, bool b => n == truthInt b
  | bool a, float x => intIsFloat (truthInt a) x
  | float x, bool b => intIsFloat (truthInt b) x
  | int m, int n => m == n
  | int n, float x => intIsFloat n x
  | float x, int n => intIsFloat n x
  | float x, float y => x == y
  | text s, text t => s == t
  | list xs, list ys => sameItems xs ys
  | record fs, record gs => fs.length == gs.length && sameFields fs gs
  | _, _ => false

def sameItems : List Value → List Value → Bool
  | [], [] => true
  | v :: vs, w :: ws => same v w && sameItems vs ws
  | _, _ => false

def sameFields : List (String × Value) → List (String × Value) → Bool
  | [], _ => true
  | (k, v) :: rest, gs =>
    (match Keyed.get? k gs with
      | some w => same v w
      | none => false) && sameFields rest gs

end

end Value
end FilmIndex
