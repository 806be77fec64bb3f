import FilmIndex.Query.Schema
import FilmIndex.Text.Pieces
import FilmIndex.Value.Text

/-!
Conditions on stored fields, and how they are written. A text stands between
double quotes; a double quote inside it takes a backslash.
-/

namespace FilmIndex

/-- A test of one field. -/
inductive Filter where
  | isIn (field : String) (values : List Value)
  | between (field : String) (low high : Value)

namespace Filter
open Text

def quoteChar (c : Char) : List Char := if c = '"' then ['\\', '"'] else [c]

def textLiteral (cs : List Char) : List Char := '"' :: (cs.flatMap quoteChar ++ ['"'])

def literal : Value → List Char
  | .text s => textLiteral s.toList
  | .bool b => (if b then "true" else "false").toList
  | v => v.plain.toList

def chars : Filter → List Char
  | isIn field values =>
    field.toList ++ " in [".toList ++ joined [',', ' '] (values.map literal) ++ [']']
  | between field low high =>
    '(' :: (field.toList ++ " >= ".toList ++ literal low ++ " and ".toList ++ field.toList ++
      " <= ".toList ++ literal high ++ [')'])

def toText (f : Filter) : String := String.ofList f.chars

/-- Whether the values can be written. -/
def writable : Filter → Bool
  | isIn _ values => values.all Value.writable
  | between _ low high => low.writable && high.writable

end Filter

inductive Condition where
  | test (f : Filter)
  | all (cs : List Condition)
  | any (cs : List Condition)
  | negation (c : Condition)

namespace Condition
open Text

mutual

def chars : Condition → List Char
  | test f => f.chars
  | all cs => '(' :: (joined " and ".toList (charsOfEach cs) ++ [')'])
  | any cs => '(' :: (joined " or ".toList (charsOfEach cs) ++ [')'])
  | negation c => "not (".toList ++ chars c ++ [')']

def charsOfEach : List Condition → List (List Char)
  | [] => []
  | c :: cs => chars c :: charsOfEach cs

end

def toText (c : Condition) : String := String.ofList c.chars

theorem charsOfEach_eq (cs : List Condition) : charsOfEach cs = cs.map chars := by
  induction cs with
  | nil => rfl
  | cons c cs ih => rw [charsOfEach, ih, List.map_cons]

/-- Conditions taken together: a single one stands for itself, of none there is none. -/
def together? (join : List Condition → Condition) : List Condition → Option Condition
  | [] => none
  | [c] => some c
  | cs => some (join cs)

/-- Induction on a condition, with the hypothesis for each one of a list. -/
@[elab_as_elim]
theorem conditionInduction {motive : Condition → Prop} (test : ∀ f, motive (test f))
    (all : ∀ cs, (∀ c ∈ cs, motive c) → motive (all cs))
    (any : ∀ cs, (∀ c ∈ cs, motive c) → motive (any cs))
    (negation : ∀ c, motive c → motive (negation c)) (c : Condition) : motive c :=
  @Condition.rec motive (fun cs => ∀ c ∈ cs, motive c) test all any negation
    (List.forall_mem_nil _) (fun _ _ hc hcs => List.forall_mem_cons.2 ⟨hc, hcs⟩) c

end Condition
end FilmIndex
