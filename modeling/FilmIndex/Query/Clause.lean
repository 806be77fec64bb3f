import FilmIndex.Query.Filter

/-!
Query trees. A tree holds vector queries and filters; what it asks of the stored
fields is a condition, which it lacks when no filter occurs in it. A vector query
may stand only where it must hold.
-/

namespace FilmIndex

/-- Why a query is not built or not accepted. -/
inductive QueryError where
  | noValues (field : String)
  | misplacedVector
  | notAClause (v : Value)
  | tooManyDigits
  | vectorCount (found : Nat)
  | noLimit
  | limitKind (kind : String)
  | noVectors
  | wrongDimension (found : Nat) (field : String) (expected : Int)
  deriving Inhabited

namespace QueryError
open Number

/-- As in the messages of films, a dimension is written whether or not it is `writable`. -/
def message : QueryError → String
  | noValues field => "'" ++ field ++ " in [...]' needs at least one value"
  | misplacedVector => "a vector query may only appear under must()"
  | notAClause v => "unsupported query clause: " ++ v.shown
  | tooManyDigits => NumberError.tooManyDigits.message
  | vectorCount found => "expected exactly one vector query, found " ++ intText found
  | noLimit => "vector query needs a positive top(k)"
  | limitKind kind => "'<=' not supported between instances of '" ++ kind ++ "' and 'int'"
  | noVectors => "vector query has no query vectors"
  | wrongDimension found field expected =>
    "query vector has dimension " ++ intText found ++ ", field '" ++ field ++ "' expects " ++
      intText expected

end QueryError

namespace ScalarField

def isIn (f : ScalarField) (values : List Value) : Except QueryError Filter :=
  if values.isEmpty then .error (.noValues f.name) else .ok (.isIn f.name values)

def between (f : ScalarField) (low high : Value) : Filter := .between f.name low high

end ScalarField

/-- A query tree over vector queries of type `ν`. -/
inductive Clause (ν : Type) where
  | vector (q : ν)
  | filter (f : Filter)
  | must (clauses : List (Clause ν))
  | should (clauses : List (Clause ν))
  | mustNot (clause : Clause ν)
  | whole (clause : Clause ν)
  | value (v : Value)

namespace Clause

variable {ν : Type}

mutual

/-- The first thing in reading order that may not stand where it stands, or that cannot
be written. -/
def fault? (required : Bool) : Clause ν → Option QueryError
  | vector _ => if required then none else some .misplacedVector
  | filter f => if f.writable then none else some .tooManyDigits
  | must cs => faultOfEach? required cs
  | should cs => faultOfEach? false cs
  | mustNot c => fault? false c
  | whole c => fault? required c
  | value v => some (.notAClause v)

def faultOfEach? (required : Bool) : List (Clause ν) → Option QueryError
  | [] => none
  | c :: cs =>
    match fault? required c with
    | some e => some e
    | none => faultOfEach? required cs

end

mutual

def vectors : Clause ν → List ν
  | vector q => [q]
  | filter _ => []
  | must cs => vectorsOfEach cs
  | should cs => vectorsOfEach cs
  | mustNot c => vectors c
  | whole c => vectors c
  | value _ => []

def vectorsOfEach : List (Clause ν) → List ν
  | [] => []
  | c :: cs => vectors c ++ vectorsOfEach cs

end

mutual

def condition? : Clause ν → Option Condition
  | vector _ => none
  | filter f => some (.test f)
  | must cs => Condition.together? .all (conditionsOfEach cs)
  | should cs => Condition.together? .any (conditionsOfEach cs)
  | mustNot c => (condition? c).map .negation
  | whole c => condition? c
  | value _ => none

def conditionsOfEach : List (Clause ν) → List Condition
  | [] => []
  | c :: cs =>
    match condition? c with
    | some p => p :: conditionsOfEach cs
    | none => conditionsOfEach cs

end

/-- Induction on a tree, with the hypothesis for each clause of a list. -/
@[elab_as_elim]
theorem clauseInduction {motive : Clause ν → Prop}
    (vector : ∀ q, motive (vector q)) (filter : ∀ f, motive (filter f))
    (must : ∀ cs, (∀ c ∈ cs, motive c) → motive (must cs))
    (should : ∀ cs, (∀ c ∈ cs, motive c) → motive (should cs))
    (mustNot : ∀ c, motive c → motive (mustNot c))
    (whole : ∀ c, motive c → motive (whole c))
    (value : ∀ v, motive (value v)) (c : Clause ν) : motive c :=
  @Clause.rec ν motive (fun cs => ∀ c ∈ cs, motive c)
    vector filter must should mustNot whole value
    (List.forall_mem_nil _) (fun _ _ hc hcs => List.forall_mem_cons.2 ⟨hc, hcs⟩) c

theorem faultOfEach?_eq (required : Bool) (cs : List (Clause ν)) :
    faultOfEach? required cs = cs.findSome? (fault? required) := by
  induction cs with
  | nil => rfl
  | cons c cs ih =>
      rw [faultOfEach?, List.findSome?_cons, ih]
      cases fault? required c <;> rfl

theorem vectorsOfEach_eq (cs : List (Clause ν)) : vectorsOfEach cs = cs.flatMap vectors := by
  induction cs with
  | nil => rfl
  | cons c cs ih => simp only [vectorsOfEach, List.flatMap_cons, ih]

theorem conditionsOfEach_eq (cs : List (Clause ν)) :
    conditionsOfEach cs = cs.filterMap condition? := by
  induction cs with
  | nil => rfl
  | cons c cs ih =>
      rw [conditionsOfEach, List.filterMap_cons, ih]
      cases condition? c <;> rfl

/-- The one vector query of a tree. -/
def theVector (c : Clause ν) : Except QueryError ν :=
  match fault? true c with
  | some e => .error e
  | none =>
    match vectors c with
    | [q] => .ok q
    | qs => .error (.vectorCount qs.length)

end Clause
end FilmIndex
