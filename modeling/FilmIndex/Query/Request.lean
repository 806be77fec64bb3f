import FilmIndex.Keyed
import FilmIndex.Query.Clause
import FilmIndex.Text.UpperCase

/-!
Vector queries, and the search request that a query tree with exactly one of
them stands for.
-/

namespace FilmIndex

structure VectorQuery where
  field : VectorField
  vectors : List (List Value)
  metric : String := "L2"
  limit : Value := .null
  params : Fields := []

def VectorField.query (f : VectorField) (vectors : List (List Value)) : VectorQuery :=
  { field := f, vectors }

structure SearchRequest where
  vectors : List (List Value)
  field : String
  metric : String
  params : Fields
  limit : Value
  condition? : Option Condition

namespace SearchRequest

def filterText? (r : SearchRequest) : Option String := r.condition?.map Condition.toText

/-- The metric and the parameters as one record. -/
def paramRecord (r : SearchRequest) : Value :=
  .record [("metric_type", .text r.metric), ("params", .record r.params)]

end SearchRequest

namespace VectorQuery

def metricType (q : VectorQuery) (metric : String) : VectorQuery :=
  { q with metric := Text.upper metric }

def top (q : VectorQuery) (k : Value) : VectorQuery := { q with limit := k }

def param (q : VectorQuery) (key : String) (v : Value) : VectorQuery :=
  { q with params := Keyed.put key v q.params }

/-- What is wrong with a limit: it has to be a number above zero. -/
def limitFault? : Value → Option QueryError
  | .null => some .noLimit
  | .bool b => if b then none else some .noLimit
  | .int n => if n ≤ 0 then some .noLimit else none
  | .float x => if x ≤ 0 then some .noLimit else none
  | v => some (.limitKind v.kind)

def fault? (q : VectorQuery) : Option QueryError :=
  match limitFault? q.limit with
  | some e => some e
  | none =>
    if q.vectors.isEmpty then some .noVectors
    else
      (q.vectors.find? fun v => (v.length : Int) ≠ q.field.dim).map fun v =>
        .wrongDimension v.length q.field.name q.field.dim

def request (q : VectorQuery) (condition? : Option Condition) :
    Except QueryError SearchRequest :=
  match q.fault? with
  | some e => .error e
  | none =>
    .ok ⟨q.vectors, q.field.name, q.metric, q.params, q.limit, condition?⟩

end VectorQuery

namespace Clause

def compile (c : Clause VectorQuery) : Except QueryError SearchRequest :=
  match c.theVector with
  | .error e => .error e
  | .ok q => q.request c.condition?

end Clause
end FilmIndex
