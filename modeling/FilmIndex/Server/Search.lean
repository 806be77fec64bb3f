import FilmIndex.Query.Request
import FilmIndex.Hit.Basic
import FilmIndex.Server.Basic
import FilmIndex.Ranking.Sort

/-!
Search in a collection. For each query vector the rows that the condition admits
are ranked by their squared distance, and the first of them are found.
-/

namespace FilmIndex
namespace Server

def wholeNumbers? (values : List Value) : Option (List Int) :=
  values.mapM fun v =>
    match v with
    | .int n => some n
    | _ => none

/-- The one kind of condition that narrows a search: the id or the release year
is one of some whole numbers. Any other condition admits every row. So does a list of
texts or truth values, or one for another field, where a server might as well refuse
the search; that it does is left to a plan of failing calls. -/
def membership? : Option Condition → Option (String × List Int)
  | some (.test (.isIn field values)) =>
    match wholeNumbers? values with
    | some (n :: ns) => some (field, n :: ns)
    | _ => none
  | _ => none

def admits (condition? : Option Condition) (r : Row) : Bool :=
  match membership? condition? with
  | some ("id", ns) => ns.contains r.id
  | some ("release_year", ns) => ns.contains r.releaseYear
  | _ => true

/-- An element of a query vector as a double. -/
def element : Value → Except ServerError Float
  | .float x => .ok x
  | .text s => .error (.badElement (Value.text s).kind)
  | v =>
    match v.toFloat with
    | .ok x => .ok x
    | .error .tooLarge => .error .elementTooLarge
    | .error _ => .error (.badElement v.kind)

/-- The sum of the squared differences so far and of those of the rest, as far
as both vectors go. The square of a difference may be infinite. A server that breaks off
such a search instead is one that carries out the plan `Plan.overflow`. -/
def distanceFrom (total : Float) : List Value → Embedding → Except ServerError Float
  | v :: vs, b :: bs => do
    let a ← element v
    let d := a - b
    distanceFrom (total + d * d) vs bs
  | _, _ => .ok total

def distance (query : List Value) (r : Row) : Except ServerError Float :=
  distanceFrom 0 query r.embedding

def limitCount : Value → Except ServerError Nat
  | .int n => .ok n.toNat
  | .bool b => .ok (Value.truthInt b).toNat
  | _ => .error .badLimit

/-- Those of the named fields that the row has. -/
def entity (names : List String) (r : Row) : Fields :=
  Keyed.ofList (names.filterMap fun name => (Keyed.get? name r.fields).map fun v => (name, v))

def found (names : List String) (scored : Float × Row) : Found :=
  ⟨.int scored.2.id, .float scored.1, entity names scored.2⟩

def ranked (rows : List Row) (query : List Value) : Except ServerError (List (Float × Row)) := do
  let scored ← rows.mapM fun r => do return (← distance query r, r)
  return Ranking.sort (fun a b => decide (a.1 < b.1)) scored

def searchRows (rows : List Row) (request : SearchRequest) (names : List String) :
    Except ServerError (List (List Found)) :=
  let admitted := rows.filter (admits request.condition?)
  request.vectors.mapM fun query => do
    let scored ← ranked admitted query
    let count ← limitCount request.limit
    return (scored.take count).map (found names)

def search (name : String) (request : SearchRequest) (names : List String) :
    Effect (List (List Found)) :=
  read name fun c =>
    if c.loaded then searchRows c.rows request names else .error .notLoaded

end Server
end FilmIndex
