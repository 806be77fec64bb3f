import FilmIndex.Session.Basic

/-!
Hits with their titles, and how they are printed. For each hit without a title
there is a warning, which is logged when that hit is joined. So the warnings of
the hits before are there when a join fails.
-/

namespace FilmIndex
namespace Hit

/-- The title of a hit. That there is none is logged. -/
def lookUp (titles : Titles) (id : Value) : Action Value := do
  Action.ofExcept Failure.result (Titles.checkKey id)
  let title := titles.title id
  if title.isNull then Action.log (.noTitle id)
  return title

def joinLogged (titles : Titles) :
    List Value → List Value → List Fields → Action (List Hit)
  | id :: ids, distance :: distances, fields :: rest => do
    let title ← lookUp titles id
    let hits ← joinLogged titles ids distances rest
    return ⟨id, distance, title, fields⟩ :: hits
  | _, _, _ => return []

/-- One query's columns joined with the titles. -/
def correlateLogged (titles : Titles) (ids distances : List Value) (fields : List Fields) :
    Action (List Hit) := do
  Action.ofExcept Failure.result titles.check
  if ids.length = distances.length ∧ distances.length = fields.length then
    joinLogged titles ids distances fields
  else Action.fail (.result (.lengths ids.length distances.length fields.length))

/-- The hits of a search, one list for each query vector. -/
def ofSearchLogged (titles : Titles) (names : List String) (result : List (List Found)) :
    Action (List (List Hit)) :=
  result.mapM fun found =>
    correlateLogged titles (found.map (·.id)) (found.map (·.distance))
      (found.map fun f => fieldMap names f.entity)

/-- The elements of a value: of a text its characters, of a record its keys. -/
def elements : Value → Except Failure (List Value)
  | .list items => .ok items
  | .text s => .ok (s.toList.map fun c => .text (String.singleton c))
  | .record fields => .ok (fields.map fun f => .text f.1)
  | v => .error (.notIterable v.kind)

def embeddingText (v : Value) : Except Failure String :=
  if v.isNull then .ok v.shown
  else do
    let items ← elements v
    (Embedding.formatValues items).mapError .number

def field (h : Hit) (name : String) : Value := (Keyed.get? name h.fields).getD .null

def printHit (h : Hit) : Action Unit := do
  Action.printLine "=="
  Action.printLine ("- title: " ++ h.title.plain)
  Action.printLine ("- release_year: " ++ (field h "release_year").plain)
  let embedding ← Action.ofExcept (fun e => e) (embeddingText (field h "embedding"))
  Action.printLine ("- embedding: " ++ embedding)

def column (f : Hit → Value) (results : List (List Hit)) : Value :=
  .list (results.map fun hits => .list (hits.map f))

def print (results : List (List Hit)) : Action Unit := do
  Action.printLine "\n--------Search Result--------"
  Action.printLine ("- ids: " ++ (column (·.id) results).shown)
  Action.printLine ("- distances: " ++ (column (·.distance) results).shown)
  results.flatten.forM printHit

end Hit
end FilmIndex
