import FilmIndex.Film.Embedding
import FilmIndex.Keyed
import FilmIndex.Value.Same

/-!
What a search found, joined by id with the titles that are not stored with the
films. The position of a hit in the results says nothing about its title.
-/

namespace FilmIndex

/-- A row that a search found, with those of its fields that were asked for. -/
structure Found where
  id : Value
  distance : Value
  entity : Fields

/-- A found film. A title that is not known is null. -/
structure Hit where
  id : Value
  distance : Value
  title : Value
  fields : Fields

/-- Titles by id; of several titles of one id the last one counts. -/
abbrev Titles := List (Value × Value)

inductive HitError where
  | lengths (ids distances fields : Nat)
  | badKey (kind : String)
  deriving DecidableEq

namespace HitError
open Number

def message : HitError → String
  | lengths ids distances fields =>
    "result columns differ in length: " ++ intText ids ++ " ids, " ++ intText distances ++
      " distances, " ++ intText fields ++ " field maps"
  | badKey kind => "unhashable type: '" ++ kind ++ "'"

end HitError

namespace Titles

/-- Lists and records are no ids. -/
def checkKey : Value → Except HitError Unit
  | .list items => .error (.badKey (Value.list items).kind)
  | .record fields => .error (.badKey (Value.record fields).kind)
  | _ => .ok ()

/-- Values that can be ids. -/
def IsKey (id : Value) : Prop := checkKey id = .ok ()

def check (titles : Titles) : Except HitError Unit := titles.forM fun t => checkKey t.1

def title (titles : Titles) (id : Value) : Value :=
  match titles.reverse.find? fun t => t.1.same id with
  | some t => t.2
  | none => .null

end Titles

namespace Hit

/-- The fields by the names that were asked for; a field that is not there is null. -/
def fieldMap (names : List String) (entity : Fields) : Fields :=
  Keyed.ofList (names.map fun name => (name, (Keyed.get? name entity).getD .null))

end Hit
end FilmIndex
