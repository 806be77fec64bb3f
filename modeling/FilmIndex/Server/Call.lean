import FilmIndex.Query.Request
import FilmIndex.Server.Basic

/-!
The calls that are made to a server, as they are recorded, and plans of which of
them are to fail.
-/

namespace FilmIndex

inductive Call where
  | connect (connection : String) (options : List (String × String))
  | disconnect (connection : String)
  | hasCollection (name : String)
  | listCollections
  | dropCollection (name : String)
  | collection (name : String) (schema? : Option CollectionSchema)
  | insert (name : String) (rows : List Row)
  | flush (name : String)
  | countEntities (name : String)
  | hasIndex (name index : String)
  | index (name index : String)
  | indexes (name : String)
  | createIndex (name field : String) (params : Value) (index : String)
  | dropIndex (name index : String)
  | load (name : String)
  | release (name : String)
  | search (name : String) (request : SearchRequest) (names? : Option (List String))
  | client (uri token : String)
  | stats (name : String)
  | closeClient

namespace Call

/-- The name under which a call is recorded. -/
def label : Call → String
  | connect .. => "connect"
  | disconnect .. => "disconnect"
  | hasCollection .. => "has_collection"
  | listCollections => "list_collections"
  | dropCollection .. => "drop_collection"
  | collection .. => "Collection"
  | insert .. => "insert"
  | flush .. => "flush"
  | countEntities .. => "num_entities"
  | hasIndex .. => "has_index"
  | index .. => "index"
  | indexes .. => "indexes"
  | createIndex .. => "create_index"
  | dropIndex .. => "drop_index"
  | load .. => "load"
  | release .. => "release"
  | search .. => "search"
  | client .. => "MilvusClient"
  | stats .. => "get_collection_stats"
  | closeClient => "client_close"

end Call

/-- Whether the last of the calls made so far is to fail, and with which message. -/
abbrev Plan := List Call → Option String

namespace Plan

def none : Plan := fun _ => Option.none

/-- The first call of a name after the first `count` calls fails, and otherwise
the calls of another plan. -/
def failNext (label message : String) (count : Nat) (plan : Plan) : Plan := fun calls =>
  let named := (calls.drop count).filter fun c => c.label == label
  let isLast := calls.getLast?.any fun c => c.label == label
  if isLast && named.length == 1 then some message else plan calls

end Plan
end FilmIndex
