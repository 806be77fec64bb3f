import FilmIndex.Film.Catalog
import FilmIndex.Hit.Basic
import FilmIndex.Sampling
import FilmIndex.Server.Basic
import FilmIndex.Query.Request
import FilmIndex.Settings.Basic

/-!
What can go wrong in a session, and the events that are logged in it. Each event
has a level and belongs to one part of the program.
-/

namespace FilmIndex

/-- Why an action of a session fails. -/
inductive Failure where
  | catalog (e : CatalogError)
  | query (e : QueryError)
  | number (e : NumberError)
  | result (e : HitError)
  | sampling (e : Sampling.Error)
  | server (e : ServerError)
  | notIterable (kind : String)
  | raised (message : String)

namespace Failure

def message : Failure → String
  | catalog e => e.message
  | query e => e.message
  | number e => e.message
  | result e => e.message
  | sampling e => e.message
  | server e => e.message
  | notIterable kind => "'" ++ kind ++ "' object is not iterable"
  | raised message => message

end Failure

inductive Event where
  | filmsRead (count : Nat) (path : String)
  | noTitle (id : Value)
  | connected (host : String) (port : Int)
  | disconnected
  | replacing (collection : String)
  | created (collection : String)
  | dropped (collection : String)
  | inserted (count : Nat)
  | indexMatches (field : String) (params : Value)
  | indexReplaced (field : String)
  | indexCreated (indexType metric field : String) (params : Fields)
  | indexDropped (field : String)
  | searching (request : SearchRequest)
  | fewRows (count : Nat) (limit : Int)
  | invalidSettings (errors : List SettingError)
  | failed (failure : Failure)

namespace Event
open Number

def level : Event → LogLevel
  | searching _ => .debug
  | noTitle _ => .warning
  | fewRows .. => .warning
  | invalidSettings _ => .error
  | failed _ => .error
  | _ => .info

/-- The part of the program that logs the event. -/
def source : Event → String
  | filmsRead .. => "film_csv"
  | noTitle _ => "film_results"
  | fewRows .. => "milvus_index_demo"
  | invalidSettings _ => "milvus_index_demo"
  | failed _ => "milvus_index_demo"
  | _ => "film_service"

/-- The text of the event; the errors of invalid settings are not part of it. -/
def message : Event → String
  | filmsRead count path => "Read " ++ intText count ++ " films from " ++ path
  | noTitle id => "No title known for film id " ++ id.plain
  | connected host port => "Connected to Milvus at " ++ host ++ ":" ++ intText port
  | disconnected => "Disconnected from Milvus"
  | replacing collection => "Collection '" ++ collection ++ "' already exists, dropping it"
  | created collection => "Created collection '" ++ collection ++ "'"
  | dropped collection => "Dropped collection '" ++ collection ++ "'"
  | inserted count => "Inserted " ++ intText count ++ " films"
  | indexMatches field params => "Index on '" ++ field ++ "' already matches " ++ params.shown
  | indexReplaced field => "Replacing existing index on '" ++ field ++ "'"
  | indexCreated indexType metric field params =>
    "Created " ++ indexType ++ "/" ++ metric ++ " index on '" ++ field ++ "' with " ++
      (Value.record params).shown
  | indexDropped field => "Dropped index on '" ++ field ++ "'"
  | searching request =>
    "Search on '" ++ request.field ++ "' expr=" ++ request.filterText?.getD "None" ++ " param=" ++
      request.paramRecord.shown
  | fewRows count limit =>
    intText count ++ " rows is below segment_row_limit=" ++ intText limit ++
      ", the index may only cover sealed segments"
  | invalidSettings _ => "Invalid settings: %s"
  | failed _ => "Demo failed"

/-- Whether the event is logged at the given level. -/
def loggedAt (threshold : LogLevel) (e : Event) : Bool := decide (threshold.rank ≤ e.level.rank)

end Event
end FilmIndex
