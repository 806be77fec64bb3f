import FilmIndex.Server.Search
import FilmIndex.Session.Basic
import FilmIndex.Value.Same

/-!
The life of one collection of films: absent, created, filled, indexed, searched,
dropped. A field has at most one index, which is named after the field.
-/

namespace FilmIndex

structure Service where
  settings : Settings
  schema : FilmSchema

namespace Service

def ofSettings (s : Settings) : Service := ⟨s, ⟨s.dimension⟩⟩

variable (s : Service)

def connection : String := s.settings.connectionAlias
def collection : String := s.settings.collectionName

/-- A call through the service's connection. -/
def call {α : Type} (c : Call) (effect : Server.Effect α) : Action α :=
  Action.call (some s.connection) c effect

/-! ## Connection -/

def connectOptions : List (String × String) :=
  let token := s.settings.milvusToken.getD ""
  [("host", s.settings.milvusHost), ("port", Number.intText s.settings.milvusPort)] ++
    (if token.isEmpty then [] else [("token", token)])

/-- The port is written before the call is made. -/
def connect : Action Unit := do
  Action.ofExcept Failure.number (Value.int s.settings.milvusPort).checkWritable
  Action.call none (.connect s.connection s.connectOptions) (Server.connect s.connection)
  Action.log (.connected s.settings.milvusHost s.settings.milvusPort)

def close : Action Unit := do
  Action.call none (.disconnect s.connection) (Server.disconnect s.connection)
  Action.setHolding false
  Action.log .disconnected

/-- Actions between connecting and disconnecting. -/
def connected {α : Type} (body : Action α) : Action α := do
  s.connect
  body.followedBy s.close

/-- Makes sure that there is a handle on the collection. -/
def hold : Action Unit := do
  if !(← Action.holding) then
    s.call (.collection s.collection none) (Server.fetchCollection s.collection)
    Action.setHolding true

/-! ## Collections -/

def listCollections : Action (List String) := s.call .listCollections Server.listCollections

def hasCollection : Action Bool :=
  s.call (.hasCollection s.collection) (Server.hasCollection s.collection)

def recreateCollection : Action Unit := do
  if ← s.hasCollection then
    Action.log (.replacing s.collection)
    s.call (.dropCollection s.collection) (Server.dropCollection s.collection)
  let schema := s.schema.collection FilmSchema.defaultDescription
  s.call (.collection s.collection (some schema)) (Server.createCollection s.collection schema)
  Action.setHolding true
  Action.log (.created s.collection)

def dropCollection : Action Unit := do
  if ← s.hasCollection then
    s.call (.dropCollection s.collection) (Server.dropCollection s.collection)
    Action.log (.dropped s.collection)
  Action.setHolding false

/-! ## Rows -/

/-- The columns go to the server in the order of the schema: id, release year, embedding. -/
def insert (films : Catalog) : Action (List Int) := do
  s.hold
  let columns := films.columns
  let rows := Row.ofColumns columns.ids columns.releaseYears columns.embeddings
  s.call (.insert s.collection rows) (Server.insert s.collection rows)
  Action.log (.inserted columns.size)
  return columns.ids

theorem insert_eq (films : Catalog) :
    s.insert films = do
      s.hold
      s.call (.insert s.collection (films.map Film.row))
        (Server.insert s.collection (films.map Film.row))
      Action.log (.inserted films.length)
      return films.ids := by
  have rows : Row.ofColumns films.ids films.releaseYears films.embeddings = films.map Film.row :=
    Row.ofColumns_map films
  have size : films.ids.length = films.length := List.length_map _
  simp only [insert, Catalog.columns_eq, FilmColumns.size, rows, size]

def flush : Action Unit := do
  s.hold
  s.call (.flush s.collection) (Server.flush s.collection)

def countEntities : Action Nat := do
  s.hold
  s.call (.countEntities s.collection) (Server.countEntities s.collection)

/-- The statistics of the collection. The client that fetches them is closed in any case. -/
def fetchStats : Action Fields := do
  let token := s.settings.milvusToken.getD ""
  Action.call none (.client s.settings.milvusUri token) Server.nothing
  let fetched := Action.call none (.stats s.collection) (Server.stats s.collection)
  fetched.followedBy (Action.call none .closeClient Server.nothing)

/-- The statistics of the collection, with a list of its indexes. -/
def collectionStats : Action Fields := do
  let stats ← s.fetchStats
  s.hold
  let indexes ← s.call (.indexes s.collection) (Server.listIndexes s.collection)
  return Keyed.put "indexes" (.list (indexes.map IndexEntry.toValue)) stats

/-! ## Index -/

def indexName (field : VectorField) : String := field.name ++ "_idx"

def indexParams (indexType metric : String) (params : Fields) : Value :=
  .record [("index_type", .text indexType), ("metric_type", .text metric),
    ("params", .record params)]

def dropHeldIndex (index : String) : Action Unit := do
  s.call (.release s.collection) (Server.release s.collection)
  s.call (.dropIndex s.collection index) (Server.dropIndex s.collection index)

def hasIndex (index : String) : Action Bool :=
  s.call (.hasIndex s.collection index) (Server.hasIndex s.collection index)

/-- Whether the field's index is there with the given parameters. One with other
parameters is dropped. -/
def keepsIndex (field : VectorField) (params : Value) : Action Bool := do
  let index := indexName field
  if ← s.hasIndex index then
    let present ← s.call (.index s.collection index) (Server.indexParams s.collection index)
    if present.same params then
      Action.log (.indexMatches field.name params)
      return true
    Action.log (.indexReplaced field.name)
    s.dropHeldIndex index
  return false

def createIndex (field : VectorField) (indexType metric : String) (params : Fields) :
    Action Unit := do
  let full := indexParams indexType metric params
  let index := indexName field
  s.hold
  if !(← s.keepsIndex field full) then
    s.call (.createIndex s.collection field.name full index)
      (Server.createIndex s.collection field.name full index)
    Action.log (.indexCreated indexType metric field.name params)

def dropIndex (field : VectorField) : Action Unit := do
  let index := indexName field
  s.hold
  if ← s.hasIndex index then
    s.dropHeldIndex index
    Action.log (.indexDropped field.name)

/-! ## Search -/

def load : Action Unit := do
  s.hold
  s.call (.load s.collection) (Server.load s.collection)

def release : Action Unit := do
  s.hold
  s.call (.release s.collection) (Server.release s.collection)

/-- The query is compiled before any call is made. -/
def search (query : Clause VectorQuery) (names? : Option (List String)) :
    Action (List (List Found)) := do
  let request ← Action.ofExcept Failure.query query.compile
  Action.log (.searching request)
  s.hold
  s.call (.search s.collection request names?)
    (Server.search s.collection request (names?.getD []))

end Service
end FilmIndex
