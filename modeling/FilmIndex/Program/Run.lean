import FilmIndex.Hit.Report
import FilmIndex.Film.Disk
import FilmIndex.Sampling
import FilmIndex.Session.Service
import FilmIndex.Value.Json

/-!
A run from a film file to printed hits: the films are read, stored in a fresh
collection, indexed and searched, and the collection is dropped again.
-/

namespace FilmIndex

/-- What the program takes from outside: environment, settings file, the files that
it can open, a seed for when the settings have none, and the number of bytes that
there are for an array. -/
structure Surroundings where
  environment : List (String × String) := []
  dotEnv : ByteArray := ByteArray.empty
  files : Files
  entropy : Nat := 0
  memory : Nat := 0x7FFFFFFFFFFFFFFF

namespace Run

/-- The films of a file, with a note of how many they are. -/
def readFilms (files : Files) (dim : Int) (path : String) : Action Catalog := do
  let films ← Action.ofExcept Failure.catalog (Catalog.read files dim path)
  Action.log (.filmsRead films.length path)
  return films

section
variable {files : Files} {dim : Int} {path : String}

theorem readFilms_ok {films : Catalog} (h : Catalog.read files dim path = .ok films) (s : Session) :
    readFilms files dim path s =
      (.ok films, { s with events := s.events ++ [.filmsRead films.length path] }) := by
  rw [readFilms, h]
  rfl

theorem readFilms_error {e : CatalogError} (h : Catalog.read files dim path = .error e)
    (s : Session) : readFilms files dim path s = (.error (.catalog e), s) := by
  rw [readFilms, h]
  rfl

end

def outputFields : List String := ["release_year", "embedding"]

def titles (films : Catalog) : Titles := films.titlesById.map fun t => (.int t.1, .text t.2)

/-- The query of a run: the films of the years that are nearest to a random vector. -/
def query (s : Settings) (schema : FilmSchema) (around : Surroundings) :
    Except Failure (Clause VectorQuery) := do
  let years ← (FilmSchema.releaseYear.isIn (s.releaseYears.map Value.int)).mapError .query
  let seed := s.querySeed.getD around.entropy
  let vectors ← (Sampling.vectors 1 s.dimension seed (.bytes around.memory)).mapError .sampling
  let near := schema.embedding.query (vectors.map fun v => v.map Value.float)
  let near := ((near.metricType s.metricType).top (.int s.topK)).param "nprobe" (.int s.nprobe)
  return .whole (.must [.filter years, .vector near])

/-- A fresh collection that holds the films. -/
def fill (service : Service) (films : Catalog) : Action Unit := do
  service.recreateCollection
  let _ ← service.insert films
  service.flush
  let count ← service.countEntities
  Action.printLine ("There are " ++ Number.intText count ++ " films in the collection.")
  if (count : Int) < service.settings.segmentRowLimit then
    Action.log (.fewRows count service.settings.segmentRowLimit)

def index (service : Service) : Action Unit := do
  let s := service.settings
  service.createIndex service.schema.embedding s.indexType s.metricType [("nlist", .int s.nlist)]
  Action.printLine "\n--------Collection Stats--------"
  let stats ← service.collectionStats
  let text ← Action.ofExcept Failure.number (Json.written (.record stats))
  Action.printLine text

def search (service : Service) (films : Catalog) (around : Surroundings) :
    Action (List (List Hit)) := do
  service.load
  let q ← Action.ofExcept id (query service.settings service.schema around)
  let found ← service.search q (some outputFields)
  let hits ← Hit.ofSearchLogged (titles films) outputFields found
  Hit.print hits
  return hits

def connectedRun (service : Service) (films : Catalog) (around : Surroundings) :
    Action (List (List Hit)) := do
  fill service films
  index service
  let hits ← search service films around
  service.dropIndex service.schema.embedding
  service.dropCollection
  return hits

/-- The film file is read before the server is touched, and the connection is
closed in any case. -/
def run (s : Settings) (around : Surroundings) : Action (List (List Hit)) := do
  let films ← readFilms around.files s.dimension s.csvPath
  let service := Service.ofSettings s
  service.connected (connectedRun service films around)

end Run
end FilmIndex
