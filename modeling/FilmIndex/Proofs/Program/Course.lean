import FilmIndex.Program.Run
import FilmIndex.Proofs.Film.File
import FilmIndex.Proofs.Hit.Found
import FilmIndex.Proofs.Sampling
import FilmIndex.Proofs.Session.Connection
import FilmIndex.Proofs.Session.Serving

/-!
The course of a run in which no call is to fail. All of it goes through but for two steps.
The statistics may hold a number that is too long to be written, and the request may not be
one that can be made, which turns out only when the fresh collection is filled, indexed and
loaded. What a run answers to its request depends on the films alone.
-/

namespace FilmIndex
open FilmIndex.Action

namespace Run

def near (s : Settings) (schema : FilmSchema) (vectors : List (List Float)) : VectorQuery :=
  (((schema.embedding.query (vectors.map fun v => v.map Value.float)).metricType s.metricType).top
    (.int s.topK)).param "nprobe" (.int s.nprobe)

def years (s : Settings) : Filter := .isIn "release_year" (s.releaseYears.map Value.int)

/-- The request that a run sends to the server. -/
def request (s : Settings) (schema : FilmSchema) (around : Surroundings) :
    Except Failure SearchRequest := do
  let q ← query s schema around
  q.compile.mapError Failure.query

/-- The vectors of which a run takes its query vector. -/
def sampled (s : Settings) (around : Surroundings) : Except Sampling.Error (List (List Float)) :=
  Sampling.vectors 1 s.dimension (s.querySeed.getD around.entropy) (.bytes around.memory)

variable {s : Settings} {schema : FilmSchema} {around : Surroundings}

theorem request_noYears (h : s.releaseYears = []) :
    request s schema around = .error (.query (.noValues "release_year")) := by
  rw [request, query, h]
  rfl

theorem isIn_years (h : s.releaseYears ≠ []) :
    FilmSchema.releaseYear.isIn (s.releaseYears.map Value.int) = .ok (years s) := by
  rw [ScalarField.isIn, if_neg (by simpa using h)]
  rfl

theorem request_unsampled (h : s.releaseYears ≠ []) {e : Sampling.Error}
    (he : sampled s around = .error e) : request s schema around = .error (.sampling e) := by
  rw [sampled] at he
  rw [request, query, isIn_years h]
  simp only [he]
  rfl

theorem request_sampled (h : s.releaseYears ≠ []) {vectors : List (List Float)}
    (hv : sampled s around = .ok vectors) :
    request s schema around = if (years s).writable
      then ((near s schema vectors).request (some (.test (years s)))).mapError Failure.query
      else .error (.query .tooManyDigits) := by
  rw [sampled] at hv
  rw [request, query, isIn_years h]
  simp only [hv]
  let q := near s schema vectors
  change (Clause.compile (.whole (.must [.filter (years s), .vector q]))).mapError Failure.query = _
  rw [Clause.compile, Clause.theVector]
  simp only [Clause.fault?, Clause.faultOfEach?, if_true]
  cases (years s).writable <;> rfl

theorem exists_query {r : SearchRequest} (h : request s schema around = .ok r) :
    ∃ q, query s schema around = .ok q ∧ q.compile = .ok r := by
  cases hq : query s schema around with
  | error e =>
      rw [request, hq] at h
      cases h
  | ok q =>
      have compiled : q.compile.mapError Failure.query = .ok r := by
        rw [← h, request, hq]
        rfl
      cases hc : q.compile with
      | error e =>
          rw [hc] at compiled
          cases compiled
      | ok r' =>
          rw [hc] at compiled
          cases compiled
          exact ⟨q, rfl, hc⟩

/-- A request is for one vector of the schema's dimension and a whole number of rows of certain
years. -/
theorem request_ok {r : SearchRequest} (h : request s schema around = .ok r) :
    s.releaseYears ≠ [] ∧ 0 < s.topK ∧ ∃ v : List Float, sampled s around = .ok [v] ∧
      (v.length : Int) = schema.dim ∧ r = {
        vectors := [v.map Value.float]
        field := schema.embedding.name
        metric := Text.upper s.metricType
        params := [("nprobe", .int s.nprobe)]
        limit := .int s.topK
        condition? := some (.test (years s)) } := by
  by_cases hy : s.releaseYears = []
  · rw [request_noYears hy] at h
    cases h
  cases hv : sampled s around with
  | error x =>
      rw [request_unsampled hy hv] at h
      cases h
  | ok vectors =>
      obtain ⟨v, rfl⟩ := Sampling.vectors_one_ok hv
      rw [request_sampled hy hv, VectorQuery.request] at h
      split at h
      swap
      · cases h
      cases hf : (near s schema [v]).fault? with
      | some q =>
          rw [hf] at h
          cases h
      | none =>
          rw [hf] at h
          cases h
          have limit : (near s schema [v]).limit = .int s.topK := rfl
          rw [VectorQuery.fault?, limit, VectorQuery.limitFault?] at hf
          by_cases hk : s.topK ≤ 0
          · simp [hk] at hf
          · have dim : (v.length : Int) = schema.dim := by
              simpa [hk, near, VectorQuery.param, VectorQuery.top, VectorQuery.metricType,
                VectorField.query, FilmSchema.embedding] using hf
            exact ⟨hy, Int.not_le.1 hk, v, rfl, dim, rfl⟩

/-! ## The years asked for -/

theorem wholeNumbers?_ints (ns : List Int) : Server.wholeNumbers? (ns.map Value.int) = some ns := by
  induction ns with
  | nil => rfl
  | cons n ns ih =>
      rw [Server.wholeNumbers?] at ih ⊢
      rw [List.map_cons, List.mapM_cons, ih]
      rfl

theorem admits_years (h : s.releaseYears ≠ []) (row : Row) :
    Server.admits (some (.test (years s))) row = s.releaseYears.contains row.releaseYear := by
  obtain ⟨n, ns, hyears⟩ := List.exists_cons_of_ne_nil h
  have asked : Server.membership? (some (.test (years s))) = some ("release_year", n :: ns) := by
    rw [years, Server.membership?, wholeNumbers?_ints, hyears]
  rw [Server.admits, asked, hyears]
  rfl

/-! ## The answer -/

theorem title_titles (films : Catalog) (id : Int) :
    (titles films).title (.int id) =
      ((films.reverse.find? (·.id == id)).map fun f => Value.text f.title).getD .null := by
  have distinct : Keyed.Distinct films.titlesById := .ofList _
  rw [titles, Titles.title_ids distinct, films.get?_titlesById, Option.map_map]
  rfl

/-- The answer to a request, if the films are all that is stored. -/
def answer (films : Catalog) (r : SearchRequest) : Except ServerError (List (List Hit)) :=
  (Server.searchRows (films.map Film.row) r outputFields).map fun found =>
    found.map (List.map (Hit.ofFound (titles films) fun f => Hit.fieldMap outputFields f.entity))

/-- The rows that a request of a run admits. -/
def admitted (films : Catalog) (r : SearchRequest) : List Row :=
  (films.map Film.row).filter (Server.admits r.condition?)

/-- A request is answered by one list of hits. -/
theorem exists_answer {r : SearchRequest} (h : request s schema around = .ok r)
    (films : Catalog) :
    ∃ found, Server.FirstOf s.topK (admitted films r) found ∧
      Server.searchRows (films.map Film.row) r outputFields =
        .ok [found.map (Server.found outputFields)] ∧
      answer films r = .ok [found.map (Hit.ofRow (titles films) outputFields)] := by
  obtain ⟨-, -, v, -, -, hr⟩ := request_ok h
  have vectors : r.vectors = [v].map fun v => v.map Value.float :=
    congrArg SearchRequest.vectors hr
  have limit : r.limit = .int s.topK := congrArg SearchRequest.limit hr
  obtain ⟨groups, searched, first⟩ :=
    Server.exists_searchRows (films.map Film.row) vectors limit outputFields
  rw [vectors] at first
  obtain ⟨found, _, hfound, none, rfl⟩ := List.forall₂_cons_left_iff.1 first
  obtain rfl := List.forall₂_nil_left_iff.1 none
  refine ⟨found, hfound, searched, ?_⟩
  rw [answer, searched]
  simp only [Except.map, List.map_cons, List.map_map]
  rfl

theorem mem_of_firstOf {r : SearchRequest} {k : Int} {films : Catalog}
    {found : List (Float × Row)} (first : Server.FirstOf k (admitted films r) found)
    {x : Float × Row} (hx : x ∈ found) : ∃ f ∈ films, x.2 = f.row := by
  obtain ⟨ordered, perm, rfl⟩ := first
  have hmem := perm.subset (List.mem_map_of_mem (List.mem_of_mem_take hx))
  obtain ⟨f, hf, h⟩ := List.mem_map.1 (List.mem_of_mem_filter hmem)
  exact ⟨f, hf, h.symm⟩

theorem isNull_title {films : Catalog} {f : Film} (h : f ∈ films) :
    ((titles films).title (.int f.id)).isNull = false := by
  rw [title_titles]
  cases hfound : films.reverse.find? (·.id == f.id) with
  | some g => rfl
  | none => simpa using List.find?_eq_none.1 hfound f (List.mem_reverse.2 h)

/-! ## The steps of a run -/

variable {service : Service} {t : Session}

def filled (service : Service) (films : Catalog) : Collection :=
  { service.fresh with rows := films.map Film.row }

/-- The one index that a run makes, under its name. -/
def madeIndex (service : Service) : String × Index :=
  (Service.indexName service.schema.embedding, {
    field := service.schema.embedding.name
    params := Service.indexParams service.settings.indexType service.settings.metricType
      [("nlist", .int service.settings.nlist)] })

def indexed (service : Service) (films : Catalog) : Collection :=
  { filled service films with indexes := [madeIndex service] }

/-- The collection as it is searched. -/
def searchable (service : Service) (films : Catalog) : Collection :=
  { indexed service films with loaded := true }

/-- The statistics that a run prints, if they can be written. -/
def statistics (service : Service) (extra : Fields) (films : Catalog) : Fields :=
  Keyed.put "indexes"
    (.list (((indexed service films).entries service.collection).map IndexEntry.toValue))
    (Service.rowStats extra (indexed service films))

def Told (service : Service) (extra : Fields) (films : Catalog) : Prop :=
  (Value.record (statistics service extra films)).writable = true

section
variable (service : Service) (films : Catalog) (extra : Fields) (r : Transcript)

def afterFill : Transcript :=
  let counted := r
    |>.call (.insert service.collection (films.map Film.row))
    |>.log (.inserted films.length)
    |>.call (.flush service.collection)
    |>.call (.countEntities service.collection)
    |>.writeLine ("There are " ++ Number.intText films.length ++ " films in the collection.")
  if (films.length : Int) < service.settings.segmentRowLimit then
    counted.log (.fewRows films.length service.settings.segmentRowLimit)
  else counted

/-- The statistics are fetched but not printed yet. -/
def afterStats : Transcript :=
  let s := service.settings
  let field := service.schema.embedding
  let made := r
    |>.call (.hasIndex service.collection (madeIndex service).1)
    |>.call (.createIndex service.collection field.name (madeIndex service).2.params
      (madeIndex service).1)
    |>.log (.indexCreated s.indexType s.metricType field.name [("nlist", .int s.nlist)])
    |>.writeLine "\n--------Collection Stats--------"
  (service.fetched made).call (.indexes service.collection)

def afterIndex : Transcript :=
  (afterStats service r).writeLine (Json.write 0 (.record (statistics service extra films)))

def afterSearch (request : SearchRequest) (hits : List (List Hit)) : Transcript :=
  r.call (.load service.collection)
    |>.log (.searching request)
    |>.call (.search service.collection request (some outputFields))
    |>.write (Hit.printout hits)

def afterDrop : Transcript :=
  r.call (.hasIndex service.collection (madeIndex service).1)
    |>.call (.release service.collection)
    |>.call (.dropIndex service.collection (madeIndex service).1)
    |>.log (.indexDropped service.schema.embedding.name)
    |>.call (.hasCollection service.collection)
    |>.call (.dropCollection service.collection)
    |>.log (.dropped service.collection)

@[simp] theorem calls_afterFill : (afterFill service films r).calls = r.calls ++
    [Call.insert service.collection (films.map Film.row), Call.flush service.collection,
      Call.countEntities service.collection] := by
  rw [afterFill]
  split <;> simp

@[simp] theorem events_afterFill : (afterFill service films r).events = r.events ++
    Event.inserted films.length ::
      if (films.length : Int) < service.settings.segmentRowLimit then
        [Event.fewRows films.length service.settings.segmentRowLimit] else [] := by
  rw [afterFill]
  split <;> simp

@[simp] theorem printed_afterFill : (afterFill service films r).printed = r.printed ++
    "There are " ++ Number.intText films.length ++ " films in the collection." ++ "\n" := by
  rw [afterFill]
  split <;> simp [String.append_assoc]

@[simp] theorem calls_afterStats : (afterStats service r).calls = r.calls ++
    [Call.hasIndex service.collection (madeIndex service).1,
      Call.createIndex service.collection service.schema.embedding.name (madeIndex service).2.params
        (madeIndex service).1,
      Call.client service.settings.milvusUri (service.settings.milvusToken.getD ""),
      Call.stats service.collection, Call.closeClient, Call.indexes service.collection] := by
  simp [afterStats, Service.fetched]

@[simp] theorem events_afterStats : (afterStats service r).events = r.events ++
    [Event.indexCreated service.settings.indexType service.settings.metricType
      service.schema.embedding.name [("nlist", .int service.settings.nlist)]] := rfl

@[simp] theorem printed_afterStats : (afterStats service r).printed = r.printed ++
    "\n--------Collection Stats--------" ++ "\n" := rfl

@[simp] theorem printed_afterSearch (request : SearchRequest) (hits : List (List Hit)) :
    (afterSearch service r request hits).printed = r.printed ++ Hit.printout hits := rfl

@[simp] theorem events_afterSearch (request : SearchRequest) (hits : List (List Hit)) :
    (afterSearch service r request hits).events = r.events ++ [Event.searching request] := rfl

@[simp] theorem calls_afterSearch (request : SearchRequest) (hits : List (List Hit)) :
    (afterSearch service r request hits).calls = r.calls ++ [Call.load service.collection,
      Call.search service.collection request (some outputFields)] := by
  simp [afterSearch]

@[simp] theorem printed_afterDrop : (afterDrop service r).printed = r.printed := rfl

@[simp] theorem events_afterDrop : (afterDrop service r).events = r.events ++
    [Event.indexDropped service.schema.embedding.name, Event.dropped service.collection] := by
  simp [afterDrop]

@[simp] theorem calls_afterDrop : (afterDrop service r).calls = r.calls ++
    [Call.hasIndex service.collection (madeIndex service).1, Call.release service.collection,
      Call.dropIndex service.collection (madeIndex service).1, Call.hasCollection service.collection,
      Call.dropCollection service.collection] := by
  simp [afterDrop]

end

theorem fill_eq (h : service.Open t) (films : Catalog) :
    fill service films t = (.ok (), service.serving (t.server.removeCollection service.collection)
      (filled service films) (afterFill service films (service.remade t))) := by
  have connected : service.connection ∈ (t.server.removeCollection service.collection).connected :=
    h.connected
  rw [fill, bind_ok h.recreateCollection, bind_ok (Service.insert_serving connected films),
    bind_ok (Service.flush_serving connected), bind_ok (Service.countEntities_serving connected),
    bind_ok (Service.printLine_serving _), afterFill]
  simp only [Service.fresh, List.nil_append, List.length_map, filled]
  split
  · exact Service.log_serving _
  · rfl

section
variable {S : Server} {r : Transcript} (connected : service.connection ∈ S.connected)
include connected

theorem index_eq (films : Catalog) :
    index service (service.serving S (filled service films) r) =
      (Action.ofExcept Failure.number (Json.written (.record
        (statistics service S.extraStats films))) >>= Action.printLine)
        (service.serving S (indexed service films) (afterStats service r)) := by
  have made := Service.createIndex_serving (r := r) connected
    (rfl : (filled service films).indexes = []) service.schema.embedding
    service.settings.indexType service.settings.metricType [("nlist", .int service.settings.nlist)]
  rw [index, bind_ok made, bind_ok (Service.printLine_serving _),
    bind_ok (Service.collectionStats_serving connected)]
  rfl

theorem index_told {films : Catalog} (told : Told service S.extraStats films) :
    index service (service.serving S (filled service films) r) = (.ok (),
      service.serving S (indexed service films) (afterIndex service films S.extraStats r)) := by
  rw [index_eq connected, Json.written_ok told]
  exact Service.printLine_serving _

theorem index_untold {films : Catalog} (untold : ¬ Told service S.extraStats films) :
    index service (service.serving S (filled service films) r) =
      (.error (.number .tooManyDigits),
        service.serving S (indexed service films) (afterStats service r)) := by
  rw [index_eq connected, Json.written_error untold]
  rfl

theorem load_eq (films : Catalog) :
    service.load (service.serving S (indexed service films) r) =
      (.ok (), service.serving S (searchable service films) (r.call (.load service.collection))) :=
  Service.load_serving connected (List.cons_ne_nil _ _)

theorem search_unrequested {e : Failure}
    (cause : request service.settings service.schema around = .error e) (films : Catalog) :
    search service films around (service.serving S (indexed service films) r) =
      (.error e, service.serving S (searchable service films)
        (r.call (.load service.collection))) := by
  rw [search, bind_ok (load_eq connected films)]
  cases hq : query service.settings service.schema around with
  | error x =>
      rw [request, hq] at cause
      cases cause
      rfl
  | ok q =>
      have compiled : q.compile.mapError Failure.query = .error e := by
        rw [← cause, request, hq]
        rfl
      cases hc : q.compile with
      | ok request =>
          rw [hc] at compiled
          cases compiled
      | error x =>
          rw [hc] at compiled
          cases compiled
          refine (bind_ok rfl _).trans (bind_error ?_ _)
          rw [Service.search, hc]
          rfl

theorem search_requested {request : SearchRequest}
    (made : Run.request service.settings service.schema around = .ok request) (films : Catalog) :
    ∃ hits, answer films request = .ok hits ∧
      search service films around (service.serving S (indexed service films) r) =
        (.ok hits, service.serving S (searchable service films)
          (afterSearch service r request hits)) := by
  obtain ⟨q, hq, compiled⟩ := exists_query made
  obtain ⟨found, first, searched, answered⟩ := exists_answer made films
  let hits := [found.map (Hit.ofRow (titles films) outputFields)]
  have mem : ∀ group ∈ hits, ∀ x ∈ group, ∃ scored ∈ found,
      x = Hit.ofRow (titles films) outputFields scored := by
    intro group hgroup x hx
    obtain rfl := List.mem_singleton.1 hgroup
    obtain ⟨scored, hscored, rfl⟩ := List.mem_map.1 hx
    exact ⟨scored, hscored, rfl⟩
  have titled : Hit.warnings hits.flatten = [] := by
    refine List.map_eq_nil_iff.2 (List.filter_eq_nil_iff.2 fun x hx => ?_)
    obtain ⟨group, hgroup, hx⟩ := List.mem_flatten.1 hx
    obtain ⟨scored, hscored, rfl⟩ := mem group hgroup x hx
    obtain ⟨f, hf, row⟩ := mem_of_firstOf first hscored
    simp [Hit.ofRow, row, Film.row, isNull_title hf]
  have printed : Action.Writes (Hit.print hits) (Hit.printout hits) := by
    refine Hit.writes_print fun group hgroup x hx => ?_
    obtain ⟨scored, -, rfl⟩ := mem group hgroup x hx
    exact Hit.printable_of_row rfl
  refine ⟨hits, answered, ?_⟩
  have logged (t : Session) : Hit.ofSearchLogged (titles films) outputFields
      [found.map (Server.found outputFields)] t = (.ok hits, t) := by
    have logs : Hit.ofSearchLogged (titles films) outputFields _ t =
        (.ok hits, { t with events := t.events ++ Hit.warnings hits.flatten }) :=
      Hit.logs_ofSearchLogged_found outputFields films.titlesById [found] t
    rwa [titled, List.append_nil] at logs
  have given (t : Session) : Action.ofExcept id (query service.settings service.schema around) t =
      (.ok q, t) := by
    rw [hq]
    rfl
  rw [search, bind_ok (load_eq connected films), bind_ok (given _),
    bind_ok (Service.search_serving (c := searchable service films) connected rfl compiled searched),
    bind_ok (logged _), bind_ok (printed _)]
  rfl

end

/-- What a run does on its open connection. It returns its answer, if it can print its
statistics and make a request. Otherwise it stops with its collection made anew, and in the
second case with that collection loaded. -/
theorem connectedRun_cases (h : service.Open t) (films : Catalog) (around : Surroundings) :
    let S := t.server.removeCollection service.collection
    let filled := afterFill service films (service.remade t)
    let r := afterIndex service films t.server.extraStats filled
    (¬ Told service t.server.extraStats films ∧
      connectedRun service films around t = (.error (.number .tooManyDigits),
        service.serving S (indexed service films) (afterStats service filled))) ∨
    (∃ e, Told service t.server.extraStats films ∧
      request service.settings service.schema around = .error e ∧
      connectedRun service films around t = (.error e,
        service.serving S (searchable service films) (r.call (.load service.collection)))) ∨
    ∃ request hits, Told service t.server.extraStats films ∧
      Run.request service.settings service.schema around = .ok request ∧
      answer films request = .ok hits ∧
      connectedRun service films around t = (.ok hits,
        Service.idle S (afterDrop service (afterSearch service r request hits))) := by
  intro S filled r
  have connected : service.connection ∈ S.connected := h.connected
  rw [connectedRun, bind_ok (fill_eq h films)]
  by_cases told : Told service t.server.extraStats films
  swap
  · exact .inl ⟨told, bind_error (index_untold connected told) _⟩
  have shown : index service (service.serving S (Run.filled service films) filled) =
      (.ok (), service.serving S (indexed service films) r) := index_told connected told
  rw [bind_ok shown]
  cases hr : request service.settings service.schema around with
  | error e =>
      exact .inr (.inl ⟨e, told, rfl, bind_error (search_unrequested connected hr films) _⟩)
  | ok request =>
      obtain ⟨hits, answered, searched⟩ := search_requested (r := r) connected hr films
      have present : Keyed.get? (Service.indexName service.schema.embedding)
          (searchable service films).indexes = some (madeIndex service).2 :=
        if_pos (beq_self_eq_true _)
      have absent : Keyed.get? service.collection S.collections = none :=
        Server.get?_removeCollection
      refine .inr (.inr ⟨request, hits, told, rfl, answered, ?_⟩)
      rw [bind_ok searched, bind_ok (Service.dropIndex_serving connected present),
        bind_ok (Service.dropCollection_serving connected absent)]
      rfl

/-- Why a run stops on its own after the given calls. -/
inductive StopsAt (s : Settings) (films : Catalog) (extra : Fields) (around : Surroundings)
    (calls : List Call) : Failure → Prop
  /-- It cannot write its statistics, which it has fetched. -/
  | statistics (untold : ¬ Told (Service.ofSettings s) extra films)
      (last : calls.getLast? = some (.indexes s.collectionName)) :
      StopsAt s films extra around calls (.number .tooManyDigits)
  /-- It cannot make its request, though the collection is loaded. -/
  | request {e : Failure} (cause : request s ⟨s.dimension⟩ around = .error e)
      (last : calls.getLast? = some (.load s.collectionName)) :
      StopsAt s films extra around calls e

theorem connectedRun_failed (h : (Service.ofSettings s).Open t) {films : Catalog} {e : Failure}
    {u : Session} (failed : connectedRun (Service.ofSettings s) films around t = (.error e, u)) :
    StopsAt s films t.server.extraStats around u.calls e := by
  rcases connectedRun_cases h films around with
    ⟨untold, out⟩ | ⟨_, -, cause, out⟩ | ⟨_, _, _, _, _, out⟩
  · cases out.symm.trans failed
    exact .statistics untold List.getLast?_concat
  · cases out.symm.trans failed
    exact .request cause List.getLast?_concat
  · cases out.symm.trans failed

/-! ## The whole run -/

variable {before : Session}

theorem run_unread {e : CatalogError}
    (h : Catalog.read around.files s.dimension s.csvPath = .error e) :
    run s around before = (.error (.catalog e), before) :=
  bind_error (readFilms_error h before) _

/-- The session in which a run connects, after it has read its films. -/
def started (s : Settings) (films : Catalog) (before : Session) : Session :=
  { before with events := before.events ++ [.filmsRead films.length s.csvPath] }

theorem run_read {films : Catalog} (before : Session)
    (h : Catalog.read around.files s.dimension s.csvPath = .ok films) :
    run s around before =
      (Service.ofSettings s).connected
        (connectedRun (Service.ofSettings s) films around) (started s films before) :=
  bind_ok (readFilms_ok h before) _

theorem run_portUnwritable {films : Catalog} (before : Session)
    (h : Catalog.read around.files s.dimension s.csvPath = .ok films)
    (port : ¬ Number.Writable s.milvusPort) :
    run s around before = (.error (.number .tooManyDigits), started s films before) := by
  rw [run_read before h]
  exact Service.connected_unwritable port _

/-- The server without the collection and the connection of a run. -/
def cleared (s : Settings) (server : Server) : Server :=
  { server.removeCollection s.collectionName with
    connected := server.connected.filter (· != s.connectionAlias) }

/-- What has come out of a run up to its statistics. -/
def untilStats (s : Settings) (films : Catalog) (before : Session) : Transcript :=
  let service := Service.ofSettings s
  let t := service.opened (started s films before)
  afterStats service (afterFill service films (service.remade t))

/-- What has come out of a run up to its request. -/
def untilRequest (s : Settings) (films : Catalog) (before : Session) : Transcript :=
  (untilStats s films before).writeLine
    (Json.write 0 (.record (statistics (Service.ofSettings s) before.server.extraStats films)))

/-- What a run prints up to its statistics. -/
def counted (films : Catalog) : String :=
  "There are " ++ Number.intText films.length ++ " films in the collection." ++ "\n" ++
    "\n--------Collection Stats--------" ++ "\n"

/-- What a run prints up to its request. -/
def shown (s : Settings) (films : Catalog) (extra : Fields) : String :=
  counted films ++ Json.write 0 (.record (statistics (Service.ofSettings s) extra films)) ++ "\n"

theorem printed_untilStats (s : Settings) (films : Catalog) (before : Session) :
    (untilStats s films before).printed = before.printed ++ counted films := by
  rw [untilStats, printed_afterStats, printed_afterFill, Service.printed_remade,
    Service.printed_opened]
  simp only [started, counted, String.append_assoc]

theorem printed_untilRequest (s : Settings) (films : Catalog) (before : Session) :
    (untilRequest s films before).printed =
      before.printed ++ shown s films before.server.extraStats := by
  rw [untilRequest, Transcript.printed_writeLine, printed_untilStats]
  simp only [shown, String.append_assoc]

def afterClose (s : Settings) (r : Transcript) : Transcript :=
  r.call (.disconnect s.connectionAlias) |>.log .disconnected

theorem cleared_opened (t : Session) :
    let service := Service.ofSettings s
    let S := (service.opened t).server.removeCollection s.collectionName
    { S with connected := S.connected.filter (· != s.connectionAlias) } = cleared s t.server :=
  congrArg (Server.removeCollection s.collectionName)
    (Service.filter_connected_opened (s := Service.ofSettings s) (t := t))

theorem closed_idle (S : Server) (r : Transcript) :
    (Service.ofSettings s).closed (Service.idle S r) =
      Service.idle { S with connected := S.connected.filter (· != s.connectionAlias) }
        (afterClose s r) := rfl

theorem closed_serving (S : Server) (c : Collection) (r : Transcript) :
    (Service.ofSettings s).closed ((Service.ofSettings s).serving S c r) =
      Service.idle
        ({ S with connected := S.connected.filter (· != s.connectionAlias) }.putCollection
          s.collectionName c)
        (afterClose s r) := rfl

/-- The run of which no call is to fail, if the port can be written. -/
theorem run_cases {films : Catalog} (unplanned : before.plan = Plan.none)
    (read : Catalog.read around.files s.dimension s.csvPath = .ok films)
    (port : Number.Writable s.milvusPort) :
    let service := Service.ofSettings s
    let S := cleared s before.server
    let r := untilRequest s films before
    (¬ Told service before.server.extraStats films ∧
      run s around before = (.error (.number .tooManyDigits),
        Service.idle (S.putCollection s.collectionName (indexed service films))
          (afterClose s (untilStats s films before)))) ∨
    (∃ e, Told service before.server.extraStats films ∧
      request s ⟨s.dimension⟩ around = .error e ∧
      run s around before = (.error e,
        Service.idle (S.putCollection s.collectionName (searchable service films))
          (afterClose s (r.call (.load s.collectionName))))) ∨
    ∃ request hits, Told service before.server.extraStats films ∧
      Run.request s ⟨s.dimension⟩ around = .ok request ∧
      answer films request = .ok hits ∧
      run s around before = (.ok hits, Service.idle S
        (afterClose s (afterDrop service (afterSearch service r request hits)))) := by
  intro service S r
  have connects : (started s films before).plan ((started s films before).calls ++
      [service.connectCall]) = none := congrFun unplanned _
  have opened : service.Open (service.opened (started s films before)) :=
    ⟨unplanned, Service.mem_connected_opened⟩
  have left := cleared_opened (s := s) (started s films before)
  rw [run_read before read, Service.connected_allowed port connects]
  have stopped {e : Failure} {c : Collection} {r' : Transcript}
      (failed : connectedRun service films around (service.opened (started s films before)) =
        (.error e, service.serving ((service.opened (started s films before)).server.removeCollection
          service.collection) c r')) :
      Action.followedBy (connectedRun service films around) service.close
        (service.opened (started s films before)) = (.error e,
          Service.idle (S.putCollection s.collectionName c) (afterClose s r')) := by
    rw [Service.followedBy_close_allowed failed rfl, closed_serving]
    exact congrArg (fun server => (Except.error e,
      Service.idle (server.putCollection s.collectionName c) _)) left
  have cases := connectedRun_cases opened films around
  simp only [Service.extraStats_opened] at cases
  rcases cases with ⟨untold, failed⟩ | ⟨e, told, cause, failed⟩ |
    ⟨request, hits, told, made, answered, returned⟩
  · exact .inl ⟨untold, stopped failed⟩
  · exact .inr (.inl ⟨e, told, cause, stopped failed⟩)
  · refine .inr (.inr ⟨request, hits, told, made, answered, ?_⟩)
    rw [Service.followedBy_close_allowed returned rfl, closed_idle]
    exact congrArg (fun server => (Except.ok hits, Service.idle server _)) left

end Run
end FilmIndex
