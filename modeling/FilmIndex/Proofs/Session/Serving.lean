import FilmIndex.Proofs.Server.Indexes
import FilmIndex.Proofs.Session.Steps

/-!
What the operations of a service come to when no call is to fail. As long as the service
holds its collection, a session is given by that collection, by the server without it and by
what has come out of the session so far. Each operation then leads from one such session to
another.
-/

namespace FilmIndex
open FilmIndex.Action

/-- What has come out of a session: the calls made, the events logged, the text printed. -/
structure Transcript where
  calls : List Call
  events : List Event
  printed : String

namespace Transcript

variable (r : Transcript) (c : Call) (e : Event) (text : String)

def call : Transcript := { r with calls := r.calls ++ [c] }

def log : Transcript := { r with events := r.events ++ [e] }

def write : Transcript := { r with printed := r.printed ++ text }

def writeLine : Transcript := (r.write text).write "\n"

@[simp] theorem calls_call : (r.call c).calls = r.calls ++ [c] := rfl
@[simp] theorem events_call : (r.call c).events = r.events := rfl
@[simp] theorem printed_call : (r.call c).printed = r.printed := rfl
@[simp] theorem calls_log : (r.log e).calls = r.calls := rfl
@[simp] theorem events_log : (r.log e).events = r.events ++ [e] := rfl
@[simp] theorem printed_log : (r.log e).printed = r.printed := rfl
@[simp] theorem calls_write : (r.write text).calls = r.calls := rfl
@[simp] theorem events_write : (r.write text).events = r.events := rfl
@[simp] theorem printed_write : (r.write text).printed = r.printed ++ text := rfl
@[simp] theorem calls_writeLine : (r.writeLine text).calls = r.calls := rfl
@[simp] theorem events_writeLine : (r.writeLine text).events = r.events := rfl
@[simp] theorem printed_writeLine : (r.writeLine text).printed = r.printed ++ text ++ "\n" := rfl

end Transcript

def Session.transcript (t : Session) : Transcript := ⟨t.calls, t.events, t.printed⟩

namespace Service

/-- No call is to fail and the service's connection is open. -/
structure Open (s : Service) (t : Session) : Prop where
  unplanned : t.plan = Plan.none
  connected : s.connection ∈ t.server.connected

variable (s : Service)

/-- The session in which the service holds its collection `c` on a server that is `S` otherwise. -/
def serving (S : Server) (c : Collection) (r : Transcript) : Session :=
  { server := S.putCollection s.collection c, calls := r.calls, events := r.events
    printed := r.printed, holds := true }

/-- The session in which the service holds nothing. -/
def idle (S : Server) (r : Transcript) : Session :=
  { server := S, calls := r.calls, events := r.events, printed := r.printed }

@[simp] theorem server_idle (S : Server) (r : Transcript) : (idle S r).server = S := rfl
@[simp] theorem calls_idle (S : Server) (r : Transcript) : (idle S r).calls = r.calls := rfl
@[simp] theorem events_idle (S : Server) (r : Transcript) : (idle S r).events = r.events := rfl
@[simp] theorem printed_idle (S : Server) (r : Transcript) : (idle S r).printed = r.printed := rfl

/-- Gets the collection by its name, whether there is a handle on it or not. -/
def fetch : Action Unit := do
  s.call (.collection s.collection none) (Server.fetchCollection s.collection)
  Action.setHolding true

def fresh : Collection :=
  { schema? := some (s.schema.collection FilmSchema.defaultDescription) }

variable {s} {t : Session} {S : Server} {c c' : Collection} {r : Transcript} {α : Type}

theorem Open.call {call : Call} {effect : Server.Effect α} {x : α} {server : Server}
    (h : s.Open t) (he : effect t.server = .ok (x, server)) :
    s.call call effect t = (.ok x, { t with server, calls := t.calls ++ [call] }) := by
  refine call_done _ call effect t (congrFun h.unplanned _) (fun a ha => ?_) he
  cases ha
  exact h.connected

theorem open_serving (open_ : s.connection ∈ S.connected) : s.Open (s.serving S c r) :=
  ⟨rfl, open_⟩

theorem log_serving (e : Event) :
    Action.log e (s.serving S c r) = (.ok (), s.serving S c (r.log e)) := rfl

theorem printLine_serving (text : String) :
    Action.printLine text (s.serving S c r) = (.ok (), s.serving S c (r.writeLine text)) := rfl

theorem hold_serving : s.hold (s.serving S c r) = (.ok (), s.serving S c r) := rfl

theorem hold_held (h : t.holds = true) : s.hold t = (.ok (), t) := by
  have holding : Action.holding t = (.ok true, t) := by rw [← h]; rfl
  exact bind_ok holding _

theorem hold_unheld (h : t.holds = false) : s.hold t = s.fetch t := by
  have holding : Action.holding t = (.ok false, t) := by rw [← h]; rfl
  exact bind_ok holding _

theorem Open.fetch (h : s.Open t)
    (present : Keyed.get? s.collection t.server.collections = some c) :
    s.fetch t =
      (.ok (), { t with calls := t.calls ++ [.collection s.collection none], holds := true }) := by
  have fetched : s.call (.collection s.collection none) (Server.fetchCollection s.collection) t =
      _ := h.call (Server.read_present present _)
  exact bind_ok fetched _

/-- A service that does not hold its collection yet gets hold of it. -/
theorem hold_present (h : s.Open t) (server : t.server = S.putCollection s.collection c) :
    ∃ r, s.hold t = (.ok (), s.serving S c r) := by
  obtain ⟨server', plan, calls, events, printed, holds⟩ := t
  obtain rfl : plan = Plan.none := h.unplanned
  obtain rfl : server' = S.putCollection s.collection c := server
  cases holds with
  | true => exact ⟨⟨calls, events, printed⟩, rfl⟩
  | false =>
      refine ⟨⟨calls ++ [.collection s.collection none], events, printed⟩, ?_⟩
      exact (hold_unheld rfl).trans (h.fetch Server.get?_putCollection)

section
variable (open_ : s.connection ∈ S.connected)
include open_

theorem read_serving {f : Collection → Except ServerError α} {x : α} (hf : f c = .ok x)
    (call : Call) :
    s.call call (Server.read s.collection f) (s.serving S c r) =
      (.ok x, s.serving S c (r.call call)) := by
  refine (open_serving open_).call ?_
  rw [serving, Server.read_present Server.get?_putCollection, hf]
  rfl

theorem change_serving {f : Collection → Except ServerError Collection} (hf : f c = .ok c')
    (call : Call) :
    s.call call (Server.change s.collection f) (s.serving S c r) =
      (.ok (), s.serving S c' (r.call call)) := by
  refine (open_serving open_).call ?_
  rw [serving, Server.change_present Server.get?_putCollection, hf]
  exact congrArg (fun server => Except.ok ((), server)) Server.putCollection_putCollection

end

/-! ## Collections -/

/-- The making of the collection, after one that was there is dropped. -/
def remade (s : Service) (t : Session) : Transcript :=
  let asked := t.transcript.call (.hasCollection s.collection)
  let bare :=
    if (Keyed.get? s.collection t.server.collections).isSome then
      (asked.log (.replacing s.collection)).call (.dropCollection s.collection)
    else asked
  (bare.call (.collection s.collection
    (some (s.schema.collection FilmSchema.defaultDescription)))).log (.created s.collection)

@[simp] theorem calls_remade : (s.remade t).calls = t.calls ++
    (.hasCollection s.collection ::
      (if (Keyed.get? s.collection t.server.collections).isSome then
        [.dropCollection s.collection] else []) ++
      [.collection s.collection
        (some (s.schema.collection FilmSchema.defaultDescription))]) := by
  simp only [remade]
  split <;> simp [Session.transcript]

@[simp] theorem events_remade : (s.remade t).events = t.events ++
    ((if (Keyed.get? s.collection t.server.collections).isSome then
      [.replacing s.collection] else []) ++ [.created s.collection]) := by
  simp only [remade]
  split <;> simp [Session.transcript]

@[simp] theorem printed_remade : (s.remade t).printed = t.printed := by
  simp only [remade]
  split <;> rfl

theorem Open.create (h : s.Open t) (absent : Keyed.get? s.collection t.server.collections = none) :
    s.create t = (.ok (), s.serving t.server s.fresh ((t.transcript.call (.collection s.collection
        (some (s.schema.collection FilmSchema.defaultDescription)))).log
          (.created s.collection))) := by
  have he : Server.createCollection s.collection
      (s.schema.collection FilmSchema.defaultDescription) t.server =
        .ok ((), t.server.putCollection s.collection s.fresh) :=
    Server.createCollection_absent absent _
  obtain ⟨server, plan, calls, events, printed, holds⟩ := t
  obtain rfl : plan = Plan.none := h.unplanned
  exact bind_ok (h.call he) _

/-- Whatever collection was there, a fresh one takes its place, behind all others. -/
theorem Open.recreateCollection (h : s.Open t) :
    s.recreateCollection t =
      (.ok (), s.serving (t.server.removeCollection s.collection) s.fresh (s.remade t)) := by
  let asked : Session := { t with calls := t.calls ++ [.hasCollection s.collection] }
  have ha : s.Open asked := ⟨h.unplanned, h.connected⟩
  have has : s.hasCollection t =
      (.ok (Keyed.get? s.collection t.server.collections).isSome, asked) := h.call rfl
  rw [Service.recreateCollection, bind_ok has, remade]
  cases hc : Keyed.get? s.collection t.server.collections with
  | none =>
      rw [Server.removeCollection_of_absent hc]
      exact ha.create hc
  | some c =>
      let told : Session := { asked with events := t.events ++ [.replacing s.collection] }
      have ht : s.Open told := ⟨h.unplanned, h.connected⟩
      have he : Server.dropCollection s.collection told.server =
          .ok ((), t.server.removeCollection s.collection) := by
        simp only [Server.dropCollection, told, asked, hc]
        rfl
      have logged : Action.log (.replacing s.collection) asked = (.ok (), told) := rfl
      have dropped : s.call (.dropCollection s.collection) (Server.dropCollection s.collection)
          told = _ := ht.call he
      simp only [Option.isSome_some, if_true]
      rw [bind_ok logged, bind_ok dropped]
      exact Open.create ⟨h.unplanned, h.connected⟩ Server.get?_removeCollection

section
variable (open_ : s.connection ∈ S.connected)
include open_

theorem dropCollection_serving (absent : Keyed.get? s.collection S.collections = none) :
    s.dropCollection (s.serving S c r) =
      (.ok (), idle S (((r.call (.hasCollection s.collection)).call
        (.dropCollection s.collection)).log (.dropped s.collection))) := by
  have has : s.hasCollection (s.serving S c r) =
      (.ok true, s.serving S c (r.call (.hasCollection s.collection))) := by
    refine (open_serving open_).call ?_
    rw [serving, Server.hasCollection, Server.look, Server.get?_putCollection]
    rfl
  have he : Server.dropCollection s.collection (S.putCollection s.collection c) =
      .ok ((), S) := by
    rw [Server.dropCollection, Server.get?_putCollection]
    simp only [Server.putCollection, Keyed.erase_put, Keyed.erase_of_absent absent]
  have dropped : s.call (.dropCollection s.collection) (Server.dropCollection s.collection)
      (s.serving S c (r.call (.hasCollection s.collection))) = _ := (open_serving open_).call he
  rw [Service.dropCollection, bind_ok has]
  simp only [if_true]
  rw [bind_ok dropped]
  rfl

/-! ## Rows -/

theorem insert_serving (films : Catalog) :
    s.insert films (s.serving S c r) =
      (.ok films.ids, s.serving S { c with rows := c.rows ++ films.map Film.row }
        ((r.call (.insert s.collection (films.map Film.row))).log (.inserted films.length))) := by
  have inserted := change_serving (c := c) (r := r) open_
    (f := fun c => .ok { c with rows := c.rows ++ films.map Film.row }) rfl
    (.insert s.collection (films.map Film.row))
  rw [insert_eq, bind_ok hold_serving]
  exact bind_ok inserted _

theorem flush_serving :
    s.flush (s.serving S c r) = (.ok (), s.serving S c (r.call (.flush s.collection))) :=
  (bind_ok hold_serving _).trans (read_serving (f := fun _ => .ok ()) open_ rfl _)

theorem countEntities_serving :
    s.countEntities (s.serving S c r) =
      (.ok c.rows.length, s.serving S c (r.call (.countEntities s.collection))) :=
  (bind_ok hold_serving _).trans (read_serving (f := fun c => .ok c.rows.length) open_ rfl _)

end

def fetched (s : Service) (r : Transcript) : Transcript :=
  ((r.call (.client s.settings.milvusUri (s.settings.milvusToken.getD ""))).call
    (.stats s.collection)).call .closeClient

/-- The statistics of a collection: how many rows it has, and what a server adds to all. -/
def rowStats (extra : Fields) (c : Collection) : Fields :=
  Keyed.putAll [("row_count", .int c.rows.length)] extra

/-- The rows are counted, if the server adds no count of its own. -/
theorem get?_rowStats (c : Collection) {extra : Fields} (h : Keyed.get? "row_count" extra = none) :
    Keyed.get? "row_count" (rowStats extra c) = some (.int c.rows.length) := by
  have absent : extra.reverse.find? (fun e => e.1 == "row_count") = none := by
    rw [Keyed.get?_eq_none_iff] at h
    exact List.find?_eq_none.2 fun e he => by simp [h e (List.mem_reverse.1 he)]
  rw [rowStats, Keyed.get?_putAll, absent]
  simp [Keyed.get?]

theorem fetchStats_present (unplanned : t.plan = Plan.none)
    (present : Keyed.get? s.collection t.server.collections = some c) :
    s.fetchStats t = (.ok (rowStats t.server.extraStats c),
      { t with calls := (s.fetched t.transcript).calls }) := by
  let made : Call := .client s.settings.milvusUri (s.settings.milvusToken.getD "")
  have opened : Action.call none made Server.nothing t =
      (.ok (), { t with calls := t.calls ++ [made] }) := call_nothing made (congrFun unplanned _)
  have stats : Server.stats s.collection t.server =
      .ok (rowStats t.server.extraStats c, t.server) := by
    rw [Server.stats, Server.read_present present]
    rfl
  have told := call_apart (.stats s.collection) (Server.stats s.collection)
    (s := { t with calls := t.calls ++ [made] }) (congrFun unplanned _) stats
  rw [fetchStats, bind_ok opened]
  exact followedBy_allowed told (congrFun unplanned _)

theorem fetchStats_serving :
    s.fetchStats (s.serving S c r) = (.ok (rowStats S.extraStats c), s.serving S c (s.fetched r)) :=
  fetchStats_present rfl Server.get?_putCollection

section
variable (open_ : s.connection ∈ S.connected)
include open_

theorem collectionStats_serving :
    s.collectionStats (s.serving S c r) =
      (.ok (Keyed.put "indexes" (.list ((c.entries s.collection).map IndexEntry.toValue))
        (rowStats S.extraStats c)), s.serving S c ((s.fetched r).call (.indexes s.collection))) := by
  have indexes := read_serving (c := c) (r := s.fetched r) open_
    (f := fun c => .ok (c.entries s.collection)) rfl (.indexes s.collection)
  rw [collectionStats, bind_ok fetchStats_serving, bind_ok hold_serving]
  exact bind_ok indexes _

/-! ## Index -/

theorem hasIndex_serving (index : String) :
    s.hasIndex index (s.serving S c r) =
      (.ok (Keyed.get? index c.indexes).isSome,
        s.serving S c (r.call (.hasIndex s.collection index))) :=
  read_serving (f := fun c => .ok (Keyed.get? index c.indexes).isSome) open_ rfl _

theorem createIndex_serving (bare : c.indexes = []) (field : VectorField)
    (indexType metric : String) (params : Fields) :
    let full := indexParams indexType metric params
    s.createIndex field indexType metric params (s.serving S c r) =
      (.ok (), s.serving S { c with indexes := [(indexName field, ⟨field.name, full⟩)] }
        (((r.call (.hasIndex s.collection (indexName field))).call
          (.createIndex s.collection field.name full (indexName field))).log
            (.indexCreated indexType metric field.name params))) := by
  intro full
  have added : Collection.addIndex (indexName field) field.name full c =
      .ok { c with indexes := [(indexName field, ⟨field.name, full⟩)] } := by
    simp [Collection.addIndex, bare, Keyed.put]
  have kept : s.keepsIndex field full (s.serving S c r) =
      (.ok false, s.serving S c (r.call (.hasIndex s.collection (indexName field)))) := by
    have has := hasIndex_serving (c := c) (r := r) open_ (indexName field)
    rw [bare] at has
    exact bind_ok has _
  have created := change_serving (r := r.call (.hasIndex s.collection (indexName field))) open_
    added (.createIndex s.collection field.name full (indexName field))
  rw [createIndex, bind_ok hold_serving, bind_ok kept]
  exact bind_ok created _

theorem dropIndex_serving {field : VectorField} {i : Index}
    (present : Keyed.get? (indexName field) c.indexes = some i) :
    s.dropIndex field (s.serving S c r) =
      (.ok (), s.serving S (c.released.without field.name)
        ((((r.call (.hasIndex s.collection (indexName field))).call (.release s.collection)).call
          (.dropIndex s.collection (indexName field))).log (.indexDropped field.name))) := by
  have has := hasIndex_serving (c := c) (r := r) open_ (indexName field)
  rw [present] at has
  have released := change_serving (c := c) (r := r.call (.hasIndex s.collection (indexName field)))
    open_ (f := Collection.release) rfl (.release s.collection)
  have dropped := (bind_ok released fun _ => s.call (.dropIndex s.collection (indexName field))
    (Server.dropIndex s.collection (indexName field))).trans
      (change_serving open_ (Collection.dropIndex_released present) _)
  rw [dropIndex, bind_ok hold_serving, bind_ok has]
  exact bind_ok dropped _

/-! ## Search -/

theorem load_serving (indexed : c.indexes ≠ []) :
    s.load (s.serving S c r) =
      (.ok (), s.serving S { c with loaded := true } (r.call (.load s.collection))) := by
  have loaded : Collection.load c = .ok { c with loaded := true } := by
    rw [Collection.load, if_neg (by simp [indexed])]
  exact (bind_ok hold_serving _).trans (change_serving open_ loaded _)

theorem search_serving (loaded : c.loaded = true) {query : Clause VectorQuery}
    {request : SearchRequest} (compiled : query.compile = .ok request)
    {names : List String} {found : List (List Found)}
    (searched : Server.searchRows c.rows request names = .ok found) :
    s.search query (some names) (s.serving S c r) =
      (.ok found, s.serving S c ((r.log (.searching request)).call
        (.search s.collection request (some names)))) := by
  have hf : (if c.loaded then Server.searchRows c.rows request names else .error .notLoaded) =
      .ok found := by
    rw [if_pos loaded, searched]
  have hrequest : Action.ofExcept Failure.query (.ok request) (s.serving S c r) =
      (.ok request, s.serving S c r) := rfl
  rw [search, compiled, bind_ok hrequest, bind_ok (log_serving _), bind_ok hold_serving]
  exact read_serving open_ hf _

end
end Service
end FilmIndex
