import FilmIndex.Keyed
import FilmIndex.Query.Schema
import FilmIndex.Film.Row
import FilmIndex.Value.Basic

/-!
A server of collections. A collection holds rows and indexes; its indexes cannot
be dropped while it is loaded, and it cannot be searched unless it is.
-/

namespace FilmIndex

/-- A stored film. -/
structure Row where
  id : Int
  releaseYear : Int
  embedding : Embedding

def Film.row (f : Film) : Row := ⟨f.id, f.releaseYear, f.embedding⟩

/-- The rows of three columns, as far as all of them go. -/
def Row.ofColumns : List Int → List Int → List Embedding → List Row
  | id :: ids, year :: years, embedding :: embeddings =>
    ⟨id, year, embedding⟩ :: ofColumns ids years embeddings
  | _, _, _ => []

theorem Row.ofColumns_map (films : List Film) :
    ofColumns (films.map (·.id)) (films.map (·.releaseYear)) (films.map (·.embedding)) =
      films.map Film.row := by
  induction films with
  | nil => rfl
  | cons f films ih => rw [List.map_cons, List.map_cons, List.map_cons, ofColumns, ih]; rfl

def Row.fields (r : Row) : Fields :=
  [("id", .int r.id), ("release_year", .int r.releaseYear), ("embedding", Value.floats r.embedding)]

structure Index where
  field : String
  params : Value

structure Collection where
  schema? : Option CollectionSchema := none
  rows : List Row := []
  indexes : List (String × Index) := []
  loaded : Bool := false

/-- Collections and indexes stand under their names in the order of their making.
`extraStats` is added to all statistics. -/
structure Server where
  connected : List String := []
  collections : List (String × Collection) := []
  extraStats : Fields := []

/-- Why a call to a server fails. -/
inductive ServerError where
  | refused (message : String)
  | notConnected (connection : String)
  | noCollection (name : String)
  | noIndexNamed (name : String)
  | noIndex
  | fieldIndexed
  | loaded
  | notLoaded
  | badLimit
  | badElement (kind : String)
  | elementTooLarge

namespace ServerError

def message : ServerError → String
  | refused message => message
  | notConnected connection => "not connected: " ++ connection
  | noCollection name => "collection not found: " ++ name
  | noIndexNamed name => "index not found: " ++ name
  | noIndex => "index not found"
  | fieldIndexed => "at most one distinct index is allowed per field"
  | loaded => "index cannot be dropped, collection is loaded"
  | notLoaded => "collection not loaded"
  | badLimit => "slice indices must be integers or None or have an __index__ method"
  | badElement kind => "unsupported operand type(s) for -: '" ++ kind ++ "' and 'float'"
  | elementTooLarge => "int too large to convert to float"

end ServerError

/-- An index as it is listed: with its collection's name and its own. -/
structure IndexEntry where
  collection : String
  name : String
  index : Index

def IndexEntry.toValue (e : IndexEntry) : Value :=
  .record [("collection", .text e.collection), ("field", .text e.index.field),
    ("index_name", .text e.name), ("index_param", e.index.params)]

namespace Collection

def entries (name : String) (c : Collection) : List IndexEntry :=
  c.indexes.map fun i => ⟨name, i.1, i.2⟩

def addIndex (index : String) (field : String) (params : Value) (c : Collection) :
    Except ServerError Collection :=
  if c.indexes.any fun i => i.2.field == field then .error .fieldIndexed
  else .ok { c with indexes := Keyed.put index ⟨field, params⟩ c.indexes }

def dropIndex (index : String) (c : Collection) : Except ServerError Collection :=
  if c.loaded then .error .loaded
  else
    match Keyed.get? index c.indexes with
    | none => .error (.noIndexNamed index)
    | some _ => .ok { c with indexes := Keyed.erase index c.indexes }

def load (c : Collection) : Except ServerError Collection :=
  if c.indexes.isEmpty then .error .noIndex else .ok { c with loaded := true }

def release (c : Collection) : Except ServerError Collection := .ok { c with loaded := false }

end Collection

namespace Server

/-- What a call gives and the server after it; a call that fails changes nothing. -/
abbrev Effect (α : Type) := Server → Except ServerError (α × Server)

def connect (connection : String) : Effect Unit := fun s =>
  .ok ((), if s.connected.contains connection then s
    else { s with connected := s.connected ++ [connection] })

def disconnect (connection : String) : Effect Unit := fun s =>
  .ok ((), { s with connected := s.connected.filter (· != connection) })

/-- The effect of a call that leaves the server as it is. -/
def look {α : Type} (f : Server → α) : Effect α := fun s => .ok (f s, s)

def hasCollection (name : String) : Effect Bool :=
  look fun s => (Keyed.get? name s.collections).isSome

def listCollections : Effect (List String) := look fun s => s.collections.map (·.1)

/-- Something read of a collection that must be there. -/
def read {α : Type} (name : String) (f : Collection → Except ServerError α) : Effect α := fun s =>
  match Keyed.get? name s.collections with
  | none => .error (.noCollection name)
  | some c => (f c).map fun a => (a, s)

/-- A collection that must be there changed. -/
def change (name : String) (f : Collection → Except ServerError Collection) : Effect Unit := fun s =>
  match Keyed.get? name s.collections with
  | none => .error (.noCollection name)
  | some c => (f c).map fun c => ((), { s with collections := Keyed.put name c s.collections })

def dropCollection (name : String) : Effect Unit := fun s =>
  match Keyed.get? name s.collections with
  | none => .error (.noCollection name)
  | some _ => .ok ((), { s with collections := Keyed.erase name s.collections })

/-- A collection that is there is kept as it is. -/
def createCollection (name : String) (schema : CollectionSchema) : Effect Unit := fun s =>
  match Keyed.get? name s.collections with
  | some _ => .ok ((), s)
  | none =>
    let c : Collection := { schema? := some schema }
    .ok ((), { s with collections := Keyed.put name c s.collections })

def fetchCollection (name : String) : Effect Unit := read name fun _ => .ok ()

def insert (name : String) (rows : List Row) : Effect Unit :=
  change name fun c => .ok { c with rows := c.rows ++ rows }

def flush (name : String) : Effect Unit := read name fun _ => .ok ()

def countEntities (name : String) : Effect Nat := read name fun c => .ok c.rows.length

def hasIndex (name index : String) : Effect Bool :=
  read name fun c => .ok (Keyed.get? index c.indexes).isSome

def indexParams (name index : String) : Effect Value :=
  read name fun c =>
    match Keyed.get? index c.indexes with
    | some i => .ok i.params
    | none => .error (.noIndexNamed index)

def listIndexes (name : String) : Effect (List IndexEntry) :=
  read name fun c => .ok (c.entries name)

def createIndex (name field : String) (params : Value) (index : String) : Effect Unit :=
  change name (Collection.addIndex index field params)

def dropIndex (name index : String) : Effect Unit := change name (Collection.dropIndex index)

def load (name : String) : Effect Unit := change name Collection.load

def release (name : String) : Effect Unit := change name Collection.release

def stats (name : String) : Effect Fields := fun s =>
  read name (fun c => .ok (Keyed.putAll [("row_count", .int c.rows.length)] s.extraStats)) s

/-- A call that has no effect but may fail. -/
def nothing : Effect Unit := look fun _ => ()

/-! ## What others do -/

/-- A collection put in place of the one of that name. -/
def putCollection (name : String) (c : Collection) (s : Server) : Server :=
  { s with collections := Keyed.put name c s.collections }

def removeCollection (name : String) (s : Server) : Server :=
  { s with collections := Keyed.erase name s.collections }

/-- An index put into a collection, if that is there. -/
def putIndex (name index : String) (i : Index) (s : Server) : Server :=
  match Keyed.get? name s.collections with
  | none => s
  | some c => s.putCollection name { c with indexes := Keyed.put index i c.indexes }

/-! ## The collection of a call -/

section
variable {α : Type} {name : String} {s s' : Server} {c c' : Collection}

theorem get?_putCollection : Keyed.get? name (s.putCollection name c).collections = some c := by
  rw [putCollection, Keyed.get?_put, if_pos (beq_self_eq_true _)]

theorem get?_removeCollection : Keyed.get? name (s.removeCollection name).collections = none := by
  rw [removeCollection, Keyed.get?_erase, if_pos (beq_self_eq_true _)]

theorem putCollection_putCollection :
    (s.putCollection name c).putCollection name c' = s.putCollection name c' := by
  simp only [putCollection, Keyed.put_put]

theorem removeCollection_of_absent (h : Keyed.get? name s.collections = none) :
    s.removeCollection name = s := by
  rw [removeCollection, Keyed.erase_of_absent h]

theorem removeCollection_removeCollection :
    (s.removeCollection name).removeCollection name = s.removeCollection name := by
  simp only [removeCollection, Keyed.erase_erase]

theorem removeCollection_putCollection :
    (s.putCollection name c).removeCollection name = s.removeCollection name := by
  simp only [removeCollection, putCollection, Keyed.erase_put]

theorem read_present (h : Keyed.get? name s.collections = some c)
    (f : Collection → Except ServerError α) : read name f s = (f c).map (·, s) := by
  rw [read, h]

theorem change_present (h : Keyed.get? name s.collections = some c)
    (f : Collection → Except ServerError Collection) :
    change name f s = (f c).map fun c' => ((), s.putCollection name c') := by
  rw [change, h]
  rfl

theorem read_absent (h : Keyed.get? name s.collections = none)
    (f : Collection → Except ServerError α) : read name f s = .error (.noCollection name) := by
  rw [read, h]

theorem change_absent (h : Keyed.get? name s.collections = none)
    (f : Collection → Except ServerError Collection) :
    change name f s = .error (.noCollection name) := by rw [change, h]

theorem read_ok {f : Collection → Except ServerError α} {x : α}
    (h : read name f s = .ok (x, s')) :
    s' = s ∧ ∃ c, Keyed.get? name s.collections = some c ∧ f c = .ok x := by
  cases hc : Keyed.get? name s.collections with
  | none =>
      rw [read, hc] at h
      cases h
  | some c =>
      rw [read_present hc] at h
      cases hf : f c with
      | error e =>
          rw [hf] at h
          cases h
      | ok y =>
          rw [hf] at h
          cases h
          exact ⟨rfl, c, rfl, hf⟩

theorem read_error {f : Collection → Except ServerError α} {e : ServerError}
    (h : read name f s = .error e) :
    e = .noCollection name ∨ ∃ c, Keyed.get? name s.collections = some c ∧ f c = .error e := by
  cases hc : Keyed.get? name s.collections with
  | none =>
      rw [read, hc] at h
      exact .inl (Except.error.inj h).symm
  | some c =>
      rw [read_present hc] at h
      cases hf : f c with
      | error e' =>
          rw [hf] at h
          exact .inr ⟨c, rfl, by rw [hf, Except.error.inj h]⟩
      | ok y =>
          rw [hf] at h
          cases h

theorem change_ok {f : Collection → Except ServerError Collection} {x : Unit}
    (h : change name f s = .ok (x, s')) :
    ∃ c c', Keyed.get? name s.collections = some c ∧ f c = .ok c' ∧
      s' = s.putCollection name c' := by
  cases hc : Keyed.get? name s.collections with
  | none =>
      rw [change, hc] at h
      cases h
  | some c =>
      rw [change_present hc] at h
      cases hf : f c with
      | error e =>
          rw [hf] at h
          cases h
      | ok c' =>
          rw [hf] at h
          cases h
          exact ⟨c, c', rfl, hf, rfl⟩

theorem dropCollection_ok {x : Unit} (h : dropCollection name s = .ok (x, s')) :
    s' = s.removeCollection name := by
  rw [dropCollection] at h
  split at h <;> cases h
  rfl

theorem createCollection_absent (h : Keyed.get? name s.collections = none)
    (schema : CollectionSchema) :
    createCollection name schema s = .ok ((), s.putCollection name { schema? := some schema }) := by
  rw [createCollection, h]
  rfl

theorem createCollection_ok {schema : CollectionSchema} {x : Unit}
    (h : createCollection name schema s = .ok (x, s')) :
    s' = s ∨ s' = s.putCollection name { schema? := some schema } := by
  cases present : Keyed.get? name s.collections with
  | some c =>
      rw [createCollection, present] at h
      cases h
      exact .inl rfl
  | none =>
      rw [createCollection_absent present] at h
      cases h
      exact .inr rfl

end
end Server
end FilmIndex
