import FilmIndex.Program.Run
import FilmIndex.Proofs.Hit.Found

/-!
The steps that a service takes on its connection: calls about its collection, each with
the effect that it has, and the fetching of statistics as one step. Everything that the
service does between connecting and disconnecting is made of these, and most of it of steps
that leave the collection in place.
-/

namespace FilmIndex
open FilmIndex.Action

/-- Whether a call of a service leaves a collection in place with the rows that it has. -/
def Call.keepsRows : Call → Bool
  | dropCollection _ | collection _ (some _) | insert .. => false
  | _ => true

namespace Service

/-- The calls of a service with their effects. An index is made under the name of its field. -/
inductive Makes (s : Service) : {α : Type} → Call → Server.Effect α → Prop
  | listCollections : Makes s .listCollections Server.listCollections
  | hasCollection : Makes s (.hasCollection s.collection) (Server.hasCollection s.collection)
  | dropCollection : Makes s (.dropCollection s.collection) (Server.dropCollection s.collection)
  | createCollection (schema : CollectionSchema) :
      Makes s (.collection s.collection (some schema)) (Server.createCollection s.collection schema)
  | fetchCollection :
      Makes s (.collection s.collection none) (Server.fetchCollection s.collection)
  | insert (rows : List Row) :
      Makes s (.insert s.collection rows) (Server.insert s.collection rows)
  | flush : Makes s (.flush s.collection) (Server.flush s.collection)
  | countEntities : Makes s (.countEntities s.collection) (Server.countEntities s.collection)
  | hasIndex (index : String) :
      Makes s (.hasIndex s.collection index) (Server.hasIndex s.collection index)
  | index (index : String) :
      Makes s (.index s.collection index) (Server.indexParams s.collection index)
  | indexes : Makes s (.indexes s.collection) (Server.listIndexes s.collection)
  | createIndex (field : VectorField) (params : Value) :
      Makes s (.createIndex s.collection field.name params (indexName field))
        (Server.createIndex s.collection field.name params (indexName field))
  | dropIndex (index : String) :
      Makes s (.dropIndex s.collection index) (Server.dropIndex s.collection index)
  | load : Makes s (.load s.collection) (Server.load s.collection)
  | release : Makes s (.release s.collection) (Server.release s.collection)
  | search (request : SearchRequest) (names? : Option (List String)) :
      Makes s (.search s.collection request names?)
        (Server.search s.collection request (names?.getD []))

inductive Step (s : Service) : (α : Type) → Action α → Prop
  | call {α : Type} {c : Call} {effect : Server.Effect α} (h : s.Makes c effect) :
      Step s α (s.call c effect)
  | fetchStats : Step s Fields s.fetchStats

/-- The steps that leave the collection in place with the rows that it has. -/
inductive Tends (s : Service) : (α : Type) → Action α → Prop
  | call {α : Type} {c : Call} {effect : Server.Effect α} (h : s.Makes c effect)
      (keeps : c.keepsRows = true) : Tends s α (s.call c effect)
  | fetchStats : Tends s Fields s.fetchStats

variable (s : Service)

theorem madeOf_call {α : Type} {c : Call} {effect : Server.Effect α} (h : s.Makes c effect) :
    MadeOf s.Step (s.call c effect) := .part (.call h)

theorem madeOf_of_tends {α : Type} {a : Action α} (h : MadeOf s.Tends a) : MadeOf s.Step a := by
  refine h.mono fun α a ha => ?_
  cases ha with
  | call made => exact .call made
  | fetchStats => exact .fetchStats

/-! ## Operations that leave the collection in place -/

theorem tends_call {α : Type} {c : Call} {effect : Server.Effect α} (h : s.Makes c effect)
    (keeps : c.keepsRows = true) : MadeOf s.Tends (s.call c effect) := .part (.call h keeps)

theorem tends_hold : MadeOf s.Tends s.hold := by
  refine .bind .holding fun _ => .ite ?_ (.pure ())
  exact .bind (s.tends_call .fetchCollection rfl) fun _ => .setHolding true

theorem tends_held {α : Type} {a : Action α} (h : MadeOf s.Tends a) :
    MadeOf s.Tends (do s.hold; a) := .bind s.tends_hold fun _ => h

theorem tends_flush : MadeOf s.Tends s.flush := s.tends_held (s.tends_call .flush rfl)

theorem tends_countEntities : MadeOf s.Tends s.countEntities :=
  s.tends_held (s.tends_call .countEntities rfl)

theorem tends_collectionStats : MadeOf s.Tends s.collectionStats :=
  .bind (.part .fetchStats) fun _ =>
    s.tends_held (.bind (s.tends_call .indexes rfl) fun _ => .pure _)

theorem tends_dropHeldIndex (index : String) : MadeOf s.Tends (s.dropHeldIndex index) :=
  .bind (s.tends_call .release rfl) fun _ => s.tends_call (.dropIndex index) rfl

theorem tends_keepsIndex (field : VectorField) (params : Value) :
    MadeOf s.Tends (s.keepsIndex field params) := by
  refine .bind (s.tends_call (.hasIndex _) rfl) fun _ => .ite ?_ (.pure false)
  refine .bind (s.tends_call (.index _) rfl) fun _ => .ite ?_ ?_
  · exact .bind (.log _) fun _ => .pure true
  · exact .bind (.log _) fun _ => .bind (s.tends_dropHeldIndex _) fun _ => .pure false

theorem tends_createIndex (field : VectorField) (indexType metric : String) (params : Fields) :
    MadeOf s.Tends (s.createIndex field indexType metric params) := by
  refine s.tends_held (.bind (s.tends_keepsIndex field _) fun _ => .ite ?_ (.pure ()))
  exact .bind (s.tends_call (.createIndex field _) rfl) fun _ => .log _

theorem tends_dropIndex (field : VectorField) : MadeOf s.Tends (s.dropIndex field) := by
  refine s.tends_held (.bind (s.tends_call (.hasIndex _) rfl) fun _ => .ite ?_ (.pure ()))
  exact .bind (s.tends_dropHeldIndex _) fun _ => .log _

theorem tends_load : MadeOf s.Tends s.load := s.tends_held (s.tends_call .load rfl)

theorem tends_release : MadeOf s.Tends s.release := s.tends_held (s.tends_call .release rfl)

theorem tends_search (query : Clause VectorQuery) (names? : Option (List String)) :
    MadeOf s.Tends (s.search query names?) :=
  .bind (.ofExcept _ _) fun _ => .bind (.log _) fun _ =>
    s.tends_held (s.tends_call (.search _ names?) rfl)

/-! ## The other operations -/

/-- The making of a collection, once there is none. -/
def create : Action Unit := do
  let schema := s.schema.collection FilmSchema.defaultDescription
  s.call (.collection s.collection (some schema)) (Server.createCollection s.collection schema)
  Action.setHolding true
  Action.log (.created s.collection)

theorem madeOf_create : MadeOf s.Step s.create :=
  .bind (s.madeOf_call (.createCollection _)) fun _ => .bind (.setHolding true) fun _ => .log _

theorem madeOf_recreateCollection : MadeOf s.Step s.recreateCollection := by
  refine .bind (s.madeOf_call .hasCollection) fun _ => .ite ?_ s.madeOf_create
  exact .bind (.log _) fun _ => .bind (s.madeOf_call .dropCollection) fun _ => s.madeOf_create

theorem madeOf_dropCollection : MadeOf s.Step s.dropCollection := by
  refine .bind (s.madeOf_call .hasCollection) fun _ => .ite ?_ (.setHolding false)
  exact .bind (s.madeOf_call .dropCollection) fun _ => .bind (.log _) fun _ => .setHolding false

theorem madeOf_insert (films : Catalog) : MadeOf s.Step (s.insert films) :=
  .bind (s.madeOf_of_tends s.tends_hold) fun _ =>
    .bind (s.madeOf_call (.insert _)) fun _ => .bind (.log _) fun _ => .pure _

end Service

namespace Run

variable (s : Service)

/-- What comes after the films are inserted. -/
theorem tends_count : MadeOf s.Tends (do
    s.flush
    let count ← s.countEntities
    Action.printLine ("There are " ++ Number.intText count ++ " films in the collection.")
    if (count : Int) < s.settings.segmentRowLimit then
      Action.log (.fewRows count s.settings.segmentRowLimit)) :=
  .bind s.tends_flush fun _ => .bind s.tends_countEntities fun _ =>
    .bind (.printLine _) fun _ => .ite (.log _) (.pure ())

theorem madeOf_fill (films : Catalog) : MadeOf s.Step (fill s films) :=
  .bind s.madeOf_recreateCollection fun _ => .bind (s.madeOf_insert films) fun _ =>
    s.madeOf_of_tends (tends_count s)

theorem tends_index : MadeOf s.Tends (index s) :=
  .bind (s.tends_createIndex _ _ _ _) fun _ => .bind (.printLine _) fun _ =>
    .bind s.tends_collectionStats fun _ => .bind (.ofExcept _ _) fun _ => .printLine _

theorem tends_search (films : Catalog) (around : Surroundings) :
    MadeOf s.Tends (search s films around) := by
  refine .bind s.tends_load fun _ => .bind (.ofExcept _ _) fun _ => ?_
  refine .bind (s.tends_search _ _) fun _ => .bind (Hit.madeOf_ofSearchLogged _ _ _) fun _ => ?_
  exact .bind (Hit.madeOf_print _) fun _ => .pure _

theorem madeOf_connectedRun (films : Catalog) (around : Surroundings) :
    MadeOf s.Step (connectedRun s films around) :=
  .bind (madeOf_fill s films) fun _ => .bind (s.madeOf_of_tends (tends_index s)) fun _ =>
    .bind (s.madeOf_of_tends (tends_search s films around)) fun _ =>
      .bind (s.madeOf_of_tends (s.tends_dropIndex _)) fun _ =>
        .bind s.madeOf_dropCollection fun _ => .pure _

end Run
end FilmIndex
