import FilmIndex.Proofs.Server.Indexes
import FilmIndex.Proofs.Session.Connection
import FilmIndex.Proofs.Session.Steps

/-!
Everything that a service does on its server, one operation after the other, whichever calls
are planned to fail. What each call on the collection keeps is kept all along, such as that
every index is named after its field.
-/

namespace FilmIndex
open FilmIndex.Action

namespace Action

variable {α β : Type} {I : Server → Prop}

/-- The action does not lead from servers that are as `I` says to others. -/
def Keeps (I : Server → Prop) (a : Action α) : Prop :=
  ∀ s, I s.server → I (a s).2.server

theorem Keeps.bind {a : Action α} {f : α → Action β} (ha : Keeps I a) (hf : ∀ x, Keeps I (f x)) :
    Keeps I (a >>= f) := by
  intro s hs
  have first := ha s hs
  match hr : a s with
  | (.ok x, t) =>
      rw [hr] at first
      rw [bind_ok hr]
      exact hf x t first
  | (.error e, t) =>
      rw [hr] at first
      rw [bind_error hr]
      exact first

theorem Keeps.followedBy {a : Action α} {last : Action Unit} (ha : Keeps I a)
    (hlast : Keeps I last) : Keeps I (a.followedBy last) := by
  intro s hs
  have first := hlast (a s).2 (ha s hs)
  rw [followedBy_apply]
  match hr : last (a s).2 with
  | (.ok x, t) | (.error e, t) =>
      rw [hr] at first
      exact first

theorem keeps_call (connection? : Option String) (c : Call) {effect : Server.Effect α}
    (h : ∀ s x s', I s → effect s = .ok (x, s') → I s') : Keeps I (call connection? c effect) := by
  intro s hs
  have ends := ends_call connection? c effect s
  match hc : call connection? c effect s with
  | (.ok x, t) => exact h _ _ _ hs (ends.ok hc)
  | (.error e, t) => exact (ends.error hc).1 ▸ hs

theorem keeps_ofExcept {ε : Type} (failure : ε → Failure) (r : Except ε α) :
    Keeps I (ofExcept failure r) := by
  cases r <;> exact fun _ h => h

theorem keeps_of_madeOf {Part : (α : Type) → Action α → Prop} {a : Action α}
    (h : MadeOf Part a) (parts : ∀ {α : Type} {a : Action α}, Part α a → Keeps I a) :
    Keeps I a := by
  induction h with
  | part h => exact parts h
  | bind _ _ ha hf => exact ha.bind hf
  | pure | fail | log | printLine | holding | setHolding => exact fun _ h => h

end Action

/-- One operation of a service. -/
inductive Operation where
  | connect
  | close
  | listCollections
  | hasCollection
  | recreateCollection
  | dropCollection
  | insert (films : Catalog)
  | flush
  | countEntities
  | collectionStats
  | createIndex (field : VectorField) (indexType metric : String) (params : Fields)
  | dropIndex (field : VectorField)
  | load
  | release
  | search (query : Clause VectorQuery) (names? : Option (List String))

/-- What an operation gives when it returns. -/
def Operation.Result : Operation → Type
  | listCollections => List String
  | hasCollection => Bool
  | insert _ => List Int
  | countEntities => Nat
  | collectionStats => Fields
  | search .. => List (List Found)
  | _ => Unit

/-- Whether an operation goes through the connection of the service. -/
def Operation.connects : Operation → Bool
  | connect | close => false
  | _ => true

/-- Whether an operation leaves a collection in place with the rows that it has. -/
def Operation.keepsRows : Operation → Bool
  | connect | close | recreateCollection | dropCollection | insert _ => false
  | _ => true

namespace Service

def perform (s : Service) : (op : Operation) → Action op.Result
  | .connect => s.connect
  | .close => s.close
  | .listCollections => s.listCollections
  | .hasCollection => s.hasCollection
  | .recreateCollection => s.recreateCollection
  | .dropCollection => s.dropCollection
  | .insert films => s.insert films
  | .flush => s.flush
  | .countEntities => s.countEntities
  | .collectionStats => s.collectionStats
  | .createIndex field indexType metric params => s.createIndex field indexType metric params
  | .dropIndex field => s.dropIndex field
  | .load => s.load
  | .release => s.release
  | .search query names? => s.search query names?

/-- The session after an operation, whether that returned or failed. -/
def after (s : Service) (t : Session) : Operation → Session
  | .connect => (s.connect t).2
  | .close => (s.close t).2
  | .listCollections => (s.listCollections t).2
  | .hasCollection => (s.hasCollection t).2
  | .recreateCollection => (s.recreateCollection t).2
  | .dropCollection => (s.dropCollection t).2
  | .insert films => (s.insert films t).2
  | .flush => (s.flush t).2
  | .countEntities => (s.countEntities t).2
  | .collectionStats => (s.collectionStats t).2
  | .createIndex field indexType metric params => (s.createIndex field indexType metric params t).2
  | .dropIndex field => (s.dropIndex field t).2
  | .load => (s.load t).2
  | .release => (s.release t).2
  | .search query names? => (s.search query names? t).2

theorem after_eq (s : Service) (t : Session) (op : Operation) :
    s.after t op = (s.perform op t).2 := by cases op <;> rfl

/-- The session after some operations, one after the other. -/
def history (s : Service) (ops : List Operation) (start : Session) : Session :=
  ops.foldl s.after start

variable {s : Service} {I : Server → Prop}

theorem tends_perform {op : Operation} (h : op.keepsRows = true) :
    MadeOf s.Tends (s.perform op) := by
  cases op with
  | connect | close | recreateCollection | dropCollection | insert => cases h
  | listCollections => exact s.tends_call .listCollections rfl
  | hasCollection => exact s.tends_call .hasCollection rfl
  | flush => exact s.tends_flush
  | countEntities => exact s.tends_countEntities
  | collectionStats => exact s.tends_collectionStats
  | createIndex => exact s.tends_createIndex ..
  | dropIndex => exact s.tends_dropIndex _
  | load => exact s.tends_load
  | release => exact s.tends_release
  | search => exact s.tends_search ..

theorem madeOf_perform {op : Operation} (h : op.connects = true) :
    MadeOf s.Step (s.perform op) := by
  cases op with
  | connect | close => cases h
  | recreateCollection => exact s.madeOf_recreateCollection
  | dropCollection => exact s.madeOf_dropCollection
  | insert films => exact s.madeOf_insert films
  | _ => exact s.madeOf_of_tends (tends_perform rfl)

theorem keeps_fetchStats : Keeps I s.fetchStats := by
  have nothing (connection? : Option String) (c : Call) :
      Keeps I (Action.call connection? c Server.nothing) :=
    keeps_call connection? c fun server x server' hI he => by cases he; exact hI
  have stats : Keeps I (Action.call none (.stats s.collection) (Server.stats s.collection)) :=
    keeps_call _ _ fun server x server' hI he => (Server.read_ok he).1 ▸ hI
  exact (nothing _ _).bind fun _ => stats.followedBy (nothing _ _)

section
variable (makes : ∀ {α : Type} {c : Call} {effect : Server.Effect α}, s.Makes c effect →
  ∀ server x server', I server → effect server = .ok (x, server') → I server')
include makes

theorem keeps_of_steps {α : Type} {a : Action α} (h : MadeOf s.Step a) : Keeps I a := by
  refine keeps_of_madeOf h fun ha => ?_
  cases ha with
  | call made => exact keeps_call _ _ (makes made)
  | fetchStats => exact keeps_fetchStats

/-- What every call on the collection keeps, and what does not depend on the connections,
is kept by every operation. -/
theorem keeps_after (connections : ∀ server names, I server → I { server with connected := names })
    (t : Session) (op : Operation) (h : I t.server) : I (s.after t op).server := by
  cases op with
  | connect =>
      refine (keeps_ofExcept _ _).bind (fun _ => (keeps_call none s.connectCall
        fun server x server' hI he => ?_).bind fun _ _ h => h) t h
      cases he
      split
      · exact hI
      · exact connections _ _ hI
  | close =>
      refine (keeps_call none (.disconnect s.connection) fun server x server' hI he => ?_).bind
        (fun _ _ h => h) t h
      cases he
      exact connections _ _ hI
  | _ =>
      rw [after_eq]
      exact keeps_of_steps makes (madeOf_perform rfl) t h

end

theorem indexedByField_of_makes {α : Type} {c : Call} {effect : Server.Effect α}
    (made : s.Makes c effect) (server : Server) (x : α) (server' : Server)
    (h : server.IndexedByField s.collection) (he : effect server = .ok (x, server')) :
    server'.IndexedByField s.collection := by
  cases made with
  | listCollections | hasCollection =>
      cases he
      exact h
  | fetchCollection | flush | countEntities | hasIndex | index | indexes | search =>
      exact (Server.read_ok he).1 ▸ h
  | dropCollection => exact Server.indexedByField_dropped he
  | createCollection schema => exact h.createCollection he
  | insert rows =>
      exact h.change he fun c c' hc hf => by cases hf; exact ⟨hc.named, hc.distinct⟩
  | createIndex field params => exact h.change he fun c c' hc hf => hc.addIndex hf
  | dropIndex index => exact h.change he fun c c' hc hf => hc.dropIndex hf
  | load => exact h.change he fun c c' hc hf => hc.load hf
  | release => exact h.change he fun c c' hc hf => by cases hf; exact ⟨hc.named, hc.distinct⟩

theorem indexedByField_history (ops : List Operation) {start : Session}
    (h : start.server.IndexedByField s.collection) :
    (s.history ops start).server.IndexedByField s.collection := by
  induction ops generalizing start with
  | nil => exact h
  | cons op ops ih => exact ih (keeps_after indexedByField_of_makes (fun _ _ h => h) start op h)

end Service
end FilmIndex
