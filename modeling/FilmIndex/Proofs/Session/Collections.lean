import FilmIndex.Proofs.Session.Operations
import FilmIndex.Proofs.Session.Serving

/-!
What the calls of a service leave of the collections on its server. No call changes a collection
other than the service's own, and most of them leave that in place with the rows that it has.
-/

namespace FilmIndex
open FilmIndex.Action

namespace Server

/-- The server has the same connections as before and the same collections in the same order,
apart from the one of a name. -/
structure SameBeside (name : String) (s s' : Server) : Prop where
  connected : s'.connected = s.connected
  others : Keyed.erase name s'.collections = Keyed.erase name s.collections

namespace SameBeside

variable {name : String} {s s' : Server}

theorem refl (s : Server) : SameBeside name s s := ⟨rfl, rfl⟩

theorem put (h : SameBeside name s s') (c : Collection) :
    SameBeside name s (s'.putCollection name c) :=
  ⟨h.connected, (Keyed.erase_put ..).trans h.others⟩

theorem remove (h : SameBeside name s s') : SameBeside name s (s'.removeCollection name) :=
  ⟨h.connected, (Keyed.erase_erase ..).trans h.others⟩

end SameBeside
end Server

namespace Service

variable {s : Service} {rows : List Row}

/-! ## Other collections -/

theorem sameBeside_of_makes {α : Type} {c : Call} {effect : Server.Effect α} {start : Server}
    (made : s.Makes c effect) (server : Server) (x : α) (server' : Server)
    (h : Server.SameBeside s.collection start server) (he : effect server = .ok (x, server')) :
    Server.SameBeside s.collection start server' := by
  cases made with
  | listCollections | hasCollection =>
      cases he
      exact h
  | fetchCollection | flush | countEntities | hasIndex | index | indexes | search =>
      exact (Server.read_ok he).1 ▸ h
  | dropCollection => exact Server.dropCollection_ok he ▸ h.remove
  | createCollection schema =>
      rcases Server.createCollection_ok he with rfl | rfl
      · exact h
      · exact h.put _
  | insert | createIndex | dropIndex | load | release =>
      obtain ⟨-, c, -, -, rfl⟩ := Server.change_ok he
      exact h.put c

theorem sameBeside_of_madeOf {α : Type} {a : Action α} (h : MadeOf s.Step a) (t : Session) :
    Server.SameBeside s.collection t.server (a t).2.server :=
  keeps_of_steps sameBeside_of_makes h t (.refl _)

/-! ## The collection itself -/

/-- The service's collection is there with its schema and its rows, whatever else becomes of it. -/
inductive Kept (s : Service) (before : Server) : Server → Prop
  | same : Kept s before before
  | put {c c' : Collection} (present : Keyed.get? s.collection before.collections = some c)
      (schema : c'.schema? = c.schema?) (rows : c'.rows = c.rows) :
      Kept s before (before.putCollection s.collection c')

theorem Makes.kept {α : Type} {c : Call} {effect : Server.Effect α} (made : s.Makes c effect)
    (keeps : c.keepsRows = true) {server server' : Server} {x : α}
    (he : effect server = .ok (x, server')) : s.Kept server server' := by
  cases made with
  | dropCollection | createCollection | insert => cases keeps
  | listCollections | hasCollection =>
      cases he
      exact .same
  | fetchCollection | flush | countEntities | hasIndex | index | indexes | search =>
      exact (Server.read_ok he).1 ▸ .same
  | createIndex | dropIndex | load | release =>
      obtain ⟨c, c', present, hf, rfl⟩ := Server.change_ok he
      have same : c'.schema? = c.schema? ∧ c'.rows = c.rows := by
        simp only [Collection.addIndex, Collection.dropIndex, Collection.load,
          Collection.release] at hf
        repeat' split at hf
        all_goals cases hf
        all_goals exact ⟨rfl, rfl⟩
      exact .put present same.1 same.2

/-- The collection is there, the newest of all, with the service's schema and the rows. -/
def Holds (s : Service) (rows : List Row) (server : Server) : Prop :=
  ∃ c, server.collections = Keyed.erase s.collection server.collections ++ [(s.collection, c)] ∧
    c.schema? = some (s.schema.collection FilmSchema.defaultDescription) ∧ c.rows = rows

theorem holds_fresh {server : Server} (absent : Keyed.get? s.collection server.collections = none) :
    s.Holds [] (server.putCollection s.collection s.fresh) := by
  refine ⟨s.fresh, ?_, rfl, rfl⟩
  rw [Server.putCollection, Keyed.erase_put, Keyed.erase_of_absent absent]
  exact Keyed.put_of_absent absent _

theorem Holds.put {rows' : List Row} {server : Server} {c : Collection} (h : s.Holds rows server)
    (present : Keyed.get? s.collection server.collections = some c) {c' : Collection}
    (schema : c'.schema? = c.schema?) (hrows : c.rows = rows → c'.rows = rows') :
    s.Holds rows' (server.putCollection s.collection c') := by
  obtain ⟨c₀, newest, schema₀, rows₀⟩ := h
  rw [← Keyed.put_erase] at newest
  rw [newest, Keyed.get?_put, if_pos (beq_self_eq_true _)] at present
  obtain rfl := Option.some.inj present
  refine ⟨c', ?_, schema.trans schema₀, hrows rows₀⟩
  rw [Server.putCollection, Keyed.erase_put, ← Keyed.put_erase]
  exact (congrArg (Keyed.put _ c') newest).trans (Keyed.put_put ..)

theorem holds_of_makes {α : Type} {c : Call} {effect : Server.Effect α} (made : s.Makes c effect)
    (keeps : c.keepsRows = true) (server : Server) (x : α) (server' : Server)
    (h : s.Holds rows server) (he : effect server = .ok (x, server')) : s.Holds rows server' := by
  cases made.kept keeps he with
  | same => exact h
  | put present schema rows => exact h.put present schema rows.trans

end Service
end FilmIndex
