import FilmIndex.Proofs.Session.Blind
import FilmIndex.Proofs.Session.Collections
import FilmIndex.Proofs.Settings.Checked
import Mathlib.Algebra.GroupWithZero.Nat

/-!
The rows of a collection over the time that a service works on it. Every batch of films that is
inserted comes behind those before it, a row for each film, and no other operation touches the
rows. The server is the same all the time apart from the collection, which carries the proof.
-/

namespace FilmIndex
open FilmIndex.Action

namespace Operation

/-- The films that an operation inserts. -/
def batch : Operation → Catalog
  | insert films => films
  | _ => []

/-- Whether the service still has its connection and its collection afterwards. -/
def goesOn : Operation → Bool
  | close | recreateCollection | dropCollection => false
  | _ => true

end Operation

namespace Service

variable {s : Service} {S : Server} {rows : List Row} {t : Session}

/-- The server is `S` with a collection of the service that has the rows. -/
def Stored (s : Service) (S : Server) (rows : List Row) (server : Server) : Prop :=
  ∃ c, server = S.putCollection s.collection c ∧ c.rows = rows

theorem stored_of_makes {α : Type} {c : Call} {effect : Server.Effect α} (made : s.Makes c effect)
    (keeps : c.keepsRows = true) (server : Server) (x : α) (server' : Server)
    (h : s.Stored S rows server) (he : effect server = .ok (x, server')) :
    s.Stored S rows server' := by
  obtain ⟨c₀, rfl, rows₀⟩ := h
  cases made.kept keeps he with
  | same => exact ⟨c₀, rfl, rows₀⟩
  | put present schema kept =>
      rw [Server.get?_putCollection] at present
      obtain rfl := Option.some.inj present
      exact ⟨_, Server.putCollection_putCollection, kept.trans rows₀⟩

/-- The service works on a collection with the rows, and no call is to fail. -/
structure Keeping (s : Service) (S : Server) (rows : List Row) (t : Session) : Prop where
  unplanned : t.plan = Plan.none
  stored : s.Stored S rows t.server

namespace Keeping

theorem tended (h : s.Keeping S rows t) {α : Type} {a : Action α} (ha : MadeOf s.Tends a) :
    s.Keeping S rows (a t).2 := by
  obtain ⟨made, unplanned, -⟩ := blind_of_tends ha t h.unplanned
  refine ⟨unplanned, ?_⟩
  have keeps : Keeps (s.Stored S rows) a := by
    refine keeps_of_madeOf ha fun part => ?_
    cases part with
    | call made keeps => exact keeps_call _ _ (stored_of_makes made keeps)
    | fetchStats => exact keeps_fetchStats
  exact keeps t h.stored

variable (connected : s.connection ∈ S.connected)
include connected

theorem connect (h : s.Keeping S rows t) : s.Keeping S rows (s.connect t).2 := by
  by_cases port : Number.Writable s.settings.milvusPort
  swap
  · rwa [connect_unwritable port]
  obtain ⟨c, server, kept⟩ := h.stored
  rw [connect_allowed port (congrFun h.unplanned _)]
  exact ⟨h.unplanned, c, (server_opened (server ▸ connected)).trans server, kept⟩

theorem exists_hold (h : s.Keeping S rows t) :
    ∃ c r, c.rows = rows ∧ s.hold t = (.ok (), s.serving S c r) := by
  obtain ⟨c, server, kept⟩ := h.stored
  obtain ⟨r, held⟩ := hold_present ⟨h.unplanned, server ▸ connected⟩ server
  exact ⟨c, r, kept, held⟩

theorem insert (h : s.Keeping S rows t) (films : Catalog) :
    (s.insert films t).1 = .ok films.ids ∧
      s.Keeping S (rows ++ films.map Film.row) (s.insert films t).2 := by
  obtain ⟨c, r, rfl, held⟩ := h.exists_hold connected
  have same : s.insert films t = s.insert films (s.serving S c r) := by
    rw [insert_eq, bind_ok held, bind_ok hold_serving]
  rw [same, insert_serving connected]
  exact ⟨rfl, rfl, _, rfl, rfl⟩

theorem countEntities (h : s.Keeping S rows t) : (s.countEntities t).1 = .ok rows.length := by
  obtain ⟨c, r, rfl, held⟩ := h.exists_hold connected
  have same : s.countEntities t = s.countEntities (s.serving S c r) := by
    rw [Service.countEntities, bind_ok held, bind_ok hold_serving]
  rw [same, countEntities_serving connected]

/-- The statistics are fetched before the service gets hold of its collection. -/
theorem collectionStats (h : s.Keeping S rows t) :
    ∃ stats, (s.collectionStats t).1 = .ok stats ∧
      (Keyed.get? "row_count" S.extraStats = none →
        Keyed.get? "row_count" stats = some (.int rows.length)) := by
  obtain ⟨c, server, rfl⟩ := h.stored
  have present : Keyed.get? s.collection t.server.collections = some c := by
    rw [server, Server.get?_putCollection]
  have fetched := fetchStats_present h.unplanned present
  obtain ⟨r, held⟩ := hold_present (s := s) (S := S) (c := c)
    (t := { t with calls := (s.fetched t.transcript).calls })
    ⟨h.unplanned, server ▸ connected⟩ server
  have indexes := read_serving (c := c) (r := r) connected
    (f := fun c => .ok (c.entries s.collection)) rfl (.indexes s.collection)
  refine ⟨Keyed.put "indexes" (.list ((c.entries s.collection).map IndexEntry.toValue))
    (rowStats t.server.extraStats c), ?_, fun none => ?_⟩
  · rw [Service.collectionStats, bind_ok fetched, bind_ok held]
    exact congrArg Prod.fst (bind_ok indexes _)
  · rw [Keyed.get?_put, if_neg (by decide), get?_rowStats c (server ▸ none)]

theorem after (h : s.Keeping S rows t) {op : Operation} (goes : op.goesOn = true) :
    s.Keeping S (rows ++ op.batch.map Film.row) (s.after t op) := by
  have others {u : Session} (hu : s.Keeping S rows u) :
      s.Keeping S (rows ++ List.map Film.row []) u := by
    rwa [List.map_nil, List.append_nil]
  cases op with
  | close | recreateCollection | dropCollection => cases goes
  | insert films => exact (h.insert connected films).2
  | connect => exact others (h.connect connected)
  | _ =>
      rw [after_eq]
      exact others (h.tended (tends_perform rfl))

theorem history {ops : List Operation} (goes : ∀ op ∈ ops, op.goesOn = true)
    (h : s.Keeping S rows t) :
    s.Keeping S (rows ++ ops.flatMap fun op => op.batch.map Film.row) (s.history ops t) := by
  induction ops generalizing rows t with
  | nil => exact (List.append_nil rows).symm ▸ h
  | cons op ops ih =>
      obtain ⟨first, rest⟩ := List.forall_mem_cons.1 goes
      rw [List.flatMap_cons, ← List.append_assoc]
      exact ih rest (h.after connected first)

end Keeping

/-- A service that has made its collection anew finds in it a row for every film that it has
inserted since, in the order of the batches and of the films in each. -/
theorem rows_history (s : Service) (start : Session) (ready : s.Open start) (ops : List Operation)
    (goes : ∀ op ∈ ops, op.goesOn = true) :
    let t := s.history (.recreateCollection :: ops) start
    let count := (ops.map fun op => op.batch.length).sum
    (∃ c, Keyed.get? s.collection t.server.collections = some c ∧
      c.rows = ops.flatMap fun op => op.batch.map Film.row) ∧
    (∀ films, (s.insert films t).1 = .ok films.ids) ∧
    (s.countEntities t).1 = .ok count ∧
    ∃ stats, (s.collectionStats t).1 = .ok stats ∧
      (Keyed.get? "row_count" start.server.extraStats = none →
        Keyed.get? "row_count" stats = some (.int count)) := by
  intro t count
  have connected : s.connection ∈ (start.server.removeCollection s.collection).connected :=
    ready.connected
  have made : s.Keeping (start.server.removeCollection s.collection) []
      (s.after start .recreateCollection) := by
    rw [after, ready.recreateCollection]
    exact ⟨rfl, s.fresh, rfl, rfl⟩
  have keeping := made.history connected goes
  rw [List.nil_append] at keeping
  have length : (ops.flatMap fun op => op.batch.map Film.row).length = count := by
    simp only [List.length_flatMap, List.length_map, count]
  have counted := keeping.countEntities connected
  have stats := keeping.collectionStats connected
  rw [length] at counted stats
  obtain ⟨c, server, rows⟩ := keeping.stored
  refine ⟨⟨c, ?_, rows⟩, fun films => (keeping.insert connected films).1, counted, stats⟩
  exact (congrArg (fun server => Keyed.get? s.collection server.collections) server).trans
    Server.get?_putCollection

/-- Two batches with films of one id, and a search that is refused between them. -/
theorem rows_history_sameId :
    let s := Service.ofSettings Settings.defaults
    let start : Session := { server := { connected := ["default"] } }
    let ops : List Operation :=
      [.insert [⟨1, "A", 1995, []⟩, ⟨2, "B", 1995, []⟩], .search (.value .null) none,
        .insert [⟨1, "C", 2002, []⟩]]
    s.Open start ∧ (∀ op ∈ ops, op.goesOn = true) ∧
      (∃ c, Keyed.get? s.collection
          (s.history (.recreateCollection :: ops) start).server.collections = some c ∧
        c.rows = [⟨1, 1995, []⟩, ⟨2, 1995, []⟩, ⟨1, 2002, []⟩]) ∧
      (s.countEntities (s.history (.recreateCollection :: ops) start)).1 = .ok 3 := by
  intro s start ops
  have ready : s.Open start := ⟨rfl, List.mem_singleton.2 rfl⟩
  have goes : ∀ op ∈ ops, op.goesOn = true := by simp [ops, Operation.goesOn]
  obtain ⟨rows, -, count, -⟩ := rows_history s start ready ops goes
  exact ⟨ready, goes, rows, count⟩

end Service
end FilmIndex
