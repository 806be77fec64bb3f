import FilmIndex.Proofs.Session.Collections
import FilmIndex.Proofs.Settings.Checked

/-!
Making the collection of a service anew, and dropping it. Either operation asks whether the
collection is there and then changes the server by one call or two, and each of these calls can be
planned to fail. What a failure leaves is the server as it was or the server without the
collection, and from both of them the operation leads to where it leads when nothing fails.
-/

namespace FilmIndex
open FilmIndex.Action

/-- A failure of a call that was planned to fail. -/
structure Session.Planned (t : Session) (e : Failure) : Prop where
  plan : t.plan ≠ Plan.none
  refused : ∃ message, e = .server (.refused message)

theorem Session.Planned.before {t u : Session} {e : Failure} (h : u.Planned e)
    (plan : u.plan = t.plan) : t.Planned e := ⟨plan ▸ h.plan, h.refused⟩

namespace Service

variable {s : Service} {t u : Session} {S : Server}

/-- The server with a fresh collection of the service behind all others. -/
def renewed (s : Service) (S : Server) : Server :=
  { S with collections := Keyed.erase s.collection S.collections ++ [(s.collection, s.fresh)] }

theorem put_removed :
    (S.removeCollection s.collection).putCollection s.collection s.fresh = s.renewed S := by
  rw [Server.putCollection, Server.removeCollection, renewed, Keyed.put_erase]

/-- What the older collection was makes no difference. -/
theorem renewed_congr {S' : Server}
    (h : S'.removeCollection s.collection = S.removeCollection s.collection) :
    s.renewed S' = s.renewed S := by
  rw [← put_removed, h, put_removed]

theorem remove_renewed :
    (s.renewed S).removeCollection s.collection = S.removeCollection s.collection := by
  rw [← put_removed, Server.removeCollection_putCollection,
    Server.removeCollection_removeCollection]

/-! ## One call after the other -/

/-- A call on an open connection that the server can carry out fails only if that is planned. -/
theorem ends_possible {α : Type} (connected : s.connection ∈ t.server.connected) (c : Call)
    {effect : Server.Effect α} {x : α} {server : Server}
    (he : effect t.server = .ok (x, server)) :
    (s.call c effect).Ends t (fun y u => y = x ∧ u.server = server ∧ u.plan = t.plan)
      fun e u => t.Planned e ∧ u.server = t.server := by
  cases hp : t.plan (t.calls ++ [c]) with
  | some message =>
      refine ends_of_error (call_refused _ c effect t hp) ⟨⟨fun none => ?_, message, rfl⟩, rfl⟩
      rw [none] at hp
      cases hp
  | none =>
      have through (a : String) (ha : some s.connection = some a) : a ∈ t.server.connected :=
        Option.some.inj ha ▸ connected
      exact ends_of_ok (call_done _ c effect t hp through he) ⟨rfl, rfl, rfl⟩

theorem ends_asked (connected : s.connection ∈ t.server.connected) :
    s.hasCollection.Ends t
      (fun found u => found = (Keyed.get? s.collection t.server.collections).isSome ∧
        u.server = t.server ∧ u.plan = t.plan)
      fun e u => t.Planned e ∧ u.server = t.server :=
  ends_possible connected _ rfl

theorem ends_removed (connected : s.connection ∈ t.server.connected)
    (present : (Keyed.get? s.collection t.server.collections).isSome = true) :
    (s.call (.dropCollection s.collection) (Server.dropCollection s.collection)).Ends t
      (fun _ u => u.server = t.server.removeCollection s.collection ∧ u.plan = t.plan)
      fun e u => t.Planned e ∧ u.server = t.server := by
  obtain ⟨c, hc⟩ := Option.isSome_iff_exists.1 present
  have he : Server.dropCollection s.collection t.server =
      .ok ((), t.server.removeCollection s.collection) := by
    rw [Server.dropCollection, hc]
    rfl
  exact (ends_possible connected _ he).mono (fun _ _ h => h.2) fun _ _ h => h

theorem ends_created (connected : s.connection ∈ t.server.connected)
    (absent : Keyed.get? s.collection t.server.collections = none) :
    s.create.Ends t (fun _ u => u.server = s.renewed t.server)
      fun e u => t.Planned e ∧ u.server = t.server := by
  have created : t.server.putCollection s.collection s.fresh = s.renewed t.server := by
    rw [← put_removed, Server.removeCollection_of_absent absent]
  have he : Server.createCollection s.collection
      (s.schema.collection FilmSchema.defaultDescription) t.server =
        .ok ((), s.renewed t.server) := by
    rw [Server.createCollection_absent absent, ← created]
    rfl
  refine (ends_possible connected _ he).bind fun _ u h => ?_
  exact ends_of_ok rfl h.2.1

/-- What a failure leaves of the server. -/
def Broken (s : Service) (t : Session) (e : Failure) (u : Session) : Prop :=
  t.Planned e ∧ (u.server = t.server ∨ u.server = t.server.removeCollection s.collection)

theorem ends_recreateCollection_renewed (connected : s.connection ∈ t.server.connected) :
    s.recreateCollection.Ends t (fun _ u => u.server = s.renewed t.server) (s.Broken t) := by
  refine (ends_asked connected).bind_mono (fun _ _ h => ⟨h.1, .inl h.2⟩)
    fun found u ⟨asked, server, plan⟩ => ?_
  rw [← server] at connected asked ⊢
  cases found with
  | false =>
      have absent := Option.isNone_iff_eq_none.1 (Option.isSome_eq_false_iff.1 asked.symm)
      refine (ends_created connected absent).mono (fun _ _ h => h) fun _ _ h => ?_
      exact ⟨h.1.before plan, .inl (h.2.trans server)⟩
  | true =>
      let told : Session := { u with events := u.events ++ [.replacing s.collection] }
      refine ends_bind_ok (rfl : Action.log (.replacing s.collection) u = (.ok (), told)) ?_
      refine (ends_removed (t := told) connected asked.symm).bind_mono (fun _ _ h => ?_)
        fun _ v ⟨gone, kept⟩ => ?_
      · exact ⟨h.1.before plan, .inl (h.2.trans server)⟩
      have still : s.connection ∈ v.server.connected := gone ▸ connected
      have absent : Keyed.get? s.collection v.server.collections = none :=
        gone ▸ Server.get?_removeCollection
      refine (ends_created still absent).mono (fun _ _ h => ?_) fun _ _ h => ?_
      · exact h.trans (gone ▸ renewed_congr Server.removeCollection_removeCollection)
      · exact ⟨(h.1.before kept).before plan, .inr (h.2.trans (server ▸ gone))⟩

theorem ends_dropCollection_removed (connected : s.connection ∈ t.server.connected) :
    s.dropCollection.Ends t (fun _ u => u.server = t.server.removeCollection s.collection)
      (s.Broken t) := by
  refine (ends_asked connected).bind_mono (fun _ _ h => ⟨h.1, .inl h.2⟩)
    fun found u ⟨asked, server, plan⟩ => ?_
  rw [← server] at connected asked ⊢
  cases found with
  | false =>
      have absent := Option.isNone_iff_eq_none.1 (Option.isSome_eq_false_iff.1 asked.symm)
      exact ends_of_ok rfl (Server.removeCollection_of_absent absent).symm
  | true =>
      refine (ends_removed connected asked.symm).bind_mono (fun _ _ h => ?_) fun _ v h => ?_
      · exact ⟨h.1.before plan, .inl (h.2.trans server)⟩
      · exact ends_of_ok rfl h.1

/-! ## The operations -/

/-- What comes of an operation that leads from one server to another. -/
structure Settles (s : Service) (a : Action Unit) (goal : Server → Server) (t : Session) :
    Prop where
  returned : (a t).1 = .ok () → (a t).2.server = goal t.server
  raised : ∀ e, (a t).1 = .error e → s.Broken t e (a t).2
  /-- Done again, whatever became of it, the operation leads to the same server as at first. -/
  again : ∀ u, u.server = (a t).2.server →
    ((a u).1 = .ok () → (a u).2.server = goal t.server) ∧
      (u.plan = Plan.none → (a u).1 = .ok ())

theorem settles_of_ends {a : Action Unit} {goal : Server → Server}
    (ends : ∀ t, s.connection ∈ t.server.connected →
      a.Ends t (fun _ u => u.server = goal t.server) (s.Broken t))
    (goal_removed : ∀ S, goal (Server.removeCollection s.collection S) = goal S)
    (goal_goal : ∀ S, goal (goal S) = goal S)
    (kept : ∀ S, (goal S).connected = S.connected)
    (connected : s.connection ∈ t.server.connected) : s.Settles a goal t := by
  have returned (u : Session) (open_ : s.connection ∈ u.server.connected)
      (ok : (a u).1 = .ok ()) : (a u).2.server = goal u.server :=
    (ends u open_).ok (Prod.ext ok rfl)
  have raised (u : Session) (open_ : s.connection ∈ u.server.connected) (e : Failure)
      (error : (a u).1 = .error e) : s.Broken u e (a u).2 :=
    (ends u open_).error (Prod.ext error rfl)
  refine ⟨returned t connected, raised t connected, fun u server => ?_⟩
  have reached : goal u.server = goal t.server ∧ u.server.connected = t.server.connected := by
    rw [server]
    cases out : (a t).1 with
    | ok =>
        rw [returned t connected out]
        exact ⟨goal_goal _, kept _⟩
    | error e =>
        rcases (raised t connected e out).2 with same | gone
        · exact same ▸ ⟨rfl, rfl⟩
        · exact gone ▸ ⟨goal_removed _, rfl⟩
  have open_ : s.connection ∈ u.server.connected := reached.2 ▸ connected
  refine ⟨fun ok => (returned u open_ ok).trans reached.1, fun unplanned => ?_⟩
  cases out : (a u).1 with
  | ok => rfl
  | error e => exact absurd unplanned (raised u open_ e out).1.plan

/-- On an open connection both operations lead to one server state, however often they are done
and whichever of their calls fail in between. -/
theorem recreate_drop_settle (s : Service) (t : Session)
    (connected : s.connection ∈ t.server.connected) :
    s.Settles s.recreateCollection s.renewed t ∧
      s.Settles s.dropCollection (Server.removeCollection s.collection) t := by
  constructor
  · exact settles_of_ends (fun _ => ends_recreateCollection_renewed)
      (fun _ => renewed_congr Server.removeCollection_removeCollection)
      (fun _ => renewed_congr remove_renewed) (fun _ => rfl) connected
  · exact settles_of_ends (fun _ => ends_dropCollection_removed)
      (fun _ => Server.removeCollection_removeCollection)
      (fun _ => Server.removeCollection_removeCollection) (fun _ => rfl) connected

/-- The older collection is dropped and no new one is made. -/
theorem recreate_drop_settle_createRefused :
    let s := Service.ofSettings Settings.defaults
    let older : Collection := { rows := [⟨0, 1995, []⟩], loaded := true }
    let t : Session := Session.failNext "Collection" "no space"
      { server := { connected := ["default"]
                    collections := [("demo_index", older), ("other", older)] } }
    s.connection ∈ t.server.connected ∧
      (s.recreateCollection t).1 = .error (.server (.refused "no space")) ∧
      (s.recreateCollection t).2.server.collections = [("other", older)] ∧
      s.Settles s.recreateCollection s.renewed t ∧
      s.Settles s.dropCollection (Server.removeCollection s.collection) t := by
  intro s older t
  have connected : s.connection ∈ t.server.connected := List.mem_singleton.2 rfl
  exact ⟨connected, rfl, rfl, recreate_drop_settle s t connected⟩

end Service
end FilmIndex
