import FilmIndex.Proofs.Program.CleanUp
import FilmIndex.Proofs.Session.Collections

/-!
What a run leaves alone, and what it leaves of its own collection when it breaks off, whichever
calls are planned to fail. No call of a service changes another collection. Its own collection
is dropped, made and filled at the beginning of a run and dropped at its end; in between its
rows stay as they are, so that they are none or those of the film file wherever a run stops.
-/

namespace FilmIndex
open FilmIndex.Action

namespace Service

variable {s : Service} {past : List Call} {rows : List Row} {t u : Session}

/-- After some calls the collection was made, and it holds the rows. -/
structure Stands (s : Service) (past : List Call) (rows : List Row) (t : Session) : Prop where
  holds : s.Holds rows t.server
  made : ∃ calls, t.calls = past ++ calls ∧
    .collection s.collection (some (s.schema.collection FilmSchema.defaultDescription)) ∈ calls

theorem Stands.later {rows' : List Row} (h : s.Stands past rows t)
    (holds : s.Holds rows' u.server) (calls : t.calls <+: u.calls) : s.Stands past rows' u := by
  obtain ⟨-, before, split, made⟩ := h
  obtain ⟨more, hmore⟩ := calls
  refine ⟨holds, before ++ more, ?_, List.mem_append_left _ made⟩
  rw [← hmore, split, List.append_assoc]

theorem ends_of_tends {α : Type} {a : Action α} (h : MadeOf s.Tends a)
    (stands : s.Stands past rows t) :
    a.Ends t (fun _ u => s.Stands past rows u) fun _ u => s.Stands past rows u := by
  have keeps : Keeps (s.Holds rows) a := by
    refine keeps_of_madeOf h fun ha => ?_
    cases ha with
    | call made keeps => exact keeps_call _ _ (holds_of_makes made keeps)
    | fetchStats => exact keeps_fetchStats
  have after : s.Stands past rows (a t).2 :=
    stands.later (keeps t stands.holds) (s.calls_of_madeOf (s.madeOf_of_tends h) t)
  match ha : a t with
  | (.ok _, _) => exact ends_of_ok ha (by rwa [ha] at after)
  | (.error _, _) => exact ends_of_error ha (by rwa [ha] at after)

/-! ## The collection made, filled and dropped -/

theorem ends_create (absent : Keyed.get? s.collection t.server.collections = none)
    (after : past <+: t.calls) :
    s.create.Ends t (fun _ u => s.Stands past [] u) fun _ u => u.server = t.server := by
  refine (ends_recorded _ _ _ t).bind_mono (fun _ _ h => h.1) fun x u ⟨he, recorded⟩ => ?_
  rw [Server.createCollection_absent absent] at he
  obtain ⟨-, server⟩ := Prod.mk.inj (Except.ok.inj he)
  obtain ⟨calls, split⟩ := after
  rw [← split, List.append_assoc] at recorded
  refine ends_of_ok rfl ⟨?_, _, recorded, List.mem_append_right calls (List.mem_singleton.2 rfl)⟩
  exact server ▸ holds_fresh absent

theorem ends_hasCollection (t : Session) :
    s.hasCollection.Ends t
      (fun x u => x = (Keyed.get? s.collection u.server.collections).isSome ∧
        u.server = t.server ∧ t.calls <+: u.calls)
      fun _ u => u.server = t.server ∧ t.calls <+: u.calls := by
  rw [hasCollection]
  refine (ends_recorded _ _ _ t).mono ?_ fun _ _ h => ⟨h.1, h.2 ▸ List.prefix_append ..⟩
  rintro x u ⟨he, asked⟩
  obtain ⟨rfl, same⟩ := Prod.mk.inj (Except.ok.inj he)
  exact ⟨by rw [same], same.symm, asked ▸ List.prefix_append ..⟩

theorem ends_drop (t : Session) :
    (s.call (.dropCollection s.collection) (Server.dropCollection s.collection)).Ends t
      (fun _ u => Keyed.get? s.collection u.server.collections = none ∧ t.calls <+: u.calls)
      fun _ u => u.server = t.server ∧ t.calls <+: u.calls := by
  refine (ends_recorded _ _ _ t).mono ?_ fun _ _ h => ⟨h.1, h.2 ▸ List.prefix_append ..⟩
  rintro x u ⟨he, dropped⟩
  rw [Server.dropCollection_ok he]
  exact ⟨Server.get?_removeCollection, dropped ▸ List.prefix_append ..⟩

/-- Either the collection is made anew, or it is as before or gone. -/
theorem ends_recreateCollection (after : past <+: t.calls) :
    s.recreateCollection.Ends t (fun _ u => s.Stands past [] u) fun _ u =>
      u.server.collections = t.server.collections ∨
        Keyed.get? s.collection u.server.collections = none := by
  refine (ends_hasCollection t).bind_mono (fun _ _ h => .inl (h.1 ▸ rfl))
    fun x u ⟨found, same, asked⟩ => ?_
  cases x with
  | false =>
      have absent := Option.isSome_eq_false_iff.1 found.symm
      have created := ends_create (Option.isNone_iff_eq_none.1 absent) (after.trans asked)
      exact created.mono (fun _ _ h => h) fun _ _ h => .inl (h ▸ same ▸ rfl)
  | true =>
      let told : Session := { u with events := u.events ++ [.replacing s.collection] }
      refine ends_bind_ok (rfl : Action.log (.replacing s.collection) u = (.ok (), told)) ?_
      refine (ends_drop told).bind_mono (fun _ _ h => .inl (h.1 ▸ same ▸ rfl))
        fun _ v ⟨gone, dropped⟩ => ?_
      have created := ends_create gone ((after.trans asked).trans dropped)
      exact created.mono (fun _ _ h => h) fun _ _ h => .inr (h ▸ gone)

theorem ends_insert (stands : s.Stands past [] t) (films : Catalog) :
    (s.insert films).Ends t (fun _ u => s.Stands past (films.map Film.row) u)
      fun _ u => s.Stands past [] u := by
  rw [insert_eq]
  refine (ends_of_tends s.tends_hold stands).bind fun _ u stands => ?_
  refine (ends_recorded _ _ _ u).bind_mono (fun _ v h => ?_) fun _ v ⟨he, recorded⟩ => ?_
  · exact stands.later (h.1 ▸ stands.holds) (h.2 ▸ List.prefix_append ..)
  · obtain ⟨c, c', present, hf, server⟩ := Server.change_ok he
    cases hf
    have holds : s.Holds (films.map Film.row) v.server := by
      rw [server]
      exact stands.holds.put present rfl fun rows => by rw [rows, List.nil_append]
    exact ends_of_ok rfl (stands.later holds (recorded ▸ List.prefix_append ..))

theorem ends_dropCollection (stands : s.Stands past rows t) :
    s.dropCollection.Ends t (fun _ u => Keyed.get? s.collection u.server.collections = none)
      fun _ u => s.Stands past rows u := by
  refine (ends_hasCollection t).bind_mono
    (fun _ _ h => stands.later (h.1 ▸ stands.holds) h.2) fun x u ⟨found, same, asked⟩ => ?_
  cases x with
  | false =>
      have absent := Option.isSome_eq_false_iff.1 found.symm
      exact ends_of_ok rfl (Option.isNone_iff_eq_none.1 absent)
  | true =>
      have stands : s.Stands past rows u := stands.later (same ▸ stands.holds) asked
      exact (ends_drop u).bind_mono (fun _ _ h => stands.later (h.1 ▸ stands.holds) h.2)
        fun _ v h => ends_of_ok rfl h.1

end Service

namespace Run

variable {s : Settings} {around : Surroundings} {films : Catalog} {before t u : Session}

/-- What a run that breaks off leaves of its collection. -/
inductive Remains (s : Settings) (around : Surroundings) (before after : Session) : Prop
  /-- Nothing was changed. -/
  | untouched (h : after.server.collections = before.server.collections)
  | absent (h : Keyed.get? s.collectionName after.server.collections = none)
  /-- It was made by a call of this run, with none of the film file's rows or with all. -/
  | made {films : Catalog} {rows : List Row}
      (read : Catalog.read around.files s.dimension s.csvPath = .ok films)
      (h : rows = [] ∨ rows = films.map Film.row)
      (stands : (Service.ofSettings s).Stands before.calls rows after)

theorem Remains.later (h : Remains s around before t)
    (collections : u.server.collections = t.server.collections) (calls : t.calls <+: u.calls) :
    Remains s around before u := by
  cases h with
  | untouched h => exact .untouched (collections.trans h)
  | absent h => exact .absent (collections ▸ h)
  | made read h stands =>
      refine .made read h (stands.later ?_ calls)
      rw [Service.Holds, collections]
      exact stands.holds

theorem ends_connectedRun (read : Catalog.read around.files s.dimension s.csvPath = .ok films)
    (collections : t.server.collections = before.server.collections)
    (calls : before.calls <+: t.calls) :
    (connectedRun (Service.ofSettings s) films around).Ends t
      (fun _ u => Keyed.get? s.collectionName u.server.collections = none)
      fun _ u => Remains s around before u := by
  let service := Service.ofSettings s
  have full {u : Session} (h : service.Stands before.calls (films.map Film.row) u) :
      Remains s around before u := .made read (.inr rfl) h
  have fill : (fill service films).Ends t
      (fun _ u => service.Stands before.calls (films.map Film.row) u)
      fun _ u => Remains s around before u := by
    refine (Service.ends_recreateCollection calls).bind_mono ?_ fun _ u stands => ?_
    · rintro _ u (h | h)
      · exact .untouched (h.trans collections)
      · exact .absent h
    refine (Service.ends_insert stands films).bind_mono (fun _ _ => .made read (.inl rfl))
      fun _ u stands => ?_
    exact (Service.ends_of_tends (tends_count service) stands).mono (fun _ _ h => h) fun _ _ => full
  refine fill.bind fun _ u stands => ?_
  refine (Service.ends_of_tends (tends_index service) stands).bind_mono (fun _ _ => full)
    fun _ u stands => ?_
  refine (Service.ends_of_tends (tends_search service films _) stands).bind_mono (fun _ _ => full)
    fun hits u stands => ?_
  refine (Service.ends_of_tends (service.tends_dropIndex _) stands).bind_mono (fun _ _ => full)
    fun _ u stands => ?_
  exact (Service.ends_dropCollection stands).bind_mono (fun _ _ => full)
    fun _ u gone => ends_of_ok rfl gone

/-- What a run has left as it was, and what has become of its collection and its connection. -/
structure Frame (s : Settings) (around : Surroundings) (before : Session)
    (result : Except Failure (List (List Hit))) (after : Session) : Prop where
  /-- The other collections are what they were, in the order in which they were made. -/
  others : Keyed.erase s.collectionName after.server.collections =
    Keyed.erase s.collectionName before.server.collections
  connections : ∀ name, name ≠ s.connectionAlias →
    (name ∈ after.server.connected ↔ name ∈ before.server.connected)
  returned : ∀ hits, result = .ok hits →
    Keyed.get? s.collectionName after.server.collections = none ∧
      s.connectionAlias ∉ after.server.connected
  raised : ∀ e, result = .error e → Remains s around before after

theorem frame_connected (read : Catalog.read around.files s.dimension s.csvPath = .ok films)
    (port : Number.Writable s.milvusPort)
    (connects : before.plan (before.calls ++ [connectCall s]) = none) :
    Frame s around before (run s around before).1 (run s around before).2 := by
  let service := Service.ofSettings s
  let t := service.opened (started s films before)
  have collections : t.server.collections = before.server.collections := Service.collections_opened
  have beside := Service.sameBeside_of_madeOf (madeOf_connectedRun service films around) t
  have ends := ends_connectedRun read collections (List.prefix_append ..)
  rw [run_connected before read port connects]
  match hbody : connectedRun service films around t with
  | (r, u) =>
      rw [hbody] at beside
      have others : Keyed.erase s.collectionName u.server.collections =
          Keyed.erase s.collectionName before.server.collections :=
        beside.others.trans (congrArg _ collections)
      have connections (name : String) (h : name ≠ s.connectionAlias) :
          name ∈ u.server.connected ↔ name ∈ before.server.connected := by
        rw [beside.connected]
        exact Service.mem_connected_opened_iff h
      cases closes : u.plan (u.calls ++ [.disconnect s.connectionAlias]) with
      | some message =>
          rw [Service.followedBy_close_refused (s := service) hbody closes]
          refine ⟨others, connections, nofun, fun _ _ => ?_⟩
          have remains : Remains s around before u := by
            cases r with
            | ok hits => exact .absent (ends.ok hbody)
            | error e => exact ends.error hbody
          exact remains.later rfl (List.prefix_append ..)
      | none =>
          rw [Service.followedBy_close_allowed (s := service) hbody closes]
          refine ⟨others, fun name h => ?_, ?_, ?_⟩
          · exact (Service.mem_connected_closed_iff h).trans (connections name h)
          · rintro hits rfl
            have gone : Keyed.get? s.collectionName u.server.collections = none := ends.ok hbody
            exact ⟨gone, Service.not_mem_connected_closed⟩
          · rintro e rfl
            have remains : Remains s around before u := ends.error hbody
            exact remains.later rfl (List.prefix_append ..)

/-- A run touches its own collection and its own connection and nothing else, whether it
returns or breaks off, and it leaves no collection that is half filled. -/
theorem run_frame (s : Settings) (around : Surroundings) (before : Session) :
    Frame s around before (run s around before).1 (run s around before).2 := by
  cases begins s around before with
  | unread _ out | portUnwritable _ _ out | unconnected _ _ _ out =>
      rw [out]
      exact ⟨rfl, fun _ _ => .rfl, nofun, fun _ _ => .untouched rfl⟩
  | connected read port connects => exact frame_connected read port connects

/-- Where the films cannot be inserted, an empty collection is left in place of the older one. -/
theorem run_frame_insertRefused :
    let around : Surroundings := { files := fun _ => .ok ByteArray.empty }
    let older : Collection := { rows := [⟨0, 1995, []⟩] }
    let before : Session := Session.failNext "insert" "no space"
      { server := { collections := [("demo_index", older), ("other", older)] } }
    let out := run Settings.defaults around before
    out.1 = .error (.server (.refused "no space")) ∧
      out.2.server.collections =
        [("other", older), ("demo_index", (Service.ofSettings Settings.defaults).fresh)] ∧
      Frame Settings.defaults around before out.1 out.2 :=
  ⟨rfl, rfl, run_frame ..⟩

end Run
end FilmIndex
