import FilmIndex.Proofs.Session.Operations
import FilmIndex.Proofs.Settings.Checked
import FilmIndex.Proofs.Value.Same

/-!
The indexes of a service as a map from fields to parameters, whichever calls are planned to
fail. The two operations that change the map never come up against the server's guards.
-/

namespace FilmIndex
open FilmIndex.Action

/-- A failure that is neither of the two guards of the server's indexes. -/
structure Failure.Unguarded (e : Failure) : Prop where
  indexed : e ≠ .server .fieldIndexed
  loaded : e ≠ .server .loaded

namespace Service

variable {s : Service} {S : Server} {t : Session} {α : Type}

theorem ends_read (h : t.server = S) (call : Call) {f : Collection → Except ServerError α}
    (hf : ∀ c e, f c = .error e → (Failure.server e).Unguarded) :
    (s.call call (Server.read s.collection f)).Ends t
      (fun x u => u.server = S ∧ ∃ c, Keyed.get? s.collection S.collections = some c ∧ f c = .ok x)
      (fun e u => u.server = S ∧ e.Unguarded) := by
  subst h
  refine (ends_call (some s.connection) call (Server.read s.collection f) t).mono
    (fun x u he => Server.read_ok he) (fun e u he => ⟨he.1, ?_⟩)
  obtain ⟨-, x, rfl, ⟨message, rfl⟩ | ⟨a, rfl⟩ | he⟩ := he
  · exact ⟨nofun, nofun⟩
  · exact ⟨nofun, nofun⟩
  · rcases Server.read_error he with rfl | ⟨c, -, hc⟩
    · exact ⟨nofun, nofun⟩
    · exact hf c x hc

theorem ends_change (h : t.server = S) (call : Call)
    {f : Collection → Except ServerError Collection} {c c' : Collection}
    (present : Keyed.get? s.collection S.collections = some c)
    (hf : f c = .ok c') :
    (s.call call (Server.change s.collection f)).Ends t
      (fun _ u => u.server = S.putCollection s.collection c')
      (fun e u => u.server = S ∧ e.Unguarded) := by
  subst h
  have changed : Server.change s.collection f t.server =
      .ok ((), t.server.putCollection s.collection c') := by
    rw [Server.change_present present, hf]
    rfl
  refine (ends_call (some s.connection) call (Server.change s.collection f) t).mono
    (fun x u he => ?_) (fun e u he => ⟨he.1, ?_⟩)
  · exact (Prod.mk.inj (Except.ok.inj (he.symm.trans changed))).2
  · obtain ⟨-, x, rfl, ⟨message, rfl⟩ | ⟨a, rfl⟩ | he⟩ := he
    · exact ⟨nofun, nofun⟩
    · exact ⟨nofun, nofun⟩
    · cases changed.symm.trans he

theorem ends_hold (h : t.server = S) :
    s.hold.Ends t (fun _ u => u.server = S) (fun e u => u.server = S ∧ e.Unguarded) := by
  have holding : Action.holding t = (.ok t.holds, t) := rfl
  rw [Ends, Service.hold, bind_ok holding]
  cases t.holds with
  | true => exact h
  | false =>
      have fetched := ends_read (s := s) h (.collection s.collection none) (f := fun _ => .ok ())
        fun _ _ he => by cases he
      exact Ends.bind fetched fun _ _ hu => hu.1

theorem ends_hasIndex (h : t.server = S) (index : String) :
    (s.hasIndex index).Ends t
      (fun b u => u.server = S ∧ ∃ c, Keyed.get? s.collection S.collections = some c ∧
        b = (Keyed.get? index c.indexes).isSome)
      (fun e u => u.server = S ∧ e.Unguarded) := by
  refine (ends_read h (.hasIndex s.collection index)
    (f := fun c => .ok (Keyed.get? index c.indexes).isSome) nofun).mono ?_ fun _ _ he => he
  rintro b u ⟨hu, c, hc, hb⟩
  exact ⟨hu, c, hc, (Except.ok.inj hb).symm⟩

theorem ends_indexParams (h : t.server = S) (index : String) :
    (s.call (.index s.collection index) (Server.indexParams s.collection index)).Ends t
      (fun v u => u.server = S ∧ ∃ c i, Keyed.get? s.collection S.collections = some c ∧
        Keyed.get? index c.indexes = some i ∧ v = i.params)
      (fun e u => u.server = S ∧ e.Unguarded) := by
  refine Ends.mono (ends_read h (.index s.collection index) ?_) ?_ fun _ _ he => he
  · intro c e he
    split at he
    · cases he
    · cases he
      exact ⟨nofun, nofun⟩
  · rintro v u ⟨hu, c, hc, hv⟩
    split at hv
    · exact ⟨hu, c, _, hc, ‹_›, (Except.ok.inj hv).symm⟩
    · cases hv

variable {field : VectorField} {c : Collection}

/-- A failure on the way to change a field's index. -/
structure Undone (s : Service) (field : VectorField) (S : Server) (e : Failure) (u : Session) :
    Prop where
  unguarded : e.Unguarded
  loosened : S.Loosened s.collection field.name u.server

theorem Undone.unchanged {e : Failure} {u : Session} (h : u.server = S ∧ e.Unguarded) :
    s.Undone field S e u := ⟨h.2, h.1 ▸ .same⟩

/-- An index is dropped only after the collection is released. -/
theorem ends_dropHeldIndex (h : t.server = S) {i : Index}
    (hc : Keyed.get? s.collection S.collections = some c)
    (hi : Keyed.get? (indexName field) c.indexes = some i) :
    (s.dropHeldIndex (indexName field)).Ends t
      (fun _ u => u.server = S.putCollection s.collection (c.released.without field.name))
      (s.Undone field S) := by
  have released := ends_change (s := s) h (.release s.collection) hc
    (rfl : Collection.release c = .ok c.released)
  refine released.bind_mono (fun _ _ => Undone.unchanged) fun _ u hu => ?_
  have dropped := ends_change (s := s) hu (.dropIndex s.collection (indexName field))
    Server.get?_putCollection (Collection.dropIndex_released hi)
  refine dropped.mono (fun _ v hv => ?_) (fun e v he => ⟨he.2, he.1 ▸ .released hc⟩)
  rw [hv, Server.putCollection_putCollection]

theorem ends_dropIndex (field : VectorField) (h : t.server = S)
    (named : S.IndexedByField s.collection) :
    (s.dropIndex field).Ends t
      (fun _ u => S.SameBut s.collection field.name u.server ∧
        u.server.fieldIndex? s.collection field.name = none)
      (s.Undone field S) := by
  refine (ends_hold h).bind_mono (fun _ _ => Undone.unchanged) fun _ u hu => ?_
  refine (ends_hasIndex hu _).bind_mono (fun _ _ => Undone.unchanged) fun b v ⟨hv, c, hc, hb⟩ => ?_
  have params : S.fieldIndex? s.collection field.name =
      (Keyed.get? (indexName field) c.indexes).map (·.params) :=
    (Server.fieldIndex?_present hc _).trans ((named c hc).fieldIndex?_eq field.name)
  cases hi : Keyed.get? (indexName field) c.indexes with
  | none =>
      rw [hi] at hb params
      subst hb
      exact ⟨hv ▸ .same, hv ▸ params⟩
  | some i =>
      rw [hi] at hb
      subst hb
      refine Ends.bind (ends_dropHeldIndex hv hc hi) fun _ w hw => ?_
      have dropped : S.Loosened s.collection field.name w.server :=
        hw ▸ .dropped (named c hc) hc
      have bare : (c.released.without field.name).fieldIndex? field.name = none := by
        rw [Collection.fieldIndex?_without (named c hc).released, if_pos rfl]
      exact ⟨dropped.others, hw ▸ (Server.fieldIndex?_put _).trans bare⟩

/-- The field has no index with these parameters. -/
def Differs (s : Service) (field : VectorField) (full : Value) (S : Server) : Prop :=
  ∀ v, S.fieldIndex? s.collection field.name = some v → v.same full = false

/-- A failure on the way to an index with these parameters. If they were there already,
nothing is changed. -/
structure Unmade (s : Service) (field : VectorField) (full : Value) (S : Server) (e : Failure)
    (u : Session) : Prop extends s.Undone field S e u where
  kept : u.server = S ∨ s.Differs field full S

theorem Unmade.unchanged {full : Value} {e : Failure} {u : Session}
    (h : u.server = S ∧ e.Unguarded) : s.Unmade field full S e u := ⟨.unchanged h, .inl h.1⟩

/-- What there is when an index is to be made: the wanted one, or none on the field. -/
inductive Prepared (s : Service) (field : VectorField) (full : Value) (S : Server) :
    Bool → Session → Prop
  | present {u : Session} {v : Value} (server : u.server = S)
      (index : S.fieldIndex? s.collection field.name = some v) (same : v.same full = true) :
      Prepared s field full S true u
  | bare {u : Session} {c : Collection} (loosened : S.Loosened s.collection field.name u.server)
      (differs : s.Differs field full S)
      (present : Keyed.get? s.collection u.server.collections = some c)
      (index : c.IndexedByField) (bare : c.fieldIndex? field.name = none) :
      Prepared s field full S false u

theorem ends_keepsIndex (h : t.server = S) (named : S.IndexedByField s.collection) (full : Value) :
    (s.keepsIndex field full).Ends t (s.Prepared field full S) (s.Unmade field full S) := by
  refine (ends_hasIndex h _).bind_mono (fun _ _ => Unmade.unchanged) fun b u ⟨hu, c, hc, hb⟩ => ?_
  have index : S.fieldIndex? s.collection field.name = c.fieldIndex? field.name :=
    Server.fieldIndex?_present hc _
  have params : c.fieldIndex? field.name =
      (Keyed.get? (indexName field) c.indexes).map (·.params) :=
    (named c hc).fieldIndex?_eq field.name
  cases hi : Keyed.get? (indexName field) c.indexes with
  | none =>
      rw [hi] at hb params
      subst hb
      refine .bare (hu ▸ .same) (fun v hv => ?_) (hu ▸ hc) (named c hc) params
      cases (index.trans params).symm.trans hv
  | some i =>
      rw [hi] at hb params
      subst hb
      refine (ends_indexParams hu _).bind_mono (fun _ _ => Unmade.unchanged) fun v w hw => ?_
      obtain ⟨hw, c', i', hc', hi', rfl⟩ := hw
      obtain rfl := Option.some.inj (hc'.symm.trans hc)
      obtain rfl := Option.some.inj (hi'.symm.trans hi)
      cases hsame : i'.params.same full with
      | true => exact .present hw (index.trans params) hsame
      | false =>
          have differs : s.Differs field full S := by
            intro v hv
            rw [index, params] at hv
            exact Option.some.inj hv ▸ hsame
          have bare : (c'.released.without field.name).fieldIndex? field.name = none := by
            rw [Collection.fieldIndex?_without (named c' hc).released, if_pos rfl]
          have logged : Action.log (.indexReplaced field.name) w =
              (.ok (), { w with events := w.events ++ [.indexReplaced field.name] }) := rfl
          have held := ends_dropHeldIndex (s := s)
            (t := { w with events := w.events ++ [.indexReplaced field.name] }) hw hc hi
          rw [if_neg Bool.false_ne_true, Ends, bind_ok logged]
          refine held.bind_mono (fun e u he => ⟨he, .inr differs⟩) fun _ u hu => ?_
          refine .bare ?_ differs ?_ ((named c' hc).released.without _) bare
          · exact hu ▸ .dropped (named c' hc) hc
          · rw [hu, Server.get?_putCollection]

/-- An index that is made has the given parameters. One that had the same is kept. -/
theorem ends_createIndex (field : VectorField) (h : t.server = S)
    (named : S.IndexedByField s.collection) (indexType metric : String) (params : Fields) :
    (s.createIndex field indexType metric params).Ends t
      (fun _ u => S.SameBut s.collection field.name u.server ∧
        (u.server = S ∨ s.Differs field (indexParams indexType metric params) S) ∧
        ∃ v, u.server.fieldIndex? s.collection field.name = some v ∧
          (v = indexParams indexType metric params ∨
            u.server = S ∧ v.same (indexParams indexType metric params) = true))
      (s.Unmade field (indexParams indexType metric params) S) := by
  generalize hfull : indexParams indexType metric params = full
  rw [createIndex, hfull]
  refine (ends_hold h).bind_mono (fun _ _ => Unmade.unchanged) fun _ u hu => ?_
  refine (ends_keepsIndex hu named full).bind fun b w hw => ?_
  cases hw with
  | present server index same =>
      exact ⟨server ▸ .same, .inl server, _, server ▸ index, .inr ⟨server, same⟩⟩
  | @bare _ c loosened differs present index bare =>
      have created := ends_change (s := s) (rfl : w.server = w.server)
        (.createIndex s.collection field.name full (indexName field)) present
        (Collection.addIndex_eq bare full)
      refine created.bind_mono (fun e x he => ?_) fun _ x hx => ?_
      · exact ⟨⟨he.2, he.1 ▸ loosened⟩, .inr differs⟩
      refine ⟨?_, .inr differs, full, ?_, .inl rfl⟩
      · refine hx ▸ loosened.others.put present rfl rfl fun g hg => ?_
        rw [Collection.fieldIndex?_withIndex index, if_neg (Ne.symm hg)]
      · refine hx ▸ (Server.fieldIndex?_put _).trans ?_
        rw [Collection.fieldIndex?_withIndex index, if_pos rfl]

/-! ## In every session -/

/-- What comes of making an index on a field: it returns or fails, and the server is another.
An index that is there with parameters that are the same as the given ones is left as it is. -/
structure MakesIndex (s : Service) (field : VectorField) (indexType metric : String)
    (params : Fields) (before : Server) (result : Except Failure Unit) (after : Server) : Prop where
  unguarded : ∀ e, result = .error e → e.Unguarded
  made : result = .ok () → (Value.record params).Sound →
    let wanted : Value := .record [("index_type", .text indexType), ("metric_type", .text metric),
      ("params", .record params)]
    ∃ v, after.fieldIndex? s.collection field.name = some v ∧ v.same wanted = true ∧
      (v = wanted ∨ after = before)
  kept : ∀ v, before.fieldIndex? s.collection field.name = some v →
    v.same (.record [("index_type", .text indexType), ("metric_type", .text metric),
      ("params", .record params)]) = true → after = before
  failed : ∀ e, result = .error e → before.Loosened s.collection field.name after
  others : before.SameBut s.collection field.name after

/-- What comes of dropping the index on a field. -/
structure DropsIndex (s : Service) (field : VectorField) (before : Server)
    (result : Except Failure Unit) (after : Server) : Prop where
  unguarded : ∀ e, result = .error e → e.Unguarded
  dropped : result = .ok () → after.fieldIndex? s.collection field.name = none
  failed : ∀ e, result = .error e → before.Loosened s.collection field.name after
  others : before.SameBut s.collection field.name after

theorem sound_indexParams {params : Fields} (h : (Value.record params).Sound)
    (indexType metric : String) : (indexParams indexType metric params).Sound := by
  refine .record (by simp [Keyed.Distinct]) fun f hf => ?_
  simp only [List.mem_cons, List.not_mem_nil, or_false] at hf
  rcases hf with rfl | rfl | rfl
  · exact .text _
  · exact .text _
  · exact h

theorem makesIndex (named : t.server.IndexedByField s.collection) (indexType metric : String)
    (params : Fields) :
    s.MakesIndex field indexType metric params t.server
      (s.createIndex field indexType metric params t).1
      (s.createIndex field indexType metric params t).2.server := by
  have ends := ends_createIndex field rfl named indexType metric params
  have unchanged {after : Server}
      (h : after = t.server ∨ s.Differs field (indexParams indexType metric params) t.server)
      {v : Value} (hv : t.server.fieldIndex? s.collection field.name = some v)
      (same : v.same (indexParams indexType metric params) = true) : after = t.server := by
    rcases h with h | differs
    · exact h
    · cases same.symm.trans (differs v hv)
  match hr : s.createIndex field indexType metric params t with
  | (.ok (), u) =>
      obtain ⟨others, kept, v, hv, same⟩ := ends.ok hr
      refine ⟨nofun, fun _ sound => ⟨v, hv, ?_⟩, fun _ => unchanged kept, nofun, others⟩
      rcases same with rfl | ⟨server, same⟩
      · exact ⟨(sound_indexParams sound indexType metric).same_self, .inl rfl⟩
      · exact ⟨same, .inr server⟩
  | (.error e, u) =>
      obtain ⟨⟨unguarded, loosened⟩, kept⟩ := ends.error hr
      refine ⟨fun e he => ?_, nofun, fun _ => unchanged kept, fun _ _ => loosened, loosened.others⟩
      cases he
      exact unguarded

theorem dropsIndex (named : t.server.IndexedByField s.collection) :
    s.DropsIndex field t.server (s.dropIndex field t).1 (s.dropIndex field t).2.server := by
  have ends := ends_dropIndex field rfl named
  match hr : s.dropIndex field t with
  | (.ok (), u) =>
      obtain ⟨others, dropped⟩ := ends.ok hr
      exact ⟨nofun, fun _ => dropped, nofun, others⟩
  | (.error e, u) =>
      obtain ⟨unguarded, loosened⟩ := ends.error hr
      refine ⟨fun e he => ?_, nofun, fun _ _ => loosened, loosened.others⟩
      cases he
      exact unguarded

/-- Whatever a service has done, each field has at most one index, which is named after it,
and the making and dropping of an index change the index of that field alone. -/
theorem index_map (s : Service) (ops : List Operation) (start : Session)
    (named : start.server.IndexedByField s.collection) :
    let t := s.history ops start
    (∀ c, Keyed.get? s.collection t.server.collections = some c →
      (∀ i ∈ c.indexes, i.1 = i.2.field ++ "_idx") ∧ (c.indexes.map fun i => i.2.field).Nodup) ∧
    ∀ field,
      (∀ indexType metric params,
        s.MakesIndex field indexType metric params t.server
          (s.createIndex field indexType metric params t).1
          (s.createIndex field indexType metric params t).2.server) ∧
      s.DropsIndex field t.server (s.dropIndex field t).1 (s.dropIndex field t).2.server := by
  have indexed := indexedByField_history ops named
  refine ⟨fun c hc => ⟨(indexed c hc).named, (indexed c hc).nodup_fields⟩, fun field => ⟨?_, ?_⟩⟩
  · exact makesIndex indexed
  · exact dropsIndex indexed

/-- A loaded collection whose index is replaced. -/
theorem index_map_loaded :
    let s := Service.ofSettings Settings.defaults
    let embeddings : Collection :=
      { indexes := [("embedding_idx", ⟨"embedding", indexParams "FLAT" "L2" []⟩)], loaded := true }
    let start : Session := { server := { collections := [("demo_index", embeddings)] } }
    start.server.IndexedByField s.collection ∧
      s.MakesIndex ⟨"embedding", 8⟩ "IVF_FLAT" "L2" [("nlist", .int 100)]
        (s.history [.connect, .search (.value .null) none] start).server
        (s.createIndex ⟨"embedding", 8⟩ "IVF_FLAT" "L2" [("nlist", .int 100)]
          (s.history [.connect, .search (.value .null) none] start)).1
        (s.createIndex ⟨"embedding", 8⟩ "IVF_FLAT" "L2" [("nlist", .int 100)]
          (s.history [.connect, .search (.value .null) none] start)).2.server := by
  intro s embeddings start
  have named : start.server.IndexedByField s.collection := by
    intro c hc
    obtain rfl : embeddings = c := Option.some.inj hc
    exact ⟨by simp [embeddings], by simp [embeddings, Keyed.Distinct]⟩
  exact ⟨named, ((index_map s [.connect, .search (.value .null) none] start named).2 _).1 _ _ _⟩

end Service
end FilmIndex
