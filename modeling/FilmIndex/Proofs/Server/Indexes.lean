import FilmIndex.Server.Basic

/-!
The indexes of a collection as a map from fields to parameters. Each index is named after
its field, so a field is found by its index's name and has no second index.
-/

namespace FilmIndex

namespace Collection

/-- Every index is named after its field, and no name is taken twice. -/
structure IndexedByField (c : Collection) : Prop where
  named : ∀ i ∈ c.indexes, i.1 = i.2.field ++ "_idx"
  distinct : Keyed.Distinct c.indexes

/-- The parameters of the first index on a field. -/
def fieldIndex? (field : String) (c : Collection) : Option Value :=
  (c.indexes.find? fun i => i.2.field == field).map (·.2.params)

namespace IndexedByField

variable {c : Collection}

theorem nodup_fields (h : c.IndexedByField) : (c.indexes.map fun i => i.2.field).Nodup := by
  have keys : c.indexes.map (·.1) = (c.indexes.map fun i => i.2.field).map (· ++ "_idx") := by
    rw [List.map_map]
    exact List.map_congr_left h.named
  have distinct := h.distinct
  rw [Keyed.Distinct, keys] at distinct
  refine List.Pairwise.of_map (· ++ "_idx") (fun _ _ hne heq => ?_) distinct
  exact hne (congrArg (· ++ "_idx") heq)

theorem fieldIndex?_eq (h : c.IndexedByField) (field : String) :
    c.fieldIndex? field = (Keyed.get? (field ++ "_idx") c.indexes).map (·.params) := by
  have named := h.named
  rw [fieldIndex?]
  generalize c.indexes = entries at named ⊢
  induction entries with
  | nil => rfl
  | cons i rest ih =>
      obtain ⟨hi, hrest⟩ := List.forall_mem_cons.1 named
      obtain ⟨name, index⟩ := i
      obtain rfl : name = index.field ++ "_idx" := hi
      by_cases hf : index.field = field
      · simp [Keyed.get?, hf]
      · simp [Keyed.get?, hf, ih hrest]

end IndexedByField

section
variable {c : Collection}

/-! ## What becomes of the indexes -/

def released (c : Collection) : Collection := { c with loaded := false }

def without (field : String) (c : Collection) : Collection :=
  { c with indexes := Keyed.erase (field ++ "_idx") c.indexes }

def withIndex (field : String) (params : Value) (c : Collection) : Collection :=
  { c with indexes := Keyed.put (field ++ "_idx") ⟨field, params⟩ c.indexes }

theorem IndexedByField.released (h : c.IndexedByField) : c.released.IndexedByField :=
  ⟨h.named, h.distinct⟩

theorem IndexedByField.without (h : c.IndexedByField) (field : String) :
    (c.without field).IndexedByField :=
  ⟨fun i hi => h.named i (List.mem_filter.1 hi).1, h.distinct.erase _⟩

theorem IndexedByField.withIndex (h : c.IndexedByField) (field : String) (params : Value) :
    (c.withIndex field params).IndexedByField := by
  refine ⟨fun i hi => ?_, h.distinct.put _ _⟩
  rcases Keyed.mem_of_mem_put hi with rfl | hi
  · rfl
  · exact h.named i hi

theorem fieldIndex?_without (h : c.IndexedByField) (field g : String) :
    (c.without field).fieldIndex? g = if field = g then none else c.fieldIndex? g := by
  rw [(h.without field).fieldIndex?_eq, h.fieldIndex?_eq, Collection.without, Keyed.get?_erase]
  by_cases hg : field = g <;> simp [hg]

theorem fieldIndex?_withIndex (h : c.IndexedByField) (field g : String) (params : Value) :
    (c.withIndex field params).fieldIndex? g =
      if field = g then some params else c.fieldIndex? g := by
  rw [(h.withIndex field params).fieldIndex?_eq, h.fieldIndex?_eq, Collection.withIndex,
    Keyed.get?_put]
  by_cases hg : field = g <;> simp [hg]

end

theorem fieldIndex?_eq_none_iff (field : String) (c : Collection) :
    c.fieldIndex? field = none ↔ (c.indexes.any fun i => i.2.field == field) = false := by
  simp [fieldIndex?]

section
variable {c c' : Collection}

theorem addIndex_eq {field : String} (bare : c.fieldIndex? field = none) (params : Value) :
    addIndex (field ++ "_idx") field params c = .ok (c.withIndex field params) := by
  rw [addIndex, (fieldIndex?_eq_none_iff field c).1 bare]
  rfl

theorem dropIndex_released {field : String} {i : Index}
    (present : Keyed.get? (field ++ "_idx") c.indexes = some i) :
    dropIndex (field ++ "_idx") c.released = .ok (c.released.without field) := by
  simp [dropIndex, released, without, present]

theorem IndexedByField.addIndex {field : String} {params : Value} (h : c.IndexedByField)
    (added : addIndex (field ++ "_idx") field params c = .ok c') : c'.IndexedByField := by
  rw [Collection.addIndex] at added
  split at added
  · cases added
  · cases added
    exact h.withIndex field params

theorem IndexedByField.dropIndex {index : String} (h : c.IndexedByField)
    (dropped : dropIndex index c = .ok c') : c'.IndexedByField := by
  rw [Collection.dropIndex] at dropped
  split at dropped
  · cases dropped
  · split at dropped
    · cases dropped
    · cases dropped
      exact ⟨fun i hi => h.named i (List.mem_filter.1 hi).1, h.distinct.erase _⟩

theorem IndexedByField.load (h : c.IndexedByField) (loaded : load c = .ok c') :
    c'.IndexedByField := by
  rw [Collection.load] at loaded
  split at loaded
  · cases loaded
  · cases loaded
    exact ⟨h.named, h.distinct⟩

end
end Collection

namespace Server

variable {name : String} {s s' : Server} {c c' : Collection}

/-- The indexes of the collection are named after their fields, if the collection is there. -/
def IndexedByField (name : String) (s : Server) : Prop :=
  ∀ c, Keyed.get? name s.collections = some c → c.IndexedByField

/-- The parameters of a field's index in a collection. -/
def fieldIndex? (name field : String) (s : Server) : Option Value :=
  (Keyed.get? name s.collections).bind (Collection.fieldIndex? field)

/-- The server as before, but for the index of one field of a collection, and for whether
that collection is loaded. -/
inductive SameBut (name field : String) (s : Server) : Server → Prop
  | same : SameBut name field s s
  | changed {c c' : Collection} (present : Keyed.get? name s.collections = some c)
      (schema : c'.schema? = c.schema?) (rows : c'.rows = c.rows)
      (indexes : ∀ g, g ≠ field → c'.fieldIndex? g = c.fieldIndex? g) :
      SameBut name field s (s.putCollection name c')

theorem indexedByField_put (h : c.IndexedByField) :
    (s.putCollection name c).IndexedByField name := by
  intro c' hc'
  rw [get?_putCollection] at hc'
  cases hc'
  exact h

theorem fieldIndex?_put (field : String) :
    (s.putCollection name c).fieldIndex? name field = c.fieldIndex? field := by
  rw [fieldIndex?, get?_putCollection]
  rfl

theorem fieldIndex?_present (h : Keyed.get? name s.collections = some c) (field : String) :
    s.fieldIndex? name field = c.fieldIndex? field := by
  rw [fieldIndex?, h]
  rfl

/-- A change that keeps the names of the indexes of any collection keeps those of this one. -/
theorem IndexedByField.change {f : Collection → Except ServerError Collection} {x : Unit}
    (h : s.IndexedByField name) (changed : change name f s = .ok (x, s'))
    (keeps : ∀ c c', c.IndexedByField → f c = .ok c' → c'.IndexedByField) :
    s'.IndexedByField name := by
  obtain ⟨c, c', hc, hf, rfl⟩ := change_ok changed
  exact indexedByField_put (keeps c c' (h c hc) hf)

theorem indexedByField_dropped {x : Unit} (dropped : dropCollection name s = .ok (x, s')) :
    s'.IndexedByField name := by
  intro c hc
  rw [dropCollection_ok dropped, get?_removeCollection] at hc
  cases hc

theorem IndexedByField.createCollection {schema : CollectionSchema} {x : Unit}
    (h : s.IndexedByField name) (created : createCollection name schema s = .ok (x, s')) :
    s'.IndexedByField name := by
  rcases createCollection_ok created with rfl | rfl
  · exact h
  · exact indexedByField_put ⟨nofun, List.nodup_nil⟩

theorem SameBut.put {field : String} (h : s.SameBut name field s')
    (present : Keyed.get? name s'.collections = some c) (schema : c'.schema? = c.schema?)
    (rows : c'.rows = c.rows) (indexes : ∀ g, g ≠ field → c'.fieldIndex? g = c.fieldIndex? g) :
    s.SameBut name field (s'.putCollection name c') := by
  cases h with
  | same => exact .changed present schema rows indexes
  | changed present₀ schema₀ rows₀ indexes₀ =>
      rw [get?_putCollection] at present
      cases present
      rw [putCollection_putCollection]
      exact .changed present₀ (schema.trans schema₀) (rows.trans rows₀)
        fun g hg => (indexes g hg).trans (indexes₀ g hg)

/-- A field's index as it was or dropped, and nothing else changed. -/
structure Loosened (name field : String) (s s' : Server) : Prop where
  others : s.SameBut name field s'
  index : s'.fieldIndex? name field = s.fieldIndex? name field ∨ s'.fieldIndex? name field = none

namespace Loosened

variable {field : String}

theorem same : s.Loosened name field s := ⟨.same, .inl rfl⟩

theorem released (present : Keyed.get? name s.collections = some c) :
    s.Loosened name field (s.putCollection name c.released) := by
  refine ⟨.changed present rfl rfl fun _ _ => rfl, .inl ?_⟩
  rw [fieldIndex?_put, fieldIndex?_present present]
  rfl

theorem dropped (h : c.IndexedByField) (present : Keyed.get? name s.collections = some c) :
    s.Loosened name field (s.putCollection name (c.released.without field)) := by
  refine ⟨.changed present rfl rfl fun g hg => ?_, .inr ?_⟩
  · rw [Collection.fieldIndex?_without h.released, if_neg (Ne.symm hg)]
    rfl
  · rw [fieldIndex?_put, Collection.fieldIndex?_without h.released, if_pos rfl]

end Loosened
end Server
end FilmIndex
