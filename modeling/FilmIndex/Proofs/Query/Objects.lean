import FilmIndex.Query.Workbench

/-!
What an edit does to the objects of a workbench. Parameters of a request are an object that
nothing else refers to, so that only an edit of that request changes them. Vector queries
keep the list of vectors that they refer to, and such a list only grows.
-/

namespace FilmIndex
namespace Workbench

variable {w w' w'' : Workbench}

/-- The objects that a part refers to if it is a vector query. -/
def Part.refs? : Part VectorPart → Option (Ref × Ref)
  | vector q => some (q.vectors, q.params)
  | _ => none

theorem Part.refs?_eq_some {p : Part VectorPart} {vectors params : Ref}
    (h : p.refs? = some (vectors, params)) :
    ∃ q, p = .vector q ∧ q.vectors = vectors ∧ q.params = params := by
  cases p with
  | vector q =>
      obtain ⟨hv, hp⟩ := Prod.mk.inj (Option.some.inj h)
      exact ⟨q, rfl, hv, hp⟩
  | filter _ | must _ | should _ | mustNot _ | whole _ | value _ => cases h

def Part.clauses : Part VectorPart → List Ref
  | must rs | should rs => rs
  | mustNot r | whole r => [r]
  | vector _ | filter _ | value _ => []

def Named (w : Workbench) (r : Ref) : Prop := ∃ name, w.find name = .ok r

/-- References to parameters lead to some, and those of a request are its own. -/
structure Sound (w : Workbench) : Prop where
  queries : ∀ q, Part.vector q ∈ w.parts →
    q.params < w.tables.length ∧ ∀ r ∈ w.requests, r.params ≠ q.params
  requests : ∀ r ∈ w.requests, r.params < w.tables.length
  own : (w.requests.map (·.params)).Nodup

/-- What stays of the objects through every edit. -/
structure Extends (w w' : Workbench) : Prop where
  requests : w.requests <+: w'.requests
  queries : ∀ (r : Ref) (q : VectorPart), w.parts[r]? = some (.vector q) →
    ∃ q', w'.parts[r]? = some (.vector q') ∧ q'.vectors = q.vectors
  vectors : ∀ i, w.vectorsAt i <+: w'.vectorsAt i

/-- Some parts were added to a workbench. -/
inductive Adds (w : Workbench) : Workbench → Prop
  | none : Adds w w
  | part {w' : Workbench} (before : Adds w w') {p : Part VectorPart} (plain : p.refs? = .none) :
      Adds w (w'.add p).1
  | query {w' : Workbench} (before : Adds w w') (q : VectorQuery) : Adds w (w'.addQuery q).1

/-- A change of a request's parameters, by the place of the request. -/
abbrev Change := Ref × String × Value

/-- The edits that a step may come to, with the change of a request that it asks for. -/
inductive Due (w : Workbench) : Option Change → Edit → Prop
  | nothing : Due w none .nothing
  | missing {c : Change} (absent : w.requests[c.1]? = none) : Due w (some c) .nothing
  | define (name : String) (tree : Clause VectorQuery) : Due w none (.define name tree)
  | build (name : String) {p : Part VectorPart} (plain : p.refs? = none)
      (named : ∀ c ∈ p.clauses, w.Named c) : Due w none (.build name p)
  | alter {r : Ref} {p p' : Part VectorPart} (stands : w.parts[r]? = some p)
      (same : p'.refs? = p.refs?) (named : ∀ c ∈ p'.clauses, c ∈ p.clauses ∨ w.Named c) :
      Due w none (.alter r p')
  | addVector {r : Ref} {q : VectorPart} (stands : w.parts[r]? = some (.vector q))
      (vector : List Value) : Due w none (.addVector q.vectors vector)
  | queryParam {r : Ref} {q : VectorPart} (stands : w.parts[r]? = some (.vector q))
      (key : String) (v : Value) : Due w none (.putParam q.params key v)
  | requestParam {c : Change} {r : Request} (stands : w.requests[c.1]? = some r) :
      Due w (some c) (.putParam r.params c.2.1 c.2.2)
  | request {r : Ref} {q : VectorPart} (stands : w.parts[r]? = some (.vector q))
      (condition? : Option Condition) (keepAs? : Option String) :
      Due w none (.request q condition? keepAs?)

theorem Sound.params_ne (sound : w.Sound) {j k : Ref} {r r' : Request}
    (hr : w.requests[j]? = some r) (hr' : w.requests[k]? = some r') (h : j ≠ k) :
    r.params ≠ r'.params := by
  intro same
  have inside : j < (w.requests.map (·.params)).length := by
    rw [List.length_map]
    exact (List.getElem?_eq_some_iff.1 hr).1
  refine h ((List.getElem?_inj inside sound.own).1 ?_)
  rw [List.getElem?_map, List.getElem?_map, hr, hr']
  exact congrArg some same

/-! ## Reading after writing -/

theorem tableAt_withTable_ne {i j : Ref} (h : i ≠ j) (t : Fields) :
    (w.withTable i t).tableAt j = w.tableAt j := by
  simp only [tableAt, withTable, List.getElem?_set_ne h]

theorem tableAt_withTable_self {i : Ref} (h : i < w.tables.length) (t : Fields) :
    (w.withTable i t).tableAt i = t := by
  simp [tableAt, withTable, h]

theorem vectorsAt_withVectors (w : Workbench) (i j : Ref) (vectors : List (List Value)) :
    (w.withVectors i vectors).vectorsAt j =
      if i = j ∧ i < w.vectorLists.length then vectors else w.vectorsAt j := by
  by_cases hij : i = j
  · subst hij
    by_cases hi : i < w.vectorLists.length <;> simp [vectorsAt, withVectors, hi]
  · simp [vectorsAt, withVectors, List.getElem?_set_ne hij, hij]

/-! ## Parts added -/

namespace Adds

theorem trans (h : Adds w w') (h' : Adds w' w'') : Adds w w'' := by
  induction h' with
  | none => exact h
  | part _ plain ih => exact .part ih plain
  | query _ q ih => exact .query ih q

theorem requests (h : Adds w w') : w'.requests = w.requests := by
  induction h with
  | none => rfl
  | part _ _ ih | query _ _ ih => exact ih

theorem parts (h : Adds w w') : w.parts <+: w'.parts := by
  induction h with
  | none => exact List.prefix_rfl
  | part _ _ ih | query _ _ ih => exact ih.trans (List.prefix_append ..)

theorem vectorLists (h : Adds w w') : w.vectorLists <+: w'.vectorLists := by
  induction h with
  | none => exact List.prefix_rfl
  | part _ _ ih => exact ih
  | query _ _ ih => exact ih.trans (List.prefix_append ..)

theorem tables (h : Adds w w') : w.tables <+: w'.tables := by
  induction h with
  | none => exact List.prefix_rfl
  | part _ _ ih => exact ih
  | query _ _ ih => exact ih.trans (List.prefix_append ..)

theorem sound (h : Adds w w') (sound : w.Sound) : w'.Sound := by
  induction h with
  | none => exact sound
  | @part w' _ p plain ih =>
      refine ⟨fun q mem => ?_, ih.requests, ih.own⟩
      rcases List.mem_append.1 mem with mem | mem
      · exact ih.queries q mem
      · obtain rfl := List.mem_singleton.1 mem
        cases plain
  | @query w' _ q ih =>
      have grown : w'.tables.length < (w'.tables ++ [q.params]).length := by simp
      refine ⟨fun q' mem => ?_, fun r hr => Nat.lt_trans (ih.requests r hr) grown, ih.own⟩
      rcases List.mem_append.1 mem with mem | mem
      · exact ⟨Nat.lt_trans (ih.queries q' mem).1 grown, (ih.queries q' mem).2⟩
      · cases List.mem_singleton.1 mem
        exact ⟨grown, fun r hr => Nat.ne_of_lt (ih.requests r hr)⟩

theorem tableAt (h : Adds w w') {i : Ref} (hi : i < w.tables.length) :
    w'.tableAt i = w.tableAt i := by
  obtain ⟨more, hmore⟩ := h.tables
  rw [Workbench.tableAt, ← hmore, List.getElem?_append_left hi]
  rfl

theorem extension (h : Adds w w') : Extends w w' where
  requests := h.requests ▸ List.prefix_rfl
  queries r q stands := by
    obtain ⟨more, hmore⟩ := h.parts
    obtain ⟨hr, -⟩ := List.getElem?_eq_some_iff.1 stands
    exact ⟨q, by rw [← hmore, List.getElem?_append_left hr, stands], rfl⟩
  vectors i := by
    obtain ⟨more, hmore⟩ := h.vectorLists
    simp only [vectorsAt, ← hmore]
    by_cases hi : i < w.vectorLists.length
    · exact List.getElem?_append_left hi ▸ List.prefix_rfl
    · rw [List.getElem?_eq_none (Nat.le_of_not_lt hi)]
      exact List.nil_prefix

end Adds

theorem adds_addTrees {cs : List (Clause VectorQuery)}
    (h : ∀ c ∈ cs, ∀ w : Workbench, Adds w (w.addTree c).1) (w : Workbench) :
    Adds w (w.addTrees cs).1 := by
  induction cs generalizing w with
  | nil => exact .none
  | cons c cs ih =>
      obtain ⟨hc, hcs⟩ := List.forall_mem_cons.1 h
      exact (hc w).trans (ih hcs _)

theorem adds_addTree (c : Clause VectorQuery) (w : Workbench) : Adds w (w.addTree c).1 := by
  induction c using Clause.clauseInduction generalizing w with
  | vector q => exact .query .none q
  | filter _ | value _ => exact .part .none rfl
  | must cs ih | should cs ih => exact .part (adds_addTrees ih w) rfl
  | mustNot c ih | whole c ih => exact .part (ih w) rfl

/-! ## Edits -/

theorem Extends.refl (w : Workbench) : Extends w w :=
  ⟨List.prefix_rfl, fun _ q stands => ⟨q, stands, rfl⟩, fun _ => List.prefix_rfl⟩

theorem Extends.trans (h : Extends w w') (h' : Extends w' w'') : Extends w w'' where
  requests := h.requests.trans h'.requests
  queries r q stands := by
    obtain ⟨q', stands', same⟩ := h.queries r q stands
    obtain ⟨q'', stands'', same'⟩ := h'.queries r q' stands'
    exact ⟨q'', stands'', same'.trans same⟩
  vectors i := (h.vectors i).trans (h'.vectors i)

theorem extends_apply {c? : Option Change} {edit : Edit} (due : Due w c? edit) :
    Extends w (w.apply edit) := by
  cases due with
  | nothing | missing _ => exact .refl w
  | define name tree =>
      have grown := (adds_addTree tree w).extension
      exact ⟨grown.requests, grown.queries, grown.vectors⟩
  | build name plain _ =>
      have grown := (Adds.part (w := w) .none plain).extension
      exact ⟨grown.requests, grown.queries, grown.vectors⟩
  | @alter r p p' stands same _ =>
      refine ⟨List.prefix_rfl, fun r' q stands' => ?_, fun _ => List.prefix_rfl⟩
      by_cases hr : r = r'
      · subst hr
        obtain rfl : p = .vector q := Option.some.inj (stands.symm.trans stands')
        obtain ⟨q', rfl, hq, -⟩ := Part.refs?_eq_some same
        obtain ⟨inside, -⟩ := List.getElem?_eq_some_iff.1 stands
        exact ⟨q', by simp [apply, inside], hq⟩
      · exact ⟨q, by simp [apply, List.getElem?_set_ne hr, stands'], rfl⟩
  | @addVector r q _ vector =>
      refine ⟨List.prefix_rfl, fun _ q stands => ⟨q, stands, rfl⟩, fun i => ?_⟩
      rw [apply, vectorsAt_withVectors]
      split
      · rename_i h
        exact h.1 ▸ List.prefix_append ..
      · exact List.prefix_rfl
  | queryParam _ _ _ | requestParam _ =>
      exact ⟨List.prefix_rfl, fun _ q stands => ⟨q, stands, rfl⟩, fun _ => List.prefix_rfl⟩
  | request _ condition? keepAs? =>
      cases keepAs? <;>
        exact ⟨List.prefix_append .., fun _ q stands => ⟨q, stands, rfl⟩, fun _ => List.prefix_rfl⟩

theorem Sound.apply (sound : w.Sound) {c? : Option Change} {edit : Edit} (due : Due w c? edit) :
    (w.apply edit).Sound := by
  cases due with
  | nothing | missing _ => exact sound
  | define name tree =>
      have sound' := (adds_addTree tree w).sound sound
      exact ⟨sound'.queries, sound'.requests, sound'.own⟩
  | build name plain _ =>
      have sound' := (Adds.part (w := w) .none plain).sound sound
      exact ⟨sound'.queries, sound'.requests, sound'.own⟩
  | @alter r p p' stands same _ =>
      refine ⟨fun q mem => ?_, sound.requests, sound.own⟩
      rcases List.mem_or_eq_of_mem_set mem with mem | rfl
      · exact sound.queries q mem
      · obtain ⟨q', rfl, -, hq⟩ := Part.refs?_eq_some same.symm
        exact hq ▸ sound.queries q' (List.mem_of_getElem? stands)
  | addVector _ _ => exact ⟨sound.queries, sound.requests, sound.own⟩
  | queryParam _ _ _ | requestParam _ =>
      refine ⟨?_, ?_, sound.own⟩ <;> simp only [Workbench.apply, withTable, List.length_set]
      · exact sound.queries
      · exact sound.requests
  | @request r q stands condition? keepAs? =>
      suffices h : (w.addRequest q condition?).1.Sound by
        cases keepAs? with
        | none => exact h
        | some name => exact ⟨h.queries, h.requests, h.own⟩
      have grown : w.tables.length < (w.tables ++ [w.tableAt q.params]).length := by simp
      refine ⟨fun q' mem => ⟨Nat.lt_trans (sound.queries q' mem).1 grown, ?_⟩, ?_, ?_⟩
      · refine List.forall_mem_append.2 ⟨(sound.queries q' mem).2, ?_⟩
        exact List.forall_mem_singleton.2 (Nat.ne_of_gt (sound.queries q' mem).1)
      · refine List.forall_mem_append.2 ⟨fun r hr => Nat.lt_trans (sound.requests r hr) grown, ?_⟩
        exact List.forall_mem_singleton.2 grown
      · rw [addRequest, List.map_append]
        refine List.nodup_append.2 ⟨sound.own, by simp, fun i hi j hj => ?_⟩
        obtain ⟨r, hr, rfl⟩ := List.mem_map.1 hi
        exact List.mem_singleton.1 hj ▸ Nat.ne_of_lt (sound.requests r hr)

/-- The keys that a change sets in the parameters of the request at a place. -/
def Change.params (k : Ref) : Option Change → Fields
  | some c => if c.1 = k then [c.2] else []
  | none => []

theorem tableAt_apply (sound : w.Sound) {c? : Option Change} {edit : Edit} (due : Due w c? edit)
    {k : Ref} {r : Request} (stands : w.requests[k]? = some r) :
    (w.apply edit).tableAt r.params = Keyed.putAll (w.tableAt r.params) (Change.params k c?) := by
  have inside := sound.requests r (List.mem_of_getElem? stands)
  cases due with
  | nothing | alter _ _ _ | addVector _ _ => rfl
  | @missing c absent =>
      have other : c.1 ≠ k := by
        rintro rfl
        cases absent.symm.trans stands
      rw [Change.params, if_neg other]
      rfl
  | define name tree => exact (adds_addTree tree w).tableAt inside
  | build name plain _ => exact (Adds.part (w := w) .none plain).tableAt inside
  | @queryParam _ q stands' key v =>
      have other := (sound.queries q (List.mem_of_getElem? stands')).2 r
        (List.mem_of_getElem? stands)
      exact tableAt_withTable_ne other.symm _
  | @requestParam c r' stands' =>
      by_cases hk : c.1 = k
      · subst hk
        cases stands.symm.trans stands'
        rw [Change.params, if_pos rfl]
        exact tableAt_withTable_self inside _
      · rw [Change.params, if_neg hk]
        exact tableAt_withTable_ne (sound.params_ne stands' stands hk) _
  | @request _ q _ condition? keepAs? =>
      have kept : (w.addRequest q condition?).1.tableAt r.params = w.tableAt r.params := by
        rw [tableAt, addRequest, List.getElem?_append_left inside]
        rfl
      cases keepAs? <;> exact kept

end Workbench
end FilmIndex
