import FilmIndex.Proofs.Query.Acceptance
import FilmIndex.Proofs.Query.Objects
import FilmIndex.Proofs.Traversal

/-!
The edit that a step comes to. What it names is found first, and what is compiled is the
one vector query of a tree of parts.
-/

namespace FilmIndex
namespace Workbench

variable {w : Workbench}

/-- The vector queries of a tree are parts, each at the place that stands with it. -/
theorem stands_of_tree? {parts : List (Part VectorPart)} {depth : Nat} {r : Ref}
    {tree : Clause (Ref × VectorPart)} (h : tree? parts depth r = some tree) :
    ∀ x ∈ tree.vectors, parts[x.1]? = some (.vector x.2) := by
  induction depth generalizing r tree with
  | zero => cases h
  | succ depth ih =>
      have each {rs : List Ref} {trees : List (Clause (Ref × VectorPart))}
          (h : rs.mapM (tree? parts depth) = some trees) :
          ∀ x ∈ Clause.vectorsOfEach trees, parts[x.1]? = some (.vector x.2) := by
        intro x mem
        rw [Clause.vectorsOfEach_eq] at mem
        obtain ⟨tree, htree, mem⟩ := List.mem_flatMap.1 mem
        obtain ⟨r, -, hr⟩ := exists_of_mem_mapM h tree htree
        exact ih hr x mem
      cases stands : parts[r]? with
      | none => simp [tree?, stands] at h
      | some p =>
          simp only [tree?, stands] at h
          cases p with
          | vector q =>
              cases h
              exact List.forall_mem_singleton.2 stands
          | filter _ | value _ =>
              cases h
              exact List.forall_mem_nil _
          | must rs | should rs =>
              obtain ⟨trees, htrees, rfl⟩ := Option.map_eq_some_iff.1 h
              exact each htrees
          | mustNot r | whole r =>
              obtain ⟨below, hbelow, rfl⟩ := Option.map_eq_some_iff.1 h
              exact fun x mem => ih hbelow x mem

/-- What is compiled is the one vector query of a tree. It has no fault. -/
theorem compile_ok {r : Ref} {c : Compiled} (h : w.compile r = .ok c) :
    w.parts[c.source]? = some (.vector c.query) ∧ (w.query c.query).fault? = none := by
  simp only [compile] at h
  cases htree : tree? w.parts (w.parts.length + 1) r with
  | none => simp [htree] at h
  | some tree =>
      cases hsole : tree.theVector with
      | error e => simp [htree, hsole] at h
      | ok x =>
          cases hfault : (w.query x.2).fault? with
          | some e => simp [htree, hsole, hfault] at h
          | none =>
              simp only [htree, hsole, hfault] at h
              cases h
              have sole := (Clause.vectors_eq_singleton_iff tree x).2
                ((Clause.theVector_eq_ok_iff tree x).1 hsole).2
              exact ⟨stands_of_tree? htree x (sole ▸ List.mem_singleton_self x), hfault⟩

/-- The request whose parameters a step is to set, and how. -/
def change? (w : Workbench) : Step → Option Change
  | .setParam name key v => (Keyed.get? name w.kept).map (·, key, v)
  | _ => none

theorem onPart_ok {name : String} {edit? : Ref → Part VectorPart → Option (Edit × Shown)}
    {e : Edit × Shown} (h : w.onPart name edit? = .ok e) :
    ∃ r p, w.parts[r]? = some p ∧ edit? r p = some e := by
  rw [onPart] at h
  cases hr : w.find name with
  | error _ => simp [hr] at h
  | ok r =>
      cases hp : w.parts[r]? with
      | none => simp [hr, hp] at h
      | some p =>
          cases he : edit? r p with
          | none => simp [hr, hp, he] at h
          | some e' =>
              simp only [hr, hp, Option.bind_some, he] at h
              exact ⟨r, p, hp, he.trans (congrArg some (Except.ok.inj h))⟩

theorem onVector_ok {name : String} {edit : Ref → VectorPart → Edit} {e : Edit} {shown : Shown}
    (h : w.onVector name edit = .ok (e, shown)) :
    ∃ r q, w.parts[r]? = some (.vector q) ∧ e = edit r q := by
  obtain ⟨r, p, stands, hp⟩ := onPart_ok h
  cases p with
  | vector q =>
      cases hp
      exact ⟨r, q, stands, rfl⟩
  | filter _ | must _ | should _ | mustNot _ | whole _ | value _ => cases hp

theorem extendValues_eq_some {v : Value} {p p' : Part VectorPart}
    (h : extendValues v p = some p') : p'.refs? = p.refs? ∧ p'.clauses = p.clauses := by
  unfold extendValues at h
  split at h <;> cases h
  exact ⟨rfl, rfl⟩

theorem extendClauses_eq_some {r : Ref} {p p' : Part VectorPart}
    (h : extendClauses r p = some p') :
    p'.refs? = p.refs? ∧ p'.clauses = p.clauses ++ [r] := by
  unfold extendClauses at h
  split at h <;> cases h <;> exact ⟨rfl, rfl⟩

theorem named_of_mapM {names : List String} {rs : List Ref} (h : names.mapM w.find = .ok rs) :
    ∀ r ∈ rs, w.Named r := by
  induction names generalizing rs with
  | nil =>
      cases h
      exact List.forall_mem_nil _
  | cons name names ih =>
      rw [List.mapM_cons] at h
      cases hr : w.find name with
      | error _ =>
          rw [hr] at h
          cases h
      | ok r =>
          cases hrs : names.mapM w.find with
          | error _ =>
              rw [hr, hrs] at h
              cases h
          | ok rs' =>
              rw [hr, hrs] at h
              cases h
              exact List.forall_mem_cons.2 ⟨⟨name, hr⟩, ih hrs⟩

theorem due_of_resolve {s : Step} {edit : Edit} {shown : Shown}
    (h : w.resolve s = .ok (edit, shown)) : Due w (w.change? s) edit := by
  cases s with
  | define name tree =>
      cases h
      exact .define name tree
  | must name of | should name of =>
      cases hrs : of.mapM w.find with
      | error _ => simp [resolve, hrs, bind, Except.bind] at h
      | ok rs =>
          simp only [resolve, hrs, bind, Except.bind] at h
          cases h
          exact .build name rfl (named_of_mapM hrs)
  | mustNot name of | whole name of =>
      cases hr : w.find of with
      | error _ => simp [resolve, hr, bind, Except.bind] at h
      | ok r =>
          simp only [resolve, hr, bind, Except.bind] at h
          cases h
          exact .build name rfl (List.forall_mem_singleton.2 ⟨of, hr⟩)
  | metricType on metric | top on k =>
      obtain ⟨r, q, stands, rfl⟩ := onVector_ok h
      exact .alter stands rfl (List.forall_mem_nil _)
  | param on key v =>
      obtain ⟨r, q, stands, rfl⟩ := onVector_ok h
      exact .queryParam stands key v
  | addVector on vector =>
      obtain ⟨r, q, stands, rfl⟩ := onVector_ok h
      exact .addVector stands vector
  | addClause on clause =>
      cases hc : w.find clause with
      | error _ => simp [resolve, hc, bind, Except.bind] at h
      | ok c =>
          simp only [resolve, hc, bind, Except.bind] at h
          obtain ⟨r, p, stands, hp⟩ := onPart_ok h
          obtain ⟨p', hp', same⟩ := Option.map_eq_some_iff.1 hp
          cases same
          obtain ⟨refs, clauses⟩ := extendClauses_eq_some hp'
          refine .alter stands refs fun c' mem => ?_
          rcases List.mem_append.1 (clauses ▸ mem) with mem | mem
          · exact .inl mem
          · exact .inr ⟨clause, List.mem_singleton.1 mem ▸ hc⟩
  | addValue on v =>
      obtain ⟨r, p, stands, hp⟩ := onPart_ok h
      obtain ⟨p', hp', same⟩ := Option.map_eq_some_iff.1 hp
      cases same
      obtain ⟨refs, clauses⟩ := extendValues_eq_some hp'
      exact .alter stands refs fun c mem => .inl (clauses ▸ mem)
  | compile of keepAs? =>
      cases hr : w.find of with
      | error _ => simp [resolve, hr, bind, Except.bind] at h
      | ok r =>
          cases hc : w.compile r with
          | error _ => simp [resolve, hr, hc, bind, Except.bind] at h
          | ok c =>
              simp only [resolve, hr, hc, bind, Except.bind] at h
              cases h
              exact .request (compile_ok hc).1 c.condition? keepAs?
  | look name =>
      cases h
      exact .nothing
  | setParam name key v =>
      cases hk : Keyed.get? name w.kept with
      | none =>
          simp only [resolve, hk] at h
          cases h
          simp only [change?, hk]
          exact .nothing
      | some k =>
          simp only [change?, hk, Option.map_some]
          cases hr : w.requests[k]? with
          | none =>
              simp only [resolve, hk, Option.bind_some, hr] at h
              cases h
              exact .missing hr
          | some r =>
              simp only [resolve, hk, Option.bind_some, hr] at h
              cases h
              exact .requestParam (c := (k, key, v)) hr

/-- A step that fails comes to the edit that does nothing. -/
theorem exists_due (w : Workbench) (s : Step) :
    ∃ edit, Due w (w.change? s) edit ∧ (w.step s).2 = w.apply edit := by
  cases h : w.resolve s with
  | ok e => exact ⟨e.1, due_of_resolve h, by rw [step, h]⟩
  | error e =>
      refine ⟨.nothing, ?_, by rw [step, h]; rfl⟩
      cases s with
      | setParam name key v =>
          simp only [resolve] at h
          split at h <;> cases h
      | _ => exact .nothing

end Workbench
end FilmIndex
