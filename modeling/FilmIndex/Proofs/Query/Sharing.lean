import FilmIndex.Proofs.Query.Resolution

/-!
Sessions at a workbench. Compilation changes no part and no earlier request. A request keeps
everything but its vectors, which are those of its query at any time, until its own
parameters are set; that in turn changes nothing else, now or later.
-/

namespace FilmIndex
namespace Workbench

variable {w w' : Workbench}

/-! ## Sessions -/

theorem sound_empty : Sound {} :=
  ⟨fun _ mem => absurd mem List.not_mem_nil, List.forall_mem_nil _, List.nodup_nil⟩

theorem Sound.step (sound : w.Sound) (s : Step) : (w.step s).2.Sound := by
  obtain ⟨edit, due, same⟩ := exists_due w s
  exact same ▸ sound.apply due

theorem Sound.after (sound : w.Sound) (steps : List Step) : (w.after steps).Sound := by
  induction steps generalizing w with
  | nil => exact sound
  | cons s steps ih => exact ih (sound.step s)

theorem extends_step (w : Workbench) (s : Step) : Extends w (w.step s).2 := by
  obtain ⟨edit, due, same⟩ := exists_due w s
  exact same ▸ extends_apply due

theorem extends_after (w : Workbench) (steps : List Step) : Extends w (w.after steps) := by
  induction steps generalizing w with
  | nil => exact .refl w
  | cons s steps ih => exact (extends_step w s).trans (ih _)

theorem Extends.request (h : Extends w w') {k : Ref} {r : Request}
    (stands : w.requests[k]? = some r) : w'.requests[k]? = some r := by
  obtain ⟨more, hmore⟩ := h.requests
  rw [← hmore, List.getElem?_append_left (List.getElem?_eq_some_iff.1 stands).1, stands]

/-- What the steps of a session set in the parameters of the request at a place. -/
def changes (w : Workbench) (k : Ref) : List Step → Fields
  | [] => []
  | s :: steps => Change.params k (w.change? s) ++ changes (w.step s).2 k steps

theorem tableAt_after (sound : w.Sound) {k : Ref} {r : Request}
    (stands : w.requests[k]? = some r) (steps : List Step) :
    (w.after steps).tableAt r.params = Keyed.putAll (w.tableAt r.params) (w.changes k steps) := by
  induction steps generalizing w with
  | nil => rfl
  | cons s steps ih =>
      obtain ⟨edit, due, same⟩ := exists_due w s
      have first : (w.step s).2.tableAt r.params =
          Keyed.putAll (w.tableAt r.params) (Change.params k (w.change? s)) :=
        same ▸ tableAt_apply sound due stands
      calc (w.after (s :: steps)).tableAt r.params
          = ((w.step s).2.after steps).tableAt r.params := rfl
        _ = Keyed.putAll ((w.step s).2.tableAt r.params) ((w.step s).2.changes k steps) :=
            ih (sound.step s) ((extends_step w s).request stands)
        _ = Keyed.putAll (w.tableAt r.params) (w.changes k (s :: steps)) := by
            rw [first, changes, Keyed.putAll, Keyed.putAll, ← List.foldl_append]
            rfl

/-- A request later on: its own changes are made, and its vectors may have grown. -/
structure Carried (changes : Fields) (req req' : SearchRequest) : Prop where
  field : req'.field = req.field
  metric : req'.metric = req.metric
  limit : req'.limit = req.limit
  condition? : req'.condition? = req.condition?
  params : req'.params = Keyed.putAll req.params changes
  vectors : req.vectors <+: req'.vectors

theorem exists_carried (sound : w.Sound) {k : Ref} {req : SearchRequest}
    (h : w.requestAt? k = some req) (steps : List Step) :
    ∃ req', (w.after steps).requestAt? k = some req' ∧ Carried (w.changes k steps) req req' := by
  obtain ⟨r, stands, rfl⟩ := Option.map_eq_some_iff.1 h
  have later := extends_after w steps
  refine ⟨(w.after steps).request r, by rw [requestAt?, later.request stands]; rfl, ?_⟩
  exact ⟨rfl, rfl, rfl, rfl, tableAt_after sound stands steps, later.vectors r.vectors⟩

/-- A request of a vector query has its vectors at any time. -/
theorem exists_shared {k source : Ref} {r : Request} {q : VectorPart}
    (stands : w.requests[k]? = some r) (stands' : w.parts[source]? = some (.vector q))
    (shared : r.vectors = q.vectors) (steps : List Step) :
    ∃ q' req, (w.after steps).partAt? source = some (.vector q') ∧
      (w.after steps).requestAt? k = some req ∧ req.vectors = q'.vectors := by
  have later := extends_after w steps
  obtain ⟨q', stands'', same⟩ := later.queries source q stands'
  refine ⟨(w.after steps).query q', (w.after steps).request r, ?_, ?_, ?_⟩
  · rw [partAt?, stands'']
    rfl
  · rw [requestAt?, later.request stands]
    rfl
  · exact congrArg (w.after steps).vectorsAt (shared.trans same.symm)

/-! ## Compilation -/

/-- All parts and all requests but the one at a place are the same. -/
structure SameBut (k : Ref) (w w' : Workbench) : Prop where
  parts : ∀ r, w'.partAt? r = w.partAt? r
  requests : ∀ j, j ≠ k → w'.requestAt? j = w.requestAt? j

namespace SameBut

variable {k : Ref}

theorem refl (k : Ref) (w : Workbench) : SameBut k w w := ⟨fun _ => rfl, fun _ _ => rfl⟩

theorem keep (h : SameBut k w w') (name? : Option String) (r : Ref) :
    SameBut k w (Workbench.keep name? (w', r)) := by
  cases name? <;> exact ⟨h.parts, h.requests⟩

/-- Parts and requests are the same where the objects that they refer to are. -/
theorem of_tables (parts : w'.parts = w.parts) (vectorLists : w'.vectorLists = w.vectorLists)
    (queries : ∀ q, Part.vector q ∈ w.parts → w'.tableAt q.params = w.tableAt q.params)
    (requests : ∀ j, j ≠ k → w'.requests[j]? = w.requests[j]?)
    (own : ∀ j r, j ≠ k → w.requests[j]? = some r → w'.tableAt r.params = w.tableAt r.params) :
    SameBut k w w' where
  parts r := by
    rw [partAt?, partAt?, parts]
    cases hp : w.parts[r]? with
    | none => rfl
    | some p =>
        cases p with
        | vector q =>
            simp only [Option.map_some, Part.map, query, vectorsAt, vectorLists,
              queries q (List.mem_of_getElem? hp)]
        | filter _ | must _ | should _ | mustNot _ | whole _ | value _ => rfl
  requests j hj := by
    rw [requestAt?, requestAt?, requests j hj]
    cases hr : w.requests[j]? with
    | none => rfl
    | some r => simp only [Option.map_some, request, vectorsAt, vectorLists, own j r hj hr]

end SameBut

theorem sameBut_addRequest (sound : w.Sound) (q : VectorPart) (condition? : Option Condition) :
    SameBut w.requests.length w (w.addRequest q condition?).1 := by
  have before {i : Ref} (hi : i < w.tables.length) :
      (w.addRequest q condition?).1.tableAt i = w.tableAt i := by
    rw [tableAt, addRequest, List.getElem?_append_left hi]
    rfl
  refine .of_tables rfl rfl (fun q' mem => before (sound.queries q' mem).1) (fun j hj => ?_)
    fun j r _ hr => before (sound.requests r (List.mem_of_getElem? hr))
  rw [addRequest]
  rcases Nat.lt_or_gt_of_ne hj with hj | hj
  · exact List.getElem?_append_left hj
  · rw [List.getElem?_eq_none (Nat.le_of_lt hj)]
    refine List.getElem?_eq_none ?_
    rw [List.length_append]
    exact hj

/-- Compilation fails, or it makes a request of the vector query that it finds. -/
theorem step_compile (w : Workbench) (of : String) (keepAs? : Option String) :
    (∃ e, w.step (.compile of keepAs?) = (.error e, w)) ∨
    ∃ r c, w.find of = .ok r ∧ w.compile r = .ok c ∧
      (w.step (.compile of keepAs?)).2 = keep keepAs? (w.addRequest c.query c.condition?) := by
  simp only [step, resolve, bind, Except.bind]
  cases w.find of with
  | error e => exact .inl ⟨e, rfl⟩
  | ok r =>
      simp only
      cases hc : w.compile r with
      | error e => exact .inl ⟨e, rfl⟩
      | ok c => exact .inr ⟨r, c, rfl, hc, rfl⟩

theorem sameBut_compile (sound : w.Sound) (of : String) (keepAs? : Option String) :
    SameBut w.requests.length w (w.step (.compile of keepAs?)).2 := by
  rcases step_compile w of keepAs? with ⟨e, failed⟩ | ⟨r, c, -, -, done⟩
  · rw [failed]
    exact .refl _ w
  · rw [done]
    exact (sameBut_addRequest sound c.query c.condition?).keep keepAs? _

/-- What was compiled, as it is then and later. The request has the values of its vector
query, and it has the vectors of that query for ever. -/
structure Shares (w w' : Workbench) (c : Compiled) : Prop where
  made : ∃ q req, w.partAt? c.source = some (.vector q) ∧ q.request c.condition? = .ok req ∧
    w'.requestAt? w.requests.length = some req
  shared : ∀ steps, ∃ q req, (w'.after steps).partAt? c.source = some (.vector q) ∧
    (w'.after steps).requestAt? w.requests.length = some req ∧ req.vectors = q.vectors

theorem shares_compile {of : String} {r : Ref} {c : Compiled} (keepAs? : Option String)
    (named : w.find of = .ok r) (h : w.compile r = .ok c) :
    Shares w (w.step (.compile of keepAs?)).2 c := by
  have done : (w.step (.compile of keepAs?)).2 =
      keep keepAs? (w.addRequest c.query c.condition?) := by
    simp only [step, resolve, named, h, bind, Except.bind]
    rfl
  obtain ⟨source, sound⟩ := compile_ok h
  let made : Request :=
    ⟨c.query.vectors, c.query.field.name, c.query.metric, w.tables.length, c.query.limit,
      c.condition?⟩
  have new : (w.step (.compile of keepAs?)).2.requests[w.requests.length]? = some made := by
    rw [done]
    cases keepAs? <;> simp [keep, addRequest, made]
  have source' : (w.step (.compile of keepAs?)).2.parts[c.source]? = some (.vector c.query) := by
    rw [done]
    cases keepAs? <;> exact source
  have copied : (w.step (.compile of keepAs?)).2.tableAt w.tables.length =
      w.tableAt c.query.params := by
    rw [done]
    cases keepAs? <;> simp [keep, addRequest, tableAt]
  have listed : (w.step (.compile of keepAs?)).2.vectorsAt c.query.vectors =
      w.vectorsAt c.query.vectors := by
    rw [done]
    cases keepAs? <;> rfl
  refine ⟨⟨w.query c.query, (w.step (.compile of keepAs?)).2.request made, ?_, ?_, ?_⟩,
    exists_shared new source' rfl⟩
  · rw [partAt?, source]
    rfl
  · rw [VectorQuery.request, sound]
    simp only [request, query, made, copied, listed]
  · rw [requestAt?, new]
    rfl

/-! ## Parameters set anew -/

section
variable {i : Ref} (t : Fields)

theorem fault?_withTable (q : VectorPart) :
    ((w.withTable i t).query q).fault? = (w.query q).fault? := rfl

/-- What a step comes to does not depend on any parameters. -/
theorem resolve_withTable (s : Step) : (w.withTable i t).resolve s = w.resolve s := by
  have compiled (r : Ref) : (w.withTable i t).compile r = w.compile r := by
    simp only [compile, fault?_withTable]
    rfl
  cases s with
  | compile of keepAs? =>
      simp only [resolve, compiled]
      rfl
  | _ => rfl

theorem addQuery_withTable (q : VectorQuery) (hi : i < w.tables.length) :
    (w.withTable i t).addQuery q = ((w.addQuery q).1.withTable i t, (w.addQuery q).2) := by
  simp only [addQuery, add, withTable, List.length_set, List.set_append_left _ _ hi]

theorem addTrees_withTable {cs : List (Clause VectorQuery)}
    (h : ∀ c ∈ cs, ∀ w : Workbench, i < w.tables.length →
      (w.withTable i t).addTree c = ((w.addTree c).1.withTable i t, (w.addTree c).2))
    (w : Workbench) (hi : i < w.tables.length) :
    (w.withTable i t).addTrees cs = ((w.addTrees cs).1.withTable i t, (w.addTrees cs).2) := by
  induction cs generalizing w with
  | nil => rfl
  | cons c cs ih =>
      obtain ⟨hc, hcs⟩ := List.forall_mem_cons.1 h
      have grown := (adds_addTree c w).tables.length_le
      simp only [addTrees, hc w hi, ih hcs _ (Nat.lt_of_lt_of_le hi grown)]

theorem addTree_withTable (c : Clause VectorQuery) (w : Workbench) (hi : i < w.tables.length) :
    (w.withTable i t).addTree c = ((w.addTree c).1.withTable i t, (w.addTree c).2) := by
  induction c using Clause.clauseInduction generalizing w with
  | vector q => exact addQuery_withTable t q hi
  | filter _ | value _ => rfl
  | must cs ih | should cs ih =>
      simp only [addTree, addTrees_withTable t ih w hi]
      rfl
  | mustNot c ih | whole c ih =>
      simp only [addTree, ih w hi]
      rfl

/-- An edit does the same where other parameters stand for those of a request. -/
theorem exists_apply_withTable {c? : Option Change} {edit : Edit} (due : Due w c? edit)
    (hi : i < w.tables.length) (apart : ∀ q, Part.vector q ∈ w.parts → q.params ≠ i) :
    ∃ t', (w.withTable i t).apply edit = (w.apply edit).withTable i t' := by
  cases due with
  | nothing | missing _ | build _ _ _ | alter _ _ _ | addVector _ _ => exact ⟨t, rfl⟩
  | define name tree =>
      refine ⟨t, ?_⟩
      simp only [apply, addTree_withTable t tree w hi]
      rfl
  | @queryParam _ q stands key v =>
      have other := apart q (List.mem_of_getElem? stands)
      refine ⟨t, ?_⟩
      simp only [apply, tableAt_withTable_ne other.symm]
      simp only [withTable, List.set_comm _ _ other]
  | @requestParam c r _ =>
      by_cases same : r.params = i
      · subst same
        refine ⟨Keyed.put c.2.1 c.2.2 t, ?_⟩
        simp only [apply, tableAt_withTable_self hi]
        simp only [withTable, List.set_set]
      · refine ⟨t, ?_⟩
        simp only [apply, tableAt_withTable_ne (Ne.symm same)]
        simp only [withTable, List.set_comm _ _ same]
  | @request _ q stands condition? keepAs? =>
      have other := apart q (List.mem_of_getElem? stands)
      refine ⟨t, ?_⟩
      have added : (w.withTable i t).addRequest q condition? =
          ((w.addRequest q condition?).1.withTable i t, (w.addRequest q condition?).2) := by
        simp only [addRequest, tableAt_withTable_ne other.symm]
        simp only [withTable, List.length_set, List.set_append_left _ _ hi]
      simp only [apply, added]
      cases keepAs? <;> rfl

end

/-- The parameters of the request at a place are an object of this workbench. -/
theorem exists_step_withTable (sound : w.Sound) {k : Ref} {r : Request}
    (stands : w.requests[k]? = some r) (t : Fields) (s : Step) :
    ∃ t', ((w.withTable r.params t).step s).2 = (w.step s).2.withTable r.params t' := by
  have inside := sound.requests r (List.mem_of_getElem? stands)
  have apart (q : VectorPart) (mem : Part.vector q ∈ w.parts) : q.params ≠ r.params :=
    ((sound.queries q mem).2 r (List.mem_of_getElem? stands)).symm
  simp only [step, resolve_withTable]
  cases h : w.resolve s with
  | error e => exact ⟨t, rfl⟩
  | ok e => exact exists_apply_withTable t (due_of_resolve h) inside apart

theorem exists_after_withTable (sound : w.Sound) {k : Ref} {r : Request}
    (stands : w.requests[k]? = some r) (t : Fields) (steps : List Step) :
    ∃ t', (w.withTable r.params t).after steps = (w.after steps).withTable r.params t' := by
  induction steps generalizing w t with
  | nil => exact ⟨t, rfl⟩
  | cons s steps ih =>
      obtain ⟨t', same⟩ := exists_step_withTable sound stands t s
      obtain ⟨t'', same'⟩ := ih (sound.step s) ((extends_step w s).request stands) t'
      refine ⟨t'', ?_⟩
      calc (w.withTable r.params t).after (s :: steps)
          = ((w.withTable r.params t).step s).2.after steps := rfl
        _ = ((w.step s).2.withTable r.params t').after steps := by rw [same]
        _ = (w.after (s :: steps)).withTable r.params t'' := same'

theorem sameBut_withTable (sound : w.Sound) {k : Ref} {r : Request}
    (stands : w.requests[k]? = some r) (t : Fields) :
    SameBut k w (w.withTable r.params t) := by
  refine .of_tables rfl rfl (fun q mem => ?_) (fun _ _ => rfl) fun j r' hj hr' => ?_
  · exact tableAt_withTable_ne ((sound.queries q mem).2 r (List.mem_of_getElem? stands)) t
  · exact tableAt_withTable_ne (sound.params_ne stands hr' hj.symm) t

theorem shown_compile {of : String} {keepAs? : Option String} {edit : Edit} {shown : Shown}
    (h : w.resolve (.compile of keepAs?) = .ok (edit, shown)) :
    shown = .request w.requests.length := by
  simp only [resolve, bind, Except.bind] at h
  cases hr : w.find of with
  | error _ => simp [hr] at h
  | ok r =>
      cases hc : w.compile r with
      | error _ => simp [hr, hc] at h
      | ok c =>
          simp only [hr, hc] at h
          cases h
          rfl

/-- What a compilation answers does not depend on the parameters of an earlier request. -/
theorem compile_withTable (sound : w.Sound) {k : Ref} {r : Request}
    (stands : w.requests[k]? = some r) (t : Fields) (of : String) (keepAs? : Option String) :
    ((w.withTable r.params t).step (.compile of keepAs?)).1 =
      (w.step (.compile of keepAs?)).1 := by
  obtain ⟨t', same⟩ := exists_step_withTable sound stands t (.compile of keepAs?)
  have others := sameBut_withTable (sound.step (.compile of keepAs?))
    ((extends_step w (.compile of keepAs?)).request stands) t'
  have other : w.requests.length ≠ k :=
    Nat.ne_of_gt (List.getElem?_eq_some_iff.1 stands).1
  have answered := others.requests _ other
  rw [← same] at answered
  simp only [step, resolve_withTable] at answered ⊢
  cases h : w.resolve (.compile of keepAs?) with
  | error e => rfl
  | ok e =>
      obtain ⟨edit, shown⟩ := e
      simp only [h] at answered
      simp only [shown_compile h, answer, answered]

/-! ## The whole -/

/-- Two sessions that differ in the parameters of the request at a place: all else is the
same, and the same comes of every compilation. -/
structure Alike (k : Ref) (w w' : Workbench) : Prop where
  objects : SameBut k w w'
  compiles : ∀ of keepAs?, (w'.step (.compile of keepAs?)).1 = (w.step (.compile of keepAs?)).1

theorem alike_setParam (sound : w.Sound) {name : String} {k : Ref}
    (kept : Keyed.get? name w.kept = some k) (key : String) (v : Value) (steps : List Step) :
    Alike k (w.after steps) ((w.step (.setParam name key v)).2.after steps) := by
  have refl (w : Workbench) : Alike k w w := ⟨.refl k w, fun _ _ => rfl⟩
  cases stands : w.requests[k]? with
  | none =>
      have same : (w.step (.setParam name key v)).2 = w := by
        simp only [step, resolve, kept, Option.bind_some, stands]
        rfl
      rw [same]
      exact refl _
  | some r =>
      have same : (w.step (.setParam name key v)).2 =
          w.withTable r.params (Keyed.put key v (w.tableAt r.params)) := by
        simp only [step, resolve, kept, Option.bind_some, stands]
        rfl
      obtain ⟨t, twin⟩ := exists_after_withTable sound stands
        (Keyed.put key v (w.tableAt r.params)) steps
      have sound' := sound.after steps
      have stands' := (extends_after w steps).request stands
      rw [same, twin]
      exact ⟨sameBut_withTable sound' stands' t, compile_withTable sound' stands' t⟩

/-- At any time of a session: compilation changes no part and no earlier request; a request
stays as it was compiled, but for changes of its own parameters and new vectors of its
query, whose vectors it has at any time; and such a change of parameters changes nothing
else, nor what later compilations give. -/
theorem session_sharing (steps : List Step) :
    let w := after {} steps
    (∀ of keepAs?, SameBut w.requests.length w (w.step (.compile of keepAs?)).2) ∧
    (∀ k req, w.requestAt? k = some req → ∀ later, ∃ req',
      (w.after later).requestAt? k = some req' ∧ Carried (w.changes k later) req req') ∧
    (∀ of keepAs? r c, w.find of = .ok r → w.compile r = .ok c →
      Shares w (w.step (.compile of keepAs?)).2 c) ∧
    ∀ name k, Keyed.get? name w.kept = some k → ∀ key v later,
      Alike k (w.after later) ((w.step (.setParam name key v)).2.after later) := by
  intro w
  have sound : w.Sound := sound_empty.after steps
  refine ⟨sameBut_compile sound, fun k req h later => exists_carried sound h later, ?_, ?_⟩
  · exact fun of keepAs? r c named compiled => shares_compile keepAs? named compiled
  · exact fun name k kept key v later => alike_setParam sound kept key v later

/-- A query that gets a second vector after it was compiled, and a request that gets a
parameter. -/
theorem session_sharing_twice :
    let q : VectorQuery := { field := ⟨"embedding", 1⟩, vectors := [[.int 1]] }
    let w := after {} [.define "q" (.vector q), .top "q" (.int 3), .compile "q" (some "a")]
    let later : List Step := [.addVector "q" [.int 2], .setParam "a" "nprobe" (.int 8)]
    (∃ req req', w.requestAt? 0 = some req ∧ (w.after later).requestAt? 0 = some req' ∧
      Carried [("nprobe", .int 8)] req req') ∧
    (∃ c, w.find "q" = .ok 0 ∧ w.compile 0 = .ok c ∧ Shares w (w.step (.compile "q" none)).2 c) ∧
    Keyed.get? "a" w.kept = some 0 ∧
      Alike 0 (w.after later) ((w.step (.setParam "a" "nprobe" (.int 9))).2.after later) := by
  intro q w later
  obtain ⟨-, carried, shares, alike⟩ := session_sharing
    [.define "q" (.vector q), .top "q" (.int 3), .compile "q" (some "a")]
  obtain ⟨req', stands, carried⟩ := carried 0 _ rfl later
  exact ⟨⟨_, req', rfl, stands, carried⟩, ⟨_, rfl, rfl, shares "q" none 0 _ rfl rfl⟩, rfl,
    alike "a" 0 rfl "nprobe" (.int 9) later⟩

end Workbench
end FilmIndex
