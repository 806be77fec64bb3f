import FilmIndex.Proofs.Query.Acceptance
import Mathlib.Logic.Relation

/-!
Rewrites of a query tree that leave its request as it is: a part wrapped, a clause put in that
asks nothing, the vector query moved. Of a part, the rest of a tree sees no more than its first
fault, its vector queries and its condition, so that two parts alike in these can stand for each
other anywhere. A vector query that is moved counts towards the vector queries in any place, and
towards the faults only where it need not hold.
-/

namespace FilmIndex
namespace Clause

variable {ν : Type}

/-- A place in a tree: the tree with one part of it left out. -/
inductive Place (ν : Type) where
  | root
  | must (before : List (Clause ν)) (inner : Place ν) (after : List (Clause ν))
  | should (before : List (Clause ν)) (inner : Place ν) (after : List (Clause ν))
  | mustNot (inner : Place ν)
  | whole (inner : Place ν)

namespace Place

/-- The tree with the given part at the place. -/
def fill : Place ν → Clause ν → Clause ν
  | root, c => c
  | must before inner after, c => .must (before ++ inner.fill c :: after)
  | should before inner after, c => .should (before ++ inner.fill c :: after)
  | mustNot inner, c => .mustNot (inner.fill c)
  | whole inner, c => .whole (inner.fill c)

/-- What stands at the place must hold if the tree must. -/
def Required : Place ν → Prop
  | root => True
  | must _ inner _ | whole inner => inner.Required
  | should .. | mustNot _ => False

end Place

/-- No vector query occurs in the tree. -/
def Vectorless (c : Clause ν) : Prop := ∀ o ∈ c.occurrences, ∀ q, o.node ≠ vector q

/-- The tree consists of nothing but connectives, such as `must []` or `mustNot (should [])`. -/
inductive Bare : Clause ν → Prop
  | must {cs : List (Clause ν)} (h : ∀ c ∈ cs, Bare c) : Bare (must cs)
  | should {cs : List (Clause ν)} (h : ∀ c ∈ cs, Bare c) : Bare (should cs)
  | mustNot {c : Clause ν} (h : Bare c) : Bare (mustNot c)
  | whole {c : Clause ν} (h : Bare c) : Bare (whole c)

/-- One rewrite somewhere in a tree. -/
inductive Rewrite : Clause ν → Clause ν → Prop
  | wrapWhole (p : Place ν) (c : Clause ν) : Rewrite (p.fill c) (p.fill (whole c))
  | wrapMust (p : Place ν) (c : Clause ν) : Rewrite (p.fill c) (p.fill (must [c]))
  | wrapShould (p : Place ν) (c : Clause ν) (vectorless : c.Vectorless) :
      Rewrite (p.fill c) (p.fill (should [c]))
  | insertMust (p : Place ν) (before after : List (Clause ν)) (c : Clause ν) (bare : c.Bare) :
      Rewrite (p.fill (must (before ++ after))) (p.fill (must (before ++ c :: after)))
  | insertShould (p : Place ν) (before after : List (Clause ν)) (c : Clause ν) (bare : c.Bare) :
      Rewrite (p.fill (should (before ++ after))) (p.fill (should (before ++ c :: after)))
  /-- Without its vector query the tree is the same before and after. -/
  | moveVector (q : ν) (source target : Place ν) (before after before' after' : List (Clause ν))
      (rest : source.fill (must (before ++ after)) = target.fill (must (before' ++ after')))
      (required : target.Required) :
      Rewrite (source.fill (must (before ++ vector q :: after)))
        (target.fill (must (before' ++ vector q :: after')))

/-! ## Parts that stand for each other -/

/-- The rest of a tree cannot tell the two apart. -/
structure Alike (c c' : Clause ν) : Prop where
  fault : ∀ required, fault? required c' = fault? required c
  vectors : c'.vectors = c.vectors
  condition : c'.condition? = c.condition?

theorem condition?_fill {c c' : Clause ν} (h : c'.condition? = c.condition?) (p : Place ν) :
    (p.fill c').condition? = (p.fill c).condition? := by
  induction p with
  | root => exact h
  | must before inner after ih | should before inner after ih =>
      simp only [Place.fill, condition?, conditionsOfEach_eq, List.filterMap_append,
        List.filterMap_cons, ih]
  | mustNot inner ih => simp only [Place.fill, condition?, ih]
  | whole inner ih => exact ih

theorem exists_vectors_fill (p : Place ν) :
    ∃ before after, ∀ c, (p.fill c).vectors = before ++ c.vectors ++ after := by
  induction p with
  | root => exact ⟨[], [], fun c => by rw [Place.fill, List.nil_append, List.append_nil]⟩
  | must first inner last ih | should first inner last ih =>
      obtain ⟨before, after, h⟩ := ih
      refine ⟨first.flatMap vectors ++ before, after ++ last.flatMap vectors, fun c => ?_⟩
      simp only [Place.fill, vectors, vectorsOfEach_eq, List.flatMap_append, List.flatMap_cons, h,
        List.append_assoc]
  | mustNot inner ih | whole inner ih => exact ih

theorem Alike.fill {c c' : Clause ν} (h : Alike c c') (p : Place ν) :
    Alike (p.fill c) (p.fill c') := by
  refine ⟨?_, ?_, condition?_fill h.condition p⟩
  · induction p with
    | root => exact h.fault
    | must before inner after ih | should before inner after ih =>
        intro required
        simp only [Place.fill, fault?, faultOfEach?_eq, List.findSome?_append,
          List.findSome?_cons, ih]
    | mustNot inner ih => exact fun _ => ih false
    | whole inner ih => exact ih
  · obtain ⟨before, after, filled⟩ := exists_vectors_fill p
    rw [filled, filled, h.vectors]

theorem alike_whole (c : Clause ν) : Alike c (whole c) := ⟨fun _ => rfl, rfl, rfl⟩

theorem together?_filterMap_singleton (join : List Condition → Condition) (c : Clause ν) :
    Condition.together? join ([c].filterMap condition?) = c.condition? := by
  rw [List.filterMap_cons, List.filterMap_nil]
  cases c.condition? <;> rfl

theorem fault?_must_singleton (required : Bool) (c : Clause ν) :
    fault? required (must [c]) = fault? required c := by
  rw [fault?, faultOfEach?_eq, List.findSome?_singleton]

theorem alike_must (c : Clause ν) : Alike c (must [c]) := by
  refine ⟨fun required => fault?_must_singleton required c, ?_, ?_⟩
  · rw [vectors, vectorsOfEach_eq, List.flatMap_singleton]
  · rw [condition?, conditionsOfEach_eq, together?_filterMap_singleton]

theorem Vectorless.vectors_eq {c : Clause ν} (h : c.Vectorless) : c.vectors = [] := by
  rw [← List.length_eq_zero_iff, length_vectors, List.length_eq_zero_iff, List.filter_eq_nil_iff]
  intro o ho
  rw [← Occurrence.isSome_vector?, Option.isSome_iff_exists]
  rintro ⟨q, hq⟩
  exact h o ho q ((o.vector?_eq_some_iff q).1 hq)

theorem faultOfEach?_congr {required required' : Bool} {cs : List (Clause ν)}
    (h : ∀ c ∈ cs, fault? required c = fault? required' c) :
    faultOfEach? required cs = faultOfEach? required' cs := by
  induction cs with
  | nil => rfl
  | cons c cs ih =>
      obtain ⟨hc, hcs⟩ := List.forall_mem_cons.1 h
      rw [faultOfEach?, faultOfEach?, hc, ih hcs]

/-- Only vector queries can be at fault for where they stand. -/
theorem fault?_of_vectors_eq_nil (c : Clause ν) (h : c.vectors = []) (required : Bool) :
    fault? required c = fault? false c := by
  induction c using clauseInduction generalizing required with
  | vector q => cases h
  | filter f | value v | should cs _ | mustNot c _ => rfl
  | must cs ih =>
      rw [vectors, vectorsOfEach_eq, List.flatMap_eq_nil_iff] at h
      rw [fault?, fault?]
      exact faultOfEach?_congr fun c hc => ih c hc (h c hc) required
  | whole c ih => exact ih h required

theorem Vectorless.alike_should {c : Clause ν} (h : c.Vectorless) : Alike c (should [c]) := by
  refine ⟨fun required => ?_, ?_, ?_⟩
  · rw [fault?_of_vectors_eq_nil c h.vectors_eq required]
    exact fault?_must_singleton false c
  · rw [vectors, vectorsOfEach_eq, List.flatMap_singleton]
  · rw [condition?, conditionsOfEach_eq, together?_filterMap_singleton]

/-- Nothing is asked by a tree without filters, vector queries and values. -/
structure Silent (c : Clause ν) : Prop where
  fault : ∀ required, fault? required c = none
  vectors : c.vectors = []
  condition : c.condition? = none

theorem silent_of_each {cs : List (Clause ν)} (h : ∀ c ∈ cs, Silent c) :
    Silent (must cs) ∧ Silent (should cs) := by
  have fault (required : Bool) : faultOfEach? required cs = none := by
    rw [faultOfEach?_eq, List.findSome?_eq_none_iff]
    exact fun c hc => (h c hc).fault required
  have vectors : vectorsOfEach cs = [] := by
    rw [vectorsOfEach_eq, List.flatMap_eq_nil_iff]
    exact fun c hc => (h c hc).vectors
  have conditions : conditionsOfEach cs = [] := by
    rw [conditionsOfEach_eq, List.filterMap_eq_nil_iff]
    exact fun c hc => (h c hc).condition
  refine ⟨⟨fault, vectors, ?_⟩, ⟨fun _ => fault false, vectors, ?_⟩⟩
  · rw [condition?, conditions, Condition.together?]
  · rw [condition?, conditions, Condition.together?]

theorem Bare.silent {c : Clause ν} (h : c.Bare) : Silent c := by
  induction h with
  | must _ ih => exact (silent_of_each ih).1
  | should _ ih => exact (silent_of_each ih).2
  | mustNot _ ih => exact ⟨fun _ => ih.fault false, ih.vectors, by rw [condition?, ih.condition]; rfl⟩
  | whole _ ih => exact ⟨ih.fault, ih.vectors, ih.condition⟩

theorem Silent.alike_insert {c : Clause ν} (h : Silent c) (before after : List (Clause ν)) :
    Alike (must (before ++ after)) (must (before ++ c :: after)) ∧
      Alike (should (before ++ after)) (should (before ++ c :: after)) := by
  have fault (required : Bool) :
      faultOfEach? required (before ++ c :: after) = faultOfEach? required (before ++ after) := by
    simp only [faultOfEach?_eq, List.findSome?_append, List.findSome?_cons, h.fault]
  have vectors : vectorsOfEach (before ++ c :: after) = vectorsOfEach (before ++ after) := by
    simp only [vectorsOfEach_eq, List.flatMap_append, List.flatMap_cons, h.vectors,
      List.nil_append]
  have conditions :
      conditionsOfEach (before ++ c :: after) = conditionsOfEach (before ++ after) := by
    simp only [conditionsOfEach_eq, List.filterMap_append, List.filterMap_cons, h.condition]
  refine ⟨⟨fault, vectors, ?_⟩, ⟨fun _ => fault false, vectors, ?_⟩⟩
  · rw [condition?, condition?, conditions]
  · rw [condition?, condition?, conditions]

theorem Alike.compile_eq {c c' : Clause VectorQuery} (h : Alike c c') : c'.compile = c.compile := by
  rw [compile, compile, theVector, theVector, h.fault, h.vectors, h.condition]

/-! ## A vector query put in -/

/-- The second tree is the first with a vector query besides. -/
structure Gains (q : ν) (c c' : Clause ν) : Prop where
  fault : ∀ required, fault? required c' = none → fault? required c = none
  vectors : c'.vectors.Perm (q :: c.vectors)
  condition : c'.condition? = c.condition?

theorem faultOfEach?_append_eq_none_iff {required : Bool} {before after : List (Clause ν)} :
    faultOfEach? required (before ++ after) = none ↔
      (∀ c ∈ before, fault? required c = none) ∧ ∀ c ∈ after, fault? required c = none := by
  rw [faultOfEach?_eq, List.findSome?_eq_none_iff, List.forall_mem_append]

theorem gains_must (q : ν) (before after : List (Clause ν)) :
    Gains q (must (before ++ after)) (must (before ++ vector q :: after)) := by
  refine ⟨fun required h => ?_, ?_, ?_⟩
  · simp only [fault?, faultOfEach?_append_eq_none_iff, List.forall_mem_cons] at h ⊢
    exact ⟨h.1, h.2.2⟩
  · simp only [vectors, vectorsOfEach_eq, List.flatMap_append, List.flatMap_cons]
    exact List.perm_middle
  · simp only [condition?, conditionsOfEach_eq, List.filterMap_append, List.filterMap_cons]

theorem Gains.fill {q : ν} {c c' : Clause ν} (h : Gains q c c') (p : Place ν) :
    Gains q (p.fill c) (p.fill c') := by
  refine ⟨?_, ?_, condition?_fill h.condition p⟩
  · induction p with
    | root => exact h.fault
    | must before inner after ih | should before inner after ih =>
        intro required hf
        simp only [Place.fill, fault?, faultOfEach?_append_eq_none_iff,
          List.forall_mem_cons] at hf ⊢
        exact ⟨hf.1, ih _ hf.2.1, hf.2.2⟩
    | mustNot inner ih => exact fun _ => ih false
    | whole inner ih => exact ih
  · obtain ⟨before, after, filled⟩ := exists_vectors_fill p
    rw [filled, filled]
    exact ((h.vectors.append_left before).trans List.perm_middle).append_right after

/-- Where it must hold, a vector query is not at fault. -/
theorem fault?_fill_vector {p : Place ν} (required : p.Required) (q : ν)
    {before after : List (Clause ν)} (h : fault? true (p.fill (must (before ++ after))) = none) :
    fault? true (p.fill (must (before ++ vector q :: after))) = none := by
  induction p with
  | root =>
      simp only [Place.fill, fault?, faultOfEach?_append_eq_none_iff, List.forall_mem_cons] at h ⊢
      exact ⟨h.1, rfl, h.2⟩
  | must before inner after ih =>
      simp only [Place.fill, fault?, faultOfEach?_append_eq_none_iff, List.forall_mem_cons] at h ⊢
      exact ⟨h.1, ih required h.2.1, h.2.2⟩
  | whole inner ih => exact ih required h
  | should _ _ _ _ | mustNot _ _ => exact required.elim

theorem theVector_eq_ok_iff_vectors (c : Clause ν) (q : ν) :
    c.theVector = .ok q ↔ fault? true c = none ∧ c.vectors = [q] := by
  rw [theVector_eq_ok_iff, fault?_eq_none_iff, vectors_eq_singleton_iff]

theorem theVector_moved {q v : ν} {rest c : Clause ν} {p : Place ν}
    {before after : List (Clause ν)} (gains : Gains q rest c)
    (target : rest = p.fill (must (before ++ after))) (required : p.Required)
    (h : c.theVector = .ok v) :
    (p.fill (must (before ++ vector q :: after))).theVector = .ok v := by
  rw [theVector_eq_ok_iff_vectors] at h ⊢
  have sole : [v].Perm (q :: rest.vectors) := h.2 ▸ gains.vectors
  have regained := (gains_must q before after).fill p
  rw [← target] at regained
  refine ⟨fault?_fill_vector required q (target ▸ gains.fault true h.1), ?_⟩
  exact List.perm_singleton.1 (regained.vectors.trans sole.symm)

/-! ## Requests -/

theorem Rewrite.compile_ok {c c' : Clause VectorQuery} (h : Rewrite c c') {r : SearchRequest}
    (compiled : c.compile = .ok r) : c'.compile = .ok r := by
  cases h with
  | wrapWhole p c => rw [((alike_whole c).fill p).compile_eq, compiled]
  | wrapMust p c => rw [((alike_must c).fill p).compile_eq, compiled]
  | wrapShould p c vectorless => rw [(vectorless.alike_should.fill p).compile_eq, compiled]
  | insertMust p before after c bare =>
      rw [((bare.silent.alike_insert before after).1.fill p).compile_eq, compiled]
  | insertShould p before after c bare =>
      rw [((bare.silent.alike_insert before after).2.fill p).compile_eq, compiled]
  | moveVector q source target before after before' after' rest required =>
      obtain ⟨v, sole, requested⟩ := (compile_eq_ok_iff _ r).1 compiled
      have taken := (gains_must q before after).fill source
      have put := (gains_must q before' after').fill target
      refine (compile_eq_ok_iff _ r).2 ⟨v, theVector_moved taken rest required sole, ?_⟩
      rw [put.condition, ← rest, ← taken.condition]
      exact requested

/-- However an accepted tree is rewritten, its request stays the same. -/
theorem compile_rewritten {c c' : Clause VectorQuery} {r : SearchRequest}
    (compiled : c.compile = .ok r) (rewritten : Relation.ReflTransGen Rewrite c c') :
    c'.compile = .ok r := by
  induction rewritten with
  | refl => exact compiled
  | tail _ last ih => exact last.compile_ok ih

/-- A filter wrapped below a negation, and the vector query moved into a clause that was put in. -/
theorem compile_rewritten_moved :
    let q : VectorQuery := ⟨⟨"embedding", 1⟩, [[.int 0]], "L2", .int 3, []⟩
    let year : Filter := .isIn "release_year" [.int 1995]
    let c : Clause VectorQuery := must [vector q, mustNot (filter year)]
    let c' : Clause VectorQuery := whole (must [must [vector q], mustNot (should [filter year])])
    let r : SearchRequest :=
      ⟨[[.int 0]], "embedding", "L2", [], .int 3, some (.negation (.test year))⟩
    c.compile = .ok r ∧ Relation.ReflTransGen Rewrite c c' ∧ c'.compile = .ok r := by
  intro q year c c' r
  have wrapped : Rewrite c (must [vector q, mustNot (should [filter year])]) := by
    refine .wrapShould (.must [vector q] (.mustNot .root) []) (filter year) ?_
    simp [Vectorless, occurrences, occurrencesBelow]
  have inserted : Rewrite (must [vector q, mustNot (should [filter year])])
      (must [must [], vector q, mustNot (should [filter year])]) :=
    .insertMust .root [] _ (must []) (.must (List.forall_mem_nil _))
  have moved : Rewrite (must [must [], vector q, mustNot (should [filter year])])
      (must [must [vector q], mustNot (should [filter year])]) :=
    .moveVector q .root (.must [] .root _) [must []] _ [] [] rfl trivial
  have rewritten : Relation.ReflTransGen Rewrite c c' :=
    (((Relation.ReflTransGen.single wrapped).tail inserted).tail moved).tail (.wrapWhole .root _)
  exact ⟨rfl, rewritten, compile_rewritten rfl rewritten⟩

end Clause
end FilmIndex
