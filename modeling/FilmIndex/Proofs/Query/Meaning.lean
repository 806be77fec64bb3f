import FilmIndex.Proofs.Query.Acceptance
import FilmIndex.Proofs.Query.Writing

/-!
What a query tree means for the stored fields, and that its filter text means the
same. Clauses without a meaning are passed over, at any depth; a tree in which no
filter occurs has none at all.
-/

namespace FilmIndex
open Text

/-- How a field compares with a value. -/
structure Interpretation where
  equal : String → Value → Bool
  atLeast : String → Value → Bool
  atMost : String → Value → Bool

namespace Filter

def holds (I : Interpretation) : Filter → Bool
  | isIn field values => values.any (I.equal field)
  | between field low high => I.atLeast field low && I.atMost field high

end Filter

namespace Condition

mutual

def holds (I : Interpretation) : Condition → Bool
  | test f => f.holds I
  | all cs => (holdsOfEach I cs).all id
  | any cs => (holdsOfEach I cs).any id
  | negation c => !holds I c

def holdsOfEach (I : Interpretation) : List Condition → List Bool
  | [] => []
  | c :: cs => holds I c :: holdsOfEach I cs

end

theorem holdsOfEach_eq (I : Interpretation) (cs : List Condition) :
    holdsOfEach I cs = cs.map (holds I) := by
  induction cs with
  | nil => rfl
  | cons c cs ih => rw [holdsOfEach, ih, List.map_cons]

end Condition

namespace Expression

mutual

def holds (I : Interpretation) : Expression → Bool
  | isIn name literals => (literals.map Literal.value).any (I.equal name)
  | between lowName low highName high =>
    I.atLeast lowName low.value && I.atMost highName high.value
  | negation e => !holds I e
  | all es => (holdsOfEach I es).all id
  | any es => (holdsOfEach I es).any id

def holdsOfEach (I : Interpretation) : List Expression → List Bool
  | [] => []
  | e :: es => holds I e :: holdsOfEach I es

end

theorem holdsOfEach_of_says {I : Interpretation} {es : List Expression} {cs : List Condition}
    (ih : ∀ e ∈ es, ∀ c, e.Says c → e.holds I = c.holds I) (h : SaysEach es cs) :
    holdsOfEach I es = Condition.holdsOfEach I cs := by
  rw [saysEach_iff] at h
  induction h with
  | nil => rfl
  | @cons e c es cs hec _ iht =>
      rw [List.forall_mem_cons] at ih
      rw [holdsOfEach, Condition.holdsOfEach, ih.1 c hec, iht ih.2]

/-- An expression holds when what it says holds. -/
theorem holds_of_says (I : Interpretation) (e : Expression) (c : Condition) (h : e.Says c) :
    e.holds I = c.holds I := by
  induction e using expressionInduction generalizing c with
  | isIn name literals =>
      obtain rfl := h.isIn_eq
      rfl
  | between lowName low highName high =>
      obtain ⟨rfl, rfl⟩ := h.between_eq
      rfl
  | negation e ih =>
      obtain ⟨c, rfl, h⟩ := h.negation_eq
      rw [holds, Condition.holds, ih c h]
  | all es ih =>
      obtain ⟨cs, rfl, h⟩ := h.all_eq
      rw [holds, Condition.holds, holdsOfEach_of_says ih h]
  | any es ih =>
      obtain ⟨cs, rfl, h⟩ := h.any_eq
      rw [holds, Condition.holds, holdsOfEach_of_says ih h]

end Expression

namespace Clause

variable {ν : Type}

/-- One meaning of several, and none of none. -/
def connected? (connect : List Bool → Bool) : List Bool → Option Bool
  | [] => none
  | ms => some (connect ms)

mutual

/-- What a tree asks of the stored fields. -/
def meaning? (I : Interpretation) : Clause ν → Option Bool
  | vector _ => none
  | filter f => some (f.holds I)
  | must cs => connected? (·.all id) (meaningsOfEach I cs)
  | should cs => connected? (·.any id) (meaningsOfEach I cs)
  | mustNot c => (meaning? I c).map (!·)
  | whole c => meaning? I c
  | value _ => none

/-- The meanings of those clauses that have one. -/
def meaningsOfEach (I : Interpretation) : List (Clause ν) → List Bool
  | [] => []
  | c :: cs => (meaning? I c).toList ++ meaningsOfEach I cs

end

theorem map_together? (I : Interpretation) (join : List Condition → Condition)
    (connect : List Bool → Bool) (hjoin : ∀ ps, (join ps).holds I = connect (ps.map (Condition.holds I)))
    (hone : ∀ m, connect [m] = m) (ps : List Condition) :
    (Condition.together? join ps).map (Condition.holds I) =
      connected? connect (ps.map (Condition.holds I)) := by
  match ps with
  | [] => rfl
  | [p] => exact congrArg some (hone _).symm
  | p :: q :: ps => exact congrArg some (hjoin (p :: q :: ps))

theorem meaningsOfEach_eq {I : Interpretation} {cs : List (Clause ν)}
    (h : ∀ c ∈ cs, c.meaning? I = c.condition?.map (Condition.holds I)) :
    meaningsOfEach I cs = (conditionsOfEach cs).map (Condition.holds I) := by
  induction cs with
  | nil => rfl
  | cons c cs ih =>
      rw [List.forall_mem_cons] at h
      rw [meaningsOfEach, conditionsOfEach, h.1, ih h.2]
      cases c.condition? <;> rfl

/-- The condition of a tree means what the tree means. -/
theorem meaning?_eq (I : Interpretation) (c : Clause ν) :
    c.meaning? I = c.condition?.map (Condition.holds I) := by
  induction c using clauseInduction with
  | vector q | filter f | value v => rfl
  | must cs ih =>
      have hjoin (ps : List Condition) :
          (Condition.all ps).holds I = (ps.map (Condition.holds I)).all id := by
        rw [Condition.holds, Condition.holdsOfEach_eq]
      have hone (m : Bool) : [m].all id = m := by cases m <;> rfl
      rw [meaning?, condition?, meaningsOfEach_eq ih,
        map_together? I .all (·.all id) hjoin hone]
  | should cs ih =>
      have hjoin (ps : List Condition) :
          (Condition.any ps).holds I = (ps.map (Condition.holds I)).any id := by
        rw [Condition.holds, Condition.holdsOfEach_eq]
      have hone (m : Bool) : [m].any id = m := by cases m <;> rfl
      rw [meaning?, condition?, meaningsOfEach_eq ih,
        map_together? I .any (·.any id) hjoin hone]
  | mustNot c ih =>
      rw [meaning?, condition?, ih, Option.map_map, Option.map_map]
      refine congrArg (fun f => c.condition?.map f) (funext fun p => ?_)
      rw [Function.comp, Function.comp, Condition.holds]
  | whole c ih => rw [meaning?, condition?, ih]

namespace Occurrence

def filter? (o : Occurrence ν) : Option Filter :=
  match o.node with
  | .filter f => some f
  | _ => none

theorem filter?_eq_some_iff (o : Occurrence ν) (f : Filter) :
    o.filter? = some f ↔ o.node = filter f := by
  rw [filter?]
  cases o.node <;> simp

end Occurrence

/-- The filters of a tree in reading order. -/
def filters (c : Clause ν) : List Filter := c.occurrences.filterMap Occurrence.filter?

theorem mem_filters_iff (c : Clause ν) (f : Filter) :
    f ∈ c.filters ↔ ∃ o ∈ c.occurrences, o.node = filter f := by
  simp only [filters, List.mem_filterMap, Occurrence.filter?_eq_some_iff]

theorem filters_together? (join : List Condition → Condition)
    (hjoin : ∀ ps, (join ps).filters = ps.flatMap Condition.filters) (ps : List Condition) :
    (Condition.together? join ps).toList.flatMap Condition.filters =
      ps.flatMap Condition.filters := by
  match ps with
  | [] => rfl
  | [p] => rfl
  | p :: q :: ps =>
      refine (List.flatMap_singleton _ _).trans ?_
      exact hjoin (p :: q :: ps)

theorem flatMap_filters_conditionsOfEach (cs : List (Clause ν)) :
    (conditionsOfEach cs).flatMap Condition.filters =
      cs.flatMap fun c => c.condition?.toList.flatMap Condition.filters := by
  induction cs with
  | nil => rfl
  | cons c cs ih =>
      rw [conditionsOfEach, List.flatMap_cons, ← ih]
      cases c.condition? with
      | none => rfl
      | some p => simp

/-- The condition of a tree tests the filters of the tree, each where it stands. -/
theorem filters_condition? (c : Clause ν) (above : List (Clause ν)) :
    (occurrencesBelow above c).filterMap Occurrence.filter? =
      c.condition?.toList.flatMap Condition.filters := by
  induction c using clauseInduction generalizing above with
  | vector q | filter f | value v => rfl
  | must cs ih =>
      rw [occurrencesBelow, occurrencesOfEach_eq, List.filterMap_cons_none rfl,
        List.filterMap_flatMap, condition?, filters_together? .all Condition.filtersOfEach_eq,
        flatMap_filters_conditionsOfEach]
      exact List.flatMap_congr fun c hc => ih c hc (must cs :: above)
  | should cs ih =>
      rw [occurrencesBelow, occurrencesOfEach_eq, List.filterMap_cons_none rfl,
        List.filterMap_flatMap, condition?, filters_together? .any Condition.filtersOfEach_eq,
        flatMap_filters_conditionsOfEach]
      exact List.flatMap_congr fun c hc => ih c hc (should cs :: above)
  | mustNot c ih =>
      rw [occurrencesBelow, List.filterMap_cons_none rfl, ih (mustNot c :: above), condition?]
      cases c.condition? with
      | none => rfl
      | some p => rfl
  | whole c ih =>
      rw [occurrencesBelow, List.filterMap_cons_none rfl, ih (whole c :: above), condition?]

theorem grouped_together? (join : List Condition → Condition)
    (hjoin : ∀ ps, 2 ≤ ps.length → (∀ p ∈ ps, p.Grouped) → (join ps).Grouped)
    {ps : List Condition} (h : ∀ p ∈ ps, p.Grouped) :
    ∀ p ∈ Condition.together? join ps, p.Grouped := by
  match ps, h with
  | [], _ => nofun
  | [p], h =>
      rintro _ ⟨⟩
      exact h p List.mem_cons_self
  | p :: q :: ps, h =>
      rintro _ ⟨⟩
      exact hjoin _ (Nat.le_add_left 2 ps.length) h

theorem grouped_conditionsOfEach {cs : List (Clause ν)}
    (h : ∀ c ∈ cs, ∀ p ∈ c.condition?, p.Grouped) : ∀ p ∈ conditionsOfEach cs, p.Grouped := by
  rw [conditionsOfEach_eq]
  intro p hp
  obtain ⟨c, hc, hp⟩ := List.mem_filterMap.1 hp
  exact h c hc p hp

theorem grouped_condition? (c : Clause ν) : ∀ p ∈ c.condition?, p.Grouped := by
  induction c using clauseInduction with
  | vector q | value v => nofun
  | filter f =>
      rintro _ ⟨⟩
      trivial
  | must cs ih | should cs ih =>
      refine grouped_together? _ (fun ps hl hg => ?_) (grouped_conditionsOfEach ih)
      exact ⟨hl, (Condition.groupedEach_iff ps).2 hg⟩
  | mustNot c ih =>
      intro p hp
      obtain ⟨q, hq, rfl⟩ := Option.map_eq_some_iff.1 hp
      exact ih q hq
  | whole c ih => exact ih

theorem mem_filters_of_condition? {c : Clause ν} {p : Condition} (h : c.condition? = some p)
    {f : Filter} : f ∈ p.filters ↔ f ∈ c.filters := by
  have hf := c.filters_condition? []
  rw [h, Option.toList_some, List.flatMap_singleton] at hf
  rw [← hf]
  rfl

theorem simple_of_condition? {c : Clause ν} {p : Condition} (h : c.condition? = some p)
    (hf : ∀ f ∈ c.filters, f.Simple) : p.Simple :=
  ⟨c.grouped_condition? p h, fun f hp => hf f ((mem_filters_of_condition? h).1 hp)⟩

theorem unslashed_of_condition?_iff {c : Clause ν} {p : Condition} (h : c.condition? = some p) :
    p.Unslashed ↔ ∀ f ∈ c.filters, f.Unslashed :=
  forall_congr' fun _ => imp_congr_left (mem_filters_of_condition? h)

/-- The condition of a request is that of the tree it was built from. -/
theorem condition?_of_compile {c : Clause VectorQuery} {r : SearchRequest}
    (h : c.compile = .ok r) : r.condition? = c.condition? := by
  obtain ⟨q, _, hr⟩ := (c.compile_eq_ok_iff r).1 h
  obtain ⟨_, rfl⟩ := (q.request_eq_ok_iff _ r).1 hr
  rfl

/-- The filter text of a request has one reading only, and it holds whenever the tree
does; the text is missing just when the tree asks nothing of the fields. -/
theorem compile_meaning (c : Clause VectorQuery) (r : SearchRequest) (h : c.compile = .ok r)
    (plain : ∀ o ∈ c.occurrences, ∀ f, o.node = filter f → f.Simple ∧ f.Unslashed) :
    match r.filterText? with
    | none => ∀ I, c.meaning? I = none
    | some text => ∃ e : Expression, e.Reads text.toList ∧
        (∀ e' : Expression, e'.Reads text.toList → e' = e) ∧
        ∀ I, c.meaning? I = some (e.holds I) := by
  have hf (f : Filter) (hf : f ∈ c.filters) : f.Simple ∧ f.Unslashed := by
    obtain ⟨o, ho, hn⟩ := (c.mem_filters_iff f).1 hf
    exact plain o ho f hn
  rw [SearchRequest.filterText?, condition?_of_compile h]
  cases hp : c.condition? with
  | none => exact fun I => by rw [meaning?_eq, hp]; rfl
  | some p =>
      have hs := simple_of_condition? hp fun f h => (hf f h).1
      have hu := (unslashed_of_condition?_iff hp).2 fun f h => (hf f h).2
      obtain ⟨e, he, hsays⟩ := (Expression.says_iff p hs).2 hu
      have ht : p.toText.toList = p.chars := String.toList_ofList
      simp only [Option.map_some, ht]
      refine ⟨e, he, fun e' he' => he'.unique he, fun I => ?_⟩
      rw [meaning?_eq, hp, Option.map_some, e.holds_of_says I p hsays]

/-- A tree with a vector query among its clauses, a negation and a text with quotes. -/
theorem compile_meaning_nested :
    ∃ e : Expression,
      e.Reads ("((id in [3] or (title >= \"\\\"a\\\"\" and title <= \"b\")) and " ++
        "not (id in []))").toList ∧
      ∀ I, meaning? I (whole (must [
        should [filter (.isIn "id" [.int 3]),
          filter (.between "title" (.text "\"a\"") (.text "b"))],
        vector (VectorQuery.mk ⟨"embedding", 1⟩ [[.int 0]] "L2" (.int 3) []),
        mustNot (filter (.isIn "id" []))])) = some (e.holds I) := by
  have name (s : String) (h : s = "id" ∨ s = "title") : IsName s := by
    rcases h with rfl | rfl <;> exact ⟨_, _, rfl, rfl, List.all_eq_true.1 rfl⟩
  obtain ⟨e, he, -, hm⟩ := compile_meaning (whole (must [
    should [filter (.isIn "id" [.int 3]),
      filter (.between "title" (.text "\"a\"") (.text "b"))],
    vector (VectorQuery.mk ⟨"embedding", 1⟩ [[.int 0]] "L2" (.int 3) []),
    mustNot (filter (.isIn "id" []))])) _ rfl
    (by simp [occurrences, occurrencesBelow, occurrencesOfEach, Filter.Simple, Filter.Unslashed,
      Filter.field, Filter.values, Value.IsLiteral, Value.Unslashed, name])
  exact ⟨e, he, hm⟩

end Clause
end FilmIndex
