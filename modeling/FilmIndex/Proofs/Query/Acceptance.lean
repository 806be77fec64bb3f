import FilmIndex.Query.Request
import Mathlib.Data.List.Basic

/-!
Which query trees become requests, and which fault is reported of the others. The
nodes of a tree are looked at in reading order, each before those below it, and
only then is the one vector query itself judged.
-/

namespace FilmIndex
namespace Clause

variable {ν : Type}

/-- A node of a tree with all the nodes above it, the nearest one first. -/
structure Occurrence (ν : Type) where
  above : List (Clause ν)
  node : Clause ν

mutual

/-- The nodes of a tree that stands below the given ones, in reading order. -/
def occurrencesBelow (above : List (Clause ν)) : Clause ν → List (Occurrence ν)
  | vector q => [⟨above, vector q⟩]
  | filter f => [⟨above, filter f⟩]
  | must cs => ⟨above, must cs⟩ :: occurrencesOfEach (must cs :: above) cs
  | should cs => ⟨above, should cs⟩ :: occurrencesOfEach (should cs :: above) cs
  | mustNot c => ⟨above, mustNot c⟩ :: occurrencesBelow (mustNot c :: above) c
  | whole c => ⟨above, whole c⟩ :: occurrencesBelow (whole c :: above) c
  | value v => [⟨above, value v⟩]

def occurrencesOfEach (above : List (Clause ν)) : List (Clause ν) → List (Occurrence ν)
  | [] => []
  | c :: cs => occurrencesBelow above c ++ occurrencesOfEach above cs

end

def occurrences (c : Clause ν) : List (Occurrence ν) := occurrencesBelow [] c

theorem occurrencesOfEach_eq (above cs : List (Clause ν)) :
    occurrencesOfEach above cs = cs.flatMap (occurrencesBelow above) := by
  induction cs with
  | nil => rfl
  | cons c cs ih => simp only [occurrencesOfEach, List.flatMap_cons, ih]

/-- What must hold of such a node must hold of the nodes right below it. -/
def passesOn : Clause ν → Bool
  | must _ | whole _ => true
  | _ => false

namespace Occurrence

def Required (o : Occurrence ν) : Prop := ∀ c ∈ o.above, c.passesOn = true

def isVector (o : Occurrence ν) : Bool :=
  match o.node with
  | .vector _ => true
  | _ => false

/-- The node may stand where it stands, and can be written if it is a filter. -/
structure InPlace (o : Occurrence ν) : Prop where
  clause : ∀ v, o.node ≠ value v
  required : ∀ q, o.node = vector q → o.Required
  written : ∀ f, o.node = filter f → f.writable = true

def vector? (o : Occurrence ν) : Option ν :=
  match o.node with
  | .vector q => some q
  | _ => none

def fault? (o : Occurrence ν) : Option QueryError :=
  match o.node with
  | .vector _ => if o.above.all passesOn then none else some .misplacedVector
  | .filter f => if f.writable then none else some .tooManyDigits
  | .value v => some (.notAClause v)
  | _ => none

theorem vector?_eq_some_iff (o : Occurrence ν) (q : ν) :
    o.vector? = some q ↔ o.node = vector q := by
  rw [vector?]
  cases o.node <;> simp

theorem isSome_vector? (o : Occurrence ν) : o.vector?.isSome = o.isVector := by
  unfold vector? isVector
  cases o.node <;> rfl

theorem all_passesOn_iff (o : Occurrence ν) : o.above.all passesOn = true ↔ o.Required :=
  List.all_eq_true

theorem fault?_eq_none_iff (o : Occurrence ν) : o.fault? = none ↔ o.InPlace := by
  constructor
  · intro h
    refine ⟨fun v hv => ?_, fun q hq => ?_, fun f hf => ?_⟩
    · simp [fault?, hv] at h
    · rw [← all_passesOn_iff]
      simpa [fault?, hq] using h
    · simpa [fault?, hf] using h
  · intro h
    rw [fault?]
    split
    next q hq => rw [if_pos (o.all_passesOn_iff.2 (h.required q hq))]
    next f hf => rw [if_pos (h.written f hf)]
    next v hv => exact absurd hv (h.clause v)
    next => rfl

end Occurrence

private theorem findSome?_flatMap {α β γ : Type} {f : α → Option γ} {g : α → List β}
    {h : β → Option γ} (xs : List α) (hf : ∀ x ∈ xs, f x = (g x).findSome? h) :
    xs.findSome? f = (xs.flatMap g).findSome? h := by
  induction xs with
  | nil => rfl
  | cons x xs ih =>
      rw [List.forall_mem_cons] at hf
      rw [List.flatMap_cons, List.findSome?_append, ← hf.1, ← ih hf.2, List.findSome?_cons]
      cases f x <;> rfl

/-- The flag that is handed down says that every node above passes on. -/
theorem fault?_eq_findSome? (c : Clause ν) (above : List (Clause ν)) :
    fault? (above.all passesOn) c = (occurrencesBelow above c).findSome? Occurrence.fault? := by
  induction c using clauseInduction generalizing above with
  | vector q | filter f => simp [fault?, occurrencesBelow, Occurrence.fault?]
  | value v => rfl
  | must cs ih =>
      rw [fault?, occurrencesBelow, occurrencesOfEach_eq, faultOfEach?_eq]
      exact findSome?_flatMap cs fun c hc => ih c hc (must cs :: above)
  | should cs ih =>
      rw [fault?, occurrencesBelow, occurrencesOfEach_eq, faultOfEach?_eq]
      exact findSome?_flatMap cs fun c hc => ih c hc (should cs :: above)
  | mustNot c ih => exact ih (mustNot c :: above)
  | whole c ih => exact ih (whole c :: above)

theorem vectors_eq_filterMap (c : Clause ν) (above : List (Clause ν)) :
    vectors c = (occurrencesBelow above c).filterMap Occurrence.vector? := by
  induction c using clauseInduction generalizing above with
  | vector q | filter f | value v => rfl
  | must cs ih | should cs ih =>
      rw [vectors, vectorsOfEach_eq, occurrencesBelow, occurrencesOfEach_eq,
        List.filterMap_cons_none rfl, List.filterMap_flatMap]
      exact List.flatMap_congr fun c hc => ih c hc (_ :: above)
  | mustNot c ih => exact ih (mustNot c :: above)
  | whole c ih => exact ih (whole c :: above)

/-- Exactly one vector query occurs in the tree, and it is this one. -/
def Sole (c : Clause ν) (q : ν) : Prop :=
  ∃ o, c.occurrences.filter Occurrence.isVector = [o] ∧ o.node = vector q

theorem length_vectors (c : Clause ν) :
    c.vectors.length = (c.occurrences.filter Occurrence.isVector).length := by
  rw [vectors_eq_filterMap c [], List.length_filterMap_eq_countP, ← List.countP_eq_length_filter]
  simp only [Occurrence.isSome_vector?, occurrences]

theorem vectors_eq_singleton_iff (c : Clause ν) (q : ν) : c.vectors = [q] ↔ c.Sole q := by
  have hv : c.vectors =
      (c.occurrences.filter Occurrence.isVector).filterMap Occurrence.vector? := by
    rw [vectors_eq_filterMap c [], List.filterMap_filter]
    refine List.filterMap_congr fun o _ => ?_
    rw [← Occurrence.isSome_vector?]
    cases o.vector? <;> rfl
  constructor
  · intro h
    have hl := length_vectors c
    rw [h] at hl
    obtain ⟨o, ho⟩ := List.length_eq_one_iff.1 hl.symm
    refine ⟨o, ho, ?_⟩
    rw [h, ho] at hv
    rw [← Occurrence.vector?_eq_some_iff]
    cases hq : o.vector? <;> simp_all
  · rintro ⟨o, ho, hq⟩
    rw [hv, ho, List.filterMap_cons_some ((Occurrence.vector?_eq_some_iff o q).2 hq)]
    rfl

theorem fault?_eq_none_iff (c : Clause ν) :
    fault? true c = none ↔ ∀ o ∈ c.occurrences, o.InPlace := by
  simp only [← Occurrence.fault?_eq_none_iff, ← List.findSome?_eq_none_iff]
  exact iff_of_eq (congrArg (· = none) (fault?_eq_findSome? c []))

theorem theVector_eq_ok_iff (c : Clause ν) (q : ν) :
    c.theVector = .ok q ↔ (∀ o ∈ c.occurrences, o.InPlace) ∧ c.Sole q := by
  rw [← vectors_eq_singleton_iff, ← fault?_eq_none_iff]
  rw [theVector]
  split
  next e he => simp [he]
  next he =>
    split
    next q' hq => simp [he, hq]
    next hq => simpa [he] using hq q

end Clause

namespace VectorQuery

/-- The number that a limit is. Truth values count as numbers. -/
def wholeNumber? : Value → Option Int
  | .int n => some n
  | .bool b => some (Value.truthInt b)
  | _ => none

def HasPositiveLimit (q : VectorQuery) : Prop := ∃ n, wholeNumber? q.limit = some n ∧ 0 < n

/-- No limit was given, or a whole number. -/
def WholeLimit (q : VectorQuery) : Prop := q.limit = .null ∨ (wholeNumber? q.limit).isSome

def Fits (q : VectorQuery) (v : List Value) : Prop := (v.length : Int) = q.field.dim

/-- What can be wrong with a vector query itself, in the order of the checks. -/
inductive FirstFault (q : VectorQuery) : QueryError → Prop
  | noLimit (limit : ¬ q.HasPositiveLimit) : FirstFault q .noLimit
  | noVectors (limit : q.HasPositiveLimit) (empty : q.vectors = []) : FirstFault q .noVectors
  | wrongDimension {before v after} (limit : q.HasPositiveLimit)
      (split : q.vectors = before ++ v :: after) (fits : ∀ w ∈ before, q.Fits w)
      (wrong : ¬ q.Fits v) :
      FirstFault q (.wrongDimension v.length q.field.name q.field.dim)

theorem limitFault?_eq_none_iff (q : VectorQuery) (h : q.WholeLimit) :
    limitFault? q.limit = none ↔ q.HasPositiveLimit := by
  rw [WholeLimit] at h
  rw [HasPositiveLimit]
  cases hl : q.limit with
  | null => simp [limitFault?, wholeNumber?]
  | bool b => cases b <;> simp [limitFault?, wholeNumber?, Value.truthInt]
  | int n => simp [limitFault?, wholeNumber?]
  | float _ | text _ | list _ | record _ => simp [hl, wholeNumber?] at h

theorem fault?_eq_none_iff (q : VectorQuery) (h : q.WholeLimit) :
    q.fault? = none ↔ q.HasPositiveLimit ∧ q.vectors ≠ [] ∧ ∀ v ∈ q.vectors, q.Fits v := by
  rw [← q.limitFault?_eq_none_iff h]
  rw [fault?]
  cases limitFault? q.limit with
  | some e => simp
  | none =>
      by_cases hv : q.vectors = []
      · simp [hv]
      · simp [hv, Fits]

theorem request_eq_ok_iff (q : VectorQuery) (p : Option Condition) (r : SearchRequest) :
    q.request p = .ok r ↔
      q.fault? = none ∧ r = ⟨q.vectors, q.field.name, q.metric, q.params, q.limit, p⟩ := by
  rw [request]
  cases q.fault? <;> simp [eq_comm]

end VectorQuery

namespace Clause

/-- The tree stands for a search by `q`: nothing in it is out of place, `q` is its
only vector query, and `q` itself is sound. Every filter can be written, as it can
if no whole number in it has too many digits. -/
structure Accepted (c : Clause VectorQuery) (q : VectorQuery) : Prop where
  noValue : ∀ o ∈ c.occurrences, ∀ v, o.node ≠ value v
  written : ∀ o ∈ c.occurrences, ∀ f, o.node = filter f → f.writable = true
  sole : ∃ o, c.occurrences.filter Occurrence.isVector = [o] ∧ o.node = vector q ∧ o.Required
  limit : q.HasPositiveLimit
  vectors : q.vectors ≠ []
  dimension : ∀ v ∈ q.vectors, q.Fits v

/-- What is reported of a tree: the first node that is out of place or cannot be written,
else the number of its vector queries, else the first fault of its one vector query. -/
inductive FirstFault (c : Clause VectorQuery) : QueryError → Prop
  | misplacedVector {before o after q} (split : c.occurrences = before ++ o :: after)
      (clean : ∀ o' ∈ before, o'.InPlace) (node : o.node = vector q) (free : ¬ o.Required) :
      FirstFault c .misplacedVector
  | tooManyDigits {before o after f} (split : c.occurrences = before ++ o :: after)
      (clean : ∀ o' ∈ before, o'.InPlace) (node : o.node = filter f)
      (unwritten : f.writable = false) :
      FirstFault c .tooManyDigits
  | notAClause {before o after v} (split : c.occurrences = before ++ o :: after)
      (clean : ∀ o' ∈ before, o'.InPlace) (node : o.node = value v) :
      FirstFault c (.notAClause v)
  | vectorCount (clean : ∀ o ∈ c.occurrences, o.InPlace)
      (count : (c.occurrences.filter Occurrence.isVector).length ≠ 1) :
      FirstFault c (.vectorCount (c.occurrences.filter Occurrence.isVector).length)
  | vectorQuery {q e} (clean : ∀ o ∈ c.occurrences, o.InPlace) (sole : c.Sole q)
      (fault : q.FirstFault e) : FirstFault c e

theorem compile_eq_ok_iff (c : Clause VectorQuery) (r : SearchRequest) :
    c.compile = .ok r ↔ ∃ q, c.theVector = .ok q ∧ q.request c.condition? = .ok r := by
  rw [compile]
  cases c.theVector <;> simp

end Clause
end FilmIndex
