import FilmIndex.Proofs.Program.Calls
import FilmIndex.Proofs.Program.Undisturbed

/-!
A server that cannot search where the square of a difference is too large for a double. It
keeps everything else as it is, so it is one that carries out a plan. The plan knows the rows
to compare from the calls by which the collection was made and filled.
-/

namespace FilmIndex

namespace Server

/-- A double is finite and its square is not. -/
def squareOverflows (d : Float) : Bool := d.isFinite && (d * d).isInf

theorem squareOverflows_eq_false_iff {d : Float} :
    squareOverflows d = false ↔ (d.isFinite → (d * d).isInf = false) := by
  rw [squareOverflows]
  cases d.isFinite <;> simp

example : squareOverflows 1e155 = true ∧ squareOverflows 1e154 = false := by decide +kernel

/-- Some element of the row is too far from that of the query vector at its place. -/
def overflows (query : List Value) (r : Row) : Bool :=
  (query.zip r.embedding).any fun p =>
    match element p.1 with
    | .ok a => squareOverflows (a - p.2)
    | .error _ => false

/-- Some row that a request admits is too far from its query vectors. -/
def overflowing (rows : List Row) (request : SearchRequest) : Bool :=
  (rows.filter (admits request.condition?)).any fun r => request.vectors.any (overflows · r)

theorem overflows_floats (xs : List Float) (r : Row) :
    overflows (xs.map Value.float) r =
      (xs.zip r.embedding).any fun p => squareOverflows (p.1 - p.2) := by
  rw [overflows, List.zip_map_left, List.any_map]
  rfl

end Server

namespace Call

/-- The rows of a collection after a call, if it held some before. -/
def rowsAfter (name : String) (rows : List Row) : Call → List Row
  | collection other (some _) => if other == name then [] else rows
  | insert other more => if other == name then rows ++ more else rows
  | _ => rows

/-- What calls have put into a collection since it was made last. -/
def rowsOf (name : String) (calls : List Call) : List Row := calls.foldl (rowsAfter name) []

end Call

namespace Plan

/-- Just those searches fail in which a square is too large. -/
def overflow : Plan := fun calls =>
  match calls.getLast? with
  | some (.search name request _) =>
    if Server.overflowing (Call.rowsOf name calls) request then
      some "(34, 'Numerical result out of range')"
    else Option.none
  | _ => Option.none

theorem overflow_eq_none {past : List Call} {c : Call}
    (h : ∀ name request names?, c ≠ .search name request names?) :
    overflow (past ++ [c]) = Option.none := by
  rw [overflow, List.getLast?_concat]
  cases c with
  | search name request names? => exact (h name request names? rfl).elim
  | _ => rfl

theorem overflow_search_eq_none_iff {past : List Call} {name : String} {r : SearchRequest}
    {names? : Option (List String)} :
    overflow (past ++ [.search name r names?]) = Option.none ↔
      Server.overflowing (Call.rowsOf name (past ++ [.search name r names?])) r = false := by
  rw [overflow, List.getLast?_concat]
  cases h : Server.overflowing (Call.rowsOf name (past ++ [.search name r names?])) r <;> simp [h]

end Plan

namespace Run
open Call

variable {s : Settings} {around : Surroundings} {before : Session} {films : Catalog}

/-- No film of the years asked for is so far from the vector that a run searches for that the
square of a finite difference is infinite. -/
def Near (s : Settings) (around : Surroundings) (films : Catalog) : Prop :=
  ∀ v, sampled s around = .ok [v] → ∀ f ∈ films, f.releaseYear ∈ s.releaseYears →
    ∀ p ∈ v.zip f.embedding, (p.1 - p.2).isFinite → ((p.1 - p.2) * (p.1 - p.2)).isInf = false

theorem overflowing_eq_false_iff {r : SearchRequest}
    (made : request s ⟨s.dimension⟩ around = .ok r) (films : Catalog) :
    Server.overflowing (films.map Film.row) r = false ↔ Near s around films := by
  obtain ⟨named, -, v, hv, -, rfl⟩ := request_ok made
  simp only [Server.overflowing, Near, hv, Except.ok.injEq, List.cons.injEq, and_true,
    forall_eq', List.any_eq_false, List.mem_filter, List.mem_map, List.any_cons, List.any_nil,
    Bool.or_false, Server.overflows_floats, Bool.not_eq_true, admits_years named,
    Server.squareOverflows_eq_false_iff]
  constructor
  · rintro fits f hf year
    exact fits f.row ⟨⟨f, hf, rfl⟩, List.contains_iff_mem.2 year⟩
  · rintro near _ ⟨⟨f, hf, rfl⟩, year⟩
    exact near f hf (List.contains_iff_mem.1 year)

section
variable (films : Catalog) (past : List Call) (replaces : Bool)

/-- A run has put its films into its collection before it searches. -/
theorem rowsOf_searched (r : SearchRequest) (names? : Option (List String)) :
    rowsOf s.collectionName (past ++ [connectCall s] ++ (preparation s films replaces ++
      [.load s.collectionName, .search s.collectionName r names?])) = films.map Film.row := by
  rw [rowsOf, List.foldl_append]
  cases replaces <;> simp [preparation, rowsAfter]

/-- Such a server lets a run search just if no film is too far. -/
theorem overflow_searched {r : SearchRequest} (made : request s ⟨s.dimension⟩ around = .ok r) :
    Plan.overflow (past ++ [connectCall s] ++ (preparation s films replaces ++
        [.load s.collectionName, .search s.collectionName r (some outputFields)])) = none ↔
      Near s around films := by
  have rows := rowsOf_searched (s := s) films past replaces r (some outputFields)
  rw [List.append_cons _ (Call.load _), ← List.append_assoc _ _ [Call.search ..]] at rows ⊢
  rw [Plan.overflow_search_eq_none_iff, rows, overflowing_eq_false_iff made]

end

theorem overflow_connect (past : List Call) :
    Plan.overflow (past ++ [connectCall s]) = none := Plan.overflow_eq_none nofun

theorem undisturbed_of_near (read : Catalog.read around.files s.dimension s.csvPath = .ok films)
    (port : Number.Writable s.milvusPort) (plan : before.plan = Plan.overflow)
    (near : Near s around films) : Undisturbed s around before := by
  have connects : before.plan (before.calls ++ [connectCall s]) = none := by
    rw [plan]
    exact overflow_connect _
  obtain ⟨done, closing, cleans⟩ := cleansUp read port connects
  cases cleans.stops with
  | byItself allowed nothing _ _ _ _ =>
      refine cleans.undisturbed connects allowed nothing ?_
      rw [plan, cleans.calls]
      exact Plan.overflow_eq_none nofun
  | @refused past c _ last _ fails _ =>
      rw [plan, last] at fails
      by_cases search : ∃ name r names?, c = .search name r names?
      · obtain ⟨name, r, names?, rfl⟩ := search
        obtain ⟨made, split⟩ := searched_of_last read port (last ▸ cleans.begins)
        rw [split] at fails
        exact absurd ((overflow_searched films _ _ made).2 near) fails
      · rw [← List.append_assoc] at fails
        exact absurd (Plan.overflow_eq_none fun name r names? h => search ⟨name, r, names?, h⟩)
          fails

theorem near_of_returned (read : Catalog.read around.files s.dimension s.csvPath = .ok films)
    (port : Number.Writable s.milvusPort) (plan : before.plan = Plan.overflow)
    {hits : List (List Hit)} (returned : (run s around before).1 = .ok hits) :
    Near s around films := by
  have undisturbed := undisturbed_of_returned returned
  have same := undisturbed.run_eq
  rcases calls_cases before read port with ⟨e, after, failed, -⟩ | ⟨r, made, calls⟩
  · rw [same, failed] at returned
    cases returned
  · have split : (run s around before).2.calls = before.calls ++
        ([connectCall s] ++ preparation s films
          (Keyed.get? s.collectionName before.server.collections).isSome ++
            [.load s.collectionName]) ++
        .search s.collectionName r (some outputFields) :: ending s := by
      rw [same]
      refine calls.trans ?_
      simp only [List.append_assoc, List.singleton_append]
    have allowed := undisturbed.plan_eq_none split
    rw [plan] at allowed
    have searches := overflow_searched films before.calls
      (Keyed.get? s.collectionName before.server.collections).isSome made
    refine searches.1 ?_
    simpa only [List.append_assoc, List.cons_append, List.nil_append] using allowed

end Run
end FilmIndex
