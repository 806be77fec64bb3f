import FilmIndex.Proofs.Film.LineByLine
import FilmIndex.Proofs.Program.Calls
import FilmIndex.Proofs.Program.Returned
import FilmIndex.Proofs.Settings.FixedPoint

/-!
What the calls of a run agree on. The metric comes to the index and to the search on two ways,
and the dimension to the schema, to the stored rows and to the vector searched for on three. The
calls before a search are the same in every run that gets so far, so it is enough to know them
in the one in which no call fails.
-/

namespace FilmIndex

namespace Call

/-- Calls that say of what dimension or metric the vectors of a collection are. -/
def describes : Call → Bool
  | collection _ (some _) | insert .. | createIndex .. | search .. => true
  | _ => false

end Call

/-- The metric in the parameters of an index or of a search. -/
def metricOf? : Value → Option Value
  | .record fields => Keyed.get? "metric_type" fields
  | _ => none

namespace Catalog

theorem length_embedding_of_read {files : Files} {dim : Int} {path : String} {films : Catalog}
    (read : Catalog.read files dim path = .ok films) :
    ∀ f ∈ films, (f.embedding.length : Int) = dim := by
  obtain ⟨text, -, records⟩ := records_of_read read
  exact fun f mem => records.length_embedding _ (List.mem_map_of_mem mem)

end Catalog

namespace Run
open Call

variable {s : Settings} {around : Surroundings} {before : Session} {films : Catalog}

/-- The calls of a run that says what the vectors of its collection are. -/
def descriptions (s : Settings) (films : Catalog) : List Call :=
  let service := Service.ofSettings s
  [.collection s.collectionName (some (service.schema.collection FilmSchema.defaultDescription)),
    .insert s.collectionName (films.map Film.row),
    .createIndex s.collectionName "embedding" (madeIndex service).2.params (madeIndex service).1]

theorem filter_preparation (s : Settings) (films : Catalog) (replaces : Bool) :
    (preparation s films replaces).filter describes = descriptions s films := by
  cases replaces <;> rfl

theorem exists_search {before : Session} (h : ∃ hits, (run s around before).1 = .ok hits) :
    ∃ r, .search s.collectionName r (some outputFields) ∈ (run s around before).2.calls := by
  obtain ⟨hits, returned⟩ := h
  obtain ⟨films, r, -, -, -, out⟩ := returned_cases returned
  refine ⟨r, ?_⟩
  rw [out]
  exact (search_returned r hits).subset (by simp)

theorem request_described {r : SearchRequest} (made : request s ⟨s.dimension⟩ around = .ok r) :
    ∃ v : List Float, (v.length : Int) = s.dimension ∧ r.vectors = [v.map Value.float] ∧
      r.field = "embedding" ∧ r.metric = Text.upper s.metricType := by
  obtain ⟨-, -, v, -, length, rfl⟩ := request_ok made
  exact ⟨v, length, rfl, rfl, rfl⟩

theorem descriptions_of_search (read : Catalog.read around.files s.dimension s.csvPath = .ok films)
    (port : Number.Writable s.milvusPort) {done : List Call}
    (begins : before.calls ++ [connectCall s] ++ done <+: (run s around before.unplanned).2.calls)
    {name : String} {r : SearchRequest} {names? : Option (List String)}
    (reached : .search name r names? ∈ done) :
    request s ⟨s.dimension⟩ around = .ok r ∧ done.filter describes =
      descriptions s films ++ [.search s.collectionName r (some outputFields)] := by
  obtain ⟨made, rest, short, rfl⟩ := searched_of_mem read port begins reached
  have silent : rest.filter describes = [] := List.prefix_nil.1 (short.filter describes)
  refine ⟨made, ?_⟩
  rw [List.filter_append, filter_preparation]
  exact congrArg _ (congrArg (_ :: ·) silent)

/-- What the calls that describe vectors say: one collection is made, filled, indexed and
searched, by one metric, and its vectors are of one length. -/
structure Agreement (s : Settings) (made : List Call) (r : SearchRequest)
    (schema : CollectionSchema) (rows : List Row) (params : Value) (v : List Value) : Prop where
  calls : ∃ index names?, made.filter describes = [
    .collection s.collectionName (some schema), .insert s.collectionName rows,
    .createIndex s.collectionName r.field params index, .search s.collectionName r names?]
  indexed : metricOf? params = some (.text s.metricType)
  searched : metricOf? r.paramRecord = some (.text s.metricType)
  vectors : r.vectors = [v]
  declared : (schema.fields.find? (·.name == r.field)).bind (·.dim?) = some (v.length : Int)
  stored : ∀ row ∈ rows, row.embedding.length = v.length

theorem agreement_of_described {src : Sources} (valid : Settings.load src = .ok s)
    (read : Catalog.read around.files s.dimension s.csvPath = .ok films) {r : SearchRequest}
    (requested : request s ⟨s.dimension⟩ around = .ok r) {made : List Call}
    (described : made.filter describes =
      descriptions s films ++ [.search s.collectionName r (some outputFields)]) :
    ∃ schema rows params v, Agreement s made r schema rows params v := by
  obtain ⟨v, length, vector, field, metric⟩ := request_described requested
  refine ⟨FilmSchema.collection ⟨s.dimension⟩ FilmSchema.defaultDescription, films.map Film.row,
    (madeIndex (.ofSettings s)).2.params, v.map Value.float,
    { calls := ⟨(madeIndex (.ofSettings s)).1, some outputFields, ?_⟩
      indexed := rfl
      searched := ?_
      vectors := vector
      declared := ?_
      stored := ?_ }⟩
  · rw [described, field]
    rfl
  · calc metricOf? r.paramRecord
        = some (.text (Text.upper s.metricType)) := congrArg (some ∘ Value.text) metric
      _ = some (.text s.metricType) := by rw [Settings.upper_metricType valid]
  · rw [field, List.length_map, length]
    rfl
  · intro row mem
    obtain ⟨f, hf, rfl⟩ := List.mem_map.1 mem
    have stored := Catalog.length_embedding_of_read read f hf
    rw [List.length_map]
    exact Int.ofNat_inj.1 (stored.trans length.symm)

/-- Every run that gets to its search has searched by the metric by which it has indexed, and
for a vector of the length of those that it has stored. The metric is brought into capital
letters twice on one of its ways, which makes no difference. -/
theorem search_agrees {src : Sources} (valid : Settings.load src = .ok s) {made : List Call}
    (calls : (run s around before).2.calls = before.calls ++ made) {name : String}
    {r : SearchRequest} {names? : Option (List String)} (reached : .search name r names? ∈ made) :
    (∃ schema rows params v, Agreement s made r schema rows params v) ∧
      ∀ text, Text.upper (Text.upper text) = Text.upper text := by
  refine ⟨?_, Text.upper_upper⟩
  cases begins s around before with
  | unread _ out | portUnwritable _ _ out =>
      rw [out] at calls
      cases List.append_cancel_left ((List.append_nil _).trans calls)
      cases reached
  | unconnected _ _ _ out =>
      rw [out] at calls
      obtain rfl := List.append_cancel_left calls
      cases List.mem_singleton.1 reached
  | connected read port connects =>
      obtain ⟨done, closing, cleans⟩ := cleansUp read port connects
      have all : made = [connectCall s] ++ done ++ closing ++ [disconnectCall s] := by
        refine (List.append_right_inj before.calls).1 ?_
        simp only [← calls, cleans.calls, List.append_assoc]
      -- What cleans up is no search, and says nothing of vectors.
      have quiet : closing.filter describes = [] ∧ .search name r names? ∉ closing := by
        rw [cleans.closing_eq]
        split <;> simp [describes]
      have reached : .search name r names? ∈ done := by
        rw [all] at reached
        simpa [connectCall, Service.connectCall, disconnectCall, quiet.2] using reached
      obtain ⟨requested, described⟩ := descriptions_of_search read port cleans.begins reached
      refine agreement_of_described valid read requested ?_
      rw [all, List.filter_append, List.filter_append, quiet.1, List.append_nil,
        List.filter_append, described]
      exact List.append_nil _

/-- A metric of which one letter becomes two, on a file of two films. -/
theorem search_agrees_sharp :
    let src : Sources := { given := [("metric_type", .text "straße"), ("dimension", .int 1),
      ("query_seed", .int 7)] }
    let s : Settings := { oneYear with metricType := "STRASSE", releaseYears := [1995, 2002] }
    let calls := (run s sharedId ({} : Session).unplanned).2.calls
    Settings.load src = .ok s ∧ ∃ r, .search s.collectionName r (some outputFields) ∈ calls ∧
      ∃ schema rows params v, Agreement s calls r schema rows params v := by
  intro src s calls
  have valid : Settings.load src = .ok s := by decide +kernel
  obtain ⟨f, g, read, -⟩ := read_sharedId
  have read : Catalog.read sharedId.files s.dimension s.csvPath = .ok [f, g] := read
  have enough : s.Sufficient sharedId.memory :=
    ⟨⟨by decide, by decide, fun seed h => by cases h; decide, by decide, by decide⟩,
      by decide, by decide⟩
  have count : Number.Writable (2 : Nat) := by decide
  have returned : ∃ hits, (run s sharedId ({} : Session).unplanned).1 = .ok hits :=
    returned_of_sufficient (Settings.positive_of_load valid) read enough
      (tells_count count) (undisturbed_of_unplanned rfl)
  obtain ⟨r, reached⟩ := exists_search returned
  exact ⟨valid, r, reached, (search_agrees valid (List.nil_append calls).symm reached).1⟩

end Run
end FilmIndex
