import FilmIndex.Proofs.Program.CleanUp

/-!
The calls of a run of which none is to fail. After those that prepare the collection it stops,
or it searches and drops the collection again. So a run that gets to a search at all has made
the same calls up to that search, whichever calls are to fail.
-/

namespace FilmIndex

/-- A beginning of a list that has an element which comes late has all before it. -/
theorem exists_of_prefix_of_mem {α : Type} {before after done : List α} {c c' : α}
    (begins : done <+: before ++ c' :: after) (mem : c ∈ done) (late : c ∉ before) :
    ∃ rest, rest <+: after ∧ done = before ++ c' :: rest := by
  rcases List.prefix_or_prefix_of_prefix begins (List.prefix_append ..) with short | ⟨rest, rfl⟩
  · exact absurd (short.subset mem) late
  rcases List.prefix_cons_iff.1 ((List.prefix_append_right_inj before).1 begins) with
    rfl | ⟨rest, rfl, short⟩
  · rw [List.append_nil] at mem
    exact absurd mem late
  · exact ⟨rest, short, rfl⟩

namespace Run
open Call

variable {s : Settings} {around : Surroundings} {before : Session} {films : Catalog}

/-- The calls of a run between those that connect and that load the collection. -/
def preparation (s : Settings) (films : Catalog) (replaces : Bool) : List Call :=
  let service := Service.ofSettings s
  let name := s.collectionName
  .hasCollection name ::
    ((if replaces then [.dropCollection name] else []) ++
      [.collection name (some (service.schema.collection FilmSchema.defaultDescription)),
        .insert name (films.map Film.row), .flush name, .countEntities name,
        .hasIndex name (madeIndex service).1,
        .createIndex name "embedding" (madeIndex service).2.params (madeIndex service).1,
        .client s.milvusUri (s.milvusToken.getD ""), .stats name, .closeClient, .indexes name])

/-- The calls of a run after its search. -/
def ending (s : Settings) : List Call :=
  let index := (madeIndex (Service.ofSettings s)).1
  [.hasIndex s.collectionName index, .release s.collectionName, .dropIndex s.collectionName index,
    .hasCollection s.collectionName, .dropCollection s.collectionName, disconnectCall s]

theorem calls_prepared (s : Settings) (films : Catalog) (before : Session) :
    (untilStats s films before).calls = before.calls ++ [connectCall s] ++
      preparation s films (Keyed.get? s.collectionName before.server.collections).isSome := by
  simp only [untilStats, calls_afterStats, calls_afterFill, Service.calls_remade,
    Service.calls_opened, Service.collections_opened, started, List.append_assoc,
    List.cons_append]
  rfl

variable {name : String} {r : SearchRequest} {names? : Option (List String)}

theorem not_mem_preparation (replaces : Bool) :
    .search name r names? ∉ preparation s films replaces := by
  cases replaces <;> simp [preparation]

theorem not_mem_ending : .search name r names? ∉ ending s := by
  simp [ending, disconnectCall]

/-- The calls of a run of which none is to fail. It may stop before it searches. -/
theorem calls_cases (before : Session)
    (read : Catalog.read around.files s.dimension s.csvPath = .ok films)
    (port : Number.Writable s.milvusPort) :
    let prepared := before.calls ++ [connectCall s] ++
      preparation s films (Keyed.get? s.collectionName before.server.collections).isSome
    (∃ e after, (run s around before.unplanned).1 = .error e ∧
      (∀ name r names?, Call.search name r names? ∉ after) ∧
      (run s around before.unplanned).2.calls = prepared ++ after) ∨
    ∃ r, request s ⟨s.dimension⟩ around = .ok r ∧
      (run s around before.unplanned).2.calls = prepared ++
        .load s.collectionName :: .search s.collectionName r (some outputFields) :: ending s := by
  intro prepared
  have unplanned : before.unplanned.plan = Plan.none := rfl
  rcases run_cases unplanned read port with ⟨-, out⟩ | ⟨e, -, -, out⟩ | ⟨r, hits, -, made, -, out⟩
  · refine .inl ⟨_, [disconnectCall s], by rw [out], by simp [disconnectCall], ?_⟩
    rw [out]
    exact congrArg (· ++ [disconnectCall s]) (calls_prepared s films before.unplanned)
  · refine .inl ⟨e, [.load s.collectionName, disconnectCall s], by rw [out],
      by simp [disconnectCall], ?_⟩
    rw [out]
    simp only [Service.calls_idle, afterClose, untilRequest, Transcript.calls_log,
      Transcript.calls_call, Transcript.calls_writeLine, calls_prepared, prepared,
      List.append_assoc]
    rfl
  · refine .inr ⟨r, made, ?_⟩
    rw [out]
    simp only [Service.calls_idle, afterClose, untilRequest, Transcript.calls_log,
      Transcript.calls_call, Transcript.calls_writeLine, calls_afterDrop, calls_afterSearch,
      calls_prepared, prepared, List.append_assoc]
    rfl

/-- The work of a run that gets to a search has all calls before that search, and it makes its
request. -/
theorem searched_of_mem (read : Catalog.read around.files s.dimension s.csvPath = .ok films)
    (port : Number.Writable s.milvusPort) {done : List Call}
    (begins : before.calls ++ [connectCall s] ++ done <+: (run s around before.unplanned).2.calls)
    (reached : .search name r names? ∈ done) :
    request s ⟨s.dimension⟩ around = .ok r ∧ ∃ rest, rest <+: ending s ∧
      done = preparation s films
          (Keyed.get? s.collectionName before.server.collections).isSome ++
        .load s.collectionName :: .search s.collectionName r (some outputFields) :: rest := by
  rcases calls_cases before read port with ⟨-, after, -, unsearched, calls⟩ | ⟨r', made, calls⟩
  · rw [calls, List.append_assoc (before.calls ++ _), List.prefix_append_right_inj] at begins
    rcases List.mem_append.1 (begins.subset reached) with mem | mem
    · exact absurd mem (not_mem_preparation _)
    · exact absurd mem (unsearched _ _ _)
  · rw [calls, List.append_assoc (before.calls ++ _), List.prefix_append_right_inj,
      List.append_cons] at begins
    obtain ⟨rest, short, rfl⟩ := exists_of_prefix_of_mem begins reached (by
      simp [not_mem_preparation])
    have same : r = r' := by
      have unended : .search name r names? ∉ rest := fun mem =>
        not_mem_ending (short.subset mem)
      simp only [List.mem_append, List.mem_cons, not_mem_preparation, unended, false_or,
        or_false, List.not_mem_nil, reduceCtorEq] at reached
      exact (Call.search.inj reached).2.1
    subst same
    exact ⟨made, rest, short, by rw [List.append_cons]; simp⟩

/-- A search is the last call of the work only if there is no call after it. -/
theorem searched_of_last (read : Catalog.read around.files s.dimension s.csvPath = .ok films)
    (port : Number.Writable s.milvusPort) {past : List Call}
    (begins : before.calls ++ [connectCall s] ++ (past ++ [.search name r names?]) <+:
      (run s around before.unplanned).2.calls) :
    request s ⟨s.dimension⟩ around = .ok r ∧ past ++ [.search name r names?] =
      preparation s films (Keyed.get? s.collectionName before.server.collections).isSome ++
        [.load s.collectionName, .search s.collectionName r (some outputFields)] := by
  obtain ⟨made, rest, short, split⟩ := searched_of_mem read port begins
    (List.mem_append_right past List.mem_cons_self)
  rcases List.eq_nil_or_concat rest with rfl | ⟨rest, c, rfl⟩
  · exact ⟨made, split⟩
  · rw [List.concat_eq_append] at short split
    rw [← List.cons_append, ← List.cons_append, ← List.append_assoc] at split
    obtain rfl := List.singleton_inj.1 (List.append_inj' split rfl).2
    exact absurd (short.subset (List.mem_append_right rest List.mem_cons_self)) not_mem_ending

end Run
end FilmIndex
