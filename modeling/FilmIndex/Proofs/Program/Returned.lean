import FilmIndex.Proofs.Program.Sufficiency
import FilmIndex.Proofs.Query.Writing
import FilmIndex.Proofs.Value.Written
import Mathlib.Data.List.FinRange

/-!
What a run that returns has found, logged and printed, whichever calls were planned to fail:
none of those was made. The hits are films of the file, of the years that the settings name
and as many as there are and as are asked for.
-/

namespace FilmIndex
open FilmIndex.Action

namespace Catalog

/-- The last film of an id. -/
def LastOf (films : Catalog) (id : Int) (f : Film) : Prop :=
  ∃ earlier later, films = earlier ++ f :: later ∧ f.id = id ∧ ∀ g ∈ later, g.id ≠ id

theorem find?_reverse_eq_some_iff (films : Catalog) (id : Int) (f : Film) :
    films.reverse.find? (·.id == id) = some f ↔ films.LastOf id f := by
  rw [List.find?_eq_some_iff_append]
  constructor
  · rintro ⟨hid, later, earlier, hsplit, hlater⟩
    refine ⟨earlier.reverse, later.reverse, ?_, eq_of_beq hid, fun g hg => ?_⟩
    · rw [← List.reverse_reverse films, hsplit]
      simp
    · simpa using hlater g (List.mem_reverse.1 hg)
  · rintro ⟨earlier, later, rfl, hid, hlater⟩
    refine ⟨beq_iff_eq.2 hid, later.reverse, earlier.reverse, by simp, fun g hg => ?_⟩
    simpa using hlater g (List.mem_reverse.1 hg)

theorem exists_lastOf {films : Catalog} {f : Film} (h : f ∈ films) :
    ∃ g, films.LastOf f.id g := by
  cases hfound : films.reverse.find? (·.id == f.id) with
  | some g => exact ⟨g, (films.find?_reverse_eq_some_iff f.id g).1 hfound⟩
  | none => simpa using List.find?_eq_none.1 hfound f (List.mem_reverse.2 h)

end Catalog

/-- A hit is of a film: it has the id, the year and the embedding of that film, and the title
of the last film with that id. -/
structure Hit.IsOf (films : Catalog) (f : Film) (h : Hit) : Prop where
  id : h.id = .int f.id
  fields : h.fields =
    [("release_year", .int f.releaseYear), ("embedding", Value.floats f.embedding)]
  title : ∃ g, films.LastOf f.id g ∧ h.title = .text g.title

namespace Run

variable {s : Settings} {around : Surroundings} {before : Session} {films : Catalog}

/-! ## A run that returns -/

/-- What has come out of a run that returns its answer to a request. -/
def returnedTranscript (s : Settings) (films : Catalog) (before : Session)
    (request : SearchRequest) (hits : List (List Hit)) : Transcript :=
  let service := Service.ofSettings s
  afterClose s (afterDrop service
    (afterSearch service (untilRequest s films before) request hits))

theorem returned_cases {hits : List (List Hit)} (returned : (run s around before).1 = .ok hits) :
    ∃ films request, Catalog.read around.files s.dimension s.csvPath = .ok films ∧
      Run.request s ⟨s.dimension⟩ around = .ok request ∧
      answer films request = .ok hits ∧
      run s around before = (.ok hits, {
        Service.idle (cleared s before.server) (returnedTranscript s films before request hits) with
        plan := before.plan }) := by
  have same := (undisturbed_of_returned returned).run_eq
  rw [same] at returned
  cases read : Catalog.read around.files s.dimension s.csvPath with
  | error e =>
      rw [run_unread read] at returned
      cases returned
  | ok films =>
      by_cases port : Number.Writable s.milvusPort
      swap
      · rw [run_portUnwritable before.unplanned read port] at returned
        cases returned
      rcases run_cases (rfl : before.unplanned.plan = Plan.none) read port with
        ⟨-, failed⟩ | ⟨e, -, -, failed⟩ | ⟨request, hits', -, made, answered, clean⟩
      · rw [failed] at returned
        cases returned
      · rw [failed] at returned
        cases returned
      · rw [clean] at returned
        obtain rfl : hits' = hits := Except.ok.inj returned
        refine ⟨films, request, rfl, made, answered, ?_⟩
        rw [same, clean]
        rfl

/-! ## The years asked for -/

/-- The text of the years has one reading, as the list of the years. -/
theorem reads_years (s : Settings) :
    ∃ literals, literals.map Literal.value = s.releaseYears.map Value.int ∧
      ∀ e : Expression, e.Reads (years s).chars ↔ e = .isIn "release_year" literals := by
  have name : IsName "release_year" := ⟨_, _, rfl, rfl, List.all_eq_true.1 rfl⟩
  have ints : ∀ v ∈ s.releaseYears.map Value.int, v.IsLiteral ∧ v.Unslashed :=
    List.forall_mem_map.2 fun _ _ => ⟨trivial, trivial⟩
  have only : ∀ f ∈ (Condition.test (years s)).filters, f = years s := by
    intro f hf
    exact List.mem_singleton.1 hf
  have simple : (Condition.test (years s)).Simple :=
    ⟨trivial, fun f hf => only f hf ▸ ⟨name, fun v hv => (ints v hv).1⟩⟩
  have unslashed : (Condition.test (years s)).Unslashed :=
    fun f hf => only f hf ▸ fun v hv => (ints v hv).2
  have reads : (Expression.ofCondition (.test (years s))).Reads (years s).chars :=
    ⟨Expression.proper_ofCondition _ simple unslashed, Expression.chars_ofCondition _ simple⟩
  refine ⟨(s.releaseYears.map Value.int).map Literal.ofValue,
    Literal.map_value_ofValue (fun v hv => (ints v hv).1) fun v hv => (ints v hv).2, fun e => ?_⟩
  exact ⟨fun h => h.unique reads, fun h => h ▸ reads⟩

/-! ## The films found -/

/-- Rows that are found come from different places of the file. -/
theorem exists_places {r : SearchRequest} {k : Int} {found : List (Float × Row)}
    (first : Server.FirstOf k (admitted films r) found) :
    ∃ places : List (Fin films.length), places.Nodup ∧
      List.Forall₂ (fun i x => Server.admits r.condition? (films.get i).row ∧
        x.2 = (films.get i).row) places found := by
  obtain ⟨ordered, perm, rfl⟩ := first
  let row (i : Fin films.length) : Row := (films.get i).row
  let admits (i : Fin films.length) : Bool := Server.admits r.condition? (row i)
  let all := (List.finRange films.length).filter admits
  have rows : films.map Film.row = (List.finRange films.length).map row := by
    conv_lhs => rw [← List.map_get_finRange films, List.map_map]
    rfl
  have same : List.Forall₂ (fun x i => admits i ∧ x = row i) (admitted films r) all := by
    rw [admitted, rows, List.filter_map]
    exact List.forall₂_map_left_iff.2
      (List.forall₂_same.2 fun i hi => ⟨(List.mem_filter.1 hi).2, rfl⟩)
  obtain ⟨places, hplaces, hall⟩ := List.perm_comp_forall₂ perm same
  refine ⟨places.take k.toNat, ?_, ?_⟩
  · have nodup : places.Nodup := hall.nodup_iff.2 ((List.nodup_finRange _).filter _)
    exact nodup.sublist (List.take_sublist _ _)
  · exact (List.forall₂_take _ (List.forall₂_map_left_iff.1 hplaces)).flip

theorem length_found {r : SearchRequest} {k : Int} {found : List (Float × Row)} (hk : 0 < k)
    (first : Server.FirstOf k (admitted films r) found) :
    (found.length : Int) =
      min k (films.countP fun f => Server.admits r.condition? f.row : Nat) := by
  obtain ⟨ordered, perm, rfl⟩ := first
  have count : ordered.length = films.countP fun f => Server.admits r.condition? f.row := by
    rw [← List.length_map (·.2), perm.length_eq, admitted, List.filter_map, List.length_map,
      List.countP_eq_length_filter]
    rfl
  rw [List.length_take, count]
  omega

theorem isOf_ofRow {f : Film} (h : f ∈ films) {scored : Float × Row} (row : scored.2 = f.row) :
    (Hit.ofRow (titles films) outputFields scored).IsOf films f := by
  obtain ⟨g, last⟩ := Catalog.exists_lastOf h
  refine ⟨?_, ?_, g, last, ?_⟩
  · rw [Hit.ofRow, row]
    rfl
  · rw [Hit.ofRow, row]
    rfl
  · rw [Hit.ofRow, row]
    refine (title_titles films f.id).trans ?_
    rw [(films.find?_reverse_eq_some_iff f.id g).2 last]
    rfl

/-- The films of a run's answer, by their places in the file. -/
structure Finds (s : Settings) (films : Catalog) (hits : List Hit) : Prop where
  length : (hits.length : Int) =
    min s.topK (films.countP fun f => s.releaseYears.contains f.releaseYear : Nat)
  places : ∃ places : List (Fin films.length), places.Nodup ∧
    List.Forall₂ (fun i h => (films.get i).releaseYear ∈ s.releaseYears ∧
      Hit.IsOf films (films.get i) h) places hits

theorem finds_of_answer {request : SearchRequest} {hits : List (List Hit)}
    {schema : FilmSchema} (made : Run.request s schema around = .ok request)
    (answered : answer films request = .ok hits) :
    ∃ group, hits = [group] ∧ Finds s films group := by
  obtain ⟨years, positive, v, -, -, hr⟩ := request_ok made
  obtain ⟨found, first, -, answered'⟩ := exists_answer made films
  have condition : request.condition? = some (.test (Run.years s)) :=
    congrArg SearchRequest.condition? hr
  obtain rfl := Except.ok.inj (answered.symm.trans answered')
  refine ⟨_, rfl, ?_, ?_⟩
  · rw [List.length_map, length_found positive first]
    simp only [condition, admits_years years]
    rfl
  · obtain ⟨places, nodup, rows⟩ := exists_places first
    refine ⟨places, nodup, List.forall₂_map_right_iff.2 (rows.imp fun i x h => ⟨?_, ?_⟩)⟩
    · have admits := h.1
      rw [condition, admits_years years] at admits
      exact List.contains_iff_mem.1 admits
    · exact isOf_ofRow (List.get_mem films i) h.2

/-! ## What comes out of a run -/

/-- The statistics count the films, if the server adds no count of its own. -/
theorem get?_statistics (service : Service) (films : Catalog) {extra : Fields}
    (h : Keyed.get? "row_count" extra = none) :
    Keyed.get? "row_count" (statistics service extra films) = some (.int films.length) := by
  rw [statistics, Keyed.get?_put, if_neg (by decide), Service.get?_rowStats _ h]
  simp [indexed, filled]

theorem counted_eq (films : Catalog) :
    counted films = "There are " ++ toString films.length ++ " films in the collection.\n" ++
      "\n--------Collection Stats--------\n" := by
  have line : " films in the collection." ++ "\n" = " films in the collection.\n" := rfl
  have head : "\n--------Collection Stats--------" ++ "\n" =
      "\n--------Collection Stats--------\n" := rfl
  rw [counted, ← line, ← head]
  simp only [String.append_assoc]
  rfl

/-- The statistics are printed with the number of films as their first field. -/
theorem write_statistics (service : Service) (films : Catalog) {extra : Fields}
    (h : Keyed.get? "row_count" extra = none) :
    ∃ others, Json.write 0 (.record (statistics service extra films)) =
      "\x7b\n    \"row_count\": " ++ toString films.length ++ "," ++ others := by
  obtain ⟨v, rest, rows⟩ := Keyed.exists_putAll_cons "row_count"
    (Value.int (indexed service films).rows.length) [] extra
  have count : v = .int films.length := by
    have first := get?_statistics service films h
    rw [statistics, Service.rowStats, rows] at first
    exact Option.some.inj first
  have name : Json.writeText "row_count" = "\"row_count\"" :=
    Json.writeText_plain (by simp [Json.escapedChar])
  obtain ⟨others, text⟩ := Json.write_record_cons 0 (k := "row_count") (v := v)
    (Keyed.put_ne_nil "indexes" (.list (((indexed service films).entries
      service.collection).map IndexEntry.toValue)) rest)
  refine ⟨others, ?_⟩
  rw [statistics, Service.rowStats, rows]
  refine text.trans ?_
  rw [name, count, Json.write]
  rfl

/-- What a run that returns has found, sent to the server, logged and printed. -/
structure Returns (s : Settings) (films : Catalog) (before : Session) (hits : List (List Hit))
    (after : Session) : Prop where
  found : ∃ group, hits = [group] ∧ Finds s films group
  asked : ∃ past request text literals, before.calls <+: past ∧
    past ++ [.search s.collectionName request (some outputFields)] <+: after.calls ∧
    request.filterText? = some text ∧
    (∀ e : Expression, e.Reads text.toList ↔ e = .isIn "release_year" literals) ∧
    literals.map Literal.value = s.releaseYears.map Value.int
  logged : ∃ news, after.events = before.events ++ news ∧ (∀ id, .noTitle id ∉ news) ∧
    ∀ count limit, .fewRows count limit ∈ news ↔
      count = films.length ∧ limit = s.segmentRowLimit ∧ (films.length : Int) < s.segmentRowLimit
  printed : ∃ stats rest, after.printed = before.printed ++
      ("There are " ++ toString films.length ++ " films in the collection.\n" ++
        "\n--------Collection Stats--------\n" ++ Json.write 0 (.record stats) ++ "\n" ++
        rest) ∧
    (Keyed.get? "row_count" before.server.extraStats = none →
      Keyed.get? "row_count" stats = some (.int films.length) ∧
      ∃ others, Json.write 0 (.record stats) =
        "\x7b\n    \"row_count\": " ++ toString films.length ++ "," ++ others)

theorem calls_untilRequest : before.calls <+: (untilRequest s films before).calls := by
  simp only [untilRequest, untilStats, Transcript.calls_writeLine, calls_afterStats,
    calls_afterFill, Service.calls_remade, Service.calls_opened, started, List.append_assoc]
  exact List.prefix_append _ _

theorem search_returned (request : SearchRequest) (hits : List (List Hit)) :
    (untilRequest s films before).calls ++ [.load s.collectionName,
      .search s.collectionName request (some outputFields)] <+:
        (returnedTranscript s films before request hits).calls := by
  simp only [returnedTranscript, afterClose, Transcript.calls_call, Transcript.calls_log,
    calls_afterDrop, calls_afterSearch, List.append_assoc]
  exact (List.prefix_append_right_inj _).2 (List.prefix_append _ _)

/-- The events of a run that returns. -/
def news (s : Settings) (films : Catalog) (replaces : Bool) (request : SearchRequest) :
    List Event :=
  let replacing : List Event := if replaces then [.replacing s.collectionName] else []
  let few : List Event :=
    if (films.length : Int) < s.segmentRowLimit then
      [.fewRows films.length s.segmentRowLimit] else []
  .filmsRead films.length s.csvPath :: .connected s.milvusHost s.milvusPort ::
    (replacing ++ .created s.collectionName :: .inserted films.length ::
      (few ++ [.indexCreated s.indexType s.metricType "embedding" [("nlist", .int s.nlist)],
        .searching request, .indexDropped "embedding", .dropped s.collectionName,
        .disconnected]))

theorem noTitle_notMem_news (replaces : Bool) (request : SearchRequest) (id : Value) :
    .noTitle id ∉ news s films replaces request := by
  cases replaces <;> by_cases h : (films.length : Int) < s.segmentRowLimit <;> simp [news, h]

theorem fewRows_mem_news_iff (replaces : Bool) (request : SearchRequest) (count : Nat)
    (limit : Int) :
    .fewRows count limit ∈ news s films replaces request ↔
      count = films.length ∧ limit = s.segmentRowLimit ∧
        (films.length : Int) < s.segmentRowLimit := by
  cases replaces <;> by_cases h : (films.length : Int) < s.segmentRowLimit <;> simp [news, h]

theorem events_returned (request : SearchRequest) (hits : List (List Hit)) :
    let replaces := (Keyed.get? s.collectionName before.server.collections).isSome
    (returnedTranscript s films before request hits).events =
      before.events ++ news s films replaces request := by
  simp only [returnedTranscript, afterClose, untilRequest, untilStats, Transcript.events_call,
    Transcript.events_log, Transcript.events_writeLine, events_afterDrop, events_afterSearch,
    events_afterStats, events_afterFill, Service.events_remade, Service.events_opened,
    Service.collections_opened, started, List.append_assoc]
  rfl

theorem printed_returned (request : SearchRequest) (hits : List (List Hit)) :
    (returnedTranscript s films before request hits).printed =
      before.printed ++ (shown s films before.server.extraStats ++ Hit.printout hits) := by
  simp only [returnedTranscript, afterClose, Transcript.printed_call, Transcript.printed_log,
    printed_afterDrop, printed_afterSearch, printed_untilRequest, String.append_assoc]

/-- A run that returns has found as many films of the years asked for as there are and as are
asked for, each at another place of the file, and each with the last title of its id. It has
counted all films of the file, and warned just if these are few. -/
theorem run_returns {hits : List (List Hit)} (returned : (run s around before).1 = .ok hits) :
    ∃ films, Catalog.read around.files s.dimension s.csvPath = .ok films ∧
      Returns s films before hits (run s around before).2 := by
  obtain ⟨films, request, read, made, answered, out⟩ := returned_cases returned
  refine ⟨films, read, ?_⟩
  obtain ⟨-, -, v, -, -, hr⟩ := request_ok made
  obtain ⟨literals, values, reads⟩ := reads_years s
  have text : request.filterText? = some (years s).toText := by
    rw [hr]
    rfl
  have calls := congrArg (fun r => r.2.calls) out
  have events := congrArg (fun r => r.2.events) out
  have printed := congrArg (fun r => r.2.printed) out
  simp only [Service.calls_idle, Service.events_idle, Service.printed_idle] at calls events printed
  refine ⟨finds_of_answer made answered, ?_, ?_, ?_⟩
  · have searched : (untilRequest s films before).calls ++ _ <+: _ := search_returned request hits
    rw [List.append_cons, ← calls] at searched
    refine ⟨_, request, (years s).toText, literals,
      calls_untilRequest.trans (List.prefix_append _ _), searched, text, ?_, values⟩
    rw [Filter.toText, String.toList_ofList]
    exact reads
  · rw [events]
    exact ⟨_, events_returned request hits, noTitle_notMem_news _ request,
      fewRows_mem_news_iff _ request⟩
  · let stats := statistics (Service.ofSettings s) before.server.extraStats films
    refine ⟨stats, Hit.printout hits, ?_, fun none => ⟨get?_statistics _ films none,
      write_statistics _ films none⟩⟩
    rw [printed, printed_returned, shown, counted_eq]

/-! ## Two films with one id -/

/-- A film file with two films of one id. -/
def sharedId : Surroundings := {
  files := fun _ => .ok "1,A,1995,[0.5]\n1,B,2002,[0.25]\n".toUTF8 }

/-- Settings that ask for the films of one year. -/
def oneYear : Settings :=
  { Settings.defaults with dimension := 1, releaseYears := [1995], querySeed := some 7 }

theorem read_sharedId : ∃ f g : Film,
    Catalog.read sharedId.files oneYear.dimension oneYear.csvPath = .ok [f, g] ∧
      (f.id = 1 ∧ f.title = "A" ∧ f.releaseYear = 1995) ∧
      g.id = 1 ∧ g.title = "B" ∧ g.releaseYear = 2002 := by
  have decoded : Catalog.read sharedId.files oneYear.dimension oneYear.csvPath =
      Catalog.parse 1 "1,A,1995,[0.5]\n1,B,2002,[0.25]\n" := by
    rw [Catalog.read]
    exact Catalog.ofBytes_toUTF8 1 "1,A,1995,[0.5]\n1,B,2002,[0.25]\n"
  rw [decoded]
  refine ⟨_, _, rfl, ?_⟩
  exact ⟨⟨rfl, rfl, rfl⟩, rfl, rfl, rfl⟩

theorem returned_sharedId : ∃ hits, (run oneYear sharedId {}).1 = .ok hits := by
  have pos : oneYear.Positive := ⟨by decide, by decide, by decide, by decide⟩
  have enough : oneYear.Sufficient sharedId.memory :=
    ⟨⟨by decide, by decide, fun seed h => by cases h; decide, by decide, by decide⟩,
      by decide, by decide⟩
  obtain ⟨f, g, read, -⟩ := read_sharedId
  have count : Number.Writable (2 : Nat) := by decide
  exact returned_of_sufficient pos read enough (tells_count count) (undisturbed_of_unplanned rfl)

theorem run_returns_sharedId :
    ∃ hits, (run oneYear sharedId {}).1 = .ok hits ∧
      ∃ films, Catalog.read sharedId.files oneYear.dimension oneYear.csvPath = .ok films ∧
        Returns oneYear films {} hits (run oneYear sharedId {}).2 := by
  obtain ⟨hits, returned⟩ := returned_sharedId
  exact ⟨hits, returned, run_returns returned⟩

end Run
end FilmIndex
