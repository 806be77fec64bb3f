import FilmIndex.Hit.Report
import FilmIndex.Proofs.Session.Action
import FilmIndex.Proofs.Traversal
import FilmIndex.Server.Search

/-!
Hits of stored films. A search by numbers for a whole number of rows cannot go wrong: for
each query vector it finds the first of the rows that are admitted. Joined with any titles
of films these become hits, which can be printed.
-/

namespace FilmIndex

namespace Server

/-- Rows with their distances that one query vector finds: the first of the admitted ones in
some order, as many as are asked for. -/
def FirstOf (k : Int) (admitted : List Row) (group : List (Float × Row)) : Prop :=
  ∃ ordered : List (Float × Row),
    (ordered.map (·.2)).Perm admitted ∧ group = ordered.take k.toNat

theorem exists_distanceFrom (total : Float) (xs ys : List Float) :
    ∃ d, distanceFrom total (xs.map Value.float) ys = .ok d := by
  induction xs generalizing total ys with
  | nil => exact ⟨total, rfl⟩
  | cons x xs ih =>
      cases ys with
      | nil => exact ⟨total, rfl⟩
      | cons y ys => exact ih _ ys

theorem exists_ranked (rows : List Row) (xs : List Float) :
    ∃ scored, ranked rows (xs.map Value.float) = .ok scored ∧ (scored.map (·.2)).Perm rows := by
  have each : ∀ r ∈ rows, ∃ y, (do return (← distance (xs.map Value.float) r, r) :
      Except ServerError (Float × Row)) = .ok (id y) ∧ r = y.2 := by
    intro r _
    obtain ⟨d, hd⟩ := exists_distanceFrom 0 xs r.embedding
    refine ⟨(d, r), ?_, rfl⟩
    rw [distance, hd]
    rfl
  obtain ⟨scored, hscored, same⟩ := exists_mapM_ok each
  rw [List.map_id] at hscored
  have rows_eq : rows = scored.map (·.2) :=
    List.forall₂_eq_eq_eq ▸ List.forall₂_map_right_iff.2 same
  refine ⟨Ranking.sort (fun a b => decide (a.1 < b.1)) scored, ?_, ?_⟩
  · rw [ranked, hscored]
    rfl
  · rw [rows_eq]
    exact (Ranking.sort_perm _ _).map _

theorem exists_searchRows (rows : List Row) {request : SearchRequest} {queries : List (List Float)}
    {k : Int} (vectors : request.vectors = queries.map fun v => v.map Value.float)
    (limit : request.limit = .int k) (names : List String) :
    ∃ groups, searchRows rows request names = .ok (groups.map fun g => g.map (found names)) ∧
      List.Forall₂ (fun _ g => FirstOf k (rows.filter (admits request.condition?)) g)
        request.vectors groups := by
  refine exists_mapM_ok fun query hquery => ?_
  rw [vectors] at hquery
  obtain ⟨xs, _, rfl⟩ := List.mem_map.1 hquery
  obtain ⟨scored, hscored, perm⟩ := exists_ranked (rows.filter (admits request.condition?)) xs
  refine ⟨scored.take k.toNat, ?_, scored, perm, rfl⟩
  rw [hscored, limit]
  rfl

end Server

namespace Titles

theorem check_ok {titles : Titles} (keyed : ∀ t ∈ titles, IsKey t.1) :
    check titles = .ok () := by
  induction titles with
  | nil => rfl
  | cons t rest ih =>
      obtain ⟨first, later⟩ := List.forall_mem_cons.1 keyed
      change (checkKey t.1 >>= fun _ => check rest) = .ok ()
      rw [first]
      exact ih later

theorem isKey_ids (titles : List (Int × String)) :
    ∀ t ∈ titles.map fun t => (Value.int t.1, Value.text t.2), IsKey t.1 :=
  List.forall_mem_map.2 fun _ _ => rfl

theorem title_ids {titles : List (Int × String)} (h : Keyed.Distinct titles) (id : Int) :
    title (titles.map fun t => (.int t.1, .text t.2)) (.int id) =
      ((Keyed.get? id titles).map Value.text).getD .null := by
  have same : ((fun t : Value × Value => t.1.same (.int id)) ∘
      fun t : Int × String => (Value.int t.1, Value.text t.2)) = fun t => t.1 == id := rfl
  rw [title, ← List.map_reverse, List.find?_map, same, ← Keyed.find?_reverse id h]
  cases titles.reverse.find? (·.1 == id) with
  | none => rfl
  | some t => rfl

end Titles

namespace Hit

/-- A hit whose embedding can be printed. -/
def Printable (h : Hit) : Prop := ∃ text, embeddingText (h.field "embedding") = .ok text

theorem formatValues_floats (xs : List Float) :
    Embedding.formatValues (xs.map Value.float) = .ok (Embedding.format xs) := by
  have h : (xs.map Value.float).mapM Value.toFloat = .ok xs := by
    induction xs with
    | nil => rfl
    | cons x xs ih =>
        rw [List.map_cons, List.mapM_cons, ih]
        rfl
  rw [Embedding.formatValues, h]
  rfl

/-- The embedding of a found row, where it was asked for. -/
theorem field_embedding {names names' : List String} {r : Row} {h : Hit}
    (fields : h.fields = fieldMap names (Server.entity names' r)) :
    h.field "embedding" = .null ∨ h.field "embedding" = Value.floats r.embedding := by
  rw [field, fields]
  cases hfield : Keyed.get? "embedding" (fieldMap names (Server.entity names' r)) with
  | none => exact .inl rfl
  | some v =>
      obtain ⟨name, -, hname⟩ := List.mem_map.1 (Keyed.mem_of_get?_ofList hfield)
      obtain ⟨rfl, rfl⟩ := Prod.mk.inj hname
      cases hentity : Keyed.get? "embedding" (Server.entity names' r) with
      | none => exact .inl rfl
      | some w =>
          obtain ⟨name, -, hname⟩ := List.mem_filterMap.1 (Keyed.mem_of_get?_ofList hentity)
          obtain ⟨x, hx, hname⟩ := Option.map_eq_some_iff.1 hname
          obtain ⟨rfl, rfl⟩ := Prod.mk.inj hname
          exact .inr (Option.some.inj hx).symm

theorem printable_of_row {names names' : List String} {r : Row} {h : Hit}
    (fields : h.fields = fieldMap names (Server.entity names' r)) : h.Printable := by
  rw [Printable]
  rcases field_embedding fields with hnull | hfloats
  · exact ⟨Value.null.shown, by rw [hnull]; rfl⟩
  · refine ⟨Embedding.format r.embedding, ?_⟩
    rw [hfloats, embeddingText, if_neg (by simp [Value.floats, Value.isNull]), Value.floats,
      elements]
    exact congrArg (Except.mapError Failure.number) (formatValues_floats r.embedding)

/-! ## Joining -/

/-- The hit of what was found, with the given fields. -/
def ofFound (titles : Titles) (fields : Found → Fields) (found : Found) : Hit :=
  ⟨found.id, found.distance, titles.title found.id, fields found⟩

/-- The warnings about hits: one for each that has no title, in their order. -/
def warnings (hits : List Hit) : List Event :=
  (hits.filter fun h => h.title.isNull).map fun h => .noTitle h.id

theorem warnings_cons (h : Hit) (hits : List Hit) :
    warnings (h :: hits) = (if h.title.isNull then [.noTitle h.id] else []) ++ warnings hits := by
  rw [warnings, List.filter_cons]
  split <;> rfl

theorem warnings_append (hits hits' : List Hit) :
    warnings (hits ++ hits') = warnings hits ++ warnings hits' := by
  rw [warnings, List.filter_append, List.map_append]
  rfl

section
variable {titles : Titles} {id : Value} {fields : Found → Fields}

theorem logs_lookUp (h : Titles.IsKey id) :
    (lookUp titles id).Logs (.ok (titles.title id))
      (if (titles.title id).isNull then [.noTitle id] else []) := by
  have told : Action.Logs (do
      if (titles.title id).isNull then Action.log (.noTitle id)
      return titles.title id) (.ok (titles.title id))
        (if (titles.title id).isNull then [.noTitle id] else []) := by
    split
    · exact (Action.logs_log _).bind (Action.logs_pure _)
    · exact Action.logs_pure _
  rw [lookUp, h]
  exact (Action.logs_pure ()).bind told

theorem logs_lookUp_error {e : HitError} (h : Titles.checkKey id = .error e) :
    (lookUp titles id).Logs (.error (.result e)) [] := by
  rw [lookUp, h]
  exact (Action.logs_fail _).bind_error _

theorem logs_joinLogged {group : List Found} (ids : ∀ found ∈ group, Titles.IsKey found.id) :
    (joinLogged titles (group.map (·.id)) (group.map (·.distance)) (group.map fields)).Logs
      (.ok (group.map (ofFound titles fields))) (warnings (group.map (ofFound titles fields))) := by
  induction group with
  | nil => exact Action.logs_pure []
  | cons found rest ih =>
      obtain ⟨first, later⟩ := List.forall_mem_cons.1 ids
      simp only [List.map_cons, joinLogged, warnings_cons]
      refine (logs_lookUp first).bind ?_
      rw [← List.append_nil (warnings _)]
      exact (ih later).bind (Action.logs_pure _)

/-- A join goes as far as the first id that can be none. -/
theorem logs_joinLogged_error {earlier later : List Found} {bad : Found} {e : HitError}
    (ids : ∀ found ∈ earlier, Titles.IsKey found.id) (h : Titles.checkKey bad.id = .error e) :
    let group := earlier ++ bad :: later
    (joinLogged titles (group.map (·.id)) (group.map (·.distance)) (group.map fields)).Logs
      (.error (.result e)) (warnings (earlier.map (ofFound titles fields))) := by
  intro group
  induction earlier with
  | nil => exact (logs_lookUp_error h).bind_error _
  | cons found rest ih =>
      obtain ⟨first, later⟩ := List.forall_mem_cons.1 ids
      simp only [group, List.cons_append, List.map_cons, joinLogged, warnings_cons]
      exact (logs_lookUp first).bind ((ih later).bind_error _)

variable (keyed : ∀ t ∈ titles, Titles.IsKey t.1)
include keyed

theorem correlateLogged_eq_joinLogged {ids distances : List Value} {columns : List Fields}
    (same : ids.length = distances.length) (same' : distances.length = columns.length) :
    correlateLogged titles ids distances columns = joinLogged titles ids distances columns := by
  rw [correlateLogged, Titles.check_ok keyed, if_pos ⟨same, same'⟩]
  rfl

theorem logs_correlateLogged {group : List Found}
    (ids : ∀ found ∈ group, Titles.IsKey found.id) :
    (correlateLogged titles (group.map (·.id)) (group.map (·.distance)) (group.map fields)).Logs
      (.ok (group.map (ofFound titles fields))) (warnings (group.map (ofFound titles fields))) := by
  rw [correlateLogged_eq_joinLogged keyed (by simp) (by simp)]
  exact logs_joinLogged ids

/-- Hits whose ids can be ids are joined one by one, whatever the others are. -/
theorem logs_ofSearchLogged (names : List String) {result : List (List Found)}
    (ids : ∀ group ∈ result, ∀ found ∈ group, Titles.IsKey found.id) :
    let hits := result.map (List.map (ofFound titles fun f => fieldMap names f.entity))
    (ofSearchLogged titles names result).Logs (.ok hits) (warnings hits.flatten) := by
  intro hits
  induction result with
  | nil => exact Action.logs_pure []
  | cons group rest ih =>
      obtain ⟨first, later⟩ := List.forall_mem_cons.1 ids
      simp only [hits, List.map_cons, List.flatten_cons, warnings_append, ofSearchLogged,
        List.mapM_cons]
      refine (logs_correlateLogged keyed first).bind ?_
      rw [← List.append_nil (warnings _)]
      exact (ih later).bind (Action.logs_pure _)

end

variable (titles : Titles) (names : List String)

/-- The hit of a found row. -/
def ofRow (scored : Float × Row) : Hit :=
  ⟨.int scored.2.id, .float scored.1, titles.title (.int scored.2.id),
    fieldMap names (Server.entity names scored.2)⟩

theorem logs_ofSearchLogged_found (films : List (Int × String))
    (groups : List (List (Float × Row))) :
    let titles : Titles := films.map fun t => (.int t.1, .text t.2)
    let hits := groups.map fun g => g.map (ofRow titles names)
    (ofSearchLogged titles names (groups.map fun g => g.map (Server.found names))).Logs (.ok hits)
      (warnings hits.flatten) := by
  intro titles hits
  have joined : (groups.map fun g => g.map (Server.found names)).map
      (List.map (ofFound titles fun f => fieldMap names f.entity)) = hits := by
    simp only [List.map_map, Function.comp_def]
    rfl
  rw [← joined]
  exact logs_ofSearchLogged (Titles.isKey_ids films) names
    (List.forall_mem_map.2 fun _ _ => List.forall_mem_map.2 fun _ _ => rfl)

/-! ## Printing -/

theorem exists_writes_printHit {h : Hit} (printable : h.Printable) :
    ∃ text, Action.Writes (printHit h) text := by
  obtain ⟨text, htext⟩ := printable
  have last : Action.Writes (do
      let embedding ← Action.ofExcept (fun e => e) (embeddingText (h.field "embedding"))
      Action.printLine ("- embedding: " ++ embedding)) ("- embedding: " ++ text ++ "\n") := by
    rw [htext]
    exact Action.writes_printLine _
  exact ⟨_, (Action.writes_printLine _).bind <| (Action.writes_printLine _).bind <|
    (Action.writes_printLine _).bind last⟩

/-- What is printed of some results. -/
def printout (results : List (List Hit)) : String := (print results {}).2.printed

theorem writes_print {results : List (List Hit)}
    (printable : ∀ hits ∈ results, ∀ x ∈ hits, x.Printable) :
    Action.Writes (print results) (printout results) := by
  have each : ∀ x ∈ results.flatten, ∃ text, Action.Writes (printHit x) text := by
    intro x hx
    obtain ⟨hits, hhits, hx⟩ := List.mem_flatten.1 hx
    exact exists_writes_printHit (printable hits hhits x hx)
  obtain ⟨text, htext⟩ := Action.exists_writes_forM each
  have writes : Action.Writes (print results) _ := (Action.writes_printLine _).bind <|
    (Action.writes_printLine _).bind <| (Action.writes_printLine _).bind htext
  rw [printout, writes.printed_eq]
  exact writes

/-! ## The parts of joining and printing -/

variable {Part : (α : Type) → Action α → Prop}

theorem madeOf_joinLogged (titles : Titles) (ids distances : List Value) (fields : List Fields) :
    Action.MadeOf Part (joinLogged titles ids distances fields) := by
  fun_induction joinLogged titles ids distances fields with
  | case1 id ids distance distances fields rest ih =>
      have looksUp : Action.MadeOf Part (lookUp titles id) :=
        .bind (.ofExcept _ _) fun _ => .ite (.bind (.log _) fun _ => .pure _) (.pure _)
      exact .bind looksUp fun _ => .bind ih fun _ => .pure _
  | case2 => exact .pure []

theorem madeOf_ofSearchLogged (titles : Titles) (names : List String)
    (result : List (List Found)) : Action.MadeOf Part (ofSearchLogged titles names result) :=
  .mapM result fun _ => .bind (.ofExcept _ _) fun _ => .ite (madeOf_joinLogged ..) (.fail _)

theorem madeOf_printHit (h : Hit) : Action.MadeOf Part (printHit h) :=
  .bind (.printLine _) fun _ => .bind (.printLine _) fun _ => .bind (.printLine _) fun _ =>
    .bind (.ofExcept _ _) fun _ => .printLine _

theorem madeOf_print (results : List (List Hit)) : Action.MadeOf Part (print results) :=
  .bind (.printLine _) fun _ => .bind (.printLine _) fun _ => .bind (.printLine _) fun _ =>
    .forM _ madeOf_printHit

end Hit
end FilmIndex
