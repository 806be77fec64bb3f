import FilmIndex.Proofs.Hit.Found
import FilmIndex.Proofs.Value.Key

/-!
Results joined with titles by id. What becomes of a hit depends on nothing but the hit itself
and the titles, whichever hits stand beside it, and of the titles only the last one listed for
its id counts. Lists and records are no ids, and nothing can be joined by them.
-/

namespace FilmIndex
open FilmIndex.Action

namespace Titles

variable {titles titles' : Titles} {id title title' : Value}

/-- The title that is listed last for an id, which is null if there is none. -/
inductive Last (titles : Titles) (id : Value) : Value → Prop
  | listed {earlier later : Titles} {key title : Value}
      (split : titles = earlier ++ (key, title) :: later) (same : key.same id = true)
      (last : ∀ t ∈ later, t.1.same id = false) : Last titles id title
  | unlisted (none : ∀ t ∈ titles, t.1.same id = false) : Last titles id .null

theorem last_title (titles : Titles) (id : Value) : titles.Last id (titles.title id) := by
  rw [title]
  cases found : titles.reverse.find? fun t => t.1.same id with
  | none =>
      refine .unlisted fun t mem => ?_
      simpa using List.find?_eq_none.1 found t (List.mem_reverse.2 mem)
  | some t =>
      obtain ⟨same, later, earlier, split, last⟩ := List.find?_eq_some_iff_append.1 found
      have split : titles = earlier.reverse ++ t :: later.reverse := by
        rw [← List.reverse_reverse titles, split]
        simp
      exact .listed split same fun u mem => by simpa using last u (List.mem_reverse.1 mem)

theorem Last.title_eq (h : titles.Last id title) : titles.title id = title := by
  rw [Titles.title]
  cases h with
  | unlisted none =>
      have absent : titles.reverse.find? (fun t => t.1.same id) = Option.none :=
        List.find?_eq_none.2 fun t mem => by simp [none t (List.mem_reverse.1 mem)]
      rw [absent]
  | @listed earlier later key _ split same last =>
      have found : titles.reverse.find? (fun t => t.1.same id) = some (key, title) := by
        refine List.find?_eq_some_iff_append.2 ⟨same, later.reverse, earlier.reverse, ?_, ?_⟩
        · rw [split]
          simp
        · exact fun t mem => by simp [last t (List.mem_reverse.1 mem)]
      rw [found]

/-- The order of titles whose ids are pairwise not the same makes no difference. -/
theorem Last.perm (keyed : ∀ t ∈ titles, IsKey t.1) (hid : IsKey id) (perm : titles'.Perm titles)
    (distinct : titles.Pairwise fun t u => t.1.same u.1 = false) (h : titles.Last id title) :
    titles'.Last id title := by
  cases h with
  | unlisted none => exact .unlisted fun t mem => none t (perm.subset mem)
  | @listed earlier later key _ split same last =>
      subst split
      obtain ⟨earlier', later', rfl⟩ :=
        List.append_of_mem (perm.symm.subset (List.mem_append_right _ List.mem_cons_self))
      refine .listed rfl same fun u mem => ?_
      have rest : (earlier' ++ later').Perm (earlier ++ later) :=
        (List.perm_cons _).1 ((List.perm_middle.symm.trans perm).trans List.perm_middle)
      obtain ⟨-, -, apart⟩ := List.pairwise_append.1 distinct
      cases other : u.1.same id with
      | false => rfl
      | true =>
          have hkey := keyed (key, title) (List.mem_append_right _ List.mem_cons_self)
          rcases List.mem_append.1 (rest.subset (List.mem_append_right _ mem)) with before | after
          · have clash := Value.same_of_same hkey hid other same
            exact absurd clash (by simp [apart u before (key, title) List.mem_cons_self])
          · rw [last u after] at other
            exact absurd other Bool.false_ne_true

theorem title_perm (keyed : ∀ t ∈ titles, IsKey t.1) (hid : IsKey id) (perm : titles'.Perm titles)
    (distinct : titles.Pairwise fun t u => t.1.same u.1 = false) :
    titles'.title id = titles.title id :=
  ((last_title titles id).perm keyed hid perm distinct).title_eq

end Titles

/-! ## Ids that can be none -/

namespace Titles

theorem isKey_or_badKey (id : Value) : IsKey id ∨ ∃ kind, checkKey id = .error (.badKey kind) := by
  cases id with
  | list _ | record _ => exact .inr ⟨_, rfl⟩
  | _ => exact .inl rfl

/-- Ids up to the first one that can be none. -/
structure FirstBad (ids earlier : List Value) (kind : String) : Prop where
  found : ∃ bad later, ids = earlier ++ bad :: later ∧ checkKey bad = .error (.badKey kind)
  keys : ∀ id ∈ earlier, IsKey id

theorem exists_firstBad {ids : List Value} (h : ¬ ∀ id ∈ ids, IsKey id) :
    ∃ earlier kind, FirstBad ids earlier kind := by
  induction ids with
  | nil => exact absurd nofun h
  | cons id ids ih =>
      rcases isKey_or_badKey id with first | ⟨kind, bad⟩
      · obtain ⟨earlier, kind, ⟨bad, later, rfl, hbad⟩, keys⟩ :=
          ih fun later => h (List.forall_mem_cons.2 ⟨first, later⟩)
        exact ⟨id :: earlier, kind, ⟨bad, later, rfl, hbad⟩, List.forall_mem_cons.2 ⟨first, keys⟩⟩
      · exact ⟨[], kind, ⟨id, ids, rfl, bad⟩, nofun⟩

end Titles

namespace Hit

variable {titles titles' : Titles} {ids distances : List Value} {fields : List Fields}

/-- Three columns of one length are the columns of what a search could have found. -/
theorem exists_rows (same : ids.length = distances.length)
    (same' : distances.length = fields.length) :
    ∃ group : List Found, ids = group.map (·.id) ∧ distances = group.map (·.distance) ∧
      fields = group.map (·.entity) := by
  induction ids generalizing distances fields with
  | nil =>
      obtain rfl := List.length_eq_zero_iff.1 same.symm
      obtain rfl := List.length_eq_zero_iff.1 same'.symm
      exact ⟨[], rfl, rfl, rfl⟩
  | cons id ids ih =>
      cases distances with
      | nil => cases same
      | cons distance distances =>
          cases fields with
          | nil => cases same'
          | cons entity fields =>
              obtain ⟨group, rfl, rfl, rfl⟩ := ih (Nat.succ.inj same) (Nat.succ.inj same')
              exact ⟨⟨id, distance, entity⟩ :: group, rfl, rfl, rfl⟩

/-- A join of columns ends at the first id that can be none, with the warnings so far. -/
theorem exists_logs_joinLogged_badKey {f : Found → Fields} {group : List Found}
    (h : ¬ ∀ found ∈ group, Titles.IsKey found.id) :
    ∃ earlier later kind, group = earlier ++ later ∧
      Titles.FirstBad (group.map (·.id)) (earlier.map (·.id)) kind ∧
      (joinLogged titles (group.map (·.id)) (group.map (·.distance)) (group.map f)).Logs
        (.error (.result (.badKey kind))) (warnings (earlier.map (ofFound titles f))) := by
  obtain ⟨_, kind, first⟩ := Titles.exists_firstBad (mt List.forall_mem_map.1 h)
  obtain ⟨_, _, split, bad⟩ := first.found
  obtain ⟨earlier, rest, rfl, rfl, hrest⟩ := List.map_eq_append_iff.1 split
  obtain ⟨found, later, rfl, rfl, rfl⟩ := List.map_eq_cons_iff.1 hrest
  exact ⟨earlier, found :: later, kind, rfl, first,
    logs_joinLogged_error (List.forall_mem_map.1 first.keys) bad⟩

theorem logs_correlateLogged_mismatched (keyed : ∀ t ∈ titles, Titles.IsKey t.1)
    (differ : ¬ (ids.length = distances.length ∧ distances.length = fields.length)) :
    (correlateLogged titles ids distances fields).Logs
      (.error (.result (.lengths ids.length distances.length fields.length))) [] := by
  rw [correlateLogged, Titles.check_ok keyed, if_neg differ]
  exact (Action.logs_pure ()).bind (Action.logs_fail _)

/-! ## The order of titles -/

section
variable (keyed : ∀ t ∈ titles, Titles.IsKey t.1) (perm : titles'.Perm titles)
  (distinct : titles.Pairwise fun t u => t.1.same u.1 = false)
include keyed perm distinct

theorem lookUp_perm (id : Value) : lookUp titles' id = lookUp titles id := by
  rcases Titles.isKey_or_badKey id with hid | ⟨kind, bad⟩
  · rw [lookUp, lookUp, Titles.title_perm keyed hid perm distinct]
  · rw [lookUp, lookUp, bad]
    rfl

theorem joinLogged_perm :
    joinLogged titles' ids distances fields = joinLogged titles ids distances fields := by
  fun_induction joinLogged titles ids distances fields with
  | case1 id ids distance distances fields rest ih =>
      rw [joinLogged, ih, lookUp_perm keyed perm distinct]
  | case2 _ _ _ ends =>
      rw [joinLogged]
      exact ends

theorem ofSearchLogged_perm (names : List String) (result : List (List Found)) :
    ofSearchLogged titles' names result = ofSearchLogged titles names result := by
  have keyed' : ∀ t ∈ titles', Titles.IsKey t.1 := fun t mem => keyed t (perm.subset mem)
  refine congrArg (List.mapM · result) (funext fun group => ?_)
  rw [correlateLogged, correlateLogged, Titles.check_ok keyed, Titles.check_ok keyed',
    joinLogged_perm keyed perm distinct]

end

/-! ## Hits one by one -/

/-- The hit that something found becomes: it has the title listed last for its id, and a field
for each of the names that were asked for, which is null where there is none. -/
structure Joins (titles : Titles) (names : List String) (found : Found) (h : Hit) : Prop where
  id : h.id = found.id
  distance : h.distance = found.distance
  title : titles.Last found.id h.title
  keys : h.fields.map (·.1) = names.eraseDups
  values : ∀ name ∈ names,
    Keyed.get? name h.fields = some ((Keyed.get? name found.entity).getD .null)

def joinedHit (titles : Titles) (names : List String) : Found → Hit :=
  ofFound titles fun found => fieldMap names found.entity

theorem keys_fieldMap (names : List String) (entity : Fields) :
    (fieldMap names entity).map (·.1) = names.eraseDups := by
  rw [fieldMap, Keyed.keys_ofList, List.map_map]
  exact congrArg List.eraseDups (List.map_id names)

theorem get?_fieldMap {names : List String} (entity : Fields) {name : String} (h : name ∈ names) :
    Keyed.get? name (fieldMap names entity) =
      some ((Keyed.get? name entity).getD .null) := by
  have present : (Keyed.get? name (fieldMap names entity)).isSome := by
    rw [Keyed.isSome_get?_iff, keys_fieldMap]
    exact List.mem_eraseDups.2 h
  obtain ⟨v, hv⟩ := Option.isSome_iff_exists.1 present
  obtain ⟨name', -, entry⟩ := List.mem_map.1 (Keyed.mem_of_get?_ofList hv)
  obtain ⟨rfl, rfl⟩ := Prod.mk.inj entry
  exact hv

theorem joins_joinedHit (titles : Titles) (names : List String) (found : Found) :
    Joins titles names found (joinedHit titles names found) :=
  ⟨rfl, rfl, titles.last_title found.id, keys_fieldMap names found.entity,
    fun _ => get?_fieldMap found.entity⟩

/-- The elements at some places: all of them in another order, if each place is named once. -/
def picked {α : Type} (order : List Nat) (xs : List α) : List α := order.filterMap fun i => xs[i]?

theorem picked_map {α β : Type} (f : α → β) (order : List Nat) (xs : List α) :
    picked order (xs.map f) = (picked order xs).map f := by
  simp only [picked, List.getElem?_map, List.map_filterMap]

theorem mem_of_mem_picked {α : Type} {order : List Nat} {xs : List α} {x : α}
    (h : x ∈ picked order xs) : x ∈ xs := by
  obtain ⟨i, -, at_⟩ := List.mem_filterMap.1 h
  exact List.mem_of_getElem? at_

/-- All ids of a result can be ids. -/
def Identified (result : List (List Found)) : Prop :=
  ∀ group ∈ result, ∀ found ∈ group, Titles.IsKey found.id

theorem identified_middle {before after : List (List Found)} {group : List Found} :
    Identified (before ++ group :: after) ↔
      Identified before ∧ (∀ found ∈ group, Titles.IsKey found.id) ∧ Identified after := by
  simp only [Identified, List.forall_mem_append, List.forall_mem_cons]

/-- What joining by id comes to, for the hits of a search and for columns of one query. -/
structure JoinedById (titles : Titles) (names : List String) : Prop where
  matched : ∀ result s ids distances fields,
    (ofSearchLogged titles names result s).1 ≠ .error (.result (.lengths ids distances fields))
  joined : ∀ result s, Identified result → ∃ hits, ofSearchLogged titles names result s =
      (.ok hits, { s with events := s.events ++ warnings hits.flatten }) ∧
    List.Forall₂ (List.Forall₂ (Joins titles names)) result hits
  unjoined : ∀ result s, ¬ Identified result → ∃ earlier later kind hits,
    result.flatten = earlier ++ later ∧
    Titles.FirstBad (result.flatten.map (·.id)) (earlier.map (·.id)) kind ∧
    List.Forall₂ (Joins titles names) earlier hits ∧
    ofSearchLogged titles names result s = (.error (.result (.badKey kind)),
      { s with events := s.events ++ warnings hits })
  worded : ∀ hits, (warnings hits).map (fun e => (e.level, e.message)) =
    (hits.filter fun h => h.title.isNull).map fun h =>
      (.warning, "No title known for film id " ++ h.id.plain)
  permuted : ∀ before group after s order, Identified (before ++ group :: after) →
    ∃ earlier hits later,
      earlier.length = before.length ∧ hits.length = group.length ∧
      (ofSearchLogged titles names (before ++ group :: after) s).1 =
        .ok (earlier ++ hits :: later) ∧
      (ofSearchLogged titles names (before ++ picked order group :: after) s).1 =
        .ok (earlier ++ picked order hits :: later)
  split : ∀ before left right after s, Identified (before ++ left :: right :: after) →
    ∃ earlier hits hits' later,
      earlier.length = before.length ∧ hits.length = left.length ∧ hits'.length = right.length ∧
      (ofSearchLogged titles names (before ++ (left ++ right) :: after) s).1 =
        .ok (earlier ++ (hits ++ hits') :: later) ∧
      (ofSearchLogged titles names (before ++ left :: right :: after) s).1 =
        .ok (earlier ++ hits :: hits' :: later)
  reordered : ∀ titles' : Titles, titles'.Perm titles →
    (titles.Pairwise fun t u => t.1.same u.1 = false) → ∀ result s,
      ofSearchLogged titles' names result s = ofSearchLogged titles names result s
  mismatched : ∀ ids distances fields s,
    ¬ (ids.length = distances.length ∧ distances.length = fields.length) →
      correlateLogged titles ids distances fields s =
        (.error (.result (.lengths ids.length distances.length fields.length)), s)
  correlated : ∀ ids distances fields s, ids.length = distances.length →
    distances.length = fields.length →
      (∀ m n k, (correlateLogged titles ids distances fields s).1 ≠
        .error (.result (.lengths m n k))) ∧
      ((∃ id ∈ ids, ¬ Titles.IsKey id) → ∃ hits kind,
        Titles.FirstBad ids (hits.map (·.id)) kind ∧
        (∀ h ∈ hits, titles.Last h.id h.title) ∧
        correlateLogged titles ids distances fields s = (.error (.result (.badKey kind)),
          { s with events := s.events ++ warnings hits })) ∧
      ((∀ id ∈ ids, Titles.IsKey id) → ∃ hits, correlateLogged titles ids distances fields s =
          (.ok hits, { s with events := s.events ++ warnings hits }) ∧
        hits.map (·.id) = ids ∧ hits.map (·.distance) = distances ∧ hits.map (·.fields) = fields ∧
        ∀ h ∈ hits, titles.Last h.id h.title)

section
variable (keyed : ∀ t ∈ titles, Titles.IsKey t.1)
include keyed

theorem ofSearchLogged_ok (names : List String) {result : List (List Found)}
    (ids : Identified result) (s : Session) : ofSearchLogged titles names result s =
      (.ok (result.map (List.map (joinedHit titles names))), { s with
        events := s.events ++ warnings (result.map (List.map (joinedHit titles names))).flatten }) :=
  logs_ofSearchLogged keyed names ids s

/-- The queries are joined one after another, so their hits end where the first query ends that
has an id that can be none. -/
theorem exists_logs_ofSearchLogged_badKey (names : List String) {result : List (List Found)}
    (h : ¬ Identified result) :
    ∃ earlier later kind, result.flatten = earlier ++ later ∧
      Titles.FirstBad (result.flatten.map (·.id)) (earlier.map (·.id)) kind ∧
      (ofSearchLogged titles names result).Logs (.error (.result (.badKey kind)))
        (warnings (earlier.map (joinedHit titles names))) := by
  induction result with
  | nil => exact absurd nofun h
  | cons group rest ih =>
      simp only [ofSearchLogged, List.mapM_cons, List.flatten_cons, List.map_append]
      by_cases here : ∀ found ∈ group, Titles.IsKey found.id
      · obtain ⟨earlier, later, kind, split, ⟨⟨bad, after, ids, hbad⟩, keys⟩, logs⟩ :=
          ih fun later => h (List.forall_mem_cons.2 ⟨here, later⟩)
        refine ⟨group ++ earlier, later, kind, by rw [split, List.append_assoc],
          ⟨⟨bad, after, ?_, hbad⟩, ?_⟩, ?_⟩
        · rw [ids, List.map_append, List.append_assoc]
        · rw [List.map_append]
          exact List.forall_mem_append.2 ⟨List.forall_mem_map.2 here, keys⟩
        · rw [List.map_append, warnings_append]
          exact (logs_correlateLogged keyed here).bind (logs.bind_error _)
      · obtain ⟨earlier, later, kind, rfl, ⟨⟨bad, after, ids, hbad⟩, keys⟩, logs⟩ :=
          exists_logs_joinLogged_badKey here
        refine ⟨earlier, later ++ rest.flatten, kind, List.append_assoc _ _ _,
          ⟨⟨bad, after ++ rest.flatten.map (·.id), ?_, hbad⟩, keys⟩, ?_⟩
        · rw [ids, List.append_assoc, List.cons_append]
        · rw [correlateLogged_eq_joinLogged keyed (by simp) (by simp)]
          exact logs.bind_error _

/-- Results are joined by id. Every hit is joined by itself, so a query may be cut and its hits
may come in any order. Columns are joined in the same way if they are of one length, and
otherwise not at all. -/
theorem joined_by_id (names : List String) : JoinedById titles names where
  matched result s ids distances fields := by
    by_cases identified : Identified result
    · rw [ofSearchLogged_ok keyed names identified]
      exact nofun
    · obtain ⟨_, _, _, -, -, logs⟩ := exists_logs_ofSearchLogged_badKey keyed names identified
      rw [logs s]
      exact nofun
  joined result s ids := by
    refine ⟨_, ofSearchLogged_ok keyed names ids s, ?_⟩
    rw [List.forall₂_map_right_iff, List.forall₂_same]
    intro group _
    rw [List.forall₂_map_right_iff, List.forall₂_same]
    exact fun found _ => joins_joinedHit titles names found
  unjoined result s unkeyed := by
    obtain ⟨earlier, later, kind, split, first, logs⟩ :=
      exists_logs_ofSearchLogged_badKey keyed names unkeyed
    refine ⟨earlier, later, kind, _, split, first, ?_, logs s⟩
    rw [List.forall₂_map_right_iff, List.forall₂_same]
    exact fun found _ => joins_joinedHit titles names found
  worded hits := List.map_map
  permuted before group after s order ids := by
    obtain ⟨earlier, here, later⟩ := identified_middle.1 ids
    have ids' : Identified (before ++ picked order group :: after) :=
      identified_middle.2 ⟨earlier, fun found mem => here found (mem_of_mem_picked mem), later⟩
    refine ⟨before.map (List.map (joinedHit titles names)), group.map (joinedHit titles names),
      after.map (List.map (joinedHit titles names)), List.length_map _, List.length_map _, ?_, ?_⟩
    · rw [ofSearchLogged_ok keyed names ids, List.map_append, List.map_cons]
    · rw [ofSearchLogged_ok keyed names ids', List.map_append, List.map_cons, picked_map]
  split before left right after s ids := by
    obtain ⟨earlier, onLeft, rest⟩ := identified_middle.1 ids
    obtain ⟨onRight, later⟩ := List.forall_mem_cons.1 rest
    have ids' : Identified (before ++ (left ++ right) :: after) :=
      identified_middle.2 ⟨earlier, List.forall_mem_append.2 ⟨onLeft, onRight⟩, later⟩
    refine ⟨before.map (List.map (joinedHit titles names)), left.map (joinedHit titles names),
      right.map (joinedHit titles names), after.map (List.map (joinedHit titles names)),
      List.length_map _, List.length_map _, List.length_map _, ?_, ?_⟩
    · rw [ofSearchLogged_ok keyed names ids', List.map_append, List.map_cons, List.map_append]
    · rw [ofSearchLogged_ok keyed names ids, List.map_append, List.map_cons, List.map_cons]
  reordered titles' perm distinct result s := by rw [ofSearchLogged_perm keyed perm distinct]
  mismatched ids distances fields s differ := by
    rw [logs_correlateLogged_mismatched keyed differ s, List.append_nil]
  correlated ids distances fields s same same' := by
    rw [correlateLogged_eq_joinLogged keyed same same']
    obtain ⟨group, rfl, rfl, rfl⟩ := exists_rows same same'
    by_cases identified : ∀ found ∈ group, Titles.IsKey found.id
    · have done : joinLogged titles _ _ (group.map (·.entity)) s = _ :=
        logs_joinLogged identified s
      refine ⟨by rw [done]; exact nofun, ?_, fun _ => ⟨_, done, ?_, ?_, ?_, ?_⟩⟩
      · rintro ⟨id, mem, unkeyed⟩
        exact absurd (List.forall_mem_map.2 identified id mem) unkeyed
      · exact List.map_map
      · exact List.map_map
      · exact List.map_map
      · exact List.forall_mem_map.2 fun found _ => titles.last_title found.id
    · obtain ⟨earlier, later, kind, split, first, logs⟩ :=
        @exists_logs_joinLogged_badKey titles (·.entity) group identified
      refine ⟨by rw [logs s]; exact nofun, fun _ => ⟨_, kind, ?_, ?_, logs s⟩, fun ids => ?_⟩
      · rwa [List.map_map]
      · exact List.forall_mem_map.2 fun found _ => titles.last_title found.id
      · exact absurd (List.forall_mem_map.1 ids) identified

end

theorem joined_by_id_shared :
    let titles : Titles := [(.int 1, .text "A"), (.bool true, .text "B"), (.text "1", .text "C")]
    let found : Found := ⟨.int 1, .int 0, [("year", .int 1972)]⟩
    let untold : Found := ⟨.int 7, .int 2, []⟩
    JoinedById titles ["year", "year"] ∧
      ofSearchLogged titles ["year", "year"] [[found, untold, found], []] {} =
        (.ok [[⟨.int 1, .int 0, .text "B", [("year", .int 1972)]⟩,
            ⟨.int 7, .int 2, .null, [("year", .null)]⟩,
            ⟨.int 1, .int 0, .text "B", [("year", .int 1972)]⟩], []],
          { events := [.noTitle (.int 7)] }) := by
  refine ⟨joined_by_id ?_ _, rfl⟩
  simp [Titles.IsKey, Titles.checkKey]

end Hit
end FilmIndex
