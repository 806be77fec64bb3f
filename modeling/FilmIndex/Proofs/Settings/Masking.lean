import FilmIndex.Settings.Sources

/-!
Names that make no difference. A value of the settings file depends on the names that it
refers to, and on what their values refer to. Variables and entries of names on which no
entry for a setting depends may be anything.
-/

namespace FilmIndex

namespace DotEnv

/-- The names that a value refers to. -/
def references (value : Chars) : List Chars :=
  (splitPieces (value.length + 1) [] value).filterMap fun
    | .text _ => none
    | .reference name _ => some name

theorem resolve_congr {known known' : Bindings} {value : Chars}
    (h : ∀ name ∈ references value, Keyed.get? name known = Keyed.get? name known') :
    resolve known value = resolve known' value := by
  rw [resolve, resolve, List.flatMap_def, List.flatMap_def]
  refine congrArg List.flatten (List.map_congr_left fun piece mem => ?_)
  cases piece with
  | text cs => rfl
  | reference name other =>
      have same := h name (List.mem_filterMap.2 ⟨_, mem, rfl⟩)
      rw [Piece.resolve, Piece.resolve, same]

/-- A name of a set, or one whose value refers to such a name, be it through others. -/
inductive Depends (entries : List Entry) (hidden : Chars → Prop) : Chars → Prop
  | hidden {name : Chars} (h : hidden name) : Depends entries hidden name
  | refers {name value other : Chars} (mem : (name, some value) ∈ entries)
      (refers : other ∈ references value) (h : Depends entries hidden other) :
      Depends entries hidden name

/-- Values of names that refer only to such names. -/
def Closed (visible : Chars → Bool) (entries : List Entry) : Prop :=
  ∀ name value, (name, some value) ∈ entries → visible name = true →
    ∀ other ∈ references value, visible other = true

theorem filter_resolveEntry {visible : Chars → Bool} (environment done : Bindings) {e : Entry}
    (closed : Closed visible [e]) :
    (resolveEntry environment done e).filter (visible ·.1) =
      if visible e.1 then
        resolveEntry (environment.filter (visible ·.1)) (done.filter (visible ·.1)) e
      else done.filter (visible ·.1) := by
  rw [resolveEntry, Keyed.filter_put]
  refine ite_congr rfl (fun seen => ?_) fun _ => rfl
  obtain ⟨name, value?⟩ := e
  cases value? with
  | none => rfl
  | some value =>
      have same : resolve (Keyed.putAll environment done) value =
          resolve (Keyed.putAll (environment.filter (visible ·.1)) (done.filter (visible ·.1)))
            value := by
        refine resolve_congr fun other mem => ?_
        have seen' := closed name value (List.mem_singleton_self _) seen other mem
        rw [← Keyed.filter_putAll, Keyed.get?_filter visible seen']
      simp only [resolveEntry, Option.map_some, same]

/-- The visible names have the values that they have where there are no others. -/
theorem filter_resolveAll {visible : Chars → Bool} {es : List Entry} (closed : Closed visible es)
    (environment : Bindings) :
    (resolveAll environment es).filter (visible ·.1) =
      resolveAll (environment.filter (visible ·.1)) (es.filter (visible ·.1)) := by
  -- The induction is on the entries, after some that are done.
  suffices h : ∀ done : Bindings,
      (es.foldl (resolveEntry environment) done).filter (visible ·.1) =
        (es.filter (visible ·.1)).foldl (resolveEntry (environment.filter (visible ·.1)))
          (done.filter (visible ·.1)) from h []
  induction es with
  | nil => exact fun _ => rfl
  | cons e es ih =>
      intro done
      have first : Closed visible [e] := fun name value mem =>
        closed name value (List.mem_singleton.1 mem ▸ List.mem_cons_self)
      have rest : Closed visible es := fun name value mem =>
        closed name value (List.mem_cons_of_mem _ mem)
      rw [List.foldl_cons, ih rest, filter_resolveEntry environment done first]
      cases seen : visible e.1 <;> simp [seen]

/-- What is read of the visible names depends only on visible variables and entries. -/
theorem filter_read {visible : Chars → Bool} {content : String}
    (closed : Closed visible (entries content)) (environment : List (String × String)) :
    (read environment content).filter (visible ·.1.toList) =
      (resolveAll
        ((environment.filter (visible ·.1.toList)).map fun e => (e.1.toList, some e.2.toList))
        ((entries content).filter (visible ·.1))).map
          fun e => (String.ofList e.1, e.2.map String.ofList) := by
  have known : (environment.map fun e => (e.1.toList, some e.2.toList)).filter (visible ·.1) =
      (environment.filter (visible ·.1.toList)).map fun e => (e.1.toList, some e.2.toList) :=
    List.filter_map
  rw [← known, ← filter_resolveAll closed, read, List.filter_map]
  simp only [Function.comp_def, String.toList_ofList]

end DotEnv

namespace Sources

/-- Two sources in which all is the same but for names that are not visible. -/
structure Alike (visible : List Char → Bool) (src src' : Sources) : Prop where
  given : src'.given = src.given
  environment : src'.environment.filter (visible ·.1.toList) =
    src.environment.filter (visible ·.1.toList)
  entries : (DotEnv.entries src'.dotEnv).filter (visible ·.1) =
    (DotEnv.entries src.dotEnv).filter (visible ·.1)
  closed : DotEnv.Closed visible (DotEnv.entries src.dotEnv)

theorem named?_filter {α : Type} {visible : List Char → Bool} {name : String}
    (seen : ∀ other : String, Setting.lowerName other = name.toList → visible other.toList = true)
    (entries : List (String × α)) :
    named? name (entries.filter (visible ·.1.toList)) = named? name entries := by
  rw [named?, named?, List.find?_filter]
  refine congrArg (Option.map _) (congrArg (List.find? · entries) (funext fun e => ?_))
  cases h : Setting.lowerName e.1 == name.toList with
  | false => simp
  | true => simp [seen e.1 (eq_of_beq h)]

variable {visible : List Char → Bool} {src src' : Sources}

theorem Alike.closed' (h : Alike visible src src') :
    DotEnv.Closed visible (DotEnv.entries src'.dotEnv) := by
  intro name value mem seen
  have mem' : (name, some value) ∈ (DotEnv.entries src'.dotEnv).filter (visible ·.1) :=
    List.mem_filter.2 ⟨mem, seen⟩
  rw [h.entries] at mem'
  exact h.closed name value (List.mem_filter.1 mem').1 seen

section
variable {k : Setting}
  (seen : ∀ other : String, Setting.lowerName other = k.environmentName.toList →
    visible other.toList = true)
include seen

theorem Alike.environmentText? (h : Alike visible src src') :
    src'.environmentText? k = src.environmentText? k := by
  rw [Sources.environmentText?, Sources.environmentText?, ← named?_filter seen,
    ← named?_filter seen src.environment.reverse, List.filter_reverse, List.filter_reverse,
    h.environment]

theorem Alike.dotEnvText? (h : Alike visible src src') :
    src'.dotEnvText? k = src.dotEnvText? k := by
  have same : (DotEnv.read src'.environment src'.dotEnv).filter (visible ·.1.toList) =
      (DotEnv.read src.environment src.dotEnv).filter (visible ·.1.toList) := by
    rw [DotEnv.filter_read h.closed', DotEnv.filter_read h.closed, h.environment, h.entries]
  rw [Sources.dotEnvText?, Sources.dotEnvText?, ← named?_filter seen,
    ← named?_filter seen (DotEnv.read src.environment src.dotEnv).reverse, List.filter_reverse,
    List.filter_reverse, same]

end

end Sources
end FilmIndex
