import FilmIndex.Proofs.Settings.Checked

/-!
Where settings come from. The names of settings are told apart in any spelling, a source is
unreadable just if it has years that are no JSON, and settings are read from the values that
decide, if their sources are readable.
-/

namespace FilmIndex

namespace Setting

theorem lowerName_name (k : Setting) : lowerName k.name = k.name.toList := by
  cases k <;> decide

theorem name_injective {k k' : Setting} (h : k.name = k'.name) : k = k' := by
  have each : ∀ k ∈ all, ∀ k' ∈ all, k.name = k'.name → k = k' := by decide
  exact each k (mem_all k) k' (mem_all k') h

theorem environmentName_injective {k k' : Setting}
    (h : k.environmentName = k'.environmentName) : k = k' := by
  have names := congrArg String.toList h
  simp only [environmentName, String.toList_append] at names
  exact name_injective (String.toList_inj.1 (List.append_cancel_left names))

end Setting

namespace Sources

/-- Values under the names of settings are found by them. -/
theorem named?_names {α : Type} (entries : List (Setting × α)) (k : Setting) :
    named? k.name (entries.map fun e => (e.1.name, e.2)) = Keyed.get? k entries := by
  rw [named?]
  induction entries with
  | nil => rfl
  | cons e rest ih =>
      rw [List.map_cons, List.find?_cons, Keyed.get?, Setting.lowerName_name]
      by_cases same : e.1 = k
      · simp [same]
      · have other : e.1.name.toList ≠ k.name.toList := fun h =>
          same (Setting.name_injective (String.toList_inj.1 h))
        rw [beq_eq_false_iff_ne.2 other, if_neg (by simpa using same)]
        exact ih

/-- There is a text, and it is no JSON. -/
def NotJson (text? : Option String) : Prop := ∃ text, text? = some text ∧ Json.read? text = none

theorem read?_eq_none (k : Setting) (text? : Option String) :
    read? k text? = none ↔ k = .releaseYears ∧ NotJson text? := by
  cases text? with
  | none => simp [read?, NotJson]
  | some text => by_cases h : k = .releaseYears <;> simp [read?, ofText?, NotJson, h]

theorem isSome_unreadable? (src : Sources) :
    src.unreadable?.isSome ↔
      NotJson (src.environmentText? .releaseYears) ∨ NotJson (src.dotEnvText? .releaseYears) := by
  simp [unreadable?, read?_eq_none, Setting.mem_all]

theorem unreadable?_congr {src src' : Sources}
    (environment : src'.environmentText? .releaseYears = src.environmentText? .releaseYears)
    (dotEnv : src'.dotEnvText? .releaseYears = src.dotEnvText? .releaseYears) :
    src'.unreadable? = src.unreadable? := by
  have texts {text text' : Setting → Option String}
      (same : text' .releaseYears = text .releaseYears) (k : Setting) :
      (read? k (text' k)).isNone = (read? k (text k)).isNone := by
    by_cases hk : k = .releaseYears
    · rw [hk, same]
    · have readable (text? : Option String) : (read? k text?).isNone = false := by
        cases hread : read? k text? with
        | some _ => rfl
        | none => exact absurd ((read?_eq_none k text?).1 hread).1 hk
      rw [readable, readable]
  simp only [unreadable?, texts environment, texts dotEnv]

end Sources

namespace Settings

theorem load_cases (src : Sources) :
    (src.unreadable?.isSome ∧ ∃ k origin, load src = .error (.unreadable k origin)) ∨
    (src.unreadable? = none ∧ ∃ errors, load src = .error (.invalid errors)) ∨
    (src.unreadable? = none ∧ ∃ s, load src = .ok s) := by
  rw [load]
  cases src.unreadable? with
  | some p => exact .inl ⟨rfl, p.1, p.2, rfl⟩
  | none =>
      refine .inr ?_
      cases check src.value? with
      | valid s => exact .inr ⟨rfl, s, rfl⟩
      | invalid errors => exact .inl ⟨rfl, errors, rfl⟩

end Settings

end FilmIndex
