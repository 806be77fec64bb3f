import FilmIndex.Proofs.Settings.Origins
import FilmIndex.Proofs.Text.UpperCase

/-!
Accepted settings given again. Reading has brought each of them into a form that reads as
itself: a whole number is above zero where it has to be, names of methods, metrics and levels
are in capital letters. So all of them given outright are the same settings, whatever the
environment and the settings file say.
-/

namespace FilmIndex

namespace LogLevel

theorem upper_name (l : LogLevel) : Text.upper l.name = l.name := by cases l <;> decide

end LogLevel

namespace Settings
open Checked

/-- What the values of accepted settings promise. -/
structure Accepted (s : Settings) : Prop where
  whole : ∀ k ∈ [Setting.dimension, .topK, .nlist, .nprobe], ∃ n, s.value k = .int n ∧ 1 ≤ n
  capital : ∀ k ∈ [Setting.indexType, .metricType, .logLevel],
    ∃ t, s.value k = .text t ∧ Text.upper t = t
  level : ∃ l ∈ LogLevel.all, s.value .logLevel = .text l.name
  years : ∃ items, s.value .releaseYears = .list items ∧ ∀ item ∈ items, ∃ n, item = .int n

theorem upper_of_setting {value? : Setting → Option Value} {k : Setting} {d t : String}
    (h : setting value? k upperTextOf d = valid t) (hd : Text.upper d = d) : Text.upper t = t := by
  cases hv : value? k with
  | none =>
      rw [setting, hv] at h
      exact valid.inj h ▸ hd
  | some v =>
      have read := read_of_setting h hv
      rw [upperTextOf] at read
      cases ht : textOf v with
      | error e =>
          rw [ht] at read
          cases read
      | ok t' =>
          rw [ht] at read
          rw [← Except.ok.inj read]
          exact Text.upper_upper t'

variable {src : Sources} {s : Settings}

theorem upper_metricType (h : load src = .ok s) : Text.upper s.metricType = s.metricType :=
  upper_of_setting (reads_of_load h).metricType (by decide)

theorem upper_indexType (h : load src = .ok s) : Text.upper s.indexType = s.indexType :=
  upper_of_setting (reads_of_load h).indexType (by decide)

theorem accepted_of_load (h : load src = .ok s) : s.Accepted := by
  have positive := positive_of_load h
  refine ⟨?_, ?_, ⟨s.logLevel, ?_, rfl⟩, _, rfl, ?_⟩
  · intro k hk
    simp only [List.mem_cons, List.not_mem_nil, or_false] at hk
    rcases hk with rfl | rfl | rfl | rfl
    · exact ⟨_, rfl, positive.dimension⟩
    · exact ⟨_, rfl, positive.topK⟩
    · exact ⟨_, rfl, positive.nlist⟩
    · exact ⟨_, rfl, positive.nprobe⟩
  · intro k hk
    simp only [List.mem_cons, List.not_mem_nil, or_false] at hk
    rcases hk with rfl | rfl | rfl
    · exact ⟨_, rfl, upper_indexType h⟩
    · exact ⟨_, rfl, upper_metricType h⟩
    · exact ⟨_, rfl, s.logLevel.upper_name⟩
  · cases s.logLevel <;> decide
  · intro item mem
    obtain ⟨n, -, rfl⟩ := List.mem_map.1 mem
    exact ⟨n, rfl⟩

/-! ## Settings given again -/

theorem named?_toFields (s : Settings) (k : Setting) :
    Sources.named? k.name s.toFields = some (s.value k) := by
  have fields : s.toFields =
      (Setting.all.map fun k => (k, s.value k)).map fun e => (e.1.name, e.2) := by
    rw [List.map_map]
    rfl
  rw [fields, Sources.named?_names]
  cases k <;> rfl

variable {value? : Setting → Option Value}

theorem setting_given {α : Type} {k : Setting} {v : Value} {a : α}
    {read : Value → Except SettingFault α} (default : α) (h : value? k = some v)
    (reads : read v = .ok a) : setting value? k read default = valid a := by
  rw [setting, h]
  exact congrArg (Checked.ofResult k) reads

theorem upperTextOf_text {t : String} (h : Text.upper t = t) : upperTextOf (.text t) = .ok t :=
  congrArg Except.ok h

theorem levelOf_name (l : LogLevel) : levelOf (.text l.name) = .ok l := by
  rw [levelOf, upperTextOf_text l.upper_name]
  simp only [LogLevel.ofName?_name]

theorem optional_text (t? : Option String) :
    optional textOf ((t?.map Value.text).getD .null) = .ok t? := by cases t? <;> rfl

theorem optional_int (n? : Option Int) :
    optional WholeNumber.ofValue ((n?.map Value.int).getD .null) = .ok n? := by cases n? <;> rfl

/-- Values that are those of accepted settings read as these settings. -/
theorem reads_again (positive : s.Positive) (index : Text.upper s.indexType = s.indexType)
    (metric : Text.upper s.metricType = s.metricType)
    (given : ∀ k, value? k = some (s.value k)) : Reads value? s where
  milvusHost := setting_given _ (given _) rfl
  milvusPort := setting_given _ (given _) rfl
  milvusToken := setting_given _ (given _) (optional_text _)
  connectionAlias := setting_given _ (given _) rfl
  collectionName := setting_given _ (given _) rfl
  csvPath := setting_given _ (given _) rfl
  dimension := positiveOf_given (given _) positive.dimension
  segmentRowLimit := setting_given _ (given _) rfl
  indexType := setting_given _ (given _) (upperTextOf_text index)
  metricType := setting_given _ (given _) (upperTextOf_text metric)
  nlist := positiveOf_given (given _) positive.nlist
  nprobe := positiveOf_given (given _) positive.nprobe
  topK := positiveOf_given (given _) positive.topK
  releaseYears := by
    rw [years, given]
    exact itemsFrom_ints 0 s.releaseYears
  querySeed := setting_given _ (given _) (optional_int _)
  logLevel := setting_given _ (given _) (levelOf_name _)

/-- Accepted settings that are all given again are accepted as they are, if what else there is
can be read. -/
theorem load_again (h : load src = .ok s) {again : Sources} (given : again.given = s.toFields)
    (readable : again.unreadable? = none) : load again = .ok s := by
  have values (k : Setting) : again.value? k = some (s.value k) := by
    rw [Sources.value?, Sources.given?, given, named?_toFields]
    rfl
  have reads := reads_again (positive_of_load h) (upper_indexType h) (upper_metricType h) values
  rw [load, readable, check_of_reads reads]

end Settings
end FilmIndex
