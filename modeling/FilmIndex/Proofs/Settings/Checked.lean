import FilmIndex.Settings.Basic

/-!
What is known of settings that were accepted. Each of them was read from the value that
decides or is the default, and the defaults are accepted.
-/

namespace FilmIndex

namespace Checked

variable {α β : Type}

theorem app_eq_valid (f : Checked (α → β)) (a : Checked α) (b : β) :
    f.app a = valid b ↔ ∃ g, f = valid g ∧ ∃ x, a = valid x ∧ g x = b := by
  cases f <;> cases a <;> simp [app]

end Checked

namespace Settings
open Checked

def defaults : Settings where
  milvusHost := "localhost"
  milvusPort := 19530
  milvusToken := none
  connectionAlias := "default"
  collectionName := "demo_index"
  csvPath := "films.csv"
  dimension := 8
  segmentRowLimit := 4096
  indexType := "IVF_FLAT"
  metricType := "L2"
  nlist := 100
  nprobe := 8
  topK := 3
  releaseYears := [1995, 2002]
  querySeed := none
  logLevel := .info

theorem load_nothing : load {} = .ok defaults := by rfl

theorem pos_of_positiveOf {v : Value} {n : Int} (h : positiveOf v = .ok n) : 0 < n := by
  rw [positiveOf] at h
  cases hv : WholeNumber.ofValue v with
  | error e =>
      rw [hv] at h
      cases h
  | ok m =>
      rw [hv] at h
      by_cases hm : m ≤ 0
      · simp [hm] at h
      · simp only [hm, if_false] at h
        cases h
        omega

theorem pos_of_setting {value? : Setting → Option Value} {k : Setting} {d n : Int}
    (h : setting value? k positiveOf d = valid n) (hd : 0 < d) : 0 < n := by
  rw [setting] at h
  cases hv : value? k with
  | none =>
      rw [hv] at h
      exact valid.inj h ▸ hd
  | some v =>
      rw [hv] at h
      cases hp : positiveOf v with
      | error e =>
          simp only [hp, ofResult] at h
          cases h
      | ok m =>
          simp only [hp, ofResult] at h
          exact valid.inj h ▸ pos_of_positiveOf hp

theorem read_of_setting {α : Type} {value? : Setting → Option Value} {k : Setting} {v : Value}
    {read : Value → Except SettingFault α} {default a : α}
    (h : setting value? k read default = valid a) (decides : value? k = some v) :
    read v = .ok a := by
  simp only [setting, decides, ofResult] at h
  cases hread : read v with
  | ok b => simpa [hread] using h
  | error e => simp [hread] at h

theorem itemsFrom_ints (index : Nat) (ns : List Int) :
    itemsFrom index (ns.map Value.int) = .valid ns := by
  induction ns generalizing index with
  | nil => rfl
  | cons n ns ih =>
      rw [List.map_cons, itemsFrom, ih]
      rfl

theorem positiveOf_given {value? : Setting → Option Value} {k : Setting} {n default : Int}
    (h : value? k = some (.int n)) (positive : 0 < n) :
    setting value? k positiveOf default = .valid n := by
  have checked : positiveOf (.int n) = .ok n := if_neg (by omega)
  rw [setting, h]
  exact congrArg (Checked.ofResult k) checked

/-- Each of the settings was read from its own value, or it is the default. -/
structure Reads (value? : Setting → Option Value) (s : Settings) : Prop where
  milvusHost : setting value? .milvusHost textOf "localhost" = valid s.milvusHost
  milvusPort : setting value? .milvusPort WholeNumber.ofValue 19530 = valid s.milvusPort
  milvusToken : setting value? .milvusToken (optional textOf) none = valid s.milvusToken
  connectionAlias : setting value? .connectionAlias textOf "default" = valid s.connectionAlias
  collectionName : setting value? .collectionName textOf "demo_index" = valid s.collectionName
  csvPath : setting value? .csvPath textOf "films.csv" = valid s.csvPath
  dimension : setting value? .dimension positiveOf 8 = valid s.dimension
  segmentRowLimit :
    setting value? .segmentRowLimit WholeNumber.ofValue 4096 = valid s.segmentRowLimit
  indexType : setting value? .indexType upperTextOf "IVF_FLAT" = valid s.indexType
  metricType : setting value? .metricType upperTextOf "L2" = valid s.metricType
  nlist : setting value? .nlist positiveOf 100 = valid s.nlist
  nprobe : setting value? .nprobe positiveOf 8 = valid s.nprobe
  topK : setting value? .topK positiveOf 3 = valid s.topK
  releaseYears : years value? [1995, 2002] = valid s.releaseYears
  querySeed : setting value? .querySeed (optional WholeNumber.ofValue) none = valid s.querySeed
  logLevel : setting value? .logLevel levelOf .info = valid s.logLevel

theorem reads_of_check {value? : Setting → Option Value} {s : Settings}
    (h : check value? = valid s) : Reads value? s := by
  simp only [check, app_eq_valid, valid.injEq, exists_eq_left'] at h
  obtain ⟨_, h, _, logLevel, rfl⟩ := h
  obtain ⟨_, h, _, querySeed, rfl⟩ := h
  obtain ⟨_, h, _, releaseYears, rfl⟩ := h
  obtain ⟨_, h, _, topK, rfl⟩ := h
  obtain ⟨_, h, _, nprobe, rfl⟩ := h
  obtain ⟨_, h, _, nlist, rfl⟩ := h
  obtain ⟨_, h, _, metricType, rfl⟩ := h
  obtain ⟨_, h, _, indexType, rfl⟩ := h
  obtain ⟨_, h, _, segmentRowLimit, rfl⟩ := h
  obtain ⟨_, h, _, dimension, rfl⟩ := h
  obtain ⟨_, h, _, csvPath, rfl⟩ := h
  obtain ⟨_, h, _, collectionName, rfl⟩ := h
  obtain ⟨_, h, _, connectionAlias, rfl⟩ := h
  obtain ⟨_, h, _, milvusToken, rfl⟩ := h
  obtain ⟨_, h, _, milvusPort, rfl⟩ := h
  obtain ⟨_, milvusHost, rfl⟩ := h
  exact ⟨milvusHost, milvusPort, milvusToken, connectionAlias, collectionName, csvPath, dimension,
    segmentRowLimit, indexType, metricType, nlist, nprobe, topK, releaseYears, querySeed, logLevel⟩

theorem check_of_reads {value? : Setting → Option Value} {s : Settings} (h : Reads value? s) :
    check value? = valid s := by
  rw [check, h.milvusHost, h.milvusPort, h.milvusToken, h.connectionAlias, h.collectionName,
    h.csvPath, h.dimension, h.segmentRowLimit, h.indexType, h.metricType, h.nlist, h.nprobe, h.topK,
    h.releaseYears, h.querySeed, h.logLevel]
  rfl

theorem reads_of_load {src : Sources} {s : Settings} (h : load src = .ok s) :
    Reads src.value? s := by
  rw [load] at h
  split at h
  · cases h
  · split at h
    · cases h
      exact reads_of_check ‹_›
    · cases h

theorem setting_congr {α : Type} {value? value?' : Setting → Option Value} {k : Setting}
    {read : Value → Except SettingFault α} {default a b : α} (same : value?' k = value? k)
    (h : setting value? k read default = valid a) (h' : setting value?' k read default = valid b) :
    b = a := by
  rw [setting, same, ← setting] at h'
  exact valid.inj (h'.symm.trans h)

/-- A setting depends on nothing but the value that decides on it. -/
theorem Reads.value_congr {value? value?' : Setting → Option Value} {s s' : Settings}
    (h : Reads value? s) (h' : Reads value?' s') {k : Setting} (same : value?' k = value? k) :
    s'.value k = s.value k := by
  cases k with
  | milvusHost => rw [value, value, setting_congr same h.milvusHost h'.milvusHost]
  | milvusPort => rw [value, value, setting_congr same h.milvusPort h'.milvusPort]
  | milvusToken => rw [value, value, setting_congr same h.milvusToken h'.milvusToken]
  | connectionAlias => rw [value, value, setting_congr same h.connectionAlias h'.connectionAlias]
  | collectionName => rw [value, value, setting_congr same h.collectionName h'.collectionName]
  | csvPath => rw [value, value, setting_congr same h.csvPath h'.csvPath]
  | dimension => rw [value, value, setting_congr same h.dimension h'.dimension]
  | segmentRowLimit => rw [value, value, setting_congr same h.segmentRowLimit h'.segmentRowLimit]
  | indexType => rw [value, value, setting_congr same h.indexType h'.indexType]
  | metricType => rw [value, value, setting_congr same h.metricType h'.metricType]
  | nlist => rw [value, value, setting_congr same h.nlist h'.nlist]
  | nprobe => rw [value, value, setting_congr same h.nprobe h'.nprobe]
  | topK => rw [value, value, setting_congr same h.topK h'.topK]
  | querySeed => rw [value, value, setting_congr same h.querySeed h'.querySeed]
  | logLevel => rw [value, value, setting_congr same h.logLevel h'.logLevel]
  | releaseYears =>
      have read := h'.releaseYears
      rw [years, same, ← years] at read
      rw [value, value, valid.inj (read.symm.trans h.releaseYears)]

/-- The numbers that accepted settings promise to be positive. -/
structure Positive (s : Settings) : Prop where
  dimension : 0 < s.dimension
  nlist : 0 < s.nlist
  nprobe : 0 < s.nprobe
  topK : 0 < s.topK

theorem positive_of_load {src : Sources} {s : Settings} (h : load src = .ok s) : s.Positive := by
  have reads := reads_of_load h
  exact ⟨pos_of_setting reads.dimension (by decide), pos_of_setting reads.nlist (by decide),
    pos_of_setting reads.nprobe (by decide), pos_of_setting reads.topK (by decide)⟩

end Settings
end FilmIndex
