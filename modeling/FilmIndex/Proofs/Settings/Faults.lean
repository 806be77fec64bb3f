import FilmIndex.Proofs.Settings.FixedPoint

/-!
Settings that are not accepted. Each setting is checked by itself, a list of years item by
item, and what is found wrong of one does not keep the others from being checked. So the
errors name the places that hold a value which does not suit, each of them once and in order.
-/

namespace FilmIndex

namespace Checked

variable {α β : Type}

def errors : Checked α → List SettingError
  | valid _ => []
  | invalid es => es

theorem errors_app (f : Checked (α → β)) (a : Checked α) :
    (f.app a).errors = f.errors ++ a.errors := by
  cases f <;> cases a <;> simp [app, errors]

theorem mem_errors_ofResult {k : Setting} {r : Except SettingFault α} {e : SettingError} :
    e ∈ (ofResult k r).errors ↔ ∃ fault, r = .error fault ∧ e = ⟨k, none, fault⟩ := by
  cases r <;> simp [ofResult, errors]

/-- Without errors there is a value. -/
def Explained (c : Checked α) : Prop := c.errors = [] → ∃ a, c = valid a

theorem Explained.app {f : Checked (α → β)} {a : Checked α} (hf : f.Explained)
    (ha : a.Explained) : (f.app a).Explained := by
  intro none
  rw [errors_app, List.append_eq_nil_iff] at none
  obtain ⟨g, rfl⟩ := hf none.1
  obtain ⟨x, rfl⟩ := ha none.2
  exact ⟨g x, rfl⟩

theorem explained_valid (a : α) : (valid a).Explained := fun _ => ⟨a, rfl⟩

theorem explained_invalid (e : SettingError) (es : List SettingError) :
    (invalid (e :: es) : Checked α).Explained := by
  intro none
  cases none

theorem explained_ofResult (k : Setting) (r : Except SettingFault α) :
    (ofResult k r).Explained := by
  cases r with
  | ok a => exact explained_valid a
  | error e => exact explained_invalid _ []

end Checked

/-- One error comes before another: its setting does, or it is of an earlier item of the same
setting. -/
def SettingError.Before (e e' : SettingError) : Prop :=
  Setting.all.idxOf e.setting < Setting.all.idxOf e'.setting ∨
    e.setting = e'.setting ∧ ∃ i j, e.item? = some i ∧ e'.item? = some j ∧ i < j

namespace Settings
open Checked

/-- A value that a setting can take; of a list of years the items are looked at one by one. -/
def Suits : Setting → Value → Prop
  | .milvusHost, v | .connectionAlias, v | .collectionName, v | .csvPath, v | .indexType, v
  | .metricType, v => ∃ t, v = .text t
  | .milvusToken, v => v = .null ∨ ∃ t, v = .text t
  | .milvusPort, v | .segmentRowLimit, v => ∃ n, WholeNumber.ofValue v = .ok n
  | .querySeed, v => v = .null ∨ ∃ n, WholeNumber.ofValue v = .ok n
  | .dimension, v | .nlist, v | .nprobe, v | .topK, v =>
    ∃ n, WholeNumber.ofValue v = .ok n ∧ 1 ≤ n
  | .logLevel, v => ∃ t, v = .text t ∧ ∃ l ∈ LogLevel.all, Text.upper t = l.name
  | .releaseYears, v => ∃ items, v = .list items

/-- A place of a setting's value that is bad: the value as a whole, or an item of a list. -/
inductive Bad (k : Setting) (v : Value) : Option Nat → Prop
  | whole (h : ¬ Suits k v) : Bad k v none
  | item {items : List Value} {i : Nat} {x : Value} (years : k = .releaseYears)
      (list : v = .list items) (place : items[i]? = some x)
      (bad : ∀ n, WholeNumber.ofValue x ≠ .ok n) : Bad k v (some i)

/-- What is reported of settings that are not accepted. -/
structure Reported (value? : Setting → Option Value) (errors : List SettingError) : Prop where
  nonempty : errors ≠ []
  places : ∀ k item?,
    (∃ fault, ⟨k, item?, fault⟩ ∈ errors) ↔ ∃ v, value? k = some v ∧ Bad k v item?
  ordered : errors.Pairwise SettingError.Before
  apart : errors = Setting.all.flatMap fun k =>
    (check fun k' => if k' = k then value? k else none).errors

/-! ## The errors of one value -/

def errorsOf : Setting → Value → List SettingError
  | k@.milvusHost, v | k@.connectionAlias, v | k@.collectionName, v | k@.csvPath, v =>
    (ofResult k (textOf v)).errors
  | k@.milvusToken, v => (ofResult k (optional textOf v)).errors
  | k@.milvusPort, v | k@.segmentRowLimit, v => (ofResult k (WholeNumber.ofValue v)).errors
  | k@.querySeed, v => (ofResult k (optional WholeNumber.ofValue v)).errors
  | k@.dimension, v | k@.nlist, v | k@.nprobe, v | k@.topK, v => (ofResult k (positiveOf v)).errors
  | k@.indexType, v | k@.metricType, v => (ofResult k (upperTextOf v)).errors
  | k@.logLevel, v => (ofResult k (levelOf v)).errors
  | .releaseYears, v => (yearsOf v).errors

section
variable {α : Type}

theorem exists_map_ok {β : Type} {r : Except SettingFault α} {f : α → β} :
    (∃ b, r.map f = .ok b) ↔ ∃ a, r = .ok a := by
  cases r <;> simp [Except.map]

theorem exists_textOf {v : Value} : (∃ t, textOf v = .ok t) ↔ ∃ t, v = .text t := by
  cases v <;> simp [textOf]

theorem exists_optional {read : Value → Except SettingFault α} {v : Value} :
    (∃ a, optional read v = .ok a) ↔ v = .null ∨ ∃ a, read v = .ok a := by
  cases v with
  | null => simp [optional]
  | _ => simp [optional, exists_map_ok]

theorem exists_positiveOf {v : Value} :
    (∃ n, positiveOf v = .ok n) ↔ ∃ n, WholeNumber.ofValue v = .ok n ∧ 1 ≤ n := by
  rw [positiveOf]
  cases WholeNumber.ofValue v with
  | error e => simp
  | ok n =>
      by_cases h : n ≤ 0
      · simp only [h, if_true, reduceCtorEq, exists_false, Except.ok.injEq, exists_eq_left', false_iff]
        omega
      · simp only [h, if_false, Except.ok.injEq, exists_eq', exists_eq_left', true_iff]
        omega

theorem exists_levelOf {v : Value} : (∃ l, levelOf v = .ok l) ↔
    ∃ t, v = .text t ∧ ∃ l ∈ LogLevel.all, Text.upper t = l.name := by
  cases v with
  | text t =>
      have known : (∃ l, levelOf (.text t) = .ok l) ↔ (LogLevel.ofName? (Text.upper t)).isSome := by
        simp only [levelOf, upperTextOf, textOf, Except.map]
        cases LogLevel.ofName? (Text.upper t) <;> simp
      rw [known, LogLevel.ofName?, List.find?_isSome]
      constructor
      · rintro ⟨l, mem, same⟩
        exact ⟨t, rfl, l, mem, (eq_of_beq same).symm⟩
      · rintro ⟨_, text, l, mem, same⟩
        cases text
        exact ⟨l, mem, beq_iff_eq.2 same.symm⟩
  | _ => simp [levelOf, upperTextOf, textOf, Except.map]

theorem places_ofResult {k k' : Setting} {v : Value} {item? : Option Nat}
    {r : Except SettingFault α} (scalar : k ≠ .releaseYears) (suits : (∃ a, r = .ok a) ↔ Suits k v) :
    (∃ fault, ⟨k', item?, fault⟩ ∈ (ofResult k r).errors) ↔ k' = k ∧ Bad k v item? := by
  simp only [mem_errors_ofResult, SettingError.mk.injEq]
  constructor
  · rintro ⟨_, fault, failed, rfl, rfl, -⟩
    refine ⟨rfl, .whole fun fits => ?_⟩
    obtain ⟨a, done⟩ := suits.2 fits
    cases failed.symm.trans done
  · rintro ⟨rfl, bad⟩
    cases bad with
    | item years => exact absurd years scalar
    | whole h =>
        cases r with
        | ok a => exact absurd (suits.1 ⟨a, rfl⟩) h
        | error fault => exact ⟨fault, fault, rfl, rfl, rfl, rfl⟩

end

/-! ## Years -/

theorem errors_itemsFrom (index : Nat) (v : Value) (rest : List Value) :
    (itemsFrom index (v :: rest)).errors =
      (match WholeNumber.ofValue v with
        | .ok _ => []
        | .error fault => [⟨.releaseYears, some index, fault⟩]) ++
          (itemsFrom (index + 1) rest).errors := by
  rw [itemsFrom, errors_app, errors_app]
  cases WholeNumber.ofValue v <;> rfl

theorem mem_errors_itemsFrom {index : Nat} {items : List Value} {e : SettingError} :
    e ∈ (itemsFrom index items).errors ↔ ∃ i x fault, items[i]? = some x ∧
      WholeNumber.ofValue x = .error fault ∧ e = ⟨.releaseYears, some (index + i), fault⟩ := by
  induction items generalizing index with
  | nil => simp [itemsFrom, errors]
  | cons v rest ih =>
      rw [errors_itemsFrom, List.mem_append, ih]
      constructor
      · rintro (first | ⟨i, x, fault, place, bad, rfl⟩)
        · cases hv : WholeNumber.ofValue v with
          | ok n => simp [hv] at first
          | error fault =>
              rw [hv] at first
              exact ⟨0, v, fault, rfl, hv, List.mem_singleton.1 first⟩
        · exact ⟨i + 1, x, fault, place, bad, by rw [Nat.add_assoc, Nat.add_comm 1]⟩
      · rintro ⟨i, x, fault, place, bad, rfl⟩
        cases i with
        | zero =>
            obtain rfl : v = x := Option.some.inj place
            exact .inl (by simp [bad])
        | succ i => exact .inr ⟨i, x, fault, place, bad, by rw [Nat.add_assoc, Nat.add_comm 1]⟩

theorem ordered_itemsFrom (index : Nat) (items : List Value) :
    (itemsFrom index items).errors.Pairwise SettingError.Before := by
  induction items generalizing index with
  | nil => exact .nil
  | cons v rest ih =>
      rw [errors_itemsFrom, List.pairwise_append]
      refine ⟨?_, ih (index + 1), fun e first e' later => ?_⟩
      · cases WholeNumber.ofValue v <;> simp
      · obtain ⟨i, _, fault, -, -, rfl⟩ := mem_errors_itemsFrom.1 later
        cases hv : WholeNumber.ofValue v with
        | ok n => simp [hv] at first
        | error _ =>
            rw [hv] at first
            rw [List.mem_singleton.1 first]
            exact .inr ⟨rfl, index, index + 1 + i, rfl, rfl, by omega⟩

theorem errors_yearsOf {v : Value} (h : ∀ items, v ≠ .list items) :
    (yearsOf v).errors = [⟨.releaseYears, none, .notList⟩] := by
  cases v with
  | list items => exact absurd rfl (h items)
  | _ => rfl

theorem explained_itemsFrom (index : Nat) (items : List Value) :
    (itemsFrom index items).Explained := by
  induction items generalizing index with
  | nil => exact explained_valid []
  | cons v rest ih =>
      rw [itemsFrom]
      refine .app (.app (explained_valid _) ?_) (ih (index + 1))
      cases WholeNumber.ofValue v with
      | ok n => exact explained_valid n
      | error e => exact explained_invalid _ []

theorem explained_yearsOf (v : Value) : (yearsOf v).Explained := by
  cases v with
  | list items => exact explained_itemsFrom 0 items
  | _ => exact explained_invalid _ []

theorem places_years {k : Setting} {v : Value} {item? : Option Nat} :
    (∃ fault, ⟨k, item?, fault⟩ ∈ (yearsOf v).errors) ↔
      k = .releaseYears ∧ Bad .releaseYears v item? := by
  by_cases list : ∃ items, v = .list items
  · obtain ⟨items, rfl⟩ := list
    simp only [yearsOf, mem_errors_itemsFrom, SettingError.mk.injEq, Nat.zero_add]
    constructor
    · rintro ⟨_, i, x, fault, place, bad, rfl, rfl, -⟩
      exact ⟨rfl, .item rfl rfl place fun n done => by cases bad.symm.trans done⟩
    · rintro ⟨rfl, bad⟩
      cases bad with
      | whole h => exact absurd ⟨items, rfl⟩ h
      | @item items' i x _ same place bad =>
          cases same
          cases hx : WholeNumber.ofValue x with
          | ok n => exact absurd hx (bad n)
          | error fault => exact ⟨fault, i, x, fault, place, hx, rfl, rfl, rfl⟩
  · rw [errors_yearsOf fun items same => list ⟨items, same⟩]
    simp only [List.mem_singleton, SettingError.mk.injEq]
    constructor
    · rintro ⟨_, rfl, rfl, -⟩
      exact ⟨rfl, .whole list⟩
    · rintro ⟨rfl, bad⟩
      cases bad with
      | whole => exact ⟨_, rfl, rfl, rfl⟩
      | item _ same => exact absurd ⟨_, same⟩ list

/-! ## All settings -/

theorem places_errorsOf {k k' : Setting} {v : Value} {item? : Option Nat} :
    (∃ fault, ⟨k', item?, fault⟩ ∈ errorsOf k v) ↔ k' = k ∧ Bad k v item? := by
  cases k with
  | milvusHost | connectionAlias | collectionName | csvPath =>
      exact places_ofResult nofun exists_textOf
  | milvusToken =>
      exact places_ofResult nofun (exists_optional.trans (or_congr_right exists_textOf))
  | milvusPort | segmentRowLimit => exact places_ofResult nofun Iff.rfl
  | querySeed => exact places_ofResult nofun exists_optional
  | dimension | nlist | nprobe | topK => exact places_ofResult nofun exists_positiveOf
  | indexType | metricType =>
      exact places_ofResult nofun (exists_map_ok.trans exists_textOf)
  | logLevel => exact places_ofResult nofun exists_levelOf
  | releaseYears => exact places_years

theorem setting_of_mem {k : Setting} {v : Value} {e : SettingError} (h : e ∈ errorsOf k v) :
    e.setting = k := (places_errorsOf.1 ⟨e.fault, h⟩).1

theorem ordered_errorsOf (k : Setting) (v : Value) :
    (errorsOf k v).Pairwise SettingError.Before := by
  have single {α : Type} (r : Except SettingFault α) :
      (ofResult k r).errors.Pairwise SettingError.Before := by cases r <;> simp [ofResult, errors]
  cases k with
  | releaseYears =>
      by_cases list : ∃ items, v = .list items
      · obtain ⟨items, rfl⟩ := list
        exact ordered_itemsFrom 0 items
      · rw [errorsOf, errors_yearsOf fun items same => list ⟨items, same⟩]
        exact List.pairwise_singleton _ _
  | _ => exact single _

section
variable {value? : Setting → Option Value}

theorem errors_setting {α : Type} (k : Setting) (read : Value → Except SettingFault α)
    (default : α) : (setting value? k read default).errors =
      ((value? k).map fun v => (ofResult k (read v)).errors).getD [] := by
  rw [setting]
  cases value? k <;> rfl

theorem errors_years (default : List Int) : (years value? default).errors =
    ((value? .releaseYears).map fun v => (yearsOf v).errors).getD [] := by
  rw [years]
  cases value? .releaseYears <;> rfl

/-- All settings are checked, each by itself. -/
theorem errors_check (value? : Setting → Option Value) : (check value?).errors =
    Setting.all.flatMap fun k => ((value? k).map (errorsOf k)).getD [] := by
  simp only [check, errors_app, errors_setting, errors_years, List.append_assoc]
  simp only [Setting.all, List.flatMap_cons, List.flatMap_nil, List.append_nil]
  rfl

theorem explained_setting {α β : Type} {f : Checked (α → β)} (h : f.Explained) {k : Setting}
    {read : Value → Except SettingFault α} {default : α} :
    (f.app (setting value? k read default)).Explained := by
  refine h.app ?_
  rw [setting]
  cases value? k with
  | none => exact explained_valid default
  | some v => exact explained_ofResult k (read v)

theorem explained_years {β : Type} {f : Checked (List Int → β)} (h : f.Explained)
    {default : List Int} : (f.app (years value? default)).Explained := by
  refine h.app ?_
  rw [years]
  cases value? .releaseYears with
  | none => exact explained_valid default
  | some v => exact explained_yearsOf v

theorem explained_check (value? : Setting → Option Value) : (check value?).Explained := by
  iterate 2 apply explained_setting
  apply explained_years
  iterate 13 apply explained_setting
  exact explained_valid Settings.mk

theorem errors_alone (value? : Setting → Option Value) (k : Setting) :
    (check fun k' => if k' = k then value? k else none).errors =
      ((value? k).map (errorsOf k)).getD [] := by
  rw [errors_check]
  cases k <;> simp [Setting.all]

theorem places_check {k : Setting} {item? : Option Nat} :
    (∃ fault, ⟨k, item?, fault⟩ ∈ (check value?).errors) ↔
      ∃ v, value? k = some v ∧ Bad k v item? := by
  simp only [errors_check, List.mem_flatMap, Setting.mem_all, true_and]
  constructor
  · rintro ⟨fault, k', mem⟩
    cases hv : value? k' with
    | none => simp [hv] at mem
    | some v =>
        rw [hv] at mem
        obtain ⟨rfl, bad⟩ := places_errorsOf.1 ⟨fault, mem⟩
        exact ⟨v, hv, bad⟩
  · rintro ⟨v, hv, bad⟩
    obtain ⟨fault, mem⟩ := places_errorsOf.2 ⟨rfl, bad⟩
    exact ⟨fault, k, by rw [hv]; exact mem⟩

theorem ordered_check (value? : Setting → Option Value) :
    (check value?).errors.Pairwise SettingError.Before := by
  have ranks : Setting.all.Pairwise fun k k' => Setting.all.idxOf k < Setting.all.idxOf k' := by
    decide
  rw [errors_check, List.pairwise_flatMap]
  refine ⟨fun k _ => ?_, ranks.imp fun {k k'} rank e mem e' mem' => .inl ?_⟩
  · cases value? k with
    | none => exact .nil
    | some v => exact ordered_errorsOf k v
  · cases hv : value? k with
    | none => simp [hv] at mem
    | some v =>
        cases hv' : value? k' with
        | none => simp [hv'] at mem'
        | some v' =>
            rw [hv] at mem
            rw [hv'] at mem'
            rwa [setting_of_mem mem, setting_of_mem mem']

theorem reported_of_check {errors : List SettingError} (h : check value? = invalid errors) :
    Reported value? errors := by
  obtain rfl : (check value?).errors = errors := congrArg Checked.errors h
  refine ⟨fun none => ?_, fun _ _ => places_check, ordered_check value?, ?_⟩
  · obtain ⟨s, accepted⟩ := explained_check value? none
    cases h.symm.trans accepted
  · rw [errors_check]
    exact congrArg (List.flatMap · Setting.all) (funext fun k => (errors_alone value? k).symm)

end

/-- Accepted settings keep what they promise, hold no value that does not suit, and given again
are the same, whatever else there is that can be read. Of settings that are rejected the errors
name the places that are bad, each setting's as if it were the only one. -/
theorem load_settles (src : Sources) :
    (∀ s, load src = .ok s → s.Accepted ∧
      (∀ k v, src.value? k = some v → ∀ item?, ¬ Bad k v item?) ∧
      ∀ again : Sources, again.given = s.toFields →
        ¬ Sources.NotJson (again.environmentText? .releaseYears) →
          ¬ Sources.NotJson (again.dotEnvText? .releaseYears) → load again = .ok s) ∧
    ∀ errors, load src = .error (.invalid errors) → Reported src.value? errors := by
  constructor
  · intro s h
    refine ⟨accepted_of_load h, fun k v decides item? bad => ?_,
      fun again given environment dotEnv => load_again h given ?_⟩
    · have checked := check_of_reads (reads_of_load h)
      obtain ⟨fault, mem⟩ := places_check.2 ⟨v, decides, bad⟩
      rw [checked] at mem
      exact List.not_mem_nil mem
    · rw [← Option.not_isSome_iff_eq_none, Sources.isSome_unreadable?, not_or]
      exact ⟨environment, dotEnv⟩
  · intro errors h
    rw [load] at h
    split at h
    · cases h
    · cases hc : check src.value? with
      | valid s =>
          rw [hc] at h
          cases h
      | invalid errors' =>
          rw [hc] at h
          cases h
          exact reported_of_check hc

/-- Sources of which all values are accepted, if not as they stand. -/
def unevenSources : Sources where
  given := [("metric_type", .text "straße"), ("release_years", .list [.text " 7 ", .bool true])]
  environment := [("films_demo_LOG_LEVEL", "warn"), ("FILMS_DEMO_TOP_K", "5.0")]

def uneven : Settings :=
  { defaults with metricType := "STRASSE", releaseYears := [7, 1], logLevel := .warn, topK := 5 }

/-- Sources of which three values are rejected, among them two items of a list. -/
def badSources : Sources where
  given := [("release_years", .list [.int 7, .text "x", .null]), ("dimension", .int 0)]
  environment := [("FILMS_DEMO_LOG_LEVEL", "loud")]

/-- The first are kept where the environment and the settings file say otherwise; of the second
four places are reported. -/
theorem load_settles_uneven :
    let again : Sources := { given := uneven.toFields
                             environment := [("FILMS_DEMO_RELEASE_YEARS", "[1]")]
                             dotEnv := "FILMS_DEMO_TOP_K=none\n" }
    let errors : List SettingError := [⟨.dimension, none, .notPositive⟩,
      ⟨.releaseYears, some 1, .notNumeral⟩, ⟨.releaseYears, some 2, .notWhole⟩,
      ⟨.logLevel, none, .unknownLevel "LOUD"⟩]
    load unevenSources = .ok uneven ∧ load again = .ok uneven ∧
      load badSources = .error (.invalid errors) ∧ Reported badSources.value? errors := by
  intro again errors
  have accepted : load unevenSources = .ok uneven := rfl
  have rejected : load badSources = .error (.invalid errors) := rfl
  have environment : again.environmentText? .releaseYears = some "[1]" := rfl
  have dotEnv : again.dotEnvText? .releaseYears = none := by decide +kernel
  refine ⟨accepted, ?_, rejected, (load_settles badSources).2 errors rejected⟩
  refine ((load_settles unevenSources).1 uneven accepted).2.2 again rfl ?_ ?_
  · rintro ⟨text, found, bad⟩
    obtain rfl : "[1]" = text := Option.some.inj (environment.symm.trans found)
    cases bad
  · rintro ⟨text, found, -⟩
    cases dotEnv.symm.trans found

end Settings
end FilmIndex
