import FilmIndex.Proofs.Program.Ending
import FilmIndex.Proofs.Program.Options
import FilmIndex.Proofs.Settings.Masking

/-!
Settings that options give. The last option of a setting decides, whatever the environment
and the settings file hold for it; a setting without an option has the value that it has
without any options. What an option masks makes no difference to the program, unless the
settings file refers to it elsewhere.
-/

namespace FilmIndex

namespace Settings
open Checked CommandLine

/-- A value of an option as the setting keeps it. -/
def kept : Setting → Value → Value
  | .logLevel, .text t => .text (Text.upper t)
  | _, v => v

theorem eq_of_textOf {t t' : String} (h : textOf (.text t) = .ok t') : t' = t :=
  (Except.ok.inj h).symm

theorem eq_of_ofValue {n m : Int} (h : WholeNumber.ofValue (.int n) = .ok m) : m = n :=
  (Except.ok.inj h).symm

theorem eq_of_optional {n : Int} {m? : Option Int}
    (h : optional WholeNumber.ofValue (.int n) = .ok m?) : m? = some n :=
  (Except.ok.inj h).symm

theorem eq_of_positiveOf {n m : Int} (h : positiveOf (.int n) = .ok m) : m = n := by
  simp only [positiveOf, WholeNumber.ofValue] at h
  split at h
  · cases h
  · exact (Except.ok.inj h).symm

theorem name_of_levelOf {t : String} {l : LogLevel} (h : levelOf (.text t) = .ok l) :
    l.name = Text.upper t := by
  simp only [levelOf, upperTextOf, textOf, Except.map] at h
  split at h
  · rename_i found
    cases h
    have same : (l.name == Text.upper t) = true :=
      List.find?_some (p := fun l : LogLevel => l.name == Text.upper t) found
    exact eq_of_beq same
  · cases h

theorem Reads.value_of_fits {value? : Setting → Option Value} {s : Settings} (h : Reads value? s)
    {k : Setting} {v : Value} (fits : Fits k v) (decides : value? k = some v) :
    s.value k = kept k v := by
  cases fits with
  | nothing mem =>
      -- No option's setting can be read from a list.
      have mem' : k ∈ [Setting.csvPath, .milvusHost, .milvusPort, .collectionName, .topK,
        .querySeed, .logLevel] := mem
      simp only [List.mem_cons, List.not_mem_nil, or_false] at mem'
      rcases mem' with rfl | rfl | rfl | rfl | rfl | rfl | rfl
      · cases read_of_setting h.csvPath decides
      · cases read_of_setting h.milvusHost decides
      · cases read_of_setting h.milvusPort decides
      · cases read_of_setting h.collectionName decides
      · cases read_of_setting h.topK decides
      · cases read_of_setting h.querySeed decides
      · cases read_of_setting h.logLevel decides
  | number mem n =>
      simp only [List.mem_cons, List.not_mem_nil, or_false] at mem
      rcases mem with rfl | rfl | rfl
      · rw [value, eq_of_ofValue (read_of_setting h.milvusPort decides)]
        rfl
      · rw [value, eq_of_positiveOf (read_of_setting h.topK decides)]
        rfl
      · rw [value, eq_of_optional (read_of_setting h.querySeed decides)]
        rfl
  | text mem t =>
      simp only [List.mem_cons, List.not_mem_nil, or_false] at mem
      rcases mem with rfl | rfl | rfl | rfl
      · rw [value, eq_of_textOf (read_of_setting h.csvPath decides)]
        rfl
      · rw [value, eq_of_textOf (read_of_setting h.milvusHost decides)]
        rfl
      · rw [value, eq_of_textOf (read_of_setting h.collectionName decides)]
        rfl
      · rw [value, name_of_levelOf (read_of_setting h.logLevel decides)]
        rfl

end Settings

namespace Program
open CommandLine (Given)

variable {given : Given} {around around' : Surroundings}

theorem reads_of_load {s : Settings} (h : load given around = .ok s) :
    Settings.Reads (sources given around).value? s := by
  rw [load] at h
  split at h
  · cases h
  · exact Settings.reads_of_load h

theorem given?_sources (given : Given) (around : Surroundings) (k : Setting) :
    (sources given around).given? k = Keyed.get? k given := Sources.named?_names given k

/-- An option's value decides on its setting; without one the setting has the value that it
has without any options. -/
theorem value?_sources (given : Given) (around : Surroundings) (k : Setting) :
    (sources given around).value? k =
      (Keyed.get? k given).or ((sources [] around).value? k) := by
  rw [Sources.value?, Sources.value?, given?_sources, given?_sources]
  cases Keyed.get? k given <;> rfl

/-- A name under which the environment or the settings file may hold a given setting. -/
def spelled (given : Given) (name : List Char) : Bool :=
  given.any fun p => Setting.lowerName (String.ofList name) == p.1.environmentName.toList

theorem get?_of_spelled {k : Setting} {name : String}
    (spells : Setting.lowerName name = k.environmentName.toList)
    (h : spelled given name.toList = true) : Keyed.get? k given ≠ none := by
  obtain ⟨p, mem, same⟩ := List.any_eq_true.1 h
  rw [String.ofList_toList, spells, beq_iff_eq, String.toList_inj] at same
  have key : k = p.1 := Setting.environmentName_injective same
  exact fun absent => (Keyed.get?_eq_none_iff k given).1 absent p mem key.symm

/-- The entries of the settings file, if it is a text. -/
def fileEntries (around : Surroundings) : List DotEnv.Entry :=
  DotEnv.entries (around.dotEnvText.toOption.getD "")

/-- Two surroundings that differ in the variables and entries of given settings at most,
where none of the other settings depends on those. -/
structure Masked (given : Given) (around around' : Surroundings) : Prop where
  files : around'.files = around.files
  entropy : around'.entropy = around.entropy
  memory : around'.memory = around.memory
  undecodable : ∀ report, around'.dotEnvText = .error report ↔ around.dotEnvText = .error report
  environment : (around'.environment.filter fun e => !spelled given e.1.toList) =
    around.environment.filter fun e => !spelled given e.1.toList
  entries : ((fileEntries around').filter fun e => !spelled given e.1) =
    (fileEntries around).filter fun e => !spelled given e.1
  independent : ∀ k, Keyed.get? k given = none → ∀ name : String,
    Setting.lowerName name = k.environmentName.toList →
      ¬ DotEnv.Depends (fileEntries around) (fun n => spelled given n = true) name.toList

namespace Masked
open Classical

/-- The names of which nothing depends on a given setting. -/
noncomputable def visible (given : Given) (around : Surroundings) (name : List Char) : Bool :=
  !decide (DotEnv.Depends (fileEntries around) (fun n => spelled given n = true) name)

theorem visible_eq_true_iff (name : List Char) : visible given around name = true ↔
    ¬ DotEnv.Depends (fileEntries around) (fun n => spelled given n = true) name := by
  simp [visible]

theorem visible_and (name : List Char) :
    (visible given around name && !spelled given name) = visible given around name := by
  cases hidden : spelled given name with
  | false => simp
  | true =>
      have h : ¬ visible given around name = true := fun h =>
        (visible_eq_true_iff name).1 h (.hidden hidden)
      simpa using h

theorem alike (h : Masked given around around') :
    Sources.Alike (visible given around) (sources [] around) (sources [] around') where
  given := rfl
  environment := by
    have same := congrArg (List.filter fun e => visible given around e.1.toList) h.environment
    simp only [List.filter_filter, visible_and] at same
    exact same
  entries := by
    have same := congrArg (List.filter fun e => visible given around e.1) h.entries
    simp only [List.filter_filter, visible_and] at same
    exact same
  closed name value mem seen other refers := by
    rw [visible_eq_true_iff] at seen ⊢
    exact fun depends => seen (.refers mem refers depends)

variable {k : Setting}

theorem environmentText? (h : Masked given around around') (absent : Keyed.get? k given = none) :
    (sources [] around').environmentText? k = (sources [] around).environmentText? k :=
  h.alike.environmentText? fun name spells =>
    (visible_eq_true_iff _).2 (h.independent k absent name spells)

theorem dotEnvText? (h : Masked given around around') (absent : Keyed.get? k given = none) :
    (sources [] around').dotEnvText? k = (sources [] around).dotEnvText? k :=
  h.alike.dotEnvText? fun name spells =>
    (visible_eq_true_iff _).2 (h.independent k absent name spells)

theorem value? (h : Masked given around around') :
    (sources given around').value? = (sources given around).value? := by
  funext k
  rw [value?_sources, value?_sources given around]
  cases given? : Keyed.get? k given with
  | some v => rfl
  | none => simp only [Sources.value?, h.environmentText? given?, h.dotEnvText? given?]; rfl

/-- Years are given by no option, and nothing else can be unreadable. -/
theorem unreadable? (h : Masked given around around')
    (years : Keyed.get? .releaseYears given = none) :
    (sources given around').unreadable? = (sources given around).unreadable? :=
  Sources.unreadable?_congr (h.environmentText? years) (h.dotEnvText? years)

theorem load (h : Masked given around around')
    (years : Keyed.get? .releaseYears given = none) :
    load given around' = load given around := by
  have loads : Settings.load (sources given around') = Settings.load (sources given around) := by
    rw [Settings.load, Settings.load, h.value?, h.unreadable? years]
  rw [Program.load, Program.load, loads]
  cases decoded : around.dotEnvText with
  | error report => rw [(h.undecodable report).2 decoded]
  | ok text =>
      cases decoded' : around'.dotEnvText with
      | error report => rw [(h.undecodable report).1 decoded'] at decoded; cases decoded
      | ok text' => rfl

theorem run (h : Masked given around around') (years : Keyed.get? .releaseYears given = none)
    {words : List String} (parsed : CommandLine.parse words = .ok given) (before : Session) :
    Program.run words around' before = Program.run words around before := by
  have runs (s : Settings) : Run.run s around' = Run.run s around := by
    have queries (schema : FilmSchema) :
        Run.query s schema around' = Run.query s schema around := by
      rw [Run.query, Run.query, h.entropy, h.memory]
    have searches (films : Catalog) : Run.search (Service.ofSettings s) films around' =
        Run.search (Service.ofSettings s) films around := by
      rw [Run.search, Run.search]
      exact congrArg (_ >>= ·) (funext fun _ => congrArg (· >>= _) (congrArg _ (queries _)))
    simp only [Run.run, Run.connectedRun, searches, h.files]
  simp only [Program.run, parsed, start, work, h.load years, runs]

end Masked

/-- On a command line that is accepted the last option of a setting decides on it, and a
setting without an option is as without any options. Variables and entries of given settings
make no difference at all, if no other setting depends on them. -/
theorem flags_override {words : List String} (parsed : CommandLine.parse words = .ok given)
    (around : Surroundings) :
    (∃ ws vs, CommandLine.sortWords words = .ok ws ∧ CommandLine.Taken ws vs ∧
      ∀ k, Keyed.get? k given = CommandLine.lastOf k vs) ∧
    (sources given around).unreadable? = (sources [] around).unreadable? ∧
    (∀ k, (sources given around).value? k =
      (Keyed.get? k given).or ((sources [] around).value? k)) ∧
    (∀ s, load given around = .ok s →
      (∀ k v, Keyed.get? k given = some v → s.value k = Settings.kept k v) ∧
      ∀ given' s', load given' around = .ok s' →
        ∀ k, Keyed.get? k given' = Keyed.get? k given → s'.value k = s.value k) ∧
    ∀ around', Masked given around around' →
      ∀ before, run words around' before = run words around before := by
  obtain ⟨ws, vs, sorted, taken, rfl⟩ := (CommandLine.parse_eq_ok_iff words given).1 parsed
  have fits {k : Setting} {v : Value} (h : Keyed.get? k (Keyed.ofList vs) = some v) :
      CommandLine.Fits k v :=
    CommandLine.fits_of_taken taken (CommandLine.known_of_sortWords sorted) (k, v)
      (Keyed.mem_of_get?_ofList h)
  have years : Keyed.get? .releaseYears (Keyed.ofList vs) = none := by
    cases h : Keyed.get? .releaseYears (Keyed.ofList vs) with
    | none => rfl
    | some v => exact absurd (fits h) CommandLine.not_fits_releaseYears
  refine ⟨⟨ws, vs, sorted, taken, fun k => Keyed.get?_ofList k vs⟩, rfl,
    value?_sources _ around, fun s loaded => ?_, fun around' masked => masked.run years parsed⟩
  have reads := reads_of_load loaded
  refine ⟨fun k v h => ?_, fun given' s' loaded' k same => ?_⟩
  · exact reads.value_of_fits (fits h) (by rw [value?_sources, h]; rfl)
  · refine reads.value_congr (reads_of_load loaded') ?_
    rw [value?_sources given', value?_sources (Keyed.ofList vs), same]

/-- Surroundings that hold a film file, and a number that is none. -/
def overridden : Surroundings where
  environment := [("FILMS_DEMO_CSV_PATH", "b.csv"), ("films_demo_top_k", "none")]
  dotEnv := "FILMS_DEMO_CSV_PATH=c.csv\n".toUTF8
  files := fun _ => .error .notFound

/-- Two options for the film file and one for the number leave nothing of those. -/
theorem flags_override_masked :
    let given : Given := [(.csvPath, .text "films.csv"), (.topK, .int 2)]
    let bare : Surroundings := { files := overridden.files }
    CommandLine.parse ["--csv", "a.csv", "--top-k", "2", "--csv", "films.csv"] = .ok given ∧
      Masked given overridden bare ∧
      ∀ before, run ["--csv", "a.csv", "--top-k", "2", "--csv", "films.csv"] bare before =
        run ["--csv", "a.csv", "--top-k", "2", "--csv", "films.csv"] overridden before := by
  intro given bare
  have decoded : overridden.dotEnvText = .ok "FILMS_DEMO_CSV_PATH=c.csv\n" :=
    Text.Utf8.decode_eq_ok_iff.2 rfl
  have entries : fileEntries overridden =
      [("FILMS_DEMO_CSV_PATH".toList, some "c.csv".toList)] := by
    rw [fileEntries, decoded]
    rfl
  have onlySpelled {name : List Char} (h : DotEnv.Depends (fileEntries overridden)
      (fun n => spelled given n = true) name) : spelled given name = true := by
    cases h with
    | hidden h => exact h
    | refers mem _ _ =>
        rw [entries] at mem
        cases List.mem_singleton.1 mem
        decide
  have masked : Masked given overridden bare := by
    refine ⟨rfl, rfl, rfl, fun report => ?_, by decide, ?_, fun k absent name spells depends => ?_⟩
    · have bareText : bare.dotEnvText = .ok "" := Text.Utf8.decode_eq_ok_iff.2 rfl
      rw [decoded, bareText]
      exact iff_of_false nofun nofun
    · rw [entries]
      decide
    · exact get?_of_spelled spells (onlySpelled depends) absent
  exact ⟨rfl, masked, (flags_override rfl overridden).2.2.2.2 _ masked⟩

/-- A settings file in which the collection's name refers to the film file. -/
def referring (path : String) : Surroundings where
  environment := [("FILMS_DEMO_CSV_PATH", path)]
  dotEnv := "FILMS_DEMO_COLLECTION_NAME=x$\x7bFILMS_DEMO_CSV_PATH\x7d\n".toUTF8
  files := fun _ => .ok ByteArray.empty

/-- The option for the film file does not keep the variable from making a difference. -/
theorem referring_not_masked :
    let before : Session := Session.failNext "has_collection" "refused" {}
    CommandLine.parse ["--csv", "films.csv"] = .ok [(.csvPath, .text "films.csv")] ∧
      (run ["--csv", "films.csv"] (referring "1") before).2.calls ≠
        (run ["--csv", "films.csv"] (referring "2") before).2.calls := by
  have calls (path : String) (h : path = "1" ∨ path = "2") :
      (run ["--csv", "films.csv"] (referring path)
        (Session.failNext "has_collection" "refused" {})).2.calls =
        [.connect "default" [("host", "localhost"), ("port", "19530")],
          .hasCollection ("x" ++ path), .disconnect "default"] := by
    have parsed : CommandLine.parse ["--csv", "films.csv"] =
      .ok [(.csvPath, .text "films.csv")] := rfl
    have loaded : load [(.csvPath, .text "films.csv")] (referring path) =
        .ok { Settings.defaults with collectionName := "x" ++ path } := by
      have text : (referring path).dotEnv =
          String.toUTF8 "FILMS_DEMO_COLLECTION_NAME=x$\x7bFILMS_DEMO_CSV_PATH\x7d\n" := rfl
      rw [load_text text.symm, sources_text text.symm]
      rcases h with rfl | rfl <;> rfl
    simp only [run, parsed, start, loaded, work]
    rcases h with rfl | rfl <;> rfl
  refine ⟨rfl, ?_⟩
  rw [calls "1" (.inl rfl), calls "2" (.inr rfl)]
  simp

end Program

end FilmIndex
