import FilmIndex.Settings.Sources
import FilmIndex.Settings.WholeNumber
import FilmIndex.Text.Quoted
import FilmIndex.Text.UpperCase
import FilmIndex.Text.Utf8

/-!
The settings with their types and defaults. All of them are checked, and every
fault is reported, in the order of the settings.
-/

namespace FilmIndex

/-- A fault of a setting, or of one item of a setting that is a list. -/
structure SettingError where
  setting : Setting
  item? : Option Nat := none
  fault : SettingFault
  deriving DecidableEq

namespace SettingFault

/-- The kind of a fault by the name under which it is reported. -/
def kind : SettingFault → String
  | notText => "string_type"
  | notList => "list_type"
  | notWhole => "int_type"
  | notNumeral => "int_parsing"
  | tooLarge => "int_parsing_size"
  | hasFraction => "int_from_float"
  | notFinite => "finite_number"
  | notPositive => "value_error"
  | unknownLevel _ => "value_error"

def message : SettingFault → String
  | notText => "Input should be a valid string"
  | notList => "Input should be a valid list"
  | notWhole => "Input should be a valid integer"
  | notNumeral => "Input should be a valid integer, unable to parse string as an integer"
  | tooLarge => "Unable to parse input string as an integer, exceeded maximum size"
  | hasFraction => "Input should be a valid integer, got a number with a fractional part"
  | notFinite => "Input should be a finite number"
  | notPositive => "Value error, must be a positive integer"
  | unknownLevel name => "Value error, unknown log level '" ++ name ++ "'"

end SettingFault

/-- Why there are no settings. The settings file is decoded before anything is read of it
or of another source. -/
inductive SettingsError where
  | undecodable (report : Text.Utf8.Report)
  | unreadable (s : Setting) (origin : Sources.Origin)
  | invalid (errors : List SettingError)
  deriving DecidableEq

structure Settings where
  milvusHost : String
  milvusPort : Int
  milvusToken : Option String
  connectionAlias : String
  collectionName : String
  csvPath : String
  dimension : Int
  segmentRowLimit : Int
  indexType : String
  metricType : String
  nlist : Int
  nprobe : Int
  topK : Int
  releaseYears : List Int
  querySeed : Option Int
  logLevel : LogLevel
  deriving DecidableEq

/-- A checked value, or all errors found in checking it. -/
inductive Checked (α : Type) where
  | valid (a : α)
  | invalid (errors : List SettingError)

namespace Checked

variable {α β : Type}

/-- A function and its argument checked both. -/
def app : Checked (α → β) → Checked α → Checked β
  | valid f, valid a => valid (f a)
  | valid _, invalid es => invalid es
  | invalid es, valid _ => invalid es
  | invalid es, invalid es' => invalid (es ++ es')

def ofResult (s : Setting) : Except SettingFault α → Checked α
  | .ok a => valid a
  | .error fault => invalid [⟨s, none, fault⟩]

end Checked

namespace Settings

def textOf : Value → Except SettingFault String
  | .text s => .ok s
  | _ => .error .notText

def upperTextOf (v : Value) : Except SettingFault String := (textOf v).map Text.upper

def optional {α : Type} (read : Value → Except SettingFault α) :
    Value → Except SettingFault (Option α)
  | .null => .ok none
  | v => (read v).map some

def positiveOf (v : Value) : Except SettingFault Int :=
  match WholeNumber.ofValue v with
  | .ok n => if n ≤ 0 then .error .notPositive else .ok n
  | .error e => .error e

def levelOf (v : Value) : Except SettingFault LogLevel :=
  match upperTextOf v with
  | .error e => .error e
  | .ok name =>
    match LogLevel.ofName? name with
    | some l => .ok l
    | none => .error (.unknownLevel name)

/-- The whole numbers of a list, or the errors of all its bad items. -/
def itemsFrom (index : Nat) : List Value → Checked (List Int)
  | [] => .valid []
  | v :: rest =>
    let item : Checked Int :=
      match WholeNumber.ofValue v with
      | .ok n => .valid n
      | .error fault => .invalid [⟨.releaseYears, some index, fault⟩]
    ((Checked.valid List.cons).app item).app (itemsFrom (index + 1) rest)

def yearsOf : Value → Checked (List Int)
  | .list items => itemsFrom 0 items
  | _ => .invalid [⟨.releaseYears, none, .notList⟩]

section
variable {α : Type} (value? : Setting → Option Value)

/-- A setting's value read, or the default where it has none. -/
def setting (s : Setting) (read : Value → Except SettingFault α) (default : α) : Checked α :=
  match value? s with
  | none => .valid default
  | some v => Checked.ofResult s (read v)

def years (default : List Int) : Checked (List Int) :=
  match value? .releaseYears with
  | none => .valid default
  | some v => yearsOf v

def check : Checked Settings :=
  Checked.valid Settings.mk
    |>.app (setting value? .milvusHost textOf "localhost")
    |>.app (setting value? .milvusPort WholeNumber.ofValue 19530)
    |>.app (setting value? .milvusToken (optional textOf) none)
    |>.app (setting value? .connectionAlias textOf "default")
    |>.app (setting value? .collectionName textOf "demo_index")
    |>.app (setting value? .csvPath textOf "films.csv")
    |>.app (setting value? .dimension positiveOf 8)
    |>.app (setting value? .segmentRowLimit WholeNumber.ofValue 4096)
    |>.app (setting value? .indexType upperTextOf "IVF_FLAT")
    |>.app (setting value? .metricType upperTextOf "L2")
    |>.app (setting value? .nlist positiveOf 100)
    |>.app (setting value? .nprobe positiveOf 8)
    |>.app (setting value? .topK positiveOf 3)
    |>.app (years value? [1995, 2002])
    |>.app (setting value? .querySeed (optional WholeNumber.ofValue) none)
    |>.app (setting value? .logLevel levelOf .info)

end

def load (src : Sources) : Except SettingsError Settings :=
  match src.unreadable? with
  | some (s, origin) => .error (.unreadable s origin)
  | none =>
    match check src.value? with
    | .valid s => .ok s
    | .invalid errors => .error (.invalid errors)

/-- The address for a client. It is asked for by a service that has written the port before. -/
def milvusUri (s : Settings) : String :=
  "http://" ++ s.milvusHost ++ ":" ++ Number.intText s.milvusPort

def value (s : Settings) : Setting → Value
  | .milvusHost => .text s.milvusHost
  | .milvusPort => .int s.milvusPort
  | .milvusToken => (s.milvusToken.map Value.text).getD .null
  | .connectionAlias => .text s.connectionAlias
  | .collectionName => .text s.collectionName
  | .csvPath => .text s.csvPath
  | .dimension => .int s.dimension
  | .segmentRowLimit => .int s.segmentRowLimit
  | .indexType => .text s.indexType
  | .metricType => .text s.metricType
  | .nlist => .int s.nlist
  | .nprobe => .int s.nprobe
  | .topK => .int s.topK
  | .releaseYears => .list (s.releaseYears.map Value.int)
  | .querySeed => (s.querySeed.map Value.int).getD .null
  | .logLevel => .text s.logLevel.name

/-- All settings with their values, under which they can be given again. -/
def toFields (s : Settings) : Fields := Setting.all.map fun k => (k.name, s.value k)

end Settings

namespace SettingsError

def originName : Sources.Origin → String
  | .environment => "EnvSettingsSource"
  | .dotEnv => "DotEnvSettingsSource"

/-- The message about an unreadable source; invalid settings have their list of errors. -/
def message : SettingsError → String
  | undecodable report => report.message
  | unreadable s origin =>
    "error parsing value for field \"" ++ s.name ++ "\" from source \"" ++ originName origin ++ "\""
  | invalid _ => ""

end SettingsError
end FilmIndex
