import FilmIndex.Settings.DotEnv
import FilmIndex.Settings.Setting
import FilmIndex.Value.Json

/-!
Where the values of settings come from: values given outright, then the
environment, then a file of environment settings. The first of them that has a
value for a setting decides.
-/

namespace FilmIndex

structure Sources where
  given : Fields := []
  environment : List (String × String) := []
  dotEnv : String := ""

namespace Sources

inductive Origin where
  | environment
  | dotEnv
  deriving DecidableEq

/-- A list of years is written as JSON, all other settings stand as they are;
`null` gives no value. Nothing is read of a text that is not JSON. -/
def ofText? (s : Setting) (text : String) : Option (Option Value) :=
  if s = .releaseYears then
    (Json.read? text).map fun v => if v.isNull then none else some v
  else some (some (.text text))

/-- The first entry whose name is a spelling of the given one. -/
def named? {α : Type} (name : String) (entries : List (String × α)) : Option α :=
  (entries.find? fun e => Setting.lowerName e.1 == name.toList).map (·.2)

def read? (s : Setting) (text? : Option String) : Option (Option Value) :=
  match text? with
  | some text => ofText? s text
  | none => some none

/-- Of several spellings of a setting's name the first one given outright counts,
and in the environment and the file the last one. -/
def given? (src : Sources) (s : Setting) : Option Value := named? s.name src.given

def environmentText? (src : Sources) (s : Setting) : Option String :=
  named? s.environmentName src.environment.reverse

def dotEnvText? (src : Sources) (s : Setting) : Option String :=
  (named? s.environmentName (DotEnv.read src.environment src.dotEnv).reverse).join

/-- The source that cannot be read, if there is one; it is noticed even where
another source decides. -/
def unreadable? (src : Sources) : Option (Setting × Origin) :=
  (Setting.all.find? fun s => (read? s (src.environmentText? s)).isNone).map (·, .environment) <|>
    (Setting.all.find? fun s => (read? s (src.dotEnvText? s)).isNone).map (·, .dotEnv)

/-- The value that decides, if any source has one. -/
def value? (src : Sources) (s : Setting) : Option Value :=
  src.given? s <|> (read? s (src.environmentText? s)).join <|>
    (read? s (src.dotEnvText? s)).join

end Sources
end FilmIndex
