import FilmIndex.Program.CommandLine
import FilmIndex.Program.Run

/-!
The whole program: command line, settings, run. It ends with code 0 when the run
returns, and with code 1 when the settings are invalid or the run fails.
-/

namespace FilmIndex

/-- How the program ends: at once because of its command line, by a settings file that
is no text or an unreadable source of settings, or with an exit code after its work. -/
inductive Ending where
  | stopped (e : Exit)
  | undecodable (report : Text.Utf8.Report)
  | unreadable (s : Setting) (origin : Sources.Origin)
  | finished (code : Nat)
  deriving DecidableEq

/-- The text of the settings file, if it is one. -/
def Surroundings.dotEnvText (around : Surroundings) : Except Text.Utf8.Report String :=
  Text.Utf8.decode around.dotEnv

namespace Program

/-- The sources of the settings; of a settings file that is no text nothing is read. -/
def sources (given : CommandLine.Given) (around : Surroundings) : Sources :=
  { given := given.map fun p => (p.1.name, p.2), environment := around.environment,
    dotEnv := around.dotEnvText.toOption.getD "" }

/-- The run, whose failure is logged. -/
def work (s : Settings) (around : Surroundings) (start : Session) : Nat × Session :=
  match Run.run s around start with
  | (.ok _, done) => (0, done)
  | (.error e, done) => (1, { done with events := done.events ++ [.failed e] })

/-- The level from which on events are logged; invalid settings give none. -/
def thresholdOf (loaded : Except SettingsError Settings) : LogLevel :=
  match loaded with
  | .ok s => s.logLevel
  | .error _ => .warning

def load (given : CommandLine.Given) (around : Surroundings) : Except SettingsError Settings :=
  match around.dotEnvText with
  | .error report => .error (.undecodable report)
  | .ok _ => Settings.load (sources given around)

def start (given : CommandLine.Given) (around : Surroundings) (before : Session) : Ending × Session :=
  match load given around with
  | .error (.undecodable report) => (.undecodable report, before)
  | .error (.unreadable s origin) => (.unreadable s origin, before)
  | .error (.invalid errors) =>
    (.finished 1, { before with events := before.events ++ [.invalidSettings errors] })
  | .ok s =>
    let (code, after) := work s around before
    (.finished code, after)

/-- The program on a command line, with the events that its log level lets through. -/
def run (words : List String) (around : Surroundings) (before : Session) : Ending × Session :=
  match CommandLine.parse words with
  | .error e => (.stopped e, before)
  | .ok given =>
    let threshold := thresholdOf (load given around)
    let (ending, after) := start given around before
    (ending, { after with events := after.events.filter (Event.loggedAt threshold) })

end Program
end FilmIndex
