import FilmIndex.Program.Basic

/-!
The program itself. It works on a server in memory, reads the settings file of
the current directory, prints to standard output and logs to standard error.
-/

namespace FilmIndex
namespace Main

def environment : IO (List (String × String)) := do
  let mut found := []
  for s in Setting.all do
    let name := s.environmentName
    for spelling in [name, Text.upper name] do
      if let some value ← IO.getEnv spelling then
        found := found ++ [(spelling, value)]
  return found

def settingsFile : IO ByteArray := do
  try IO.FS.readBinFile ".env"
  catch _ => return ByteArray.empty

def diskError : IO.Error → DiskError
  | .inappropriateType _ 20 _ => .notDirectory
  | .inappropriateType .. => .isDirectory
  | _ => .notFound

def openFile (path : String) : IO (Except DiskError ByteArray) := do
  try return .ok (← IO.FS.readBinFile path)
  catch e => return .error (diskError e)

/-- The one film file that the settings name, if they are valid. -/
def files (words : List String) (vars : List (String × String)) (dotEnv : ByteArray) :
    IO Files := do
  let given := (CommandLine.parse words).toOption.getD []
  let noFiles : Files := fun _ => .error .notFound
  match Program.load given { environment := vars, dotEnv, files := noFiles } with
  | .error _ => return noFiles
  | .ok s =>
    let content ← openFile s.csvPath
    return fun path => if path == s.csvPath then content else .error .notFound

def logLine (e : Event) : String :=
  let detail := match e with
    | .invalidSettings errors =>
      String.join (errors.map fun err => "\n" ++ err.setting.name ++ ": " ++ err.fault.message)
    | .failed failure => "\n" ++ failure.message
    | _ => ""
  e.level.name ++ " " ++ e.source ++ ": " ++ e.message ++ detail

def report (ending : Ending) (s : Session) : IO UInt32 := do
  IO.print s.printed
  for e in s.events do IO.eprintln (logLine e)
  match ending with
  | .stopped e =>
    IO.print e.out
    IO.eprint e.err
    return UInt32.ofNat e.code
  | .undecodable report =>
    IO.eprintln report.message
    return 1
  | .unreadable setting origin =>
    IO.eprintln (SettingsError.unreadable setting origin).message
    return 1
  | .finished code => return UInt32.ofNat code

def run (words : List String) : IO UInt32 := do
  let vars ← environment
  let dotEnv ← settingsFile
  let opened ← files words vars dotEnv
  let entropy ← IO.rand 0 0x3FFFFFFFFFFFFFFF
  let around : Surroundings := { environment := vars, dotEnv, files := opened, entropy }
  let (ending, s) := Program.run words around {}
  report ending s

end Main
end FilmIndex

def main (words : List String) : IO UInt32 := FilmIndex.Main.run words
