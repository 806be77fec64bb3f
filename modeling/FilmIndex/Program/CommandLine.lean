import FilmIndex.Keyed
import FilmIndex.Number.Reading
import FilmIndex.Settings.Setting
import FilmIndex.Text.Quoted
import FilmIndex.Value.Basic

/-!
The command line. Each option but the one for help sets a setting and takes one
argument, as the next word or after an equals sign. A long option may be cut
short as long as no other begins the same way. All words are sorted into options
and arguments first; then the options are taken from left to right.
-/

namespace FilmIndex

/-- How the program ends at once: its exit code, and what it writes. -/
structure Exit where
  code : Nat
  out : String := ""
  err : String := ""
  deriving DecidableEq

namespace CommandLine
open Text

def program : String := "milvus_index_demo.py"

/-- An option; the one without a setting asks for help. -/
structure Flag where
  names : List String
  setting? : Option Setting := none
  isNumber : Bool := false

def flags : List Flag :=
  [⟨["-h", "--help"], none, false⟩, ⟨["--csv"], some .csvPath, false⟩,
    ⟨["--host"], some .milvusHost, false⟩, ⟨["--port"], some .milvusPort, true⟩,
    ⟨["--collection"], some .collectionName, false⟩, ⟨["--top-k"], some .topK, true⟩,
    ⟨["--seed"], some .querySeed, true⟩, ⟨["--log-level"], some .logLevel, false⟩]

def usage : String :=
  "usage: milvus_index_demo.py [-h] [--csv CSV_PATH] [--host MILVUS_HOST]\n" ++
  "                            [--port MILVUS_PORT]\n" ++
  "                            [--collection COLLECTION_NAME] [--top-k TOP_K]\n" ++
  "                            [--seed QUERY_SEED] [--log-level LOG_LEVEL]\n"

def help : String :=
  usage ++
  "\n" ++
  "Build and search an IVF index over films in Milvus.\n" ++
  "\n" ++
  "options:\n" ++
  "  -h, --help            show this help message and exit\n" ++
  "  --csv CSV_PATH        Path to films.csv\n" ++
  "  --host MILVUS_HOST    Milvus host\n" ++
  "  --port MILVUS_PORT    Milvus port\n" ++
  "  --collection COLLECTION_NAME\n" ++
  "                        Collection name\n" ++
  "  --top-k TOP_K         Number of neighbours to return\n" ++
  "  --seed QUERY_SEED     Seed for the random query vector\n" ++
  "  --log-level LOG_LEVEL\n" ++
  "                        Logging level\n"

inductive Error where
  | ambiguous (word : String) (names : List String)
  | noArgument (flag : String)
  | needlessArgument (flag argument : String)
  | badNumber (flag argument : String)
  | unrecognized (words : List String)
  deriving DecidableEq

def Error.message : Error → String
  | ambiguous word names =>
    "ambiguous option: " ++ word ++ " could match " ++ ", ".intercalate names
  | noArgument flag => "argument " ++ flag ++ ": expected one argument"
  | needlessArgument flag argument =>
    "argument " ++ flag ++ ": ignored explicit argument " ++ quoted argument
  | badNumber flag argument =>
    "argument " ++ flag ++ ": invalid int value: " ++ quoted argument
  | unrecognized words => "unrecognized arguments: " ++ " ".intercalate words

def Error.exit (e : Error) : Exit :=
  ⟨2, "", usage ++ program ++ ": error: " ++ e.message ++ "\n"⟩

/-- A word of the command line: an option that was found, perhaps with its argument
in the same word, an option that is not known, or an argument. -/
inductive Word where
  | flag (f : Flag) (long : Bool) (argument? : Option (List Char))
  | unknown (word : String)
  | argument (word : String)
  | separator (word : String)

/-- Two parts of a word around its first equals sign. -/
def splitEquals (cs : List Char) : List Char × Option (List Char) :=
  match cs.dropWhile (· != '=') with
  | _ :: rest => (cs.takeWhile (· != '='), some rest)
  | [] => (cs, none)

/-- All names of options, each with its option. -/
def names : List (String × Flag) := flags.flatMap fun f => f.names.map fun n => (n, f)

def named? (name : List Char) : Option Flag :=
  (names.find? fun p => p.1.toList == name).map (·.2)

def isLong (name : List Char) : Bool :=
  match name with
  | '-' :: '-' :: _ => true
  | _ => false

/-- What a word that is no whole name of an option may stand for. -/
def candidates (cs : List Char) : List (String × Word) :=
  if isLong cs then
    let (start, argument?) := splitEquals cs
    (names.filter fun p => start.isPrefixOf p.1.toList).map fun p =>
      (p.1, .flag p.2 true argument?)
  else
    (names.filter fun p => p.1.toList == cs.take 2).map fun p =>
      (p.1, .flag p.2 false (some (cs.drop 2)))

/-- A minus sign and a number; a line feed may follow. -/
def isNegativeNumber (cs : List Char) : Bool :=
  let isDigit := fun c : Char => (digitValue? c).isSome
  let ends := fun rest : List Char => rest == [] || rest == ['\n']
  match cs with
  | '-' :: body =>
    match body.dropWhile isDigit with
    | '.' :: fraction =>
      fraction.head?.any isDigit && ends (fraction.dropWhile isDigit)
    | rest => body.head?.any isDigit && ends rest
  | _ => false

def sortWord (word : String) : Except Error Word :=
  let cs := word.toList
  if cs.head? ≠ some '-' then .ok (.argument word)
  else
    match named? cs with
    | some f => .ok (.flag f (isLong cs) none)
    | none =>
      if cs.length = 1 then .ok (.argument word)
      else
        let (name, argument?) := splitEquals cs
        match argument?.bind fun a => (named? name).map fun f => Word.flag f (isLong name) (some a) with
        | some w => .ok w
        | none =>
          match candidates cs with
          | [(_, w)] => .ok w
          | [] =>
            if isNegativeNumber cs || cs.contains ' ' then .ok (.argument word)
            else .ok (.unknown word)
          | several => .error (.ambiguous word (several.map (·.1)))

/-- Every word sorted; after two minus signs all words are arguments. -/
def sortWords : List String → Except Error (List Word)
  | [] => .ok []
  | word :: rest =>
    if word = "--" then .ok (.separator word :: rest.map .argument)
    else
      match sortWord word with
      | .error e => .error e
      | .ok w => (sortWords rest).map (w :: ·)

/-- The settings given by options; a later option of a setting counts. -/
abbrev Given := List (Setting × Value)

def flagName (f : Flag) : String := "/".intercalate f.names

/-- The value of an argument. Two minus signs in the option's own word are no
argument, and leave an empty list. -/
def argumentValue (f : Flag) (joined : Bool) (argument : String) : Except Error Value :=
  if joined && argument == "--" then .ok (.list [])
  else if f.isNumber then
    match Number.integer? argument with
    | some n => .ok (.int n)
    | none => .error (.badNumber (flagName f) argument)
  else .ok (.text argument)

/-- The end of a command line that asks for help. Further letters in the same
word must ask for help too. -/
def helpEnd (f : Flag) (long : Bool) (argument? : Option (List Char)) : Exit :=
  let needless := fun cs : List Char => (Error.needlessArgument (flagName f) (String.ofList cs)).exit
  match argument? with
  | none => ⟨0, help, ""⟩
  | some cs =>
    if long || cs.isEmpty then needless cs
    else
      match cs.dropWhile (· == 'h') with
      | [] => ⟨0, help, ""⟩
      | rest => needless rest

/-- A setting given by an option's argument. -/
def give (f : Flag) (s : Setting) (joined : Bool) (argument : String) (given : Given) :
    Except Exit Given :=
  match argumentValue f joined argument with
  | .error e => .error e.exit
  | .ok v => .ok (Keyed.put s v given)

/-- The words taken one by one; `extra`, reversed, are those that no option takes. -/
def takeWords (given : Given) (extra : List String) : List Word → Except Exit Given
  | [] => if extra.isEmpty then .ok given else .error (Error.unrecognized extra.reverse).exit
  | .unknown w :: rest => takeWords given (w :: extra) rest
  | .argument w :: rest => takeWords given (w :: extra) rest
  | .separator w :: rest => takeWords given (w :: extra) rest
  | .flag f long (some a) :: rest =>
    match f.setting? with
    | none => .error (helpEnd f long (some a))
    | some s =>
      match give f s true (String.ofList a) given with
      | .error e => .error e
      | .ok given => takeWords given extra rest
  | .flag f long none :: .argument w :: rest =>
    match f.setting? with
    | none => .error (helpEnd f long none)
    | some s =>
      match give f s false w given with
      | .error e => .error e
      | .ok given => takeWords given extra rest
  | .flag f long none :: _ =>
    match f.setting? with
    | none => .error (helpEnd f long none)
    | some _ => .error (Error.noArgument (flagName f)).exit

def parse (words : List String) : Except Exit Given :=
  match sortWords words with
  | .error e => .error e.exit
  | .ok ws => takeWords [] [] ws

/-- The settings that options can give, in the order of the options. -/
def settings : List Setting := flags.filterMap (·.setting?)

end CommandLine
end FilmIndex
