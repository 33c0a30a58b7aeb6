import StoryRules.CommandLine.Arguments
import StoryRules.CommandLine.Path
import StoryRules.Config
import StoryRules.Json.Printer
import StoryRules.Story.Load
import StoryRules.Story.Metadata

/-!
# The command line

Two commands work on the file of a story: `validate` lists everything that is wrong with it, `info`
prints its metadata.  A process is a function of the words, the environment and the files, and gives
what is printed, text by text, and the exit code.  An output may not take all characters; a text with
another one is not printed, and the process ends there.
-/

namespace StoryRules.CommandLine

inductive Command where
  | validate
  | info
  deriving Repr, DecidableEq

namespace Command

def name : Command → String
  | .validate => "validate"
  | .info => "info"

def all : List Command := [.validate, .info]

def ofName? (name : String) : Option Command := all.find? fun c => c.name = name

end Command

/-! ## Texts -/

def program : String := "aventura"

def mainUsage : String :=
  "usage: aventura [-h] [--log-level LOG_LEVEL] \x7bvalidate,info\x7d ...\n"

def mainHelp : String :=
  mainUsage ++
    "\nAventura - Interactive story rules runtime\n" ++
    "\npositional arguments:\n" ++
    "  \x7bvalidate,info\x7d       Commands\n" ++
    "    validate            Validate a story file\n" ++
    "    info                Show story metadata\n" ++
    "\noptions:\n" ++
    "  -h, --help            show this help message and exit\n" ++
    "  --log-level LOG_LEVEL\n" ++
    "                        Logging level (default from AVENTURA_LOG_LEVEL)"

def Command.program (c : Command) : String := CommandLine.program ++ " " ++ c.name

def Command.usage (c : Command) : String := "usage: " ++ c.program ++ " [-h] story_file\n"

def Command.help (c : Command) : String :=
  c.usage ++
    "\npositional arguments:\n" ++
    "  story_file  Path to story JSON file\n" ++
    "\noptions:\n" ++
    "  -h, --help  show this help message and exit"

/-! ## Reading the command line -/

/-- What a command line asks for. -/
inductive Invocation where
  | help (text : String)
  /-- A wrong command line, with the usage text and the name of the program. -/
  | misuse (usage program : String) (problem : Misuse)
  | nothing (logLevel : Option String)
  | command (logLevel : Option String) (c : Command) (path : String)

def mainSwitches : Switches := [("-h", .help), ("--help", .help), ("--log-level", .logLevel)]

def commandSwitches : Switches := [("-h", .help), ("--help", .help)]

def mainMisuse (problem : Misuse) : Invocation := .misuse mainUsage program problem

/-- Reads the words behind a command's name; words that nothing asks for are refused at last. -/
def readCommand (c : Command) (logLevel : Option String) (extras words : List String) :
    Invocation :=
  let request := do
    let words ← classifyAll commandSwitches words
    fileArguments {} words
  match request with
  | .error problem => .misuse c.usage c.program problem
  | .ok .help => .help c.help
  | .ok (.run arguments) =>
    match arguments.path, extras ++ arguments.extras with
    | none, _ => .misuse c.usage c.program .fileMissing
    | some path, [] => .command logLevel c path
    | some _, extras => mainMisuse (.unrecognized extras)

def readWords (words : List String) : Invocation :=
  let request := do
    let classified ← classifyAll mainSwitches words
    mainArguments {} (words.length + 1) words classified
  match request with
  | .error problem => mainMisuse problem
  | .ok .help => .help mainHelp
  | .ok (.run arguments) =>
    match arguments.command with
    | some (name, rest) =>
      match Command.ofName? name with
      | some c => readCommand c arguments.logLevel arguments.extras rest
      | none => mainMisuse (.unknownCommand name (Command.all.map Command.name))
    | none =>
      if arguments.extras.isEmpty then .nothing arguments.logLevel
      else mainMisuse (.unrecognized arguments.extras)

/-! ## Log levels -/

/-- The least rank of the lines that a level shows. -/
def levelRanks : List (String × Nat) :=
  [("CRITICAL", 50), ("FATAL", 50), ("ERROR", 40), ("WARN", 30), ("WARNING", 30), ("INFO", 20),
   ("DEBUG", 10), ("NOTSET", 0)]

/-- A log line about loading. -/
def logText (line : LogLine) : String :=
  line.level.name ++ " aventura.story_schema.loader: " ++ line.text ++ "\n"

def shownLog (rank : Nat) (log : List LogLine) : String :=
  String.join ((log.filter fun line => rank ≤ line.level.rank).map logText)

/-! ## Running -/

/-- Why a run breaks off. -/
inductive Abort where
  | unknownLevel (name : String)
  | load (error : LoadError)
  deriving Repr, DecidableEq

def Abort.message : Abort → String
  | .unknownLevel name => "Unknown level: " ++ Text.quoted name
  | .load error => error.message

/-- What a process prints, one text after the other, and how it ends: with an exit code, or with an
error that nothing handles. -/
structure Process where
  prints : List String := []
  err : String := ""
  ends : Except Abort Nat

/-- Prints a text first. -/
def Process.after (text : String) (p : Process) : Process := { p with prints := text :: p.prints }

def listed (items : List String) : List String := items.map fun item => "  - " ++ item

/-- Reports an invalid story. -/
def refusal (path : String) (v : Verdict) : Process where
  prints := ("Invalid story: " ++ path) :: listed v.errors ++
    if v.warnings.isEmpty then [] else "\nWarnings:" :: listed v.warnings
  ends := .ok 1

/-- Reports that a story cannot be loaded; some errors break the run off. -/
def failed (path : String) (e : LoadError) : Process :=
  match e with
  | .refused v => refusal path v
  | .notJson _ (.unexpected ..) | .missing _ | .unreadable _ =>
    { prints := ["Error: " ++ e.message], ends := .ok 1 }
  | _ => { ends := .error (.load e) }

/-- What stands at the path that a word writes. -/
abbrev Files := (path : String) → FileContent

/-- The story of a file, checked only for its shape. -/
def storyAt (files : Files) (path : String) : Except LoadError (Story Amount) := do
  let plain := plainPath path
  let d ← readDocument plain (files plain)
  Story.ofDocument d

def accepted (s : Story Amount) (v : Verdict) : Process where
  prints := (if v.warnings.isEmpty then [] else "Warnings:" :: listed v.warnings) ++
    ["OK: '" ++ s.title ++ "' (" ++ toString s.nodes.length ++ " nodes)"]
  ends := .ok 0

def validate (language : PatternLanguage) (files : Files) (path : String) : Process :=
  let p := match storyAt files path with
    | .error e => failed path e
    | .ok s => match s.check language with
      | .error fault => { ends := .error (.load (.fault fault)) }
      | .ok v => if v.valid then accepted s v else refusal path v
  p.after ("Validating: " ++ path)

def metadataDocument (m : Metadata) : Datum Amount :=
  .map [("title", .text m.title), ("language", .text m.language), ("version", .text m.version),
    ("nodes", .whole m.nodes), ("assets", .whole m.assets), ("items", .whole m.items),
    ("currencies", .whole m.currencies), ("stats", .whole m.stats),
    ("puzzles", .whole m.puzzles), ("endings", .whole m.endings),
    ("puzzle_kinds", .texts m.puzzleKinds)]

def info (language : PatternLanguage) (files : Files) (rank : Nat) (path : String) : Process :=
  let plain := plainPath path
  let (story, log) := Story.loadFile language plain (files plain)
  let p : Process := match story with
    | .error e => failed path e
    | .ok s => { prints := [Json.print (some 2) (metadataDocument s.metadata)], ends := .ok 0 }
  { p with err := shownLog rank log }

/-- The rank of the level that the words or else the environment ask for. -/
def levelRank (logLevel : Option String) (config : Config) : Except Abort Nat :=
  let level := match logLevel with
    | none | some "" => config.logLevel
    | some level => level
  let name := Text.upper level
  match levelRanks.lookup name with
  | some rank => .ok rank
  | none => .error (.unknownLevel name)

def process (language : PatternLanguage) (setting? : String → Option String) (files : Files)
    (words : List String) : Process :=
  let (config, _) := Config.ofEnvironment setting?
  match readWords words with
  | .help text => { prints := [text], ends := .ok 0 }
  | .misuse usage program problem =>
    { err := usage ++ program ++ ": error: " ++ problem.message ++ "\n", ends := .ok 2 }
  | .nothing logLevel => match levelRank logLevel config with
    | .error abort => { ends := .error abort }
    | .ok _ => { prints := [mainHelp], ends := .ok 1 }
  | .command logLevel c path => match levelRank logLevel config with
    | .error abort => { ends := .error abort }
    | .ok rank => match c with
      | .validate => validate language files path
      | .info => info language files rank path

namespace Process

/-- Whether an output takes a text: all of its characters. -/
def fits (takes : Char → Bool) (text : String) : Bool := text.toList.all takes

/-- The exit code on an output that takes some characters.  An error that nothing handles ends a
process with 1, and so does a text that the output does not take. -/
def exitCode (takes : Char → Bool) (p : Process) : Nat :=
  if p.prints.all (fits takes) then
    match p.ends with
    | .ok code => code
    | .error _ => 1
  else 1

/-- What such an output shows. -/
def shown (takes : Char → Bool) (p : Process) : List String := p.prints.takeWhile (fits takes)

end Process

/-- What a process leaves that ends with an exit code. -/
structure Output where
  exit : Nat
  out : String := ""
  err : String := ""
  deriving Repr, DecidableEq

/-- A run on an output that takes all characters. -/
def run (language : PatternLanguage) (setting? : String → Option String) (files : Files)
    (words : List String) : Except Abort Output :=
  let p := process language setting? files words
  p.ends.map fun exit => { exit, out := String.join (p.prints.map fun text => text ++ "\n"), err := p.err }

end StoryRules.CommandLine
