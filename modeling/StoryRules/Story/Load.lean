import StoryRules.Json.Reader
import StoryRules.Log
import StoryRules.Validation

/-!
# Loading stories

A story is loaded from a document, from a JSON text or from the bytes of a file.  Loading is all or
nothing: a story with any error is refused, together with everything found wrong in it.
-/

namespace StoryRules

/-- Why a story cannot be loaded. -/
inductive LoadError where
  | missing (path : String)
  | unreadable (path : String)
  /-- A file holds no text. -/
  | undecodable
  /-- A text, of a file or not, is no JSON text. -/
  | notJson (path : Option String) (error : Json.ReadError)
  | refused (verdict : Verdict)
  | fault (fault : Fault)
  deriving Repr, DecidableEq

def LoadError.message : LoadError → String
  | .missing path => "Story file not found: " ++ path
  | .unreadable path => "Unable to read story file: " ++ path
  | .undecodable => "The story file is no text"
  | .notJson none error => "Invalid story JSON: " ++ error.message
  | .notJson (some path) error => "Invalid JSON in " ++ path ++ ": " ++ error.message
  | .refused verdict => verdict.message
  | .fault f => f.message

variable {α : Type} [Number α]

namespace Story

/-- The story of a document, checked only for its shape. -/
def ofDocument (d : Datum α) : Except LoadError (Story α) :=
  match read d with
  | .ok s => .ok s
  | .error e => .error (.refused e.verdict)

/-- What is logged of a story that is checked. -/
def logOf (s : Story α) (v : Verdict) : List LogLine :=
  v.warnings.map (fun w => .plain .warning ("Story '" ++ s.title ++ "': " ++ w)) ++
    if v.valid then
      [.plain .debug
        ("Loaded story '" ++ s.title ++ "' with " ++ toString s.nodes.length ++ " nodes")]
    else []

/-- Loads the story of a document, and says what is logged. -/
def load (language : PatternLanguage) (d : Datum α) :
    Except LoadError (Story α) × List LogLine :=
  match ofDocument d with
  | .error e => (.error e, [])
  | .ok s => match s.check language with
    | .error fault => (.error (.fault fault), [])
    | .ok v => (if v.valid then .ok s else .error (.refused v), s.logOf v)

/-- Loads the story of a JSON text. -/
def loadText (language : PatternLanguage) (text : String) :
    Except LoadError (Story Amount) × List LogLine :=
  match Json.read text with
  | .error e => (.error (.notJson none e), [])
  | .ok d => load language d

end Story

/-! ## Files -/

/-- What stands at a path. -/
inductive FileContent where
  | missing
  /-- Something that is no file, or cannot be read. -/
  | unreadable
  | bytes (bs : List UInt8)
  deriving Repr, DecidableEq

/-- A text with a line feed for every way to end a line. -/
def unifyNewlines : List Char → List Char
  | [] => []
  | '\r' :: '\n' :: rest => '\n' :: unifyNewlines rest
  | c :: rest => (if c = '\r' then '\n' else c) :: unifyNewlines rest

/-- Reads the JSON text of a file. -/
def readDocument (path : String) : FileContent → Except LoadError (Datum Amount)
  | .missing => .error (.missing path)
  | .unreadable => .error (.unreadable path)
  | .bytes bs =>
    match String.fromUTF8? ⟨bs.toArray⟩ with
    | none => .error .undecodable
    | some text =>
      match Json.read (String.ofList (unifyNewlines text.toList)) with
      | .ok d => .ok d
      | .error e => .error (.notJson (some path) e)

/-- Loads the story of a file. -/
def Story.loadFile (language : PatternLanguage) (path : String) (content : FileContent) :
    Except LoadError (Story Amount) × List LogLine :=
  match readDocument path content with
  | .error e => (.error e, [])
  | .ok d => Story.load language d

end StoryRules
