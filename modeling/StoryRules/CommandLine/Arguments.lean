import StoryRules.Text.Digit
import StoryRules.Text.Quoted

/-!
# Arguments

The words of a command line are switches, values of switches, the name of a command and what belongs
to the command.  Long switches may be shortened as long as they are not ambiguous, a value may follow
behind an equals sign, and behind a double dash nothing is a switch.
-/

namespace StoryRules.CommandLine

/-- What a switch does. -/
inductive Action where
  | help
  | logLevel
  deriving Repr, DecidableEq

/-- The names of an action's switches in messages. -/
def Action.names : Action → String
  | .help => "-h/--help"
  | .logLevel => "--log-level"

/-- What is wrong with a command line. -/
inductive Misuse where
  | ambiguous (word : String) (candidates : List String)
  /-- A switch without value has one. -/
  | valueIgnored (action : Action) (value : String)
  | valueMissing (action : Action)
  | unknownCommand (word : String) (commands : List String)
  | fileMissing
  | unrecognized (words : List String)
  deriving Repr, DecidableEq

def Misuse.message : Misuse → String
  | .ambiguous word candidates =>
    "ambiguous option: " ++ word ++ " could match " ++ String.intercalate ", " candidates
  | .valueIgnored action value =>
    "argument " ++ action.names ++ ": ignored explicit argument " ++ Text.quoted value
  | .valueMissing action => "argument " ++ action.names ++ ": expected one argument"
  | .unknownCommand word commands =>
    "argument command: invalid choice: " ++ Text.quoted word ++ " (choose from " ++
      String.intercalate ", " (commands.map Text.quoted) ++ ")"
  | .fileMissing => "the following arguments are required: story_file"
  | .unrecognized words => "unrecognized arguments: " ++ String.intercalate " " words

/-! ## Words -/

/-- A value written into the word of its switch, behind an equals sign or not. -/
structure Attached where
  equals : Bool
  value : String
  deriving Repr, DecidableEq

inductive Word where
  | argument (text : String)
  /-- The double dash. -/
  | separator
  | switch (action : Action) (name : String) (attached : Option Attached)
  | unknownSwitch (text : String)
  deriving Repr, DecidableEq

def Word.isSwitch : Word → Bool
  | .switch .. | .unknownSwitch _ => true
  | _ => false

/-- The switches of a command line, by name. -/
abbrev Switches := List (String × Action)

/-- The part before the first equals sign, and the part behind it if there is one. -/
def splitEquals (word : String) : String × Option String :=
  let cs := word.toList
  let before := String.ofList (cs.takeWhile (· ≠ '='))
  match cs.dropWhile (· ≠ '=') with
  | [] => (before, none)
  | _ :: value => (before, some (String.ofList value))

/-- Whether a word is a negative number, which is no switch. -/
def isNegative (word : String) : Bool :=
  match word.toList with
  | '-' :: cs =>
    let isDigit := fun c => (Text.digitValue? c).isSome
    match cs.dropWhile isDigit with
    | [] => !cs.isEmpty
    | '.' :: fraction => !fraction.isEmpty && fraction.all isDigit
    | _ => false
  | _ => false

/-- The switches that a word may be meant for. -/
def candidates (switches : Switches) (word : String) : List (String × Word) :=
  match word.toList with
  | '-' :: '-' :: _ =>
    let (start, value) := splitEquals word
    (switches.filter fun s => start.toList.isPrefixOf s.1.toList).map fun s =>
      (s.1, .switch s.2 s.1 (value.map (Attached.mk true)))
  | '-' :: c :: value =>
    (switches.filter fun s => s.1.toList = ['-', c]).map fun s =>
      (s.1, .switch s.2 s.1 (some ⟨false, String.ofList value⟩))
  | _ => []

/-- The switch that a word names in full, with a value behind an equals sign or without. -/
def exactSwitch? (switches : Switches) (word : String) : Option Word :=
  match switches.lookup word, splitEquals word with
  | some action, _ => some (.switch action word none)
  | none, (name, some value) =>
    (switches.lookup name).map fun action => .switch action name (some ⟨true, value⟩)
  | none, (_, none) => none

def classify (switches : Switches) (word : String) : Except Misuse Word :=
  if word = "-" || word.toList.head? ≠ some '-' then .ok (.argument word)
  else match exactSwitch? switches word with
    | some switch => .ok switch
    | none => match candidates switches word with
      | [(_, switch)] => .ok switch
      | [] =>
        if isNegative word || word.contains ' ' then .ok (.argument word)
        else .ok (.unknownSwitch word)
      | several => .error (.ambiguous word (several.map Prod.fst))

/-- All words; those behind a double dash are arguments. -/
def classifyAll (switches : Switches) : List String → Except Misuse (List Word)
  | [] => .ok []
  | word :: rest =>
    if word = "--" then .ok (.separator :: rest.map .argument)
    else do
      let w ← classify switches word
      let ws ← classifyAll switches rest
      .ok (w :: ws)

/-- A switch without value is taken if it has none.  Behind a short switch other short ones may be
attached, of which at least the first counts. -/
def checkBare (action : Action) : (name : String) → List Char → (equals : Bool) → Except Misuse Unit
  | _, [], equals =>
    if equals then .error (.valueIgnored action "") else .ok ()
  | name, c :: rest, equals =>
    if equals || c = '-' || name.length ≠ 2 then
      .error (.valueIgnored action (String.ofList (c :: rest)))
    else if c ≠ 'h' then .ok ()
    else match rest with
      | '=' :: value => .error (.valueIgnored action (String.ofList value))
      | rest => checkBare action name rest false

/-! ## Command lines -/

/-- What is asked for. -/
inductive Request (β : Type) where
  | help
  | run (b : β)

/-- The value of a switch and the words behind it. -/
def takeValue (action : Action) (attached : Option Attached) (words : List Word) :
    Except Misuse (String × List Word) :=
  match attached, words with
  | some a, _ => .ok (a.value, words)
  | none, .argument value :: rest => .ok (value, rest)
  | none, _ => .error (.valueMissing action)

def checkHelp (name : String) : Option Attached → Except Misuse Unit
  | none => .ok ()
  | some a => checkBare .help name a.value.toList a.equals

/-- What follows a command: the path of a file, and words that nothing asks for. -/
structure FileArguments where
  path : Option String := none
  extras : List String := []

/-- The words of a command that takes one file. -/
def fileArguments (state : FileArguments) : List Word → Except Misuse (Request FileArguments)
  | [] => .ok (.run state)
  | .switch _ name attached :: _ => do
    checkHelp name attached
    .ok .help
  | .unknownSwitch text :: rest =>
    fileArguments { state with extras := state.extras ++ [text] } rest
  | .argument text :: .separator :: rest =>
    if state.path.isNone then fileArguments { state with path := some text } rest
    else fileArguments { state with extras := state.extras ++ [text, "--"] } rest
  | .argument text :: rest =>
    if state.path.isNone then fileArguments { state with path := some text } rest
    else fileArguments { state with extras := state.extras ++ [text] } rest
  | .separator :: .argument text :: rest =>
    if state.path.isNone then fileArguments { state with path := some text } rest
    else fileArguments { state with extras := state.extras ++ ["--", text] } rest
  | .separator :: rest => fileArguments { state with extras := state.extras ++ ["--"] } rest

/-- What stands before a command, the command's name and the words behind it. -/
structure MainArguments where
  logLevel : Option String := none
  extras : List String := []
  command : Option (String × List String) := none

/-- The words before and from the command on; `texts` are the same words as they were written. -/
def mainArguments (state : MainArguments) :
    (fuel : Nat) → (texts : List String) → List Word → Except Misuse (Request MainArguments)
  | 0, _, _ => .ok (.run state)
  | _ + 1, _, [] => .ok (.run state)
  | fuel + 1, texts, word :: rest =>
    match word with
    | .switch .help name attached => do
      checkHelp name attached
      .ok .help
    | .switch .logLevel _ attached => do
      let (value, left) ← takeValue .logLevel attached rest
      mainArguments { state with logLevel := some value } fuel
        (texts.drop (texts.length - left.length)) left
    | .unknownSwitch text =>
      mainArguments { state with extras := state.extras ++ [text] } fuel (texts.drop 1) rest
    | .separator =>
      if rest.isEmpty then .ok (.run { state with extras := state.extras ++ ["--"] })
      else .ok (.run { state with command := some ("--", texts.drop 1) })
    | .argument text => .ok (.run { state with command := some (text, texts.drop 1) })

end StoryRules.CommandLine
