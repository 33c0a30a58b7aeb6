import StoryRules.CommandLine

/-!
# The program

Runs a command line in the current directory.
-/

namespace StoryRules.Program

open CommandLine

/-- What stands at a path. -/
def contentAt (path : String) : IO FileContent := do
  try
    let bytes ← IO.FS.readBinFile path
    return .bytes bytes.toList
  catch
    | .noFileOrDirectory .. => return .missing
    | _ => return .unreadable

/-- What stands at the path that the words name, if they name one. -/
def contentFor (words : List String) : IO FileContent :=
  match readWords words with
  | .command _ _ path => contentAt (plainPath path)
  | _ => return .missing

/-- The variables that settings are read from. -/
def settingNames : List String :=
  ["AVENTURA_MAX_REDIRECT_DEPTH", "AVENTURA_START_NODE", "AVENTURA_LOG_LEVEL"]

def environment : IO (Table String) :=
  settingNames.filterMapM fun name => do
    return (← IO.getEnv name).map fun value => (name, value)

end StoryRules.Program

open StoryRules StoryRules.CommandLine StoryRules.Program in
def main (words : List String) : IO UInt32 := do
  let content ← contentFor words
  let settings ← environment
  match run Pattern.language settings.get? (fun _ => content) words with
  | .ok output =>
    IO.print output.out
    IO.eprint output.err
    return output.exit.toUInt32
  | .error abort =>
    IO.eprintln abort.message
    return 1
