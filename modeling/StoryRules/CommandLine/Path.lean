/-!
# Paths

The plain form of a path: no empty steps and none that stay where they are.  Steps up are kept.
-/

namespace StoryRules.CommandLine

/-- The steps of a path that lead somewhere. -/
def pathSteps (path : String) : List String :=
  (path.splitOn "/").filter fun step => step ≠ "" && step ≠ "."

/-- What a path starts with: nothing, one slash, or exactly two. -/
def pathRoot (path : String) : String :=
  match path.toList with
  | '/' :: '/' :: '/' :: _ => "/"
  | '/' :: '/' :: _ => "//"
  | '/' :: _ => "/"
  | _ => ""

def plainPath (path : String) : String :=
  let plain := pathRoot path ++ String.intercalate "/" (pathSteps path)
  if plain = "" then "." else plain

end StoryRules.CommandLine
