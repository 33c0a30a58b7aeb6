import StoryRules.Datum
import StoryRules.Fault

/-!
# Plain copies

A copy of a value that holds only what JSON texts hold: every sequence becomes a list, bytes become
the text that they encode, records become tables.  Numbers that are infinite or none stay in it;
`finitePart` takes them out.
-/

namespace StoryRules.Datum

variable {α : Type}

mutual

def plain : Datum α → Except Fault (Datum α)
  | .null => .ok .null
  | .bool b => .ok (.bool b)
  | .num x => .ok (.num x)
  | .text s => .ok (.text s)
  | .bytes bs => match String.fromUTF8? ⟨bs.toArray⟩ with
    | some s => .ok (.text s)
    | none => .error .undecodable
  | .seq _ items => do
    let items ← plainItems items
    .ok (.seq .list items)
  | .map fields => do
    let fields ← plainFields fields
    .ok (.map fields)
  | .record _ fields => do
    let fields ← plainFields fields
    .ok (.map fields)

def plainItems : List (Datum α) → Except Fault (List (Datum α))
  | [] => .ok []
  | d :: rest => do
    let d ← plain d
    let rest ← plainItems rest
    .ok (d :: rest)

def plainFields : List (String × Datum α) → Except Fault (List (String × Datum α))
  | [] => .ok []
  | (key, d) :: rest => do
    let d ← plain d
    let rest ← plainFields rest
    .ok ((key, d) :: rest)

end

/-! ## Numbers without a value -/

variable [Number α]

mutual

/-- A copy with nothing in the place of each number that is not finite. -/
def finitePart : Datum α → Datum α
  | .num x => if Number.isFinite x then .num x else .null
  | .seq kind items => .seq kind (finiteItems items)
  | .map fields => .map (finiteFields fields)
  | .record kind fields => .record kind (finiteFields fields)
  | d => d

def finiteItems : List (Datum α) → List (Datum α)
  | [] => []
  | d :: rest => d.finitePart :: finiteItems rest

def finiteFields : List (String × Datum α) → List (String × Datum α)
  | [] => []
  | (key, d) :: rest => (key, d.finitePart) :: finiteFields rest

end

end StoryRules.Datum
