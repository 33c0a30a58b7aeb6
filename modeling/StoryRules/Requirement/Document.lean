import StoryRules.Requirement
import StoryRules.Schema.Reader

/-!
# Requirements in documents

A composite is an object with one of the fields `all_of`, `any_of` and `not` (also written `not_`);
any other object is a condition tagged by `op`.  Where several of these fields are present the first
of that list decides, and the others are not read.
-/

namespace StoryRules

variable {α : Type} [Number α]

/-! ## Writing -/

def Condition.document (c : Condition α) : Datum α :=
  let text := fun s : Option String => Datum.ofOption (α := α) .text s
  let whole := fun n : Option Int => Datum.ofOption (α := α) .whole n
  let amount := fun x : Option α => Datum.ofOption .num x
  let fields : Table (Datum α) := match c with
    | .hasItem item quantity => [("item_id", text item), ("qty", whole quantity)]
    | .inventoryLt item quantity => [("item_id", text item), ("qty", whole quantity)]
    | .currencyGte currency value => [("currency_id", text currency), ("value", amount value)]
    | .currencyLt currency value => [("currency_id", text currency), ("value", amount value)]
    | .statGte stat value => [("stat_id", text stat), ("value", amount value)]
    | .statBetween stat low high => [("stat_id", text stat), ("min", amount low), ("max", amount high)]
    | .flagIs flag value => [("flag", text flag), ("value", Datum.ofOption .bool value)]
    | .puzzleSolved puzzle => [("puzzle_id", text puzzle)]
    | .visitedNode node => [("node_id", text node)]
  .map (("op", .text c.op) :: fields)

namespace Requirement

mutual

def document : Requirement α → Datum α
  | .allOf parts => .map [("all_of", .list (documents parts))]
  | .anyOf parts => .map [("any_of", .list (documents parts))]
  | .not part => .map [("not_", document part)]
  | .condition c => c.document

def documents : List (Requirement α) → List (Datum α)
  | [] => []
  | part :: rest => document part :: documents rest

end

end Requirement

/-! ## Reading -/

open Reader

/-- The fields of the test called `op`. -/
def Condition.readFields (op : String) (fields : Table (Datum α)) :
    Option (Checked (Condition α)) :=
  let text? := fun name => optional fields name none (nullable text)
  let whole? := fun name => optional fields name none (nullable whole)
  let amount? := fun name => optional fields name none (nullable amount)
  match op with
  | "has_item" => some (hasItem <$> text? "item_id" <*> whole? "qty")
  | "inventory_lt" => some (inventoryLt <$> text? "item_id" <*> whole? "qty")
  | "currency_gte" => some (currencyGte <$> text? "currency_id" <*> amount? "value")
  | "currency_lt" => some (currencyLt <$> text? "currency_id" <*> amount? "value")
  | "stat_gte" => some (statGte <$> text? "stat_id" <*> amount? "value")
  | "stat_between" =>
    some (statBetween <$> text? "stat_id" <*> amount? "min" <*> amount? "max")
  | "flag_is" =>
    some (flagIs <$> text? "flag" <*> optional fields "value" none (nullable truth))
  | "puzzle_solved" => some (puzzleSolved <$> text? "puzzle_id")
  | "visited_node" => some (visitedNode <$> text? "node_id")
  | _ => none

namespace Requirement

/-- The names of all forms. -/
def forms : List String := ["all_of", "any_of", "not"] ++ Condition.ops

/-- The form of an object, if it says one. -/
def form? (fields : Table (Datum α)) : Option (Datum α) :=
  if fields.has "all_of" then some (.text "all_of")
  else if fields.has "any_of" then some (.text "any_of")
  else if fields.has "not" || fields.has "not_" then some (.text "not")
  else match fields.get? "op" with
    | some .null => none
    | op => op

/-- The fields of the form called `form`, with `nested` for expressions inside it. -/
def readFields (nested : Reader α (Requirement α)) (form : String) (fields : Table (Datum α)) :
    Option (Checked (Requirement α)) :=
  match form with
  | "all_of" => some (allOf <$> optional fields "all_of" [] (list nested))
  | "any_of" => some (anyOf <$> optional fields "any_of" [] (list nested))
  | "not" =>
    some (not <$> required fields
      (if fields.has "not_" && !fields.has "not" then "not_" else "not") nested)
  | op => (Condition.readFields op fields).map fun c => condition <$> c

/-- Where the form of an expression is taken from. -/
def formSource : String := "_requirement_tag()"

/-- Reads an expression whose containers are nested at most `depth` deep. -/
def readAt : (depth : Nat) → Reader α (Requirement α)
  | 0, _ => .fail (.tagMissing formSource)
  | depth + 1, .map fields =>
    match form? fields with
    | none => .fail (.tagMissing formSource)
    | some tag =>
      let known := match tag with
        | .text form => (readFields (readAt depth) form fields).map (Checked.under (.field form))
        | _ => none
      known.getD (.fail (.tagUnknown tag.display formSource forms))
  | _ + 1, _ => .fail (.tagMissing formSource)

def read : Reader α (Requirement α) := fun d => readAt d.depth d

end Requirement

end StoryRules
