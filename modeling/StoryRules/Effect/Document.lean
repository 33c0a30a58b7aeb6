import StoryRules.Effect
import StoryRules.Schema.Reader

/-!
# Effects in documents

`document` writes an effect as an object tagged by `op`, and `read` takes such objects back.
-/

namespace StoryRules.Effect

variable {α : Type} [Number α]

/-! ## Writing -/

/-- An object with its tag in front. -/
def tagged (op : String) (fields : Table (Datum α)) : Datum α :=
  .map (("op", .text op) :: fields)

mutual

def document : Effect α → Datum α
  | .addItem item quantity =>
    tagged "add_item" [("item_id", .text item), ("qty", .whole quantity)]
  | .removeItem item quantity =>
    tagged "remove_item" [("item_id", .text item), ("qty", .whole quantity)]
  | .addCurrency currency value =>
    tagged "add_currency" [("currency_id", .text currency), ("value", .num value)]
  | .addStat stat value => tagged "add_stat" [("stat_id", .text stat), ("value", .num value)]
  | .setFlag flag value => tagged "set_flag" [("flag", .text flag), ("value", .bool value)]
  | .log message => tagged "log" [("message", .text message)]
  | .goto target => tagged "goto" [("next_id", .text target)]
  | .unlockChoice node index =>
    tagged "unlock_choice" [("node_id", .text node), ("choice_index", .whole index)]
  | .lockChoice node index =>
    tagged "lock_choice" [("node_id", .text node), ("choice_index", .whole index)]
  | .setTimer timer duration =>
    tagged "set_timer" [("timer_flag", .text timer), ("expires_in_ms", .whole duration)]
  | .lootTable table => tagged "loot_table" [("table", .list (entryDocuments table))]

def documents : List (Effect α) → List (Datum α)
  | [] => []
  | e :: rest => document e :: documents rest

def entryDocuments : List (Weighted α (List (Effect α))) → List (Datum α)
  | [] => []
  | ⟨weight, effects⟩ :: rest =>
    .map [("weight", .num weight), ("effects", .list (documents effects))] :: entryDocuments rest

end

/-! ## Reading -/

open Reader

/-- One entry of a loot table. -/
def readEntry (nested : Reader α (Effect α)) : Reader α (LootEntry α) :=
  object "LootEntry" fun fields =>
    Weighted.mk <$> required fields "weight" amount <*> optional fields "effects" [] (list nested)

/-- The fields of the operation called `op`, with `nested` for effects inside it. -/
def readFields (nested : Reader α (Effect α)) (op : String) (fields : Table (Datum α)) :
    Option (Checked (Effect α)) :=
  match op with
  | "add_item" =>
    some (addItem <$> required fields "item_id" text <*> required fields "qty" whole)
  | "remove_item" =>
    some (removeItem <$> required fields "item_id" text <*> required fields "qty" whole)
  | "add_currency" =>
    some (addCurrency <$> required fields "currency_id" text <*> required fields "value" amount)
  | "add_stat" =>
    some (addStat <$> required fields "stat_id" text <*> required fields "value" amount)
  | "set_flag" =>
    some (setFlag <$> required fields "flag" text <*> required fields "value" truth)
  | "log" => some (log <$> optional fields "message" "" text)
  | "goto" => some (goto <$> required fields "next_id" text)
  | "unlock_choice" =>
    some (unlockChoice <$> required fields "node_id" text <*> required fields "choice_index" whole)
  | "lock_choice" =>
    some (lockChoice <$> required fields "node_id" text <*> required fields "choice_index" whole)
  | "set_timer" =>
    some (setTimer <$> required fields "timer_flag" text <*>
      required fields "expires_in_ms" whole)
  | "loot_table" =>
    some (lootTable <$> optional fields "table" [] (list (readEntry nested)))
  | _ => none

/-- Reads an effect whose containers are nested at most `depth` deep. -/
def readAt : (depth : Nat) → Reader α (Effect α)
  | 0, _ => .fail .noTagSource
  | depth + 1, .map fields =>
    match Table.get? fields "op" with
    | none => .fail (.tagMissing "'op'")
    | some tag =>
      let known := match tag with
        | .text op => (readFields (readAt depth) op fields).map (Checked.under (.field op))
        | _ => none
      known.getD (.fail (.tagUnknown tag.display "'op'" ops))
  | _ + 1, _ => .fail .noTagSource

def read : Reader α (Effect α) := fun d => readAt d.depth d

/-- Reads values in order up to the first one that does not fit. -/
def readFirstBad {β : Type} (read : Datum α → Checked β) : List (Datum α) → Checked (List β)
  | [] => .ok []
  | d :: rest => (read d).bind fun b => (readFirstBad read rest).map (b :: ·)

/-! ## Arguments -/

/-- The names of the arguments of an operation, each with its default. -/
def parameters : Table (List (String × Option (Datum α))) :=
  [("add_item", [("item_id", none), ("qty", some (.whole 1))]),
   ("remove_item", [("item_id", none), ("qty", some (.whole 1))]),
   ("add_stat", [("stat_id", none), ("value", none)]),
   ("goto", [("next_id", none)])]

/-- Gives names to positional arguments; what is left out takes its default. -/
def nameArguments : List (String × Option (Datum α)) → List (Datum α) → Table (Datum α)
  | (name, _) :: rest, d :: args => (name, d) :: nameArguments rest args
  | (name, some d) :: rest, [] => (name, d) :: nameArguments rest []
  | _, _ => []

/-- The weight and the effects of one argument of a loot table. -/
def entryParts : Datum α → Datum α × Datum α
  | .seq _ (weight :: effects :: _) => (weight, effects)
  | d => (d, .list [])

/-- A loot table from pairs of a weight and a list of effects.  All effects are read before the
first weight. -/
def readEntryPairs (args : List (Datum α)) : Checked (Effect α) :=
  let bundles := readFirstBad (fun d => match (entryParts d).2 with
    | .seq _ items => readFirstBad read items
    | _ => .fail .notList) args
  bundles.bind fun bundles =>
    let weights := readFirstBad (fun d => (amount (entryParts d).1).under (.field "weight")) args
    weights.map fun weights => lootTable (List.zipWith Weighted.mk weights bundles)

/-- The effect that an operation's name and positional arguments describe. -/
def ofArguments? (op : String) (args : List (Datum α)) : Option (Checked (Effect α)) :=
  if op = "loot_table" then some (readEntryPairs args)
  else (Table.get? parameters op).bind fun parameters =>
    readFields read op (nameArguments parameters args)

end StoryRules.Effect
