import StoryRules.Puzzle.Document
import StoryRules.Requirement.Document
import StoryRules.Story

/-!
# Stories in documents

Reading a story checks shapes only.  Missing metadata reads as empty text, so that a check of the
whole story can report it together with everything else.
-/

namespace StoryRules

variable {α : Type} [Number α]

open Reader

/-! ## Catalogs -/

def Item.document (i : Item) : Datum α :=
  .map [("id", .text i.id), ("name", .text i.name), ("type", .text i.type),
    ("stackable", .bool i.stackable), ("max_stack", Datum.ofOption .whole i.maxStack),
    ("icon", Datum.ofOption .text i.icon), ("desc", Datum.ofOption .text i.desc)]

def Item.read : Reader α Item :=
  object "ItemDef" fun fields =>
    Item.mk <$> required fields "id" text <*> required fields "name" text
      <*> optional fields "type" "misc" text <*> optional fields "stackable" true truth
      <*> optional fields "max_stack" none (nullable whole)
      <*> optional fields "icon" none (nullable text)
      <*> optional fields "desc" none (nullable text)

def Currency.document (c : Currency) : Datum α :=
  .map [("id", .text c.id), ("name", .text c.name), ("symbol", Datum.ofOption .text c.symbol)]

def Currency.read : Reader α Currency :=
  object "CurrencyDef" fun fields =>
    Currency.mk <$> required fields "id" text <*> required fields "name" text
      <*> optional fields "symbol" none (nullable text)

def Stat.document (s : Stat α) : Datum α :=
  .map [("id", .text s.id), ("name", .text s.name), ("min", .num s.min), ("max", .num s.max),
    ("start", .num s.start)]

def Stat.read : Reader α (Stat α) :=
  object "StatDef" fun fields =>
    Stat.mk <$> required fields "id" text <*> required fields "name" text
      <*> required fields "min" amount <*> required fields "max" amount
      <*> required fields "start" amount

/-! ## Nodes -/

def Choice.document (c : Choice α) : Datum α :=
  .map [("label", .text c.label), ("next_id", .text c.next),
    ("requirements", Datum.ofOption Requirement.document c.requirement),
    ("effects", .list (Effect.documents c.effects)),
    ("disabled_reason", Datum.ofOption .text c.disabledReason)]

def Choice.read : Reader α (Choice α) :=
  object "Choice" fun fields =>
    Choice.mk <$> required fields "label" text <*> required fields "next_id" text
      <*> optional fields "requirements" none (nullable Requirement.read)
      <*> optional fields "effects" [] (list Effect.read)
      <*> optional fields "disabled_reason" none (nullable text)

namespace Node

def onEnterDocument (effects : List (Effect α)) : Datum α :=
  .map [("effects", .list (Effect.documents effects))]

def readOnEnter : Reader α (List (Effect α)) :=
  object "NodeOnEnter" fun fields => optional fields "effects" [] (list Effect.read)

/-- The only type that a node can have. -/
def endingType : Table Bool := [("ending", true)]

def document (n : Node α) : Datum α :=
  .map [("id", .text n.id), ("part", .whole n.part),
    ("type", if n.isEnding then .text "ending" else .null), ("title", .text n.title),
    ("text", .text n.text), ("media", .list (n.media.map MediaRef.document)),
    ("on_enter", Datum.ofOption onEnterDocument n.onEnter),
    ("puzzle", Datum.ofOption Puzzle.document n.puzzle),
    ("choices", .list (n.choices.map Choice.document))]

def read : Reader α (Node α) :=
  object "Node" fun fields =>
    Node.mk <$> required fields "id" Reader.text <*> optional fields "part" 1 whole
      <*> (optional fields "type" none (nullable (oneOf endingType))).map Option.isSome
      <*> optional fields "title" "" Reader.text <*> optional fields "text" "" Reader.text
      <*> optional fields "media" [] (list MediaRef.read)
      <*> optional fields "on_enter" none (nullable readOnEnter)
      <*> optional fields "puzzle" none (nullable Puzzle.read)
      <*> optional fields "choices" [] (list Choice.read)

end Node

/-! ## Stories -/

namespace Story

def document (s : Story α) : Datum α :=
  .map [("title", .text s.title), ("language", .text s.language), ("version", .text s.version),
    ("assets", .list (s.assets.map MediaAsset.document)),
    ("items", .list (s.items.map Item.document)),
    ("currencies", .list (s.currencies.map Currency.document)),
    ("stats", .list (s.stats.map Stat.document)), ("nodes", .list (s.nodes.map Node.document))]

def readFields (fields : Table (Datum α)) : Checked (Story α) :=
  Story.mk <$> optional fields "title" "" text <*> optional fields "language" "" text
    <*> optional fields "version" "" text
    <*> optional fields "assets" [] (list MediaAsset.read)
    <*> optional fields "items" [] (list Item.read)
    <*> optional fields "currencies" [] (list Currency.read)
    <*> optional fields "stats" [] (list Stat.read)
    <*> optional fields "nodes" [] (list Node.read)

/-- Why a document is no story. -/
inductive ShapeError where
  | notObject
  | malformed (problems : List Problem)

def ShapeError.messages : ShapeError → List String
  | .notObject => ["Story document must be a JSON object"]
  | .malformed problems => problems.map (Problem.text "story")

/-- The story that a document describes. -/
def read : Datum α → Except ShapeError (Story α)
  | .map fields => match readFields fields with
    | .ok s => .ok s
    | .bad problems => .error (.malformed problems)
  | _ => .error .notObject

end Story

end StoryRules
