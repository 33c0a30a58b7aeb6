import StoryRules.State.Snapshot

/-!
# Merging updates into a state

Updates are fields of a snapshot.  The tables are merged key by key, the visited nodes are united,
and any other field is replaced.  The merge works on the snapshot, and its result is restored like
any other.
-/

namespace StoryRules

/-- Why updates cannot be merged. -/
inductive MergeError where
  /-- A field has a value of a kind that cannot be merged. -/
  | wrongKind
  | fault (fault : Fault)
  | restore (error : RestoreError)

variable {α : Type} [Number α]

namespace Datum

mutual

/-- A copy with records as tables, at any depth. -/
def unrecord : Datum α → Datum α
  | .seq kind items => .seq kind (unrecordItems items)
  | .map fields => .map (unrecordFields fields)
  | .record _ fields => .map (unrecordFields fields)
  | d => d

def unrecordItems : List (Datum α) → List (Datum α)
  | [] => []
  | d :: rest => d.unrecord :: unrecordItems rest

def unrecordFields : List (String × Datum α) → List (String × Datum α)
  | [] => []
  | (key, d) :: rest => (key, d.unrecord) :: unrecordFields rest

end

mutual

/-- A copy with records as tables, within tables and records only: a sequence is kept as it is. -/
def opened : Datum α → Datum α
  | .map fields => .map (openedFields fields)
  | .record _ fields => .map (unrecordFields fields)
  | d => d

def openedFields : List (String × Datum α) → List (String × Datum α)
  | [] => []
  | (key, d) :: rest => (key, d.opened) :: openedFields rest

end

mutual

/-- Whether a value can be a member of a set. -/
def hashable : Datum α → Bool
  | .seq .list _ => false
  | .seq .set _ => false
  | .seq _ items => allHashable items
  | .map _ => false
  | .record _ _ => false
  | _ => true

def allHashable : List (Datum α) → Bool
  | [] => true
  | d :: rest => d.hashable && allHashable rest

end

/-- The items of a value that a set can be made of: a text gives its characters, a table its keys,
bytes their values. -/
def members? : Datum α → Option (List (Datum α))
  | .text s => some (s.toList.map fun c => .text c.toString)
  | .bytes bs => some (bs.map fun b => .whole b.toNat)
  | .seq _ items => if allHashable items then some items else none
  | .map fields => some (fields.map fun entry => .text entry.1)
  | _ => none

/-- A truth value as a number. -/
def number? : Datum α → Option α
  | .bool b => some (Number.whole (if b then 1 else 0))
  | .num x => some x
  | _ => none

def text? : Datum α → Option String
  | .text s => some s
  | _ => none

def bytes? : Datum α → Option (List UInt8)
  | .bytes bs => some bs
  | _ => none

/-- Sorts values of one kind: texts by their characters, numbers by value, bytes by value.  Values of
different kinds have no order. -/
def sorted? (items : List (Datum α)) : Option (List (Datum α)) :=
  if items.length ≤ 1 then some items
  else if items.all fun d => d.text?.isSome then
    some (items.mergeSort fun a b => !(b.text?.getD "" < a.text?.getD ""))
  else if items.all fun d => d.number?.isSome then
    some (items.mergeSort fun a b =>
      match a.number?, b.number? with
      | some x, some y => !Number.less y x
      | _, _ => true)
  else if items.all fun d => d.bytes?.isSome then
    some (items.mergeSort fun a b => !(b.bytes?.getD [] < a.bytes?.getD []))
  else none

end Datum

namespace State

/-- The fields that are merged key by key. -/
def tableFields : List String :=
  ["inventory", "currencies", "stats", "flags", "puzzles", "timers", "locked_choices"]

/-- The visited nodes of a snapshot united with those of an update, in order. -/
def uniteVisited (visited update : Datum α) : Except MergeError (Datum α) :=
  let old := match visited with
    | .seq _ items => items
    | _ => []
  match update.members? with
  | none => .error .wrongKind
  | some new => match Datum.sorted? (Datum.distinct (old ++ new)) with
    | some items => .ok (.list items)
    | none => .error .wrongKind

/-- A table of a snapshot with the entries of an update over its own. -/
def overlayTable (old update : Datum α) : Except MergeError (Datum α) :=
  match old, update.opened with
  | .map fields, .map new => .ok (.map (Table.overlay fields new))
  | _, _ => .error .wrongKind

/-- Merges one field into the fields of a snapshot. -/
def mergeField (fields : Table (Datum α)) (name : String) (update : Datum α) :
    Except MergeError (Table (Datum α)) := do
  let old := (fields.get? name).getD .null
  if name = "visited" then
    let value ← uniteVisited old update
    .ok (fields.put name value)
  else if tableFields.contains name then
    let value ← overlayTable old update
    .ok (fields.put name value)
  else .ok (fields.put name update.opened)

def mergeFields (fields : Table (Datum α)) : Table (Datum α) → Except MergeError (Table (Datum α))
  | [] => .ok fields
  | (name, update) :: rest => do
    let fields ← mergeField fields name update
    mergeFields fields rest

/-- A state with updates merged into it. -/
def merge (s : State α) (updates : Table (Datum α)) : Except MergeError (State α) :=
  match s.snapshotFields with
  | .error fault => .error (.fault fault)
  | .ok fields => do
    let merged ← mergeFields fields updates
    match restore (.map merged) with
    | .ok s => .ok s
    | .error error => .error (.restore error)

end State

end StoryRules
