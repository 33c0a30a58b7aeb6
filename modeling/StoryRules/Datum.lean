import StoryRules.Number
import StoryRules.Table

/-!
# Plain data

The values that documents, snapshots and answers are made of.  Besides what JSON texts hold there
are bytes, several kinds of sequences, and records of progress and timers.
-/

namespace StoryRules

inductive SeqKind where
  | list
  | tuple
  | set
  | frozenSet
  deriving Repr, DecidableEq

def SeqKind.isSet : SeqKind → Bool
  | .set | .frozenSet => true
  | .list | .tuple => false

/-- The records of a snapshot that may stand for themselves. -/
inductive RecordKind where
  | progress
  | timer
  deriving Repr, DecidableEq

inductive Datum (α : Type) where
  | null
  | bool (b : Bool)
  | num (x : α)
  | text (s : String)
  | bytes (bs : List UInt8)
  | seq (kind : SeqKind) (items : List (Datum α))
  | map (fields : List (String × Datum α))
  | record (kind : RecordKind) (fields : List (String × Datum α))

namespace Datum

variable {α : Type}

instance : Inhabited (Datum α) := ⟨.null⟩

def list (items : List (Datum α)) : Datum α := .seq .list items

def whole [Number α] (n : Int) : Datum α := .num (Number.whole n)

/-- A value, or null where there is none. -/
def ofOption {β : Type} (f : β → Datum α) : Option β → Datum α
  | none => .null
  | some b => f b

def texts (ss : List String) : Datum α := .list (ss.map .text)

/-! ## Depth -/

mutual

/-- How deep containers are nested: zero for a value that holds no other. -/
def depth : Datum α → Nat
  | .seq _ items => depthOfList items + 1
  | .map fields => depthOfFields fields + 1
  | .record _ fields => depthOfFields fields + 1
  | _ => 0

def depthOfList : List (Datum α) → Nat
  | [] => 0
  | d :: rest => max d.depth (depthOfList rest)

def depthOfFields : List (String × Datum α) → Nat
  | [] => 0
  | (_, d) :: rest => max d.depth (depthOfFields rest)

end

/-! ## Equality -/

variable [Number α]

/-- Numbers and truth values are compared by value, a truth value as zero or one. -/
def sameScalar : Datum α → Datum α → Bool
  | .null, .null => true
  | .bool a, .bool b => a = b
  | .num x, .num y => Number.same x y
  | .bool a, .num y => Number.same (Number.whole (if a then 1 else 0)) y
  | .num x, .bool b => Number.same x (Number.whole (if b then 1 else 0))
  | .text s, .text t => s = t
  | .bytes a, .bytes b => a = b
  | _, _ => false

mutual

/-- Equality of values: lists and tuples item by item, each with its own kind only; sets and maps
without regard to order. -/
def same : Datum α → Datum α → Bool
  | .seq kind items, .seq kind' items' =>
    if kind.isSet then
      kind'.isSet && items.length = items'.length && allWithin items items'
    else kind = kind' && sameList items items'
  | .map fields, .map fields' =>
    fields.length = fields'.length && fieldsWithin fields fields'
  | .record kind fields, .record kind' fields' =>
    kind = kind' && fields.length = fields'.length && fieldsWithin fields fields'
  | a, b => sameScalar a b

def sameList : List (Datum α) → List (Datum α) → Bool
  | [], [] => true
  | a :: as, b :: bs => a.same b && sameList as bs
  | _, _ => false

def allWithin : List (Datum α) → List (Datum α) → Bool
  | [], _ => true
  | a :: as, bs => bs.any (fun b => a.same b) && allWithin as bs

def fieldsWithin : List (String × Datum α) → List (String × Datum α) → Bool
  | [], _ => true
  | (key, a) :: rest, fields =>
    (match Table.get? fields key with
      | some b => a.same b
      | none => false) && fieldsWithin rest fields

end

/-- The members of a set, each kept where it first occurs. -/
def distinct : List (Datum α) → List (Datum α) :=
  List.foldl (fun kept d => if kept.any (fun k => k.same d) then kept else kept ++ [d]) []

end Datum

end StoryRules
