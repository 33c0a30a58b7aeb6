import StoryRules.Schema.Reader

/-!
# Media

Assets are declared once in a story; nodes and puzzles refer to them by id.
-/

namespace StoryRules

inductive MediaType where
  | image
  | video
  | audio
  deriving Repr, DecidableEq

def MediaType.name : MediaType → String
  | .image => "image"
  | .video => "video"
  | .audio => "audio"

def MediaType.names : Table MediaType :=
  [MediaType.image, .video, .audio].map fun t => (t.name, t)

inductive MediaRole where
  | illustration
  | background
  | thumb
  | video
  | audio
  deriving Repr, DecidableEq

def MediaRole.name : MediaRole → String
  | .illustration => "illustration"
  | .background => "background"
  | .thumb => "thumb"
  | .video => "video"
  | .audio => "audio"

def MediaRole.names : Table MediaRole :=
  [MediaRole.illustration, .background, .thumb, .video, .audio].map fun r => (r.name, r)

structure MediaAsset (α : Type) where
  id : String
  type : MediaType
  src : String
  alt : Option String
  details : Table (Datum α)

structure MediaRef where
  asset : String
  role : Option MediaRole
  deriving Repr, DecidableEq

open Reader

variable {α : Type} [Number α]

def MediaAsset.document (a : MediaAsset α) : Datum α :=
  .map [("id", .text a.id), ("type", .text a.type.name), ("src", .text a.src),
    ("alt", Datum.ofOption .text a.alt), ("meta", .map a.details)]

def MediaAsset.read : Reader α (MediaAsset α) :=
  object "MediaAsset" fun fields =>
    MediaAsset.mk <$> required fields "id" text <*> required fields "type" (oneOf MediaType.names)
      <*> required fields "src" text <*> optional fields "alt" none (nullable text)
      <*> optional fields "meta" [] (table anything)

def MediaRef.document (r : MediaRef) : Datum α :=
  .map [("asset_id", .text r.asset), ("role", Datum.ofOption (fun role => .text role.name) r.role)]

def MediaRef.read : Reader α MediaRef :=
  object "MediaRef" fun fields =>
    MediaRef.mk <$> required fields "asset_id" text
      <*> optional fields "role" none (nullable (oneOf MediaRole.names))

end StoryRules
