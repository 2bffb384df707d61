import FlatRecord.Query.Json

namespace FlatRecord

/-- How a `LIKE` pattern is matched. -/
inductive LikeMode where
  /-- The whole text, with `%` for any text and `_` for any character. -/
  | pattern
  /-- Any part of the text, with percent signs left out. -/
  | substring
deriving DecidableEq

/-- A text that names no mode, in lower case and without blanks around it. -/
structure UnknownLikeMode where
  text : String

def UnknownLikeMode.message (e : UnknownLikeMode) : String := "unknown LIKE mode: " ++ e.text

namespace LikeMode

def name : LikeMode → String
  | .pattern => "pattern"
  | .substring => "substring"

def read (text : String) : Except UnknownLikeMode LikeMode :=
  let plain := Text.lowerAscii (Text.trim text)
  if plain = "pattern" ∨ plain = "glob" then .ok .pattern
  else if plain = "substring" ∨ plain = "contains" then .ok .substring
  else .error ⟨plain⟩

/-- In documents a mode is its exact name, alone or as the only key of an object with null. -/
def ofJson : Json → Except DocumentError LikeMode
  | .string "pattern" => .ok .pattern
  | .string "substring" => .ok .substring
  | .object [("pattern", .null)] => .ok .pattern
  | .object [("substring", .null)] => .ok .substring
  | _ => .error .malformed

end LikeMode

/-- What callers may set for the evaluation of queries. -/
structure Config where
  likeMode : LikeMode := .pattern
  maxDepth : UInt64 := 64
  dateTimeMarker : String := "__datetime__"

instance : Inhabited Config := ⟨.pattern, 64, "__datetime__"⟩

namespace Config

def toJson (c : Config) : Json :=
  .object [("likeMode", .string c.likeMode.name), ("maxDepth", .int c.maxDepth.toNat),
    ("datetimeMarker", .string c.dateTimeMarker)]

def word : Json → Except DocumentError UInt64
  | .int n => if 0 ≤ n then .ok (UInt64.ofNat n.toNat) else .error .malformed
  | _ => .error .malformed

/-- What a document leaves out keeps its default. -/
def ofJson : Json → Except DocumentError Config
  | .object entries => do
    let marker ← Document.optional entries "datetimeMarker" Document.text
    let mode ← Document.optional entries "likeMode" LikeMode.ofJson
    let depth ← Document.optional entries "maxDepth" word
    let base : Config := default
    return ⟨mode.getD base.likeMode, depth.getD base.maxDepth, marker.getD base.dateTimeMarker⟩
  | _ => .error .malformed

/-- A number of 64 bits in digits, which a plus sign may precede. -/
def readDepth? (text : String) : Option UInt64 :=
  let digits := match text.toList with
    | '+' :: rest => rest
    | cs => cs
  match Numeral.readDigits? digits with
  | some n => if n < twoTo 64 then some (UInt64.ofNat n) else none
  | none => none

/-- Settings from named texts; one that is missing or cannot be read keeps its default. -/
def ofSettings (settings : KeyMap String) : Config :=
  let base : Config := default
  let mode := (settings.find? "PATHSTORE_LIKE_MODE").bind fun t => (LikeMode.read t).toOption
  let depth := (settings.find? "PATHSTORE_MAX_DEPTH").bind readDepth?
  let marker := settings.find? "PATHSTORE_DATETIME_MARKER"
  ⟨mode.getD base.likeMode, depth.getD base.maxDepth, marker.getD base.dateTimeMarker⟩

end Config

end FlatRecord
