import FlatRecord.KeyMap
import FlatRecord.Like.Pattern

namespace FlatRecord

namespace Like

/-- Compiled patterns under their texts. -/
structure Cache (engine : Regex.Engine) where
  patterns : KeyMap engine.Compiled := .empty

namespace Cache

variable {engine : Regex.Engine}

/-- A cache that holds this many patterns is emptied before the next one. -/
abbrev capacity : Nat := 256

def put (cache : Cache engine) (text : String) (regex : engine.Compiled) : Cache engine :=
  let room := if capacity ≤ cache.patterns.size then .empty else cache.patterns
  ⟨room.insert text regex⟩

/-- Matches a text, and keeps the pattern for later if it was not at hand. One that cannot be
compiled leaves the cache as it is. -/
def test (cache : Cache engine) (mode : LikeMode) (text pattern : String) :
    Except EvalError Bool × Cache engine :=
  match mode with
  | .substring => (.ok (holds text pattern), cache)
  | .pattern =>
    match cache.patterns.find? pattern with
    | some regex => (.ok (engine.isMatch regex text), cache)
    | none =>
      match compile engine pattern with
      | .ok regex => (.ok (engine.isMatch regex text), cache.put pattern regex)
      | .error e => (.error (.malformedOperand .like (.pattern e)), cache)

end Cache

end Like

end FlatRecord
