import FlatRecord.Config
import FlatRecord.EvalError
import FlatRecord.Text.Blank

namespace FlatRecord

namespace Like

/-- What a character of a pattern becomes in an expression. -/
def piece (escape : String → String) (c : Char) : String :=
  if c = '%' then ".*" else if c = '_' then "." else escape (String.singleton c)

/-- The text of the expression for a pattern. It stands for whole texts, line breaks included. -/
def source (escape : String → String) (pattern : String) : String :=
  pattern.toList.foldl (fun text c => text ++ piece escape c) "(?s)^" ++ "$"

/-- Fails where the engine refuses the expression, as it may when this is too large. -/
def compile (engine : Regex.Engine) (pattern : String) : Except Regex.Error engine.Compiled :=
  engine.compile (source engine.escape pattern)

/-- Whether a text holds the pattern, read without its percent signs, somewhere. -/
def holds (text pattern : String) : Bool :=
  Text.isInfix (pattern.toList.filter (· != '%')) text.toList

/-- Matches a text without keeping the pattern. -/
def test (engine : Regex.Engine) (mode : LikeMode) (text pattern : String) :
    Except EvalError Bool :=
  match mode with
  | .substring => .ok (holds text pattern)
  | .pattern =>
    match compile engine pattern with
    | .ok regex => .ok (engine.isMatch regex text)
    | .error e => .error (.malformedOperand .like (.pattern e))

end Like

end FlatRecord
