import FlatRecord.Regex.Basic

namespace FlatRecord

namespace Regex

/-- The characters that do not stand for themselves, or would not everywhere. -/
def isMeta (c : Char) : Bool :=
  c ∈ ['\\', '.', '+', '*', '?', '(', ')', '|', '[', ']', '\x7b', '\x7d', '^', '$', '#', '&', '-',
    '~']

/-- Puts a backslash before every character that does not stand for itself. -/
def escape (text : String) : String :=
  String.ofList (text.toList.flatMap fun c => if isMeta c then ['\\', c] else [c])

inductive Token where
  | place (part : Part)
  | atom (atom : Atom)
  | star

/-- A character that does not stand for itself needs a backslash, unless it has a meaning here. -/
def readTokens : List Char → Option (List Token)
  | [] => some []
  | '\\' :: c :: rest =>
    if isMeta c then (readTokens rest).map (.atom (.exactly c) :: ·) else none
  | '^' :: rest => (readTokens rest).map (.place .start :: ·)
  | '$' :: rest => (readTokens rest).map (.place .finish :: ·)
  | '.' :: rest => (readTokens rest).map (.atom .any :: ·)
  | '*' :: rest => (readTokens rest).map (.star :: ·)
  | c :: rest => if isMeta c then none else (readTokens rest).map (.atom (.exactly c) :: ·)

/-- A star belongs to the atom before it. -/
def ofTokens : List Token → Option Regex
  | [] => some []
  | .place part :: rest => (ofTokens rest).map (part :: ·)
  | .atom atom :: .star :: rest => (ofTokens rest).map (.many atom :: ·)
  | .atom atom :: rest => (ofTokens rest).map (.one atom :: ·)
  | .star :: _ => none

/-- Reads an expression in which line breaks are characters like others. -/
def read? (text : String) : Option Regex :=
  match text.toList with
  | '(' :: '?' :: 's' :: ')' :: rest => (readTokens rest).bind ofTokens
  | _ => none

/-- For every suffix of a text, the longest first and the empty one last, whether it or a shorter
one was accepted that only characters of the given kind lead to. -/
def afterMany (passes : Char → Bool) : List Char → List Bool → List Bool
  | c :: cs, b :: row =>
    let others := afterMany passes cs row
    (b || passes c && others.headD false) :: others
  | _, row => row

/-- For every suffix of a text, whether its first character passes and what follows that
character was accepted. The empty suffix has no first character. -/
def afterOne (passes : Char → Bool) : List Char → List Bool → List Bool
  | c :: cs, _ :: b :: row => (passes c && b) :: afterOne passes cs (b :: row)
  | _, _ => [false]

/-- Only the whole text is left. -/
def onlyFirst : List Bool → List Bool
  | [] => []
  | b :: row => b :: row.map fun _ => false

/-- Only the empty suffix is left. -/
def onlyLast : List Bool → List Bool
  | [] => []
  | [b] => [b]
  | _ :: row => false :: onlyLast row

/-- Which suffixes of a text a part and the parts after it can begin, from which suffixes the parts
after it can. -/
def Part.step (text : List Char) (part : Part) (row : List Bool) : List Bool :=
  match part with
  | .start => onlyFirst row
  | .finish => onlyLast row
  | .one atom => afterOne atom.takes text row
  | .many atom => afterMany atom.takes text row

/-- Which suffixes of a text begin with what an expression stands for. -/
def row (regex : Regex) (text : List Char) : List Bool :=
  regex.foldr (Part.step text) (text.map (fun _ => true) ++ [true])

/-- Whether what an expression stands for is found anywhere in a text. -/
def isFound (regex : Regex) (text : String) : Bool := (regex.row text.toList).any id

/-- An engine for expressions of any size without groups and choices. -/
def Engine.plain : Engine where
  Compiled := Regex
  escape := Regex.escape
  compile text :=
    match read? text with
    | some regex => .ok regex
    | none => .error (.malformed "the expression has parts of another kind")
  isMatch := isFound

end Regex

end FlatRecord
