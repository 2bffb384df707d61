import FlatRecord.Text.Blank
import FlatRecord.Text.DependentTable

namespace FlatRecord

namespace Text

def isDependent (c : Char) : Bool := inRanges dependentRanges c

/-- A hexadecimal number without leading zeros, in lower case. -/
def hex (n : Nat) : String := String.ofList (Nat.toDigits 16 n)

def quotedChar (c : Char) : String :=
  if c = '"' then "\\\""
  else if c = '\\' then "\\\\"
  else if c = '\n' then "\\n"
  else if c = '\r' then "\\r"
  else if c = '\t' then "\\t"
  else if c = '\x00' then "\\0"
  else if isDependent c then "\\u\x7b" ++ hex c.toNat ++ "\x7d"
  else c.toString

/-- A text between double quotes, for messages. -/
def quoted (s : String) : String :=
  "\"" ++ String.join (s.toList.map quotedChar) ++ "\""

/-- A text between backquotes, as it is. -/
def ticked (s : String) : String := "`" ++ s ++ "`"

/-- Texts in backquotes, as a list of choices: the text itself, two joined by "or", more after
"one of". -/
def choices (names : List String) : String :=
  match names.map ticked with
  | [one] => one
  | [one, two] => one ++ " or " ++ two
  | more => "one of " ++ String.intercalate ", " more

end Text

end FlatRecord
