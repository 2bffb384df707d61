namespace FlatRecord

namespace Regex

/-- What stands for one character in an expression. -/
inductive Atom where
  | any
  | exactly (c : Char)
deriving DecidableEq

/-- A place in the text, one character or any number of characters. -/
inductive Part where
  | start
  | finish
  | one (atom : Atom)
  | many (atom : Atom)
deriving DecidableEq

end Regex

/-- An expression without groups and choices. -/
abbrev Regex := List Regex.Part

namespace Regex

def Atom.takes : Atom → Char → Bool
  | .any, _ => true
  | .exactly c, d => d == c

/-- How an atom is written, with a way to write characters that are meant literally. -/
def Atom.text (escape : String → String) : Atom → String
  | .any => "."
  | .exactly c => escape (String.singleton c)

def Part.text (escape : String → String) : Part → String
  | .start => "^"
  | .finish => "$"
  | .one atom => atom.text escape
  | .many atom => atom.text escape ++ "*"

/-- An expression is written part by part, and so that line breaks are characters like others. -/
def text (escape : String → String) (regex : Regex) : String :=
  regex.foldl (fun text part => text ++ part.text escape) "(?s)"

/-- Why a text cannot be used as an expression. -/
inductive Error where
  | malformed (reason : String)
  | tooLarge (limit : Nat)
deriving DecidableEq

def Error.message : Error → String
  | .malformed reason => reason
  | .tooLarge limit => "Compiled regex exceeds size limit of " ++ toString limit ++ " bytes."

/-- What makes expressions out of texts and looks for them. -/
structure Engine where
  Compiled : Type
  /-- Writes a text so that it stands for itself. -/
  escape : String → String
  compile : String → Except Error Compiled
  isMatch : Compiled → String → Bool

end Regex

end FlatRecord
