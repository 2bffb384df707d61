import FlatRecord.Path
import FlatRecord.Shape.Basic
import FlatRecord.Value.Convert

namespace FlatRecord

inductive Step where
  | key (key : String)
  | index (i : Nat)
deriving DecidableEq

/-- The steps from the whole to a part, outermost first. -/
abbrev Position := List Step

namespace Position

def extendText (text : String) : Step → String
  | .key key => if text.isEmpty then key else Path.child text key
  | .index i => text ++ "[" ++ toString i ++ "]"

/-- Keys are joined by dots, and indices stand in brackets. -/
def text (position : Position) : String := position.foldl extendText ""

end Position

/-- What a type expects to find. -/
inductive Expectation where
  | int (type : IntType)
  | wideInt (signed : Bool)
  | unit
  | unitNamed (name : String)
  | character
  | list
  | tuple (form : TupleForm) (size : Nat)
  /-- The items of a tuple, each of them. -/
  | tupleItems (form : TupleForm) (size : Nat)
  | map
  | fields (form : FieldsForm)
  | variants (name : String)
  /-- No content for an alternative that has none. -/
  | bareVariant
  | singleKey
  /-- No more items than the ones read. -/
  | items (count : Nat)
deriving DecidableEq

namespace Expectation

def counted (n : Nat) (noun : String) : String :=
  toString n ++ " " ++ noun ++ (if n = 1 then "" else "s")

/-- The name of a tuple's type; one without a name of its own is called by its size. -/
def tupleText (form : TupleForm) (size : Nat) : String :=
  match form with
  | .plain => "a tuple of size " ++ toString size
  | .array => "an array of length " ++ toString size
  | .named name => "tuple struct " ++ name
  | .ofVariant enumeration variant => "tuple variant " ++ enumeration ++ "::" ++ variant

/-- The size of a tuple whose type is not called by it. -/
def sizeText (form : TupleForm) (size : Nat) : String :=
  match form with
  | .plain | .array => ""
  | _ => " with " ++ counted size "element"

def text : Expectation → String
  | .int type => type.name
  | .wideInt signed => if signed then "i128" else "u128"
  | .unit => "unit"
  | .unitNamed name => "unit struct " ++ name
  | .character => "a character"
  | .list => "a sequence"
  | .tuple form size => tupleText form size
  | .tupleItems form size => tupleText form size ++ sizeText form size
  | .map => "a map"
  | .fields (.named name) => "struct " ++ name
  | .fields (.ofVariant enumeration variant) =>
    "struct variant " ++ enumeration ++ "::" ++ variant
  | .variants name => "enum " ++ name
  | .bareVariant => "unit variant"
  | .singleKey => "map with a single key"
  | .items count => counted count "element" ++ " in sequence"

end Expectation

inductive Unreadable where
  | conversion (e : ConversionError)
  | notArrayText (kind : Kind)
  | notObjectText (kind : Kind)
deriving DecidableEq

def Unreadable.message : Unreadable → String
  | .conversion e => e.message
  | .notArrayText kind => "expected JSON array text, got " ++ kind.name
  | .notObjectText kind => "expected JSON object text, got " ++ kind.name

inductive ReadError where
  /-- A text that should hold JSON does not. -/
  | invalidJson (position : Position)
  | unreadable (position : Position) (reason : Unreadable)
  | invalidType (found : Value) (expected : Expectation)
  | invalidValue (found : Value) (expected : Expectation)
  | invalidLength (length : Nat) (expected : Expectation)
  | missingField (name : String)
  | unknownField (name : String) (known : List String)
  | unknownVariant (name : String) (known : List String)
  | noOption (name : String)

namespace ReadError

/-- A float in a message has a point or an exponent, or else a zero after the point. -/
def floatText (x : Binary64) : String :=
  let text := x.toText
  if x.isFinite && !text.toList.contains '.' then text ++ ".0" else text

def describe : Value → String
  | .null => "unit value"
  | .bool b => "boolean " ++ Text.ticked (Value.bool b).text
  | .int n => "integer " ++ Text.ticked (Value.int n).text
  | .float x => "floating point " ++ Text.ticked (floatText x)
  | .string s => "string " ++ Text.quoted s
  | .array _ => "sequence"
  | .object _ => "map"

/-- The known names after a text that says which name was met. -/
def choose (met nothing : String) (known : List String) : String :=
  if known.isEmpty then met ++ ", " ++ nothing else met ++ ", expected " ++ Text.choices known

/-- A position at the root is not mentioned. -/
def placed (position : Position) (reason : String) : String :=
  if position.text.isEmpty then reason else position.text ++ ": " ++ reason

/-- What is wrong, with the position where one is known. -/
def reason : ReadError → String
  | .invalidJson position => placed position "no JSON text"
  | .unreadable position reason => placed position reason.message
  | .invalidType found expected =>
    "invalid type: " ++ describe found ++ ", expected " ++ expected.text
  | .invalidValue found expected =>
    "invalid value: " ++ describe found ++ ", expected " ++ expected.text
  | .invalidLength length expected =>
    "invalid length " ++ toString length ++ ", expected " ++ expected.text
  | .missingField name => "missing field " ++ Text.ticked name
  | .unknownField name known =>
    choose ("unknown field " ++ Text.ticked name) "there are no fields" known
  | .unknownVariant name known =>
    choose ("unknown variant " ++ Text.ticked name) "there are no variants" known
  | .noOption name => "data did not match any variant of untagged enum " ++ name

def message (e : ReadError) : String := "deserialization failed: " ++ e.reason

end ReadError

end FlatRecord
