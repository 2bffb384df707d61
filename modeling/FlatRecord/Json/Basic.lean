import FlatRecord.Decimal.Layout

namespace FlatRecord

/-- A JSON document. Numbers keep whether they were whole. -/
inductive Json where
  | null
  | bool (b : Bool)
  | int (n : Int)
  | float (x : Binary64)
  | string (s : String)
  | array (items : List Json)
  | object (entries : List (String × Json))

namespace Json

instance : Inhabited Json := ⟨null⟩

def hexDigit (n : Nat) : Char := (Nat.digitChar n)

/-- A character inside a JSON string: quotes, backslashes and controls are escaped. -/
def escapeChar (c : Char) : List Char :=
  if c = '"' then ['\\', '"']
  else if c = '\\' then ['\\', '\\']
  else if c = '\x08' then ['\\', 'b']
  else if c = '\x0c' then ['\\', 'f']
  else if c = '\n' then ['\\', 'n']
  else if c = '\r' then ['\\', 'r']
  else if c = '\t' then ['\\', 't']
  else if c.toNat < 0x20 then
    ['\\', 'u', '0', '0', hexDigit (c.toNat / 16), hexDigit (c.toNat % 16)]
  else [c]

def stringChars (s : String) : List Char :=
  '"' :: (s.toList.flatMap escapeChar ++ ['"'])

def intChars (n : Int) : List Char :=
  Binary64.signChars (n < 0) ++ Nat.toDigits 10 n.natAbs

/-- Numbers without a finite value have no JSON form and become null. -/
def floatChars : Binary64 → List Char
  | .finite negative code => Binary64.signChars negative ++ Binary64.jsonMagnitude code
  | _ => ['n', 'u', 'l', 'l']

def boolChars (b : Bool) : List Char :=
  if b then ['t', 'r', 'u', 'e'] else ['f', 'a', 'l', 's', 'e']

/-- Parts in order with commas between them. -/
def commaSeparated : List (List Char) → List Char
  | [] => []
  | [part] => part
  | part :: rest => part ++ ',' :: commaSeparated rest

mutual

/-- The document without blanks, entries in the order given. -/
def chars : Json → List Char
  | .null => ['n', 'u', 'l', 'l']
  | .bool b => boolChars b
  | .int n => intChars n
  | .float x => floatChars x
  | .string s => stringChars s
  | .array items => '[' :: (commaSeparated (itemChars items) ++ [']'])
  | .object entries => '{' :: (commaSeparated (entryChars entries) ++ ['}'])
termination_by structural json => json

def itemChars : List Json → List (List Char)
  | [] => []
  | item :: rest => chars item :: itemChars rest
termination_by structural items => items

def entryChars : List (String × Json) → List (List Char)
  | [] => []
  | (key, item) :: rest => (stringChars key ++ ':' :: chars item) :: entryChars rest
termination_by structural entries => entries

end

/-- The compact text of a document. -/
def render (json : Json) : String := String.ofList json.chars

def field? (json : Json) (key : String) : Option Json :=
  match json with
  | .object entries => entries.lookup key
  | _ => none

end Json

end FlatRecord
