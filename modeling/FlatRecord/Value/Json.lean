import FlatRecord.Value.Basic
import FlatRecord.Json.Read

namespace FlatRecord

namespace Value

/-- An integer outside the 64-bit signed range becomes the nearest float. -/
def ofWhole (n : Int) : Value :=
  if Int64.minValue.toInt ≤ n ∧ n ≤ Int64.maxValue.toInt then .int (Int64.ofInt n)
  else .float (.ofInt n)

mutual

/-- The value that a document describes; of repeated keys the last wins. -/
def ofJson : Json → Value
  | .null => .null
  | .bool b => .bool b
  | .int n => ofWhole n
  | .float x => .float x
  | .string s => .string s
  | .array items => .array (ofJsonItems items)
  | .object entries => .ofEntries (ofJsonEntries entries)
termination_by structural json => json

def ofJsonItems : List Json → List Value
  | [] => []
  | item :: rest => ofJson item :: ofJsonItems rest
termination_by structural items => items

def ofJsonEntries : List (String × Json) → List (String × Value)
  | [] => []
  | (key, item) :: rest => (key, ofJson item) :: ofJsonEntries rest
termination_by structural entries => entries

end

mutual

/-- The document of a value. Floats that are not finite have no number and become null. -/
def toJson : Value → Json
  | .null => .null
  | .bool b => .bool b
  | .int n => .int n.toInt
  | .float x => if x.isFinite then .float x else .null
  | .string s => .string s
  | .array items => .array (toJsonItems items)
  | .object entries => .object (toJsonEntries entries)
termination_by structural v => v

def toJsonItems : List Value → List Json
  | [] => []
  | item :: rest => toJson item :: toJsonItems rest
termination_by structural items => items

def toJsonEntries : List (String × Value) → List (String × Json)
  | [] => []
  | (key, item) :: rest => (key, toJson item) :: toJsonEntries rest
termination_by structural entries => entries

end

/-- The compact JSON text of a value, by way of its document. -/
def jsonText (v : Value) : String := v.toJson.render

def readJson? (text : String) : Option Value := (Json.read? text).map ofJson

mutual

/-- Writes a value as JSON without forming a document. -/
def jsonChars : Value → List Char
  | .null => ['n', 'u', 'l', 'l']
  | .bool b => Json.boolChars b
  | .int n => Json.intChars n.toInt
  | .float x => Json.floatChars x
  | .string s => Json.stringChars s
  | .array items => '[' :: itemsTail items
  | .object entries => '{' :: entriesTail entries
termination_by structural v => v

/-- What follows an opening bracket, up to the closing one. -/
def itemsTail : List Value → List Char
  | [] => [']']
  | item :: rest => jsonChars item ++ itemsRest rest
termination_by structural items => items

def itemsRest : List Value → List Char
  | [] => [']']
  | item :: rest => ',' :: (jsonChars item ++ itemsRest rest)
termination_by structural items => items

/-- What follows an opening brace, up to the closing one. -/
def entriesTail : List (String × Value) → List Char
  | [] => ['}']
  | (key, item) :: rest => Json.stringChars key ++ ':' :: (jsonChars item ++ entriesRest rest)
termination_by structural entries => entries

def entriesRest : List (String × Value) → List Char
  | [] => ['}']
  | (key, item) :: rest =>
    ',' :: (Json.stringChars key ++ ':' :: (jsonChars item ++ entriesRest rest))
termination_by structural entries => entries

end

/-- The compact JSON text of a value, written directly. -/
def writeJson (v : Value) : String := String.ofList v.jsonChars

end Value

end FlatRecord
