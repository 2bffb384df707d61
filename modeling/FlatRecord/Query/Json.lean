import FlatRecord.Query.Basic
import FlatRecord.Value.Json

namespace FlatRecord

/-- Why a document does not describe what was asked for. -/
inductive DocumentError where
  | malformed
  | unknownOperator (e : UnknownOperator)
deriving DecidableEq

/-- Only an unknown operator is named. -/
def DocumentError.message? : DocumentError → Option String
  | .malformed => none
  | .unknownOperator e => some e.message

namespace Document

def text : Json → Except DocumentError String
  | .string s => .ok s
  | _ => .error .malformed

def bool : Json → Except DocumentError Bool
  | .bool b => .ok b
  | _ => .error .malformed

def operator (json : Json) : Except DocumentError Operator := do
  (Operator.read (← text json)).mapError .unknownOperator

def arithmeticOp (json : Json) : Except DocumentError ArithmeticOp := do
  (ArithmeticOp.read (← text json)).mapError .unknownOperator

def optional {α β : Type} (members : List (String × α)) (key : String)
    (read : α → Except DocumentError β) : Except DocumentError (Option β) :=
  match members.lookup key with
  | none => .ok none
  | some a => (read a).map some

def required {β : Type} : Option β → Except DocumentError β
  | some b => .ok b
  | none => .error .malformed

end Document

open Document

mutual

def Term.toJson : Term → Json
  | .property path => .object [("kind", .string "property"), ("path", .string path)]
  | .literal value => .object [("kind", .string "literal"), ("value", value.toJson)]
  | .binding name => .object [("kind", .string "variable"), ("name", .string name)]
  | .call name args =>
    .object [("kind", .string "function"), ("name", .string name),
      ("args", .array (Term.listToJson args))]
  | .arithmetic op left right =>
    .object [("kind", .string "arithmetic"), ("op", .string op.name), ("left", left.toJson),
      ("right", right.toJson)]
  | .cast target term =>
    .object [("kind", .string "cast"), ("target", .string target), ("term", term.toJson)]
  | .dateTime name => .object [("kind", .string "date_time"), ("name", .string name)]
termination_by structural t => t

def Term.listToJson : List Term → List Json
  | [] => []
  | t :: ts => t.toJson :: Term.listToJson ts
termination_by structural ts => ts

end

/-- A member with the given key, or none at all. -/
def memberIf (present : Bool) (key : String) (json : Json) : List (String × Json) :=
  if present then [(key, json)] else []

/-- Optional parts are left out when they are empty. -/
def Condition.toJson (c : Condition) : Json :=
  .object <|
    [("op", .string c.op.name), ("left", c.left.toJson), ("right", c.right.toJson),
      ("negate", .bool c.negate)] ++
    memberIf (!c.candidates.isEmpty) "in_values" (.array (Term.listToJson c.candidates)) ++
    (c.lower.toList.map fun t => ("start", t.toJson)) ++
    (c.upper.toList.map fun t => ("end", t.toJson)) ++
    memberIf (!c.pattern.isEmpty) "pattern" (.string c.pattern)

mutual

def Query.toJson : Query → Json
  | .mk isOr conditions subQueries =>
    .object [("is_or", .bool isOr), ("conditions", .array (conditions.map Condition.toJson)),
      ("sub_queries", .array (Query.listToJson subQueries))]
termination_by structural q => q

def Query.listToJson : List Query → List Json
  | [] => []
  | q :: qs => q.toJson :: Query.listToJson qs
termination_by structural qs => qs

end

/-- A member of a term's document, with its readings as a term and as a list of terms. -/
structure TermMember where
  json : Json
  term : Except DocumentError Term
  terms : Except DocumentError (List Term)

inductive TermKind where
  | property
  | literal
  | binding
  | call
  | arithmetic
  | cast
  | dateTime

def TermKind.ofName? : String → Option TermKind
  | "property" => some .property
  | "literal" => some .literal
  | "variable" => some .binding
  | "function" => some .call
  | "arithmetic" => some .arithmetic
  | "cast" => some .cast
  | "date_time" => some .dateTime
  | _ => none

def TermKind.inOrder : List TermKind :=
  [.property, .literal, .binding, .call, .arithmetic, .cast, .dateTime]

/-- A kind is given by its name; a term within another may give it by its number as well. -/
def TermKind.ofJson (inner : Bool) : Json → Except DocumentError TermKind
  | .string name => required (TermKind.ofName? name)
  | .int n => if inner ∧ 0 ≤ n then required TermKind.inOrder[n.toNat]? else .error .malformed
  | _ => .error .malformed

/-- Builds a term from the members of its document. They are read in key order, so the first one
that is at fault is reported, and missing ones come after all faults. -/
def Term.ofMembers (inner : Bool) (members : List (String × TermMember)) :
    Except DocumentError Term := do
  let kind ← required (← optional members "kind" fun m => TermKind.ofJson inner m.json)
  match kind with
  | .property =>
    let path ← optional members "path" fun m => text m.json
    return .property (← required path)
  | .literal =>
    let value ← optional members "value" fun m => .ok (Value.ofJson m.json)
    return .literal (← required value)
  | .binding =>
    let name ← optional members "name" fun m => text m.json
    return .binding (← required name)
  | .call =>
    let args ← optional members "args" fun m => m.terms
    let name ← optional members "name" fun m => text m.json
    return .call (← required name) (args.getD [])
  | .arithmetic =>
    let left ← optional members "left" fun m => m.term
    let op ← optional members "op" fun m => arithmeticOp m.json
    let right ← optional members "right" fun m => m.term
    return .arithmetic (← required op) (← required left) (← required right)
  | .cast =>
    let target ← optional members "target" fun m => text m.json
    let term ← optional members "term" fun m => m.term
    return .cast (← required target) (← required term)
  | .dateTime =>
    let name ← optional members "name" fun m => text m.json
    return .dateTime (← required name)

mutual

/-- Reads a term; `inner` tells that it stands within another term. -/
def Term.read (inner : Bool) : Json → Except DocumentError Term
  | .object entries => Term.ofMembers inner (Term.readMembers entries)
  | _ => .error .malformed
termination_by structural json => json

def Term.readList (inner : Bool) : Json → Except DocumentError (List Term)
  | .array items => Term.readItems inner items
  | _ => .error .malformed
termination_by structural json => json

def Term.readItems (inner : Bool) : List Json → Except DocumentError (List Term)
  | [] => .ok []
  | item :: rest => do
    let first ← Term.read inner item
    let others ← Term.readItems inner rest
    return first :: others
termination_by structural items => items

def Term.readMembers : List (String × Json) → List (String × TermMember)
  | [] => []
  | (key, json) :: rest =>
    (key, ⟨json, Term.read true json, Term.readList true json⟩) :: Term.readMembers rest
termination_by structural entries => entries

end

def Term.ofJson (json : Json) : Except DocumentError Term := Term.read false json

/-- A term or null for its absence. -/
def Term.ofJson? : Json → Except DocumentError (Option Term)
  | .null => .ok none
  | json => (Term.ofJson json).map some

/-- Members are read in key order, and missing ones come after all faults. -/
def Condition.ofJson : Json → Except DocumentError Condition
  | .object entries => do
    let upper ← optional entries "end" Term.ofJson?
    let candidates ← optional entries "in_values" (Term.readList false)
    let left ← optional entries "left" Term.ofJson
    let negate ← optional entries "negate" bool
    let op ← optional entries "op" operator
    let pattern ← optional entries "pattern" text
    let right ← optional entries "right" Term.ofJson
    let lower ← optional entries "start" Term.ofJson?
    return {
      op := ← required op
      left := ← required left
      right := right.getD default
      negate := negate.getD false
      candidates := candidates.getD []
      lower := lower.join
      upper := upper.join
      pattern := pattern.getD "" }
  | _ => .error .malformed

def Condition.listOfJson : Json → Except DocumentError (List Condition)
  | .array items => items.mapM Condition.ofJson
  | _ => .error .malformed

/-- A member of a query's document, with its reading as a list of queries. -/
structure QueryMember where
  json : Json
  queries : Except DocumentError (List Query)

/-- Every part of a query may be missing. -/
def Query.ofMembers (members : List (String × QueryMember)) : Except DocumentError Query := do
  let conditions ← optional members "conditions" fun m => Condition.listOfJson m.json
  let isOr ← optional members "is_or" fun m => bool m.json
  let subQueries ← optional members "sub_queries" fun m => m.queries
  return .mk (isOr.getD false) (conditions.getD []) (subQueries.getD [])

mutual

def Query.ofJson : Json → Except DocumentError Query
  | .object entries => Query.ofMembers (Query.readMembers entries)
  | _ => .error .malformed
termination_by structural json => json

def Query.listOfJson : Json → Except DocumentError (List Query)
  | .array items => Query.readItems items
  | _ => .error .malformed
termination_by structural json => json

def Query.readItems : List Json → Except DocumentError (List Query)
  | [] => .ok []
  | item :: rest => do
    let first ← Query.ofJson item
    let others ← Query.readItems rest
    return first :: others
termination_by structural items => items

def Query.readMembers : List (String × Json) → List (String × QueryMember)
  | [] => []
  | (key, json) :: rest => (key, ⟨json, Query.listOfJson json⟩) :: Query.readMembers rest
termination_by structural entries => entries

end

def Query.readJson (jsonText : String) : Except DocumentError Query :=
  match Json.read? jsonText with
  | some json => Query.ofJson json
  | none => .error .malformed

end FlatRecord
