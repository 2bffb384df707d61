import FlatRecord.Config
import FlatRecord.Function
import FlatRecord.Query.Names

namespace FlatRecord

/-- Variable values by plain name. -/
abbrev Bindings := KeyMap Value

/-- What a query may use apart from the fields. -/
structure Scope where
  functions : Registry := {}
  bindings : Bindings := .empty
  config : Config := default

/-- The value of a variable, with or without a dollar sign before its name. -/
def Scope.lookup (scope : Scope) (name : String) : Except EvalError Value :=
  match scope.bindings.find? (plainName name) with
  | some v => .ok v
  | none => .error (.unresolvedVariable (plainName name))

end FlatRecord
