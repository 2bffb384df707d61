import FlatRecord.Query.Basic

namespace FlatRecord

/-- A variable's name without the dollar sign that may stand before it. -/
def plainName (name : String) : String :=
  match name.toList with
  | '$' :: rest => String.ofList rest
  | _ => name

mutual

/-- The paths that a term refers to, in the order it names them. -/
def Term.paths : Term → List String
  | .property path => [path]
  | .call _ args => Term.listPaths args
  | .arithmetic _ left right => left.paths ++ right.paths
  | .cast _ term => term.paths
  | _ => []
termination_by structural t => t

def Term.listPaths : List Term → List String
  | [] => []
  | t :: ts => t.paths ++ Term.listPaths ts
termination_by structural ts => ts

end

mutual

/-- The plain names of the variables that a term refers to. -/
def Term.names : Term → List String
  | .binding name => [plainName name]
  | .call _ args => Term.listNames args
  | .arithmetic _ left right => left.names ++ right.names
  | .cast _ term => term.names
  | _ => []
termination_by structural t => t

def Term.listNames : List Term → List String
  | [] => []
  | t :: ts => t.names ++ Term.listNames ts
termination_by structural ts => ts

end

def Condition.paths (c : Condition) : List String := Term.listPaths c.terms

def Condition.names (c : Condition) : List String := Term.listNames c.terms

mutual

/-- The paths that the conditions of a query refer to, at any depth. -/
def Query.paths : Query → List String
  | .mk _ conditions subQueries => conditions.flatMap Condition.paths ++ Query.listPaths subQueries
termination_by structural q => q

def Query.listPaths : List Query → List String
  | [] => []
  | q :: qs => q.paths ++ Query.listPaths qs
termination_by structural qs => qs

end

mutual

/-- The plain names of the variables that the conditions of a query refer to, at any depth. -/
def Query.names : Query → List String
  | .mk _ conditions subQueries => conditions.flatMap Condition.names ++ Query.listNames subQueries
termination_by structural q => q

def Query.listNames : List Query → List String
  | [] => []
  | q :: qs => q.names ++ Query.listNames qs
termination_by structural qs => qs

end

abbrev NameSet := KeyMap Unit

def NameSet.insertNames (set : NameSet) (names : List String) : NameSet :=
  set.insertAll (names.map fun n => (n, ()))

def Query.collectPaths (q : Query) (set : NameSet) : NameSet := set.insertNames q.paths

def Query.collectNames (q : Query) (set : NameSet) : NameSet := set.insertNames q.names

def Query.properties (q : Query) : NameSet := q.collectPaths .empty

def Query.variableNames (q : Query) : NameSet := q.collectNames .empty

end FlatRecord
