import FlatRecord.Query.Operator
import FlatRecord.Value.Basic

namespace FlatRecord

/-- What yields a value inside a condition. -/
inductive Term where
  /-- The field at a path. -/
  | property (path : String)
  | literal (value : Value)
  /-- A bound variable; its name may start with a dollar sign. -/
  | binding (name : String)
  | call (name : String) (args : List Term)
  | arithmetic (op : ArithmeticOp) (left right : Term)
  | cast (target : String) (term : Term)
  /-- A date or time, which is resolved to a fixed text. -/
  | dateTime (name : String)

instance : Inhabited Term := ⟨.literal .null⟩

/-- One operator applied to terms. Comparisons and `CONTAINS` read the right term, `BETWEEN` the
bounds, `LIKE` the pattern or else the right term, and the list operators the candidates or else
the right term. -/
structure Condition where
  op : Operator
  left : Term
  right : Term := .literal .null
  negate : Bool := false
  candidates : List Term := []
  lower : Option Term := none
  upper : Option Term := none
  pattern : String := ""

/-- Conditions and further queries of which all, or at least one, must hold. -/
inductive Query where
  | mk (isOr : Bool) (conditions : List Condition) (subQueries : List Query)

namespace Condition

def compare (left : Term) (op : Operator) (right : Term) : Condition :=
  ⟨op, left, right, false, [], none, none, ""⟩

def isIn (left : Term) (candidates : List Term) : Condition :=
  ⟨.isIn, left, default, false, candidates, none, none, ""⟩

def notIn (left : Term) (candidates : List Term) : Condition :=
  ⟨.notIn, left, default, false, candidates, none, none, ""⟩

def isNull (left : Term) : Condition := ⟨.isNull, left, default, false, [], none, none, ""⟩

def isNotNull (left : Term) : Condition := ⟨.isNotNull, left, default, false, [], none, none, ""⟩

def like (left : Term) (pattern : String) : Condition :=
  ⟨.like, left, default, false, [], none, none, pattern⟩

def between (left lower upper : Term) : Condition :=
  ⟨.between, left, default, false, [], some lower, some upper, ""⟩

def contains (left right : Term) : Condition := compare left .contains right

def anyOf (left : Term) (candidates : List Term) : Condition :=
  ⟨.anyOf, left, default, false, candidates, none, none, ""⟩

def negated (c : Condition) : Condition := { c with negate := !c.negate }

/-- All terms of a condition, whether or not its operator reads them. -/
def terms (c : Condition) : List Term :=
  c.left :: c.right :: c.candidates ++ c.lower.toList ++ c.upper.toList

end Condition

namespace Query

def isOr : Query → Bool
  | .mk isOr _ _ => isOr

def conditions : Query → List Condition
  | .mk _ conditions _ => conditions

def subQueries : Query → List Query
  | .mk _ _ subQueries => subQueries

/-- The query without conditions, which holds. -/
def empty : Query := .mk false [] []

instance : Inhabited Query := ⟨empty⟩

def all (conditions : List Condition) : Query := .mk false conditions []

def any (conditions : List Condition) : Query := .mk true conditions []

def single (condition : Condition) : Query := all [condition]

def withSubQuery (q sub : Query) : Query := .mk q.isOr q.conditions (q.subQueries ++ [sub])

def isEmpty (q : Query) : Bool := q.conditions.isEmpty && q.subQueries.isEmpty

/-- The query as the only one within otherwise empty queries. -/
def nested (isOr : Bool) : Nat → Query → Query
  | 0, q => q
  | n + 1, q => .mk isOr [] [nested isOr n q]

end Query

mutual

/-- Equality of terms in which the floats of literals are compared as numbers. -/
def Term.same : Term → Term → Bool
  | .property p, .property q => p == q
  | .literal v, .literal w => v.same w
  | .binding m, .binding n => m == n
  | .call m xs, .call n ys => m == n && Term.sameList xs ys
  | .arithmetic o l r, .arithmetic p l' r' => o == p && l.same l' && r.same r'
  | .cast s x, .cast t y => s == t && x.same y
  | .dateTime m, .dateTime n => m == n
  | _, _ => false
termination_by structural t => t

def Term.sameList : List Term → List Term → Bool
  | [], [] => true
  | x :: xs, y :: ys => x.same y && Term.sameList xs ys
  | _, _ => false
termination_by structural ts => ts

end

def Term.sameOption : Option Term → Option Term → Bool
  | none, none => true
  | some x, some y => x.same y
  | _, _ => false

def Condition.same (c d : Condition) : Bool :=
  c.op == d.op && c.left.same d.left && c.right.same d.right && c.negate == d.negate &&
    Term.sameList c.candidates d.candidates && Term.sameOption c.lower d.lower &&
    Term.sameOption c.upper d.upper && c.pattern == d.pattern

def Condition.sameList : List Condition → List Condition → Bool
  | [], [] => true
  | c :: cs, d :: ds => c.same d && Condition.sameList cs ds
  | _, _ => false

mutual

def Query.same : Query → Query → Bool
  | .mk o cs qs, .mk o' cs' qs' => o == o' && Condition.sameList cs cs' && Query.sameList qs qs'
termination_by structural q => q

def Query.sameList : List Query → List Query → Bool
  | [], [] => true
  | q :: qs, r :: rs => q.same r && Query.sameList qs rs
  | _, _ => false
termination_by structural qs => qs

end

end FlatRecord
