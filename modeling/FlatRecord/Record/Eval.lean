import FlatRecord.Query.Eval
import FlatRecord.Record.Basic

namespace FlatRecord

namespace Record

/-- A record as the source of a query: coerced values and ready patterns are kept in it. -/
def source : Source (StateM Record) where
  field path := fun r =>
    match r.read path with
    | (v, r) => (v.getD .null, r)
  like mode text pattern := .mk fun r =>
    match r.patterns.test mode text pattern with
    | (answer, patterns) => (answer, { r with patterns := patterns })

/-- A record as the source of a query that leaves nothing behind. -/
def plainSource (r : Record) : Source Id where
  field path := (r.get? path).getD .null
  like mode text pattern := .mk (Like.test .plain mode text pattern)

def run {α : Type} (r : Record) (e : Scope → Evaluation (StateM Record) α) :
    Except EvalError α × Record :=
  (e r.scope).run r

/-- Whether a query holds on the record, and the record with what the evaluation has kept. -/
def evalQuery (r : Record) (q : Query) : Except EvalError Bool × Record :=
  r.run fun scope => q.eval source scope 0

def evalCondition (r : Record) (c : Condition) : Except EvalError Bool × Record :=
  r.run fun scope => c.eval source scope 0

def evalTerm (r : Record) (t : Term) : Except EvalError Value × Record :=
  r.run fun scope => t.resolve source scope 0

def satisfies (r : Record) (q : Query) : Except EvalError Bool := (r.evalQuery q).1

def satisfiesCondition (r : Record) (c : Condition) : Except EvalError Bool := (r.evalCondition c).1

def resolve (r : Record) (t : Term) : Except EvalError Value := (r.evalTerm t).1

end Record

end FlatRecord
