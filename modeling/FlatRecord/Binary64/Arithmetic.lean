import FlatRecord.Binary64.Rounding

namespace FlatRecord

namespace Binary64

/-- The nearest number to an exact sum of units; an exact zero takes the given sign. -/
def ofSignedUnits (zeroNegative : Bool) (u : Int) : Binary64 :=
  if u = 0 then zero zeroNegative else ofUnits (u < 0) u.natAbs 1

def add : Binary64 → Binary64 → Binary64
  | .nan, _ => .nan
  | _, .nan => .nan
  | .infinite s, .infinite t => if s = t then .infinite s else .nan
  | .infinite s, .finite _ _ => .infinite s
  | .finite _ _, .infinite t => .infinite t
  | .finite s a, .finite t b =>
    ofSignedUnits (s && t) (withSign s (units a) + withSign t (units b))

def sub (x y : Binary64) : Binary64 := x.add y.neg

def mul : Binary64 → Binary64 → Binary64
  | .nan, _ => .nan
  | _, .nan => .nan
  | .infinite s, .infinite t => .infinite (s != t)
  | .infinite s, .finite t b => if b.val = 0 then .nan else .infinite (s != t)
  | .finite s a, .infinite t => if a.val = 0 then .nan else .infinite (s != t)
  | .finite s a, .finite t b => ofUnits (s != t) (units a * units b) unitsPerOne

def div : Binary64 → Binary64 → Binary64
  | .nan, _ => .nan
  | _, .nan => .nan
  | .infinite _, .infinite _ => .nan
  | .infinite s, .finite t _ => .infinite (s != t)
  | .finite s _, .infinite t => zero (s != t)
  | .finite s a, .finite t b =>
    if b.val = 0 then (if a.val = 0 then .nan else .infinite (s != t))
    else ofUnits (s != t) (units a * unitsPerOne) (units b)

end Binary64

end FlatRecord
