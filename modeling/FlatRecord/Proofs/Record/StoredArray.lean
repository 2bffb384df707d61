import FlatRecord.Proofs.Record.Coherent
import FlatRecord.Proofs.Value.ArrayText

namespace FlatRecord

section Literals

variable (source : Source Id) (scope : Scope) (depth : Nat)

theorem Term.resolve_literal_bind {α : Type} (v : Value) (k : Value → Evaluation Id α) :
    ((Term.literal v).resolve source scope depth >>= k) =
      (scope.guardDepth depth >>= fun _ => k v) := by
  rw [Term.resolve]
  simp only [bind_assoc, pure_bind]

theorem Term.resolve_property (r : Record) (path : String) :
    (Term.property path).resolve r.plainSource scope depth =
      (Term.literal ((r.get? path).getD .null)).resolve r.plainSource scope depth := by
  rw [Term.resolve, Term.resolve]
  rfl

theorem Term.resolve_call_congr {source : Source Id} {scope : Scope} {t t' : Term}
    (same : ∀ depth, t.resolve source scope depth = t'.resolve source scope depth) (name : String)
    (depth : Nat) :
    (Term.call name [t]).resolve source scope depth =
      (Term.call name [t']).resolve source scope depth := by
  rw [Term.resolve, Term.resolve]
  unfold Term.resolveAll
  rw [same]

theorem Term.resolve_call_literal (name : String) (v : Value) :
    (Term.call name [.literal v]).resolve source scope depth =
      (scope.guardDepth depth >>= fun _ => scope.guardDepth (depth + 1) >>= fun _ =>
        .ofExcept (scope.functions.call name [v])) := by
  rw [Term.resolve]
  unfold Term.resolveAll
  rw [bind_assoc, Term.resolve_literal_bind]
  simp only [Term.resolveAll, pure_bind]

end Literals

namespace Value

/-- A text whose items are those of an array, and which is the text of this array. -/
structure Stores (s : String) (items : List Value) : Prop where
  text : s = (array items).text
  elements : (string s).elements? = some items

theorem stores_jsonText {items : List Value} (ordered : (array items).Ordered)
    (finite : (array items).Finite) (fits : (array items).nesting ≤ Json.maxLevels) :
    Stores (array items).jsonText items :=
  ⟨rfl, elements?_jsonText ordered finite fits⟩

namespace Stores

variable {s : String} {items : List Value} (stores : Stores s items)
include stores

theorem holds_eq (item : Value) : (string s).holds item = (array items).holds item := by
  unfold holds
  simp only [stores.elements]

theorem candidates_eq : (string s).candidates = (array items).candidates := by
  unfold candidates
  rw [stores.elements]
  rfl

theorem length_eq : Builtin.length (string s) = Builtin.length (array items) := by
  unfold Builtin.length
  simp only [stores.elements]

end Stores

end Value

namespace Condition

def withLeft (c : Condition) (t : Term) : Condition := { c with left := t }

def withRight (c : Condition) (t : Term) : Condition := { c with right := t }

theorem eval_withLeft_congr {source : Source Id} {scope : Scope} {t t' : Term}
    (same : ∀ depth, t.resolve source scope depth = t'.resolve source scope depth) (depth : Nat)
    (c : Condition) :
    (c.withLeft t).eval source scope depth = (c.withLeft t').eval source scope depth := by
  unfold eval evalOperator evalIn evalNull evalLike evalBetween evalContains evalAnyOf
    evalComparison resolveCandidates withLeft
  simp only [same]

theorem eval_withRight_congr {source : Source Id} {scope : Scope} {t t' : Term}
    (same : ∀ depth, t.resolve source scope depth = t'.resolve source scope depth) (depth : Nat)
    (c : Condition) :
    (c.withRight t).eval source scope depth = (c.withRight t').eval source scope depth := by
  unfold eval evalOperator evalIn evalNull evalLike evalBetween evalContains evalAnyOf
    evalComparison resolveCandidates withRight
  simp only [same]

/-- The operators that read an array and its text on their left alike. -/
def readsItems : Operator → Bool
  | .contains | .anyOf | .like | .isNull | .isNotNull => true
  | _ => false

section Stored

variable {s : String} {items : List Value} (source : Source Id) (scope : Scope) (depth : Nat)
  (c : Condition)

theorem evalNull_stored (s : String) (items : List Value) :
    (c.withLeft (.literal (.string s))).evalNull source scope depth =
      (c.withLeft (.literal (.array items))).evalNull source scope depth := by
  unfold evalNull withLeft
  simp only [Term.resolve_literal_bind]
  rfl

variable (stores : Value.Stores s items)
include stores

theorem evalContains_stored :
    (c.withLeft (.literal (.string s))).evalContains source scope depth =
      (c.withLeft (.literal (.array items))).evalContains source scope depth := by
  unfold evalContains withLeft
  simp only [Term.resolve_literal_bind, stores.holds_eq]

theorem evalLike_stored :
    (c.withLeft (.literal (.string s))).evalLike source scope depth =
      (c.withLeft (.literal (.array items))).evalLike source scope depth := by
  have text : (Value.string s).text = (Value.array items).text := stores.text
  unfold evalLike withLeft
  simp only [Term.resolve_literal_bind, text]
  rfl

theorem evalAnyOf_stored :
    (c.withLeft (.literal (.string s))).evalAnyOf source scope depth =
      (c.withLeft (.literal (.array items))).evalAnyOf source scope depth := by
  unfold evalAnyOf withLeft
  simp only [Term.resolve_literal_bind, stores.elements]
  rfl

theorem evalIn_stored (empty : c.candidates = []) :
    (c.withRight (.literal (.string s))).evalIn source scope depth =
      (c.withRight (.literal (.array items))).evalIn source scope depth := by
  unfold evalIn resolveCandidates withRight
  simp only [empty, List.isEmpty_nil, ↓reduceIte, Term.resolve_literal_bind, stores.candidates_eq]

theorem evalOperator_left_stored (reads : readsItems c.op = true) :
    (c.withLeft (.literal (.string s))).evalOperator source scope depth =
      (c.withLeft (.literal (.array items))).evalOperator source scope depth := by
  have isNull := evalNull_stored source scope depth c s items
  have contains := evalContains_stored source scope depth c stores
  have like := evalLike_stored source scope depth c stores
  have anyOf := evalAnyOf_stored source scope depth c stores
  obtain ⟨op, left, right, negate, candidates, lower, upper, pattern⟩ := c
  cases op with
  | contains => exact contains
  | anyOf => exact anyOf
  | like => exact like
  | isNull => exact isNull
  | isNotNull => exact congrArg (fun answer => (! ·) <$> answer) isNull
  | _ => cases reads

theorem evalOperator_right_stored (member : c.op = .isIn ∨ c.op = .notIn)
    (empty : c.candidates = []) :
    (c.withRight (.literal (.string s))).evalOperator source scope depth =
      (c.withRight (.literal (.array items))).evalOperator source scope depth := by
  have isIn := evalIn_stored source scope depth c stores empty
  obtain ⟨op, left, right, negate, candidates, lower, upper, pattern⟩ := c
  rcases member with eq | eq
  · cases eq
    exact isIn
  · cases eq
    exact congrArg (fun answer => (! ·) <$> answer) isIn

end Stored

end Condition

namespace Record

theorem Coherent.get?_stored {r : Record} (coherent : r.Coherent) {path s : String} {c : Cell}
    (found : r.cell? path = some c) (stored : c.raw = .string s) (bracketed : Bracketed s) :
    r.get? path = some (.string s) := by
  have value : c.value = .string s := by
    rw [(coherent.kept path c found).value_eq, Cell.bare, stored]
    cases c.declared with
    | none => exact Cell.value_typed_none _
    | some type =>
      rw [Cell.value_typed_some]
      exact bracketed.coerced_eq type
  rw [get?, found, Option.map_some, value]

/-- An array that is the last to be stored at a path is stored as its text. -/
theorem cell?_setFlat_array (r : Record) (entries : List (String × Value)) (path : String)
    (items : List Value) :
    (r.setFlat (entries ++ [(path, .array items)])).cell? path =
      some (.typed (.string (Value.array items).jsonText) (r.schema.find? path)) := by
  have last : Value.flattenAll (entries ++ [(path, .array items)]) =
      (Value.flattenAll entries).insert path (.string (Value.array items).jsonText) :=
    List.foldl_append
  unfold cell? setFlat replaceFields cellsOf
  rw [last, KeyMap.find?_mapValues, KeyMap.find?_insert_self, Option.map_some]

/-- A field that stores the text of an array is read as this array, whatever type is declared for
it: by the operators that look for items, patterns and null, and by the count of its items. -/
theorem stored_array_reads {r : Record} (reached : Reached r) {path : String} {c : Cell}
    {items : List Value} (found : r.cell? path = some c)
    (stored : c.raw = .string (Value.array items).jsonText) (ordered : (Value.array items).Ordered)
    (finite : (Value.array items).Finite) (fits : (Value.array items).nesting ≤ Json.maxLevels)
    (depth : Nat) :
    (∀ cond : Condition, Condition.readsItems cond.op = true →
      r.conditionAt depth (cond.withLeft (.property path)) =
        r.conditionAt depth (cond.withLeft (.literal (.array items)))) ∧
    (∀ cond : Condition, cond.op = .isIn ∨ cond.op = .notIn → cond.candidates = [] →
      r.conditionAt depth (cond.withRight (.property path)) =
        r.conditionAt depth (cond.withRight (.literal (.array items)))) ∧
    ∀ name, Builtin.ofName? name = some .len → r.scope.functions.get? name = none →
      r.termAt depth (.call name [.property path]) =
        r.termAt depth (.call name [.literal (.array items)]) := by
  have faithful := reached.coherent.toFaithful
  have stores := Value.stores_jsonText ordered finite fits
  have value := reached.coherent.get?_stored found stored (Value.bracketed_jsonText items)
  have field : ∀ depth, (Term.property path).resolve r.plainSource r.scope depth =
      (Term.literal (.string (Value.array items).jsonText)).resolve r.plainSource r.scope depth := by
    intro depth
    rw [Term.resolve_property, value, Option.getD_some]
  refine ⟨?_, ?_, ?_⟩
  · intro cond reads
    rw [faithful.conditionAt_eq, faithful.conditionAt_eq, Condition.eval_withLeft_congr field]
    unfold Condition.eval
    rw [Condition.evalOperator_left_stored r.plainSource r.scope (depth + 1) cond stores reads]
    rfl
  · intro cond member empty
    rw [faithful.conditionAt_eq, faithful.conditionAt_eq, Condition.eval_withRight_congr field]
    unfold Condition.eval
    rw [Condition.evalOperator_right_stored r.plainSource r.scope (depth + 1) cond stores member
      empty]
    rfl
  · intro name builtin unregistered
    have call : r.scope.functions.call name [.string (Value.array items).jsonText] =
        r.scope.functions.call name [.array items] := by
      unfold Registry.call
      rw [unregistered, builtin]
      exact stores.length_eq
    rw [faithful.termAt_eq, faithful.termAt_eq, Term.resolve_call_congr field,
      Term.resolve_call_literal, Term.resolve_call_literal, call]

theorem stored_array_reads_typed :
    ∃ r : Record, Reached r ∧ r.schema.find? "p" = some .bool ∧
      (∀ t, r.satisfiesCondition (.contains (.property "p") t) =
        r.satisfiesCondition (.contains (.literal (.array [.bool true, .array []])) t)) ∧
      (∀ t, r.satisfiesCondition (.compare t .notIn (.property "p")) =
        r.satisfiesCondition (.compare t .notIn (.literal (.array [.bool true, .array []])))) ∧
      r.resolve (.call "len" [.property "p"]) =
        r.resolve (.call "len" [.literal (.array [.bool true, .array []])]) := by
  let flat := ofFlat [("p", .array [.bool true, .array []])]
  have start : Reached flat := .ofFlat _
  have reached : Reached (flat.declareType "p" (some .bool)) :=
    .next (.declareType "p" (some .bool)) start
  have found := cell?_declareType_self flat "p" (some .bool)
  rw [show flat.cell? "p" = _ from cell?_setFlat_array empty [] "p" _, Option.map_some] at found
  obtain ⟨left, right, count⟩ := stored_array_reads reached found rfl
    ⟨trivial, trivial, trivial⟩ ⟨trivial, trivial, trivial⟩ (by decide) 0
  refine ⟨_, reached, rfl, ?_, ?_, ?_⟩
  · intro t
    rw [satisfiesCondition_eq, satisfiesCondition_eq]
    exact left (.contains (.property "p") t) rfl
  · intro t
    rw [satisfiesCondition_eq, satisfiesCondition_eq]
    exact right (.compare t .notIn (.property "p")) (Or.inr rfl) rfl
  · rw [resolve_eq, resolve_eq]
    exact count "len" (by decide) rfl

end Record

end FlatRecord
