import FlatRecord.Proofs.Evaluation.Correspondence
import FlatRecord.Proofs.Like.Cache
import FlatRecord.Record.Eval

namespace FlatRecord

namespace Cell

/-- A cell without the value that reads have kept in it. -/
def bare (c : Cell) : Cell := .typed c.raw c.declared

/-- What reads have kept in a cell is what another read would find. -/
def Kept (c : Cell) : Prop := ∀ v, c.memo = some v → v = c.bare.value

theorem kept_typed (raw : Value) (declared : Option FieldType) : (typed raw declared).Kept := by
  intro v h
  cases h

theorem raw_bare (c : Cell) : c.bare.raw = c.raw := rfl

theorem declared_bare (c : Cell) : c.bare.declared = c.declared := rfl

theorem Kept.value_eq {c : Cell} (kept : c.Kept) : c.value = c.bare.value := by
  obtain ⟨raw, declared, memo⟩ := c
  cases memo with
  | none => rfl
  | some v =>
    have eq : v = (typed raw declared).value := kept v rfl
    by_cases null : raw.isNull
    · simp [value, read, bare, typed, isNull, null]
    · cases declared with
      | none => simp [value, read, bare, typed, isNull, null]
      | some type =>
        by_cases known : type.isKnown
        · simpa [value, read, bare, typed, isNull, null, known] using eq
        · simp [value, read, bare, typed, isNull, null, known]

theorem bare_read (c : Cell) : c.read.2.bare = c.bare := by
  unfold read
  split
  · rfl
  · split
    · split
      · split <;> rfl
      · rfl
    · rfl

theorem Kept.read {c : Cell} (kept : c.Kept) : c.read.2.Kept := by
  obtain ⟨raw, declared, memo⟩ := c
  by_cases null : raw.isNull
  · simpa [Cell.read, isNull, null] using kept
  · cases declared with
    | none => simpa [Cell.read, isNull, null] using kept
    | some type =>
      by_cases known : type.isKnown
      · cases memo with
        | some v => simpa [Cell.read, isNull, null, known] using kept
        | none =>
          intro v h
          simp only [Cell.read, isNull, null, known, Bool.false_eq_true, ↓reduceIte,
            Option.some.injEq] at h
          simp [bare, typed, value, Cell.read, isNull, null, known, h]
      · simpa [Cell.read, isNull, null, known] using kept

theorem Kept.declare {c : Cell} (kept : c.Kept) (declared : Option FieldType) :
    (c.declare declared).Kept := by
  unfold Cell.declare
  split
  · exact kept
  · exact kept_typed c.raw declared

end Cell

namespace Record

/-- The record without what reads and queries have kept in it. -/
def bare (r : Record) : Record :=
  { r with fields := r.fields.mapValues fun _ c => c.bare, patterns := {} }

/-- What reads and queries have kept in a record is what they would find without it. -/
structure Faithful (r : Record) : Prop where
  kept : ∀ path c, r.cell? path = some c → c.Kept
  ready : r.patterns.Ready

theorem cell?_bare (r : Record) (path : String) : r.bare.cell? path = (r.cell? path).map Cell.bare :=
  KeyMap.find?_mapValues _ r.fields path

theorem schema_bare (r : Record) : r.bare.schema = r.schema := rfl

theorem scope_bare (r : Record) : r.bare.scope = r.scope := rfl

theorem kind?_bare (r : Record) (path : String) : r.bare.kind? path = r.kind? path := by
  unfold kind?
  rw [cell?_bare, Option.map_map]
  rfl

section Values

variable {r : Record} (faithful : r.Faithful)
include faithful

theorem Faithful.get?_eq (path : String) : r.get? path = r.bare.get? path := by
  unfold get?
  rw [cell?_bare, Option.map_map]
  cases found : r.cell? path with
  | none => rfl
  | some c => exact congrArg some (faithful.kept path c found).value_eq

theorem Faithful.toFlat_eq : r.toFlat = r.bare.toFlat := by
  apply KeyMap.ext_find?
  intro path
  have eq := faithful.get?_eq path
  unfold get? cell? at eq
  unfold toFlat
  rwa [KeyMap.find?_mapValues, KeyMap.find?_mapValues]

theorem Faithful.toMap_eq : r.toMap = r.bare.toMap := by
  unfold toMap
  rw [faithful.toFlat_eq]

theorem Faithful.plainSource_eq : r.plainSource = r.bare.plainSource := by
  unfold plainSource
  congr 1
  funext path
  rw [faithful.get?_eq]

end Values

theorem read_fst (r : Record) (path : String) : (r.read path).1 = r.get? path := by
  unfold read get?
  cases r.cell? path <;> rfl

theorem bare_read (r : Record) (path : String) : (r.read path).2.bare = r.bare := by
  unfold read
  cases found : r.cell? path with
  | none => rfl
  | some c =>
    unfold bare
    congr 1
    apply KeyMap.ext_find?
    intro other
    rw [KeyMap.find?_mapValues, KeyMap.find?_mapValues]
    by_cases eq : other = path
    · subst eq
      unfold cell? at found
      rw [KeyMap.find?_insert_self, found, Option.map_some, Option.map_some, Cell.bare_read]
    · rw [KeyMap.find?_insert_of_ne _ eq]

theorem Faithful.read {r : Record} (faithful : r.Faithful) (path : String) :
    (r.read path).2.Faithful := by
  unfold Record.read
  cases found : r.cell? path with
  | none => exact faithful
  | some c =>
    refine ⟨?_, faithful.ready⟩
    intro other d h
    by_cases eq : other = path
    · subst eq
      have same : c.read.2 = d := by simpa [cell?] using h
      rw [← same]
      exact (faithful.kept other c found).read
    · have old : r.cell? other = some d := by
        simpa [cell?, KeyMap.find?_insert_of_ne _ eq] using h
      exact faithful.kept other d old

theorem Faithful.withPatterns {r : Record} (faithful : r.Faithful) {patterns : Like.Cache Regex.Engine.plain}
    (ready : patterns.Ready) : { r with patterns := patterns }.Faithful :=
  ⟨faithful.kept, ready⟩

/-- Evaluations on a record that give what the evaluations beside them give, and leave the
record as it was but for what it keeps. -/
def keeping (base : Record) : Correspondence (StateM Record) Id where
  Related e x := ∀ r : Record, r.Faithful → r.bare = base →
    ((e.run).run r).1 = x.run ∧ ((e.run).run r).2.Faithful ∧ ((e.run).run r).2.bare = base
  pure _ _ faithful same := ⟨rfl, faithful, same⟩
  throw _ _ faithful same := ⟨rfl, faithful, same⟩
  bind := by
    intro α β x y f g hx hf r faithful same
    obtain ⟨answer, faithful', same'⟩ := hx r faithful same
    rcases out : (x.run).run r with ⟨result, after⟩
    rw [out] at answer faithful' same'
    cases result with
    | ok a =>
      have left : ((x >>= f).run).run r = ((f a).run).run after := by
        rw [ExceptT.run_bind, StateT.run_bind, out]
        rfl
      have right : (y >>= g).run = (g a).run := by
        rw [ExceptT.run_bind, ← answer]
        rfl
      rw [left, right]
      exact hf a after faithful' same'
    | error e =>
      have left : ((x >>= f).run).run r = (.error e, after) := by
        rw [ExceptT.run_bind, StateT.run_bind, out]
        rfl
      have right : (y >>= g).run = Except.error e := by
        rw [ExceptT.run_bind, ← answer]
        rfl
      rw [left, right]
      exact ⟨rfl, faithful', same'⟩

/-- The source that keeps values and patterns corresponds to the one that keeps nothing. -/
theorem keeping_agreement (base : Record) (scope : Scope) (paths names : List String) :
    (keeping base).Agreement source base.plainSource scope scope paths names where
  field := by
    intro path _ r faithful same
    refine ⟨?_, faithful.read path, (bare_read r path).trans same⟩
    have value : (r.read path).1 = base.get? path := by
      rw [read_fst, faithful.get?_eq, same]
    exact congrArg (fun v => Except.ok (v.getD .null)) value
  like := by
    intro mode text pattern r faithful same
    obtain ⟨answer, ready⟩ := faithful.ready.test mode text pattern
    exact ⟨answer, faithful.withPatterns ready, same⟩
  config := rfl
  functions := rfl
  bindings _ _ := rfl

section Kept

variable (base : Record) (scope : Scope) (depth : Nat)

theorem query_kept (q : Query) :
    (keeping base).Related (q.eval source scope depth) (q.eval base.plainSource scope depth) :=
  Correspondence.query_related (keeping_agreement base scope q.paths q.names) depth q
    (List.Subset.refl _) (List.Subset.refl _)

theorem condition_kept (c : Condition) :
    (keeping base).Related (c.eval source scope depth) (c.eval base.plainSource scope depth) :=
  Correspondence.condition_related (keeping_agreement base scope c.paths c.names)
    (List.Subset.refl _) (List.Subset.refl _) depth

theorem term_kept (t : Term) :
    (keeping base).Related (t.resolve source scope depth) (t.resolve base.plainSource scope depth) :=
  Correspondence.resolve_related (keeping_agreement base scope t.paths t.names) depth t
    (List.Subset.refl _) (List.Subset.refl _)

end Kept

/-- The answer to a query by a reader that keeps nothing. -/
def answer (r : Record) (q : Query) : Except EvalError Bool :=
  (q.eval r.plainSource r.scope 0).run

/-- The answer to a condition that stands at the given depth of a query. -/
def conditionAt (r : Record) (depth : Nat) (c : Condition) : Except EvalError Bool :=
  (r.run fun scope => c.eval source scope depth).1

/-- The value of a term that stands at the given depth of a query. -/
def termAt (r : Record) (depth : Nat) (t : Term) : Except EvalError Value :=
  (r.run fun scope => t.resolve source scope depth).1

theorem satisfiesCondition_eq (r : Record) (c : Condition) :
    r.satisfiesCondition c = r.conditionAt 0 c := rfl

theorem resolve_eq (r : Record) (t : Term) : r.resolve t = r.termAt 0 t := rfl

section Evaluation

variable {r : Record} (faithful : r.Faithful)
include faithful

/-- A query is answered as by a reader that keeps nothing. -/
theorem Faithful.satisfies_eq (q : Query) : r.satisfies q = r.answer q := by
  have kept := query_kept r.bare r.scope 0 q r faithful rfl
  unfold answer
  rw [faithful.plainSource_eq]
  exact kept.1

theorem Faithful.conditionAt_eq (depth : Nat) (c : Condition) :
    r.conditionAt depth c = (c.eval r.plainSource r.scope depth).run := by
  have kept := condition_kept r.bare r.scope depth c r faithful rfl
  rw [faithful.plainSource_eq]
  exact kept.1

theorem Faithful.termAt_eq (depth : Nat) (t : Term) :
    r.termAt depth t = (t.resolve r.plainSource r.scope depth).run := by
  have kept := term_kept r.bare r.scope depth t r faithful rfl
  rw [faithful.plainSource_eq]
  exact kept.1

theorem Faithful.evalQuery (q : Query) :
    (r.evalQuery q).2.Faithful ∧ (r.evalQuery q).2.bare = r.bare :=
  (query_kept r.bare r.scope 0 q r faithful rfl).2

theorem Faithful.evalCondition (c : Condition) :
    (r.evalCondition c).2.Faithful ∧ (r.evalCondition c).2.bare = r.bare :=
  (condition_kept r.bare r.scope 0 c r faithful rfl).2

theorem Faithful.evalTerm (t : Term) :
    (r.evalTerm t).2.Faithful ∧ (r.evalTerm t).2.bare = r.bare :=
  (term_kept r.bare r.scope 0 t r faithful rfl).2

end Evaluation

end Record

end FlatRecord
