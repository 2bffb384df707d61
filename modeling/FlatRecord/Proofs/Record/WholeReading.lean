import FlatRecord.Proofs.Record.Reload
import FlatRecord.Proofs.Record.Resolved
import FlatRecord.Proofs.Value.Whole
import FlatRecord.Record.Typed

namespace FlatRecord

theorem IntType.natAbs_le_of_holds {type : IntType} (narrow : type.bits ≤ 32) {n : Int}
    (held : type.holds n = true) : n.natAbs ≤ twoTo 32 := by
  have half : twoTo (type.bits - 1) ≤ twoTo 32 := twoTo_le (by omega)
  have whole : twoTo type.bits ≤ twoTo 32 := twoTo_le narrow
  unfold holds at held
  split at held
  all_goals
    rw [decide_eq_true_iff] at held
    omega

namespace Value

/-- What a narrow type holds lies far within the range, so its ends are no answers there. -/
theorem inInt64_of_narrow {type : IntType} (narrow : type.bits ≤ 32) {m : Int}
    (holds : type.holds m = true ∨ type.holds (saturate m).toInt = true) : InInt64 m := by
  have narrowLimit : twoTo 32 = 2 ^ 32 := rfl
  have limit : twoTo 63 = 2 ^ 63 := rfl
  have held : m.natAbs ≤ twoTo 32 ∨ (saturate m).toInt.natAbs ≤ twoTo 32 :=
    holds.imp (IntType.natAbs_le_of_holds narrow) (IntType.natAbs_le_of_holds narrow)
  rw [toInt_saturate, Int64.toInt_minValue, Int64.toInt_maxValue] at held
  rw [inInt64_iff]
  omega

end Value

namespace Shape

theorem readValue_int {type : IntType} {v : Value} {d : Datum} :
    (int type).readValue v = .ok d ↔
      ∃ n, v.toInt64 = .ok n ∧ type.holds n.toInt = true ∧ d = .int n.toInt := by
  rw [readValue, read, Reader.int]
  cases v.toInt64 with
  | ok n =>
    by_cases holds : type.holds n.toInt = true
    · simp only [holds, ↓reduceIte, Except.ok.injEq, exists_eq_left', true_and]
      exact eq_comm
    · simp only [holds, Bool.false_eq_true, ↓reduceIte, Except.ok.injEq, exists_eq_left', false_and,
        reduceCtorEq]
  | error e => simp only [reduceCtorEq, false_and, exists_false]

/-- Read as an integer type, a value gives the number it holds or nothing. -/
theorem readValue_int_whole {type : IntType} {v : Value} (safe : v.Fits ∨ type.bits ≤ 32)
    {d : Datum} : (int type).readValue v = .ok d ↔
      ∃ m, v.whole? = some m ∧ type.holds m = true ∧ d = .int m := by
  have exact : ∀ m, v.whole? = some m →
      type.holds m = true ∨ type.holds (Value.saturate m).toInt = true →
      (Value.saturate m).toInt = m := by
    intro m held holds
    apply Value.toInt_saturate_of_inInt64
    exact safe.elim (fun fits => fits m held) fun narrow => Value.inInt64_of_narrow narrow holds
  rw [readValue_int]
  constructor
  · rintro ⟨n, read, holds, rfl⟩
    obtain ⟨m, held, rfl⟩ := Value.toInt64_eq_ok_iff.mp read
    have same := exact m held (.inr holds)
    rw [same] at holds ⊢
    exact ⟨m, held, holds, rfl⟩
  · rintro ⟨m, held, holds, rfl⟩
    have same := exact m held (.inl holds)
    refine ⟨Value.saturate m, Value.toInt64_eq_ok_iff.mpr ⟨m, held, rfl⟩, ?_, ?_⟩
    · rwa [same]
    · rw [same]

end Shape

/-- A value that is declared an integer is the number that it holds, or stays as it is. -/
theorem Cell.coerced_int {v : Value} (fits : v.Fits) {w : Value} : coerced v .int = w ↔
    (∃ n, w = .int n ∧ v.whole? = some n.toInt) ∨ v.whole? = none ∧ w = v := by
  cases result : v.coerce .int with
  | ok u =>
    rw [coerced, result]
    rcases fits.coerce_int_eq_ok_iff.mp result with ⟨rfl, rfl⟩ | ⟨n, rfl, held⟩
    · simp [Except.toOption, eq_comm]
    · rw [held]
      constructor
      · rintro rfl
        exact .inl ⟨n, rfl, rfl⟩
      · rintro (⟨k, rfl, same⟩ | ⟨nothing, _⟩)
        · rw [Int64.toInt_inj.mp (Option.some.inj same)]
          rfl
        · cases nothing
  | error e =>
    have nothing : v.whole? = none := by
      apply Option.eq_none_iff_forall_ne_some.mpr
      intro m held
      have number := Value.toInt_saturate_of_inInt64 (fits m held)
      have done := fits.coerce_int_eq_ok_iff.mpr (.inr ⟨Value.saturate m, rfl, by rw [number, held]⟩)
      rw [result] at done
      cases done
    rw [coerced, result, nothing]
    simp [Except.toOption, eq_comm]

namespace Record

/-- An integer is read from a value as the whole number that it holds, if this lies within the
64-bit integers: from a field, by a declaration, by a cast and by a typed read, which needs no such
condition for a narrow type. What lies beyond is read as the nearer end of the range. -/
theorem integers_read_whole {r : Record} (reached : Reached r) :
    (∀ (v : Value) (x : Binary64), v.FloatOnly x → v.whole? = x.truncate?) ∧
    (∀ (v : Value) (n : Int64), v.Fits → (v.toInt64 = .ok n ↔ v.whole? = some n.toInt)) ∧
    (∀ (v : Value) (m : Int), v.whole? = some m → ¬InInt64 m →
      v.toInt64 = .ok (if m < 0 then Int64.minValue else Int64.maxValue)) ∧
    (∀ path c n, r.cell? path = some c → c.value.Fits →
      (c.toInt64 = .ok n ↔ c.value.whole? = some n.toInt)) ∧
    (∀ path c v, r.cell? path = some c → r.schema.find? path = some .int → c.raw.Fits →
      (r.get? path = some v ↔
        (∃ n, v = .int n ∧ c.raw.whole? = some n.toInt) ∨ c.raw.whole? = none ∧ v = c.raw)) ∧
    (∀ depth t v target w, r.termAt (depth + 1) t = .ok v → FieldType.ofName target = .int →
      v.Fits → (r.termAt depth (.cast target t) = .ok w ↔
        v = .null ∧ w = .null ∨ ∃ n, w = .int n ∧ v.whole? = some n.toInt)) ∧
    ∀ type v d, v.Fits ∨ type.bits ≤ 32 → ((Shape.int type).readValue v = .ok d ↔
      ∃ m, v.whole? = some m ∧ type.holds m = true ∧ d = .int m) := by
  refine ⟨?float, ?value, ?beyond, ?field, ?declared, ?cast, ?typed⟩
  case float => exact fun v x only => only.whole?_eq
  case value => exact fun v n fits => fits.toInt64_eq_ok_iff
  case beyond =>
    intro v m held far
    exact Value.toInt64_eq_ok_iff.mpr ⟨m, held, Value.saturate_of_not_inInt64 far⟩
  case field => exact fun path c n _ fits => fits.toInt64_eq_ok_iff
  case declared =>
    intro path c v found declared fits
    have value : c.value = Cell.coerced c.raw .int := by
      rw [reached.coherent.cell_eq found, declared, Cell.value_typed_some]
    rw [get?, found, Option.map_some, Option.some.injEq, value, Cell.coerced_int fits]
  case cast =>
    intro depth t v target w operand named fits
    have known : (FieldType.ofName target).isKnown = true := by
      rw [named]
      rfl
    rw [reached.coherent.toFaithful.termAt_cast operand known, named, ← fits.coerce_int_eq_ok_iff]
    cases v.coerce .int <;> simp [Except.mapError]
  case typed => exact fun type v d safe => Shape.readValue_int_whole safe

/-- A decimal text that fits, and a float just beyond the range. -/
theorem integers_read_whole_text :
    ∃ (r : Record) (t : Value) (x : Binary64), Reached r ∧ t = .string " 2.9e3 " ∧
      x.truncate? = some 9223372036854775808 ∧ r.get? "n" = some (.int 2900) ∧
      t.toInt64 = .ok 2900 ∧ r.termAt 0 (.cast "long" (.literal t)) = .ok (.int 2900) ∧
      (Shape.int ⟨false, 16⟩).readValue t = .ok (.int 2900) ∧
      (Value.float x).toInt64 = .ok Int64.maxValue ∧
      ∀ d, (Shape.int ⟨true, 8⟩).readValue (.float x) ≠ .ok d := by
  let t : Value := .string " 2.9e3 "
  let x : Binary64 := .ofInt 9223372036854775808
  let flat := ofFlat [("n", t)]
  have start : Reached flat := .ofFlat _
  have reached : Reached (flat.declareType "n" (some .int)) :=
    .next (.declareType "n" (some .int)) start
  obtain ⟨float, value, beyond, -, declared, cast, typed⟩ := integers_read_whole reached
  have held : t.whole? = some 2900 := by decide +kernel
  have fits : t.Fits := by
    intro m eq
    rw [held] at eq
    cases eq
    decide
  have whole : x.truncate? = some 9223372036854775808 :=
    Binary64.truncate?_ofInt ⟨1, 63, by decide, by decide⟩ (by decide)
  have far := (float _ _ (.float x)).trans whole
  have found := cell?_declareType_self flat "n" (some .int)
  rw [show flat.cell? "n" = some (.typed t none) from rfl, Option.map_some] at found
  refine ⟨_, t, x, reached, rfl, whole, ?_, ?_, ?_, ?_, ?_, ?_⟩
  · exact (declared "n" _ _ found rfl fits).mpr (.inl ⟨2900, rfl, held⟩)
  · exact (value t 2900 fits).mpr held
  · exact (cast 0 (.literal t) t "long" _ rfl rfl fits).mpr (.inr ⟨2900, rfl, held⟩)
  · exact (typed ⟨false, 16⟩ t _ (.inl fits)).mpr ⟨2900, held, rfl, rfl⟩
  · exact beyond _ _ far (by decide)
  · intro d read
    obtain ⟨m, number, holds, _⟩ := (typed ⟨true, 8⟩ _ d (.inr (by decide))).mp read
    rw [far] at number
    cases number
    cases holds

end Record

end FlatRecord
