import FlatRecord.Proofs.Record.Coherent
import FlatRecord.Proofs.Shape.Flattened

namespace FlatRecord

namespace Record

theorem toFlat_replaceFields (flat : FlatMap) : (empty.replaceFields flat).toFlat = flat := by
  have undeclared : ∀ path, empty.schema.find? path = none := fun _ => rfl
  apply KeyMap.ext_find?
  intro path
  unfold toFlat replaceFields cellsOf
  rw [KeyMap.find?_mapValues, KeyMap.find?_mapValues, Option.map_map]
  cases flat.find? path with
  | none => rfl
  | some raw =>
    rw [Option.map_some, Function.comp_apply, undeclared, Cell.value_typed_none]

/-- Data that is stored and read as a type gives what reading it directly gives, and fails where
that fails, although its arrays have been stored as texts. -/
theorem readAs_ofValue {entries : List (String × Value)} {shape : Shape}
    (ordered : (Value.object entries).Ordered) (dotless : (Value.object entries).Dotless)
    (filled : Value.FilledEntries entries) (printable : (Value.object entries).Printable)
    (directed : shape.Directed) (unclashing : shape.Unclashing (.object entries)) :
    ∃ r, Record.ofValue (.object entries) = .ok r ∧
      ∀ d, r.readAs shape = .ok d ↔ shape.readValue (.object entries) = .ok d := by
  obtain ⟨flat, flattened, perm⟩ := Value.flatten_perm ordered dotless
  have storable : (Value.object entries).Storable := by
    refine ⟨ordered, ?_, printable⟩
    intro others eq
    cases eq
    exact filled
  refine ⟨empty.replaceFields flat, setData_eq_ok_iff.mpr ⟨flat, flattened, rfl⟩, ?_⟩
  unfold readAs toMap Shape.readValue
  rw [toFlat_replaceFields, Value.unflatten_eq_normal ordered perm]
  exact Shape.read_normal shape directed _ storable unclashing []

theorem readAs_ofValue_flags :
    ∃ r, Record.ofValue (.object [("flags", .array [.bool true]), ("name", .string "x")]) = .ok r ∧
      r.readAs (.fields (.named "T") false
        [⟨"flags", .option (.list .bool), none, false⟩, ⟨"name", .text, none, false⟩]) =
          .ok (.fields [("flags", .present (.list [.bool true])), ("name", .text "x")]) := by
  let entries : List (String × Value) := [("flags", .array [.bool true]), ("name", .string "x")]
  let shape : Shape := .fields (.named "T") false
    [⟨"flags", .option (.list .bool), none, false⟩, ⟨"name", .text, none, false⟩]
  have ordered : (Value.object entries).Ordered := by
    simp only [entries, Value.Ordered, Value.OrderedEntries, Value.OrderedItems, Entries.Ascending]
    decide
  have dotless : (Value.object entries).Dotless := by
    simp [entries, Value.Dotless, Value.DotlessEntries]
  have printable : (Value.object entries).Printable := by
    simp [entries, Value.Printable, Value.PrintableEntries, Value.Finite, Value.FiniteItems,
      Value.nesting, Value.nestingItems, Json.maxLevels]
  have directed : shape.Directed := by
    simp [shape, Shape.Directed, Shape.DirectedFields]
  have unclashing : shape.Unclashing (.object entries) := by
    intro below meets
    simp only [shape, entries] at meets
    cases meets with
    | field mem found inner =>
      simp only [List.mem_cons, List.not_mem_nil, or_false] at mem
      rcases mem with rfl | rfl
      · cases found
        cases inner with
        | option inner => cases inner
      · cases found
        cases inner
  obtain ⟨r, made, same⟩ := readAs_ofValue ordered dotless ⟨trivial, trivial, trivial⟩ printable
    directed unclashing
  exact ⟨r, made, (same _).mpr rfl⟩

end Record

end FlatRecord
