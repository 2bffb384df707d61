import FlatRecord.Proofs.Json.Nesting
import FlatRecord.Proofs.Value.JsonText

namespace FlatRecord

namespace Value

mutual

/-- The document of a value is written as the value is written directly. -/
theorem chars_toJson : ∀ v : Value, v.toJson.chars = v.jsonChars
  | .null => rfl
  | .bool _ => rfl
  | .int _ => rfl
  | .string _ => rfl
  | .float x => by cases x <;> rfl
  | .array [] => rfl
  | .array (v :: rest) => by
    have tail := commaSeparated_itemsRest rest v.toJson.chars
    rw [chars_toJson v] at tail
    rw [toJson, toJsonItems, Json.chars, Json.itemChars, chars_toJson v, jsonChars, itemsTail, tail]
  | .object [] => rfl
  | .object ((key, v) :: rest) => by
    have tail := commaSeparated_entriesRest rest (Json.stringChars key ++ ':' :: v.toJson.chars)
    rw [chars_toJson v, List.append_assoc] at tail
    rw [toJson, toJsonEntries, Json.chars, Json.entryChars, chars_toJson v, jsonChars, entriesTail,
      tail]
    rfl
termination_by structural v => v

theorem commaSeparated_itemsRest : ∀ (items : List Value) (first : List Char),
    Json.commaSeparated (first :: Json.itemChars (toJsonItems items)) ++ [']'] =
      first ++ itemsRest items
  | [], _ => rfl
  | v :: rest, first => by
    have tail := commaSeparated_itemsRest rest v.toJson.chars
    rw [chars_toJson v] at tail
    rw [toJsonItems, Json.itemChars, chars_toJson v, Json.commaSeparated, List.append_assoc,
      List.cons_append, tail, itemsRest]
    · simp
termination_by structural items => items

theorem commaSeparated_entriesRest : ∀ (entries : List (String × Value)) (first : List Char),
    Json.commaSeparated (first :: Json.entryChars (toJsonEntries entries)) ++ ['}'] =
      first ++ entriesRest entries
  | [], _ => rfl
  | (key, v) :: rest, first => by
    have tail := commaSeparated_entriesRest rest (Json.stringChars key ++ ':' :: v.toJson.chars)
    rw [chars_toJson v, List.append_assoc] at tail
    rw [toJsonEntries, Json.entryChars, chars_toJson v, Json.commaSeparated, List.append_assoc,
      List.cons_append, tail, entriesRest]
    · rfl
    · simp
termination_by structural entries => entries

end

theorem jsonText_eq_writeJson (v : Value) : v.jsonText = v.writeJson :=
  congrArg String.ofList (chars_toJson v)

theorem readJson?_jsonText_deep {v : Value} (deep : Json.maxLevels < v.nesting) :
    readJson? v.jsonText = none := by
  rw [← nesting_toJson] at deep
  have refused := Json.readWithin?_render_deep (bounded_toJson v) deep
  rw [readJson?, jsonText, Json.read?, refused, Option.map_none]

/-- A value is read back from its text with null for the floats that are not finite and else as it
was, unless it nests deeper than a reader allows, and it has one text by both ways of writing it. -/
theorem jsonText_round_trip (v : Value) :
    (v.Ordered → v.nesting ≤ Json.maxLevels → readJson? v.jsonText = some v.printed) ∧
    (Json.maxLevels < v.nesting → readJson? v.jsonText = none) ∧
    v.jsonText = v.writeJson :=
  ⟨readJson?_jsonText, readJson?_jsonText_deep, jsonText_eq_writeJson v⟩

theorem jsonText_round_trip_mixed :
    ∃ (v read deep : Value) (one : Binary64), one = .finite false ⟨0x3ff0000000000000, by decide⟩ ∧
      v = .object [("\"\n", .string "\x01é"),
        ("a.b", .array [.int 1, .float one, .float (.zero true), .float .nan])] ∧
      read = .object [("\"\n", .string "\x01é"),
        ("a.b", .array [.int 1, .float one, .float (.zero true), .null])] ∧
      readJson? v.jsonText = some read ∧
      deep = Nat.repeat (fun v => .array [v]) 128 .null ∧ readJson? deep.jsonText = none := by
  let one : Binary64 := .finite false ⟨0x3ff0000000000000, by decide⟩
  let v : Value := .object [("\"\n", .string "\x01é"),
    ("a.b", .array [.int 1, .float one, .float (.zero true), .float .nan])]
  let deep : Value := Nat.repeat (fun v => .array [v]) 128 .null
  have ordered : v.Ordered := by
    simp only [v, Ordered, OrderedItems, OrderedEntries, Entries.Ascending]
    decide
  have levels : ∀ n, (Nat.repeat (fun v => array [v]) n null).nesting = n := by
    intro n
    induction n with
    | zero => rfl
    | succ n ih => rw [Nat.repeat, nesting, nestingItems, nestingItems, ih, Nat.max_zero]
  have beyond : Json.maxLevels < deep.nesting := by
    rw [levels 128]
    decide
  exact ⟨v, _, deep, one, rfl, rfl, rfl, (jsonText_round_trip v).1 ordered (by decide), rfl,
    (jsonText_round_trip deep).2.1 beyond⟩

end Value

end FlatRecord
