import FlatRecord.Proofs.Json.RoundTrip

namespace FlatRecord

namespace Json

theorem readValue?_array_zero (cs : List Char) : readValue? 0 ('[' :: cs) = none := by
  rw [readValue?.eq_def]
  simp only [skipSpace_cons (c := '[') (by decide)]

theorem readValue?_object_zero (cs : List Char) : readValue? 0 ('{' :: cs) = none := by
  rw [readValue?.eq_def]
  simp only [skipSpace_cons (c := '{') (by decide)]

section Failures

variable {item : List Char → Option (Json × List Char)} (fuel : Nat) {cs : List Char}

theorem readItems_failed (failed : item cs = none) : readItems item fuel cs = none := by
  cases fuel with
  | zero => rfl
  | succ fuel =>
    rw [readItems, failed]
    rfl

theorem readEntries_failed (key : String) (failed : item cs = none) :
    readEntries item fuel (stringChars key ++ ':' :: cs) = none := by
  cases fuel with
  | zero => rfl
  | succ fuel =>
    rw [entry_text, readEntries]
    simp only [skipSpace_cons (c := '"') (by decide), readString?_stringChars, failed,
      skipSpace_cons (c := ':') (by decide), Option.bind_eq_bind, Option.bind_some,
      Option.bind_none]

end Failures

mutual

/-- What nests deeper than a reader allows is refused. All that stands before the first part that
is too deep is read without fault. -/
theorem readValue?_deep : ∀ json : Json, json.Bounded → ∀ (levels : Nat) (rest : List Char),
    levels < json.nesting → readValue? levels (json.chars ++ rest) = none
  | .null, _, _, _, deep => absurd deep (Nat.not_lt_zero _)
  | .bool _, _, _, _, deep => absurd deep (Nat.not_lt_zero _)
  | .int _, _, _, _, deep => absurd deep (Nat.not_lt_zero _)
  | .float _, _, _, _, deep => absurd deep (Nat.not_lt_zero _)
  | .string _, _, _, _, deep => absurd deep (Nat.not_lt_zero _)
  | .array items, bounded, levels, rest, deep => by
    rw [nesting] at deep
    rw [array_text]
    cases levels with
    | zero => exact readValue?_array_zero _
    | succ inner =>
      have within : inner < nestingItems items := Nat.lt_of_succ_lt_succ deep
      have some : items ≠ [] := by
        rintro rfl
        exact Nat.not_lt_zero _ within
      have read := readItems_deep items bounded inner
        (commaSeparated (itemChars items) ++ ']' :: rest).length rest within
      obtain ⟨c, cs, first, solid, more, _⟩ := exists_opening_items some
      rw [first, List.cons_append] at read ⊢
      rw [readValue?_array inner solid more, read]
      rfl
  | .object entries, bounded, levels, rest, deep => by
    rw [nesting] at deep
    rw [object_text]
    cases levels with
    | zero => exact readValue?_object_zero _
    | succ inner =>
      have within : inner < nestingEntries entries := Nat.lt_of_succ_lt_succ deep
      have some : entries ≠ [] := by
        rintro rfl
        exact Nat.not_lt_zero _ within
      have read := readEntries_deep entries bounded inner
        (commaSeparated (entryChars entries) ++ '}' :: rest).length rest within
      obtain ⟨cs, first⟩ := exists_quote_entries some
      rw [first, List.cons_append] at read ⊢
      rw [readValue?_object inner (by decide) (by decide), read]
      rfl
termination_by structural json => json

theorem readItems_deep : ∀ items : List Json, BoundedItems items →
    ∀ (levels fuel : Nat) (rest : List Char), levels < nestingItems items →
      readItems (readValue? levels) fuel (commaSeparated (itemChars items) ++ ']' :: rest) = none
  | [], _, _, _, _, deep => absurd deep (Nat.not_lt_zero _)
  | item :: items, bounded, levels, fuel, rest, deep => by
    rw [nestingItems] at deep
    -- Either this item is too deep, or it is read and a later one is too deep.
    by_cases here : levels < item.nesting
    · have failed := fun tail => readValue?_deep item bounded.1 levels tail here
      cases items with
      | nil =>
        rw [items_text_last]
        exact readItems_failed fuel (failed _)
      | cons next items =>
        rw [items_text_more]
        exact readItems_failed fuel (failed _)
    · have first := fun tail => readValue?_chars item bounded.1 levels tail (Nat.le_of_not_lt here)
      have further : levels < nestingItems items := by omega
      have others := fun fuel => readItems_deep items bounded.2 levels fuel rest further
      cases items with
      | nil => exact absurd further (Nat.not_lt_zero _)
      | cons next items =>
        cases fuel with
        | zero => rfl
        | succ fuel =>
          rw [items_text_more, readItems_more fuel (first _ (closed_cons (by simp) _)), others]
          rfl
termination_by structural items => items

theorem readEntries_deep : ∀ entries : List (String × Json), BoundedEntries entries →
    ∀ (levels fuel : Nat) (rest : List Char), levels < nestingEntries entries →
      readEntries (readValue? levels) fuel (commaSeparated (entryChars entries) ++ '}' :: rest) =
        none
  | [], _, _, _, _, deep => absurd deep (Nat.not_lt_zero _)
  | (key, item) :: entries, bounded, levels, fuel, rest, deep => by
    rw [nestingEntries] at deep
    by_cases here : levels < item.nesting
    · have failed := fun tail => readValue?_deep item bounded.1 levels tail here
      cases entries with
      | nil =>
        rw [entries_text_last]
        exact readEntries_failed fuel key (failed _)
      | cons next entries =>
        rw [entries_text_more]
        exact readEntries_failed fuel key (failed _)
    · have first := fun tail => readValue?_chars item bounded.1 levels tail (Nat.le_of_not_lt here)
      have further : levels < nestingEntries entries := by omega
      have others := fun fuel => readEntries_deep entries bounded.2 levels fuel rest further
      cases entries with
      | nil => exact absurd further (Nat.not_lt_zero _)
      | cons next entries =>
        cases fuel with
        | zero => rfl
        | succ fuel =>
          rw [entries_text_more, readEntries_more fuel key (first _ (closed_cons (by simp) _)),
            others]
          rfl
termination_by structural entries => entries

end

/-- The text of a document that nests deeper than a reader allows is refused. -/
theorem readWithin?_render_deep {json : Json} {levels : Nat} (bounded : json.Bounded)
    (deep : levels < json.nesting) : readWithin? levels json.render = none := by
  have failed := readValue?_deep json bounded levels [] deep
  rw [List.append_nil] at failed
  rw [readWithin?, render, String.toList_ofList, failed]

end Json

end FlatRecord
