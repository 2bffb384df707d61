import FlatRecord.Proofs.Json.Number

namespace FlatRecord

namespace Json

theorem hexValue?_hexDigit {d : Nat} (h : d < 16) : hexValue? (hexDigit d) = some d := by
  have digits : ∀ d : Fin 16, hexValue? (hexDigit d.val) = some d.val := by decide
  exact digits ⟨d, h⟩

theorem readUnit?_control {c : Char} (control : c.toNat < 0x20) (rest : List Char) :
    readUnit? ('0' :: '0' :: hexDigit (c.toNat / 16) :: hexDigit (c.toNat % 16) :: rest) =
      some (c, rest) := by
  have zero : hexValue? '0' = some 0 := by decide
  have high := hexValue?_hexDigit (d := c.toNat / 16) (by omega)
  have low := hexValue?_hexDigit (d := c.toNat % 16) (by omega)
  have unit : ((0 * 16 + 0) * 16 + c.toNat / 16) * 16 + c.toNat % 16 = c.toNat := by omega
  unfold readUnit? readHex?
  simp only [zero, high, low, Option.bind_eq_bind, Option.bind_some, Option.pure_def, unit]
  rw [if_neg (by omega), if_neg (by omega), Char.ofNat_toNat]

/-- What a character is written as is read as this character. -/
theorem readStringTail_escapeChar (fuel : Nat) (c : Char) (rest : List Char) :
    readStringTail (fuel + 1) (escapeChar c ++ rest) =
      (readStringTail fuel rest).map fun r => (c :: r.1, r.2) := by
  have pair : ∀ tail : Option (List Char × List Char),
      (tail.bind fun r => some (c :: r.1, r.2)) = tail.map fun r => (c :: r.1, r.2) := by
    intro tail
    cases tail <;> rfl
  unfold escapeChar
  split
  next eq => subst eq; simp [readStringTail, readEscape?, pair]
  split
  next eq => subst eq; simp [readStringTail, readEscape?, pair]
  split
  next eq => subst eq; simp [readStringTail, readEscape?, pair]
  split
  next eq => subst eq; simp [readStringTail, readEscape?, pair]
  split
  next eq => subst eq; simp [readStringTail, readEscape?, pair]
  split
  next eq => subst eq; simp [readStringTail, readEscape?, pair]
  split
  next eq => subst eq; simp [readStringTail, readEscape?, pair]
  split
  next control =>
    simp [readStringTail, readEscape?, readUnit?_control control, pair]
  next quote slash _ _ _ _ _ control =>
    simp [readStringTail, quote, slash, control, pair]

theorem escapeChar_ne_nil (c : Char) : escapeChar c ≠ [] := by
  unfold escapeChar
  repeat' split
  all_goals simp

theorem length_le_escaped (cs : List Char) : cs.length ≤ (cs.flatMap escapeChar).length := by
  induction cs with
  | nil => exact Nat.le_refl _
  | cons c cs ih =>
    have some : 0 < (escapeChar c).length := List.length_pos_iff.mpr (escapeChar_ne_nil c)
    rw [List.flatMap_cons, List.length_append, List.length_cons]
    omega

theorem readStringTail_escaped (cs rest : List Char) {fuel : Nat} (enough : cs.length < fuel) :
    readStringTail fuel (cs.flatMap escapeChar ++ '"' :: rest) = some (cs, rest) := by
  induction cs generalizing fuel with
  | nil =>
    cases fuel with
    | zero => cases enough
    | succ fuel => rfl
  | cons c cs ih =>
    cases fuel with
    | zero => cases enough
    | succ fuel =>
      rw [List.flatMap_cons, List.append_assoc, readStringTail_escapeChar,
        ih (Nat.lt_of_succ_lt_succ enough)]
      rfl

/-- A string that was written is read back, whatever its characters are. -/
theorem readString?_stringChars (s : String) (rest : List Char) :
    readString? (s.toList.flatMap escapeChar ++ '"' :: rest) = some (s, rest) := by
  have enough : s.toList.length < (s.toList.flatMap escapeChar ++ '"' :: rest).length := by
    have := length_le_escaped s.toList
    rw [List.length_append, List.length_cons]
    omega
  rw [readString?, readStringTail_escaped _ _ enough, Option.map_some, String.ofList_toList]

theorem skipSpace_cons {c : Char} (solid : isSpace c = false) (cs : List Char) :
    skipSpace (c :: cs) = c :: cs := by
  simp [skipSpace, solid]

theorem isSpace_of_isDigit {c : Char} (digit : c.isDigit = true) : isSpace c = false := by
  have range := Numeral.isDigit_iff.mp digit
  simp only [isSpace, Bool.or_eq_false_iff, beq_eq_false_iff_ne]
  refine ⟨⟨⟨?_, ?_⟩, ?_⟩, ?_⟩
  all_goals
    rintro rfl
    revert range
    decide

section Kinds

variable (levels : Nat)

theorem readValue?_null (rest : List Char) :
    readValue? levels ('n' :: 'u' :: 'l' :: 'l' :: rest) = some (.null, rest) := by
  rw [readValue?.eq_def]
  simp only [skipSpace_cons (c := 'n') (by decide)]

theorem readValue?_bool (b : Bool) (rest : List Char) :
    readValue? levels (boolChars b ++ rest) = some (.bool b, rest) := by
  rw [readValue?.eq_def]
  cases b <;> simp [boolChars, skipSpace_cons, isSpace]

theorem readValue?_string (s : String) (rest : List Char) :
    readValue? levels (stringChars s ++ rest) = some (.string s, rest) := by
  have text : stringChars s ++ rest = '"' :: (s.toList.flatMap escapeChar ++ '"' :: rest) := by
    simp [stringChars]
  rw [readValue?.eq_def, text]
  simp only [skipSpace_cons (c := '"') (by decide), readString?_stringChars, Option.map_some]

theorem readValue?_minus (rest : List Char) :
    readValue? levels ('-' :: rest) = readNumber? true rest := by
  rw [readValue?.eq_def]
  simp only [skipSpace_cons (c := '-') (by decide)]

theorem readValue?_digit {c : Char} (digit : c.isDigit = true) (rest : List Char) :
    readValue? levels (c :: rest) = readNumber? false (c :: rest) := by
  rw [readValue?.eq_def]
  simp only [skipSpace_cons (isSpace_of_isDigit digit)]
  split
  next eq => cases eq; cases digit
  next eq => cases eq; cases digit
  next eq => cases eq; cases digit
  next eq => cases eq; cases digit
  next eq => cases eq; cases digit
  next eq => cases eq; cases digit
  next eq => cases eq; cases digit
  next => rfl

theorem readValue?_array_nil (rest : List Char) :
    readValue? (levels + 1) ('[' :: ']' :: rest) = some (.array [], rest) := by
  rw [readValue?.eq_def]
  simp only [skipSpace_cons (c := '[') (by decide), skipSpace_cons (c := ']') (by decide)]

theorem readValue?_object_nil (rest : List Char) :
    readValue? (levels + 1) ('{' :: '}' :: rest) = some (.object [], rest) := by
  rw [readValue?.eq_def]
  simp only [skipSpace_cons (c := '{') (by decide), skipSpace_cons (c := '}') (by decide)]

theorem readValue?_array {c : Char} {rest : List Char} (solid : isSpace c = false)
    (more : c ≠ ']') :
    readValue? (levels + 1) ('[' :: c :: rest) =
      (readItems (readValue? levels) (c :: rest).length (c :: rest)).map fun r =>
        (.array r.1, r.2) := by
  rw [readValue?.eq_def]
  simp only [skipSpace_cons (c := '[') (by decide), skipSpace_cons solid]
  split
  next eq => cases eq; exact absurd rfl more
  next => rfl

theorem readValue?_object {c : Char} {rest : List Char} (solid : isSpace c = false)
    (more : c ≠ '}') :
    readValue? (levels + 1) ('{' :: c :: rest) =
      (readEntries (readValue? levels) (c :: rest).length (c :: rest)).map fun r =>
        (.object (Entries.ofList r.1), r.2) := by
  rw [readValue?.eq_def]
  simp only [skipSpace_cons (c := '{') (by decide), skipSpace_cons solid]
  split
  next eq => cases eq; exact absurd rfl more
  next => rfl

end Kinds

mutual

/-- A document as it is read after it was written: floats that are not finite have become null,
and the entries of objects stand in key order. -/
def canonical : Json → Json
  | .null => .null
  | .bool b => .bool b
  | .int n => .int n
  | .float x => if x.isFinite then .float x else .null
  | .string s => .string s
  | .array items => .array (canonicalItems items)
  | .object entries => .object (Entries.ofList (canonicalEntries entries))
termination_by structural json => json

def canonicalItems : List Json → List Json
  | [] => []
  | item :: rest => canonical item :: canonicalItems rest
termination_by structural items => items

def canonicalEntries : List (String × Json) → List (String × Json)
  | [] => []
  | (key, item) :: rest => (key, canonical item) :: canonicalEntries rest
termination_by structural entries => entries

end

mutual

/-- How deep arrays and objects nest. -/
def nesting : Json → Nat
  | .array items => nestingItems items + 1
  | .object entries => nestingEntries entries + 1
  | _ => 0
termination_by structural json => json

def nestingItems : List Json → Nat
  | [] => 0
  | item :: rest => max (nesting item) (nestingItems rest)
termination_by structural items => items

def nestingEntries : List (String × Json) → Nat
  | [] => 0
  | (_, item) :: rest => max (nesting item) (nestingEntries rest)
termination_by structural entries => entries

end

mutual

/-- All integers are such as JSON numbers are read as. -/
def Bounded : Json → Prop
  | .int n => InRange n
  | .array items => BoundedItems items
  | .object entries => BoundedEntries entries
  | _ => True
termination_by structural json => json

def BoundedItems : List Json → Prop
  | [] => True
  | item :: rest => Bounded item ∧ BoundedItems rest
termination_by structural items => items

def BoundedEntries : List (String × Json) → Prop
  | [] => True
  | (_, item) :: rest => Bounded item ∧ BoundedEntries rest
termination_by structural entries => entries

end

/-- What a document can begin with: no blank, and nothing that closes another. -/
def Opening (c : Char) : Prop := isSpace c = false ∧ c ≠ ']' ∧ c ≠ '}'

theorem opening_digit {c : Char} (digit : c.isDigit = true) : Opening c := by
  refine ⟨isSpace_of_isDigit digit, ?_, ?_⟩
  all_goals
    rintro rfl
    cases digit

theorem exists_opening (json : Json) : ∃ c cs, json.chars = c :: cs ∧ Opening c := by
  have signed : ∀ (negative : Bool) (digits : List Char), Numeral.Whole digits → ∀ rest,
      ∃ c cs, Binary64.signChars negative ++ (digits ++ rest) = c :: cs ∧ Opening c := by
    intro negative digits whole rest
    cases negative with
    | true => exact ⟨'-', digits ++ rest, rfl, by decide, by decide, by decide⟩
    | false =>
      cases digits with
      | nil => exact absurd rfl whole.some
      | cons d ds =>
        exact ⟨d, ds ++ rest, rfl, opening_digit (whole.digits d List.mem_cons_self)⟩
  cases json with
  | null => exact ⟨'n', _, rfl, by decide, by decide, by decide⟩
  | bool b =>
    cases b with
    | true => exact ⟨'t', _, rfl, by decide, by decide, by decide⟩
    | false => exact ⟨'f', _, rfl, by decide, by decide, by decide⟩
  | int n =>
    have head := signed (n < 0) _ (Numeral.whole_toDigits n.natAbs) []
    rwa [List.append_nil] at head
  | float x =>
    cases x with
    | finite negative code =>
      obtain ⟨whole, fraction, power, parts⟩ := Binary64.exists_jsonParts code
      rw [chars, floatChars, parts.spelling]
      exact signed negative whole parts.plain _
    | nan => exact ⟨'n', _, rfl, by decide, by decide, by decide⟩
    | infinite negative => exact ⟨'n', _, rfl, by decide, by decide, by decide⟩
  | string s => exact ⟨'"', _, rfl, by decide, by decide, by decide⟩
  | array items => exact ⟨'[', _, rfl, by decide, by decide, by decide⟩
  | object entries => exact ⟨'{', _, rfl, by decide, by decide, by decide⟩

theorem length_le_commaSeparated {parts : List (List Char)} (some : ∀ part ∈ parts, part ≠ []) :
    parts.length ≤ (commaSeparated parts).length := by
  induction parts with
  | nil => exact Nat.le_refl _
  | cons part parts ih =>
    have first : 0 < part.length := List.length_pos_iff.mpr (some part List.mem_cons_self)
    have tail := ih fun p mem => some p (List.mem_cons_of_mem _ mem)
    cases parts with
    | nil => exact first
    | cons next parts =>
      rw [commaSeparated]
      · simp only [List.length_append, List.length_cons] at tail ⊢
        omega
      · simp

theorem itemChars_eq_map (items : List Json) : itemChars items = items.map chars := by
  induction items with
  | nil => rfl
  | cons item items ih => rw [itemChars, ih, List.map_cons]

theorem entryChars_eq_map (entries : List (String × Json)) :
    entryChars entries = entries.map fun e => stringChars e.1 ++ ':' :: chars e.2 := by
  induction entries with
  | nil => rfl
  | cons e entries ih => rw [entryChars, ih, List.map_cons]

theorem length_le_items (items : List Json) :
    items.length ≤ (commaSeparated (itemChars items)).length := by
  have parts : (itemChars items).length ≤ (commaSeparated (itemChars items)).length := by
    apply length_le_commaSeparated
    intro part mem
    rw [itemChars_eq_map] at mem
    obtain ⟨item, _, rfl⟩ := List.mem_map.mp mem
    obtain ⟨c, cs, text, _⟩ := exists_opening item
    simp [text]
  rwa [itemChars_eq_map, List.length_map, ← itemChars_eq_map] at parts

theorem length_le_entries (entries : List (String × Json)) :
    entries.length ≤ (commaSeparated (entryChars entries)).length := by
  have parts : (entryChars entries).length ≤ (commaSeparated (entryChars entries)).length := by
    apply length_le_commaSeparated
    intro part mem
    rw [entryChars_eq_map] at mem
    obtain ⟨e, _, rfl⟩ := List.mem_map.mp mem
    simp
  rwa [entryChars_eq_map, List.length_map, ← entryChars_eq_map] at parts

theorem readValue?_signed (levels : Nat) (negative : Bool) {whole : List Char}
    (h : Numeral.Whole whole) (rest : List Char) :
    readValue? levels (Binary64.signChars negative ++ (whole ++ rest)) =
      readNumber? negative (whole ++ rest) := by
  cases negative with
  | true => exact readValue?_minus levels (whole ++ rest)
  | false =>
    cases whole with
    | nil => exact absurd rfl h.some
    | cons d ds => exact readValue?_digit levels (h.digits d List.mem_cons_self) (ds ++ rest)

theorem exists_opening_items {items : List Json} (some : items ≠ []) :
    ∃ c cs, commaSeparated (itemChars items) = c :: cs ∧ Opening c := by
  cases items with
  | nil => exact absurd rfl some
  | cons item items =>
    obtain ⟨c, cs, text, opening⟩ := exists_opening item
    cases items with
    | nil => exact ⟨c, cs, text, opening⟩
    | cons next items =>
      refine ⟨c, cs ++ ',' :: commaSeparated (itemChars (next :: items)), ?_, opening⟩
      simp [itemChars, commaSeparated, text]

theorem exists_quote_entries {entries : List (String × Json)} (some : entries ≠ []) :
    ∃ cs, commaSeparated (entryChars entries) = '"' :: cs := by
  cases entries with
  | nil => exact absurd rfl some
  | cons e entries =>
    cases entries with
    | nil => exact ⟨_, rfl⟩
    | cons next entries => exact ⟨_, rfl⟩

theorem array_text (items : List Json) (rest : List Char) :
    (Json.array items).chars ++ rest =
      '[' :: (commaSeparated (itemChars items) ++ ']' :: rest) := by
  simp [chars]

theorem object_text (entries : List (String × Json)) (rest : List Char) :
    (Json.object entries).chars ++ rest =
      '{' :: (commaSeparated (entryChars entries) ++ '}' :: rest) := by
  simp [chars]

theorem items_text_last (item : Json) (rest : List Char) :
    commaSeparated (itemChars [item]) ++ rest = item.chars ++ rest := rfl

theorem items_text_more (item next : Json) (items : List Json) (rest : List Char) :
    commaSeparated (itemChars (item :: next :: items)) ++ rest =
      item.chars ++ ',' :: (commaSeparated (itemChars (next :: items)) ++ rest) := by
  simp [itemChars, commaSeparated]

theorem entries_text_last (key : String) (item : Json) (rest : List Char) :
    commaSeparated (entryChars [(key, item)]) ++ rest =
      stringChars key ++ ':' :: (item.chars ++ rest) := by
  simp [entryChars, commaSeparated]

theorem entries_text_more (key : String) (item : Json) (next : String × Json)
    (entries : List (String × Json)) (rest : List Char) :
    commaSeparated (entryChars ((key, item) :: next :: entries)) ++ rest =
      stringChars key ++ ':' :: (item.chars ++
        ',' :: (commaSeparated (entryChars (next :: entries)) ++ rest)) := by
  simp [entryChars, commaSeparated]

section Parts

variable {item : List Char → Option (Json × List Char)} (fuel : Nat) {part rest : List Char}
  {first : Json}

theorem readItems_last (read : item (part ++ ']' :: rest) = some (first, ']' :: rest)) :
    readItems item (fuel + 1) (part ++ ']' :: rest) = some ([first], rest) := by
  rw [readItems, read]
  simp only [Option.bind_eq_bind, Option.bind_some, skipSpace_cons (c := ']') (by decide)]
  rfl

theorem readItems_more (read : item (part ++ ',' :: rest) = some (first, ',' :: rest)) :
    readItems item (fuel + 1) (part ++ ',' :: rest) =
      (readItems item fuel rest).bind fun r => some (first :: r.1, r.2) := by
  rw [readItems, read]
  simp only [Option.bind_eq_bind, Option.bind_some, skipSpace_cons (c := ',') (by decide)]
  rfl

theorem entry_text (key : String) (cs : List Char) :
    stringChars key ++ ':' :: cs = '"' :: (key.toList.flatMap escapeChar ++ '"' :: ':' :: cs) := by
  simp [stringChars]

theorem readEntries_last (key : String)
    (read : item (part ++ '}' :: rest) = some (first, '}' :: rest)) :
    readEntries item (fuel + 1) (stringChars key ++ ':' :: (part ++ '}' :: rest)) =
      some ([(key, first)], rest) := by
  rw [entry_text, readEntries]
  simp only [skipSpace_cons (c := '"') (by decide), readString?_stringChars, read,
    skipSpace_cons (c := ':') (by decide), skipSpace_cons (c := '}') (by decide),
    Option.bind_eq_bind, Option.bind_some]
  rfl

theorem readEntries_more (key : String)
    (read : item (part ++ ',' :: rest) = some (first, ',' :: rest)) :
    readEntries item (fuel + 1) (stringChars key ++ ':' :: (part ++ ',' :: rest)) =
      (readEntries item fuel rest).bind fun r => some ((key, first) :: r.1, r.2) := by
  rw [entry_text, readEntries]
  simp only [skipSpace_cons (c := '"') (by decide), readString?_stringChars, read,
    skipSpace_cons (c := ':') (by decide), skipSpace_cons (c := ',') (by decide),
    Option.bind_eq_bind, Option.bind_some]
  rfl

end Parts

mutual

/-- What was written is read back up to where it ends, with floats and entries in the form that
writing and reading give them. -/
theorem readValue?_chars : ∀ json : Json, json.Bounded → ∀ (levels : Nat) (rest : List Char),
    json.nesting ≤ levels → Closed rest →
      readValue? levels (json.chars ++ rest) = some (json.canonical, rest)
  | .null, _, levels, rest, _, _ => readValue?_null levels rest
  | .bool b, _, levels, rest, _, _ => readValue?_bool levels b rest
  | .string s, _, levels, rest, _, _ => readValue?_string levels s rest
  | .int n, bounded, levels, rest, _, closed => by
    rw [chars, intChars, List.append_assoc,
      readValue?_signed levels _ (Numeral.whole_toDigits n.natAbs)]
    exact readNumber?_int bounded closed
  | .float x, _, levels, rest, _, closed => by
    cases x with
    | finite negative code =>
      obtain ⟨whole, fraction, power, parts⟩ := Binary64.exists_jsonParts code
      have read := readNumber?_magnitude negative code closed
      rw [parts.spelling, List.append_assoc] at read
      rw [chars, floatChars, parts.spelling, List.append_assoc, List.append_assoc,
        readValue?_signed levels negative parts.plain]
      exact read
    | nan => exact readValue?_null levels rest
    | infinite negative => exact readValue?_null levels rest
  | .array items, bounded, levels, rest, fits, _ => by
    rw [nesting] at fits
    obtain ⟨inner, rfl⟩ : ∃ inner, levels = inner + 1 := ⟨levels - 1, by omega⟩
    rw [array_text]
    by_cases none : items = []
    · subst none
      exact readValue?_array_nil inner rest
    · have enough : items.length ≤ (commaSeparated (itemChars items) ++ ']' :: rest).length := by
        have := length_le_items items
        rw [List.length_append]
        omega
      have read := readItems_chars items none bounded inner _ rest (by omega) enough
      obtain ⟨c, cs, first, solid, more, _⟩ := exists_opening_items none
      rw [first] at read ⊢
      rw [List.cons_append] at read ⊢
      rw [readValue?_array inner solid more, read]
      rfl
  | .object entries, bounded, levels, rest, fits, _ => by
    rw [nesting] at fits
    obtain ⟨inner, rfl⟩ : ∃ inner, levels = inner + 1 := ⟨levels - 1, by omega⟩
    rw [object_text]
    by_cases none : entries = []
    · subst none
      exact readValue?_object_nil inner rest
    · have enough :
          entries.length ≤ (commaSeparated (entryChars entries) ++ '}' :: rest).length := by
        have := length_le_entries entries
        rw [List.length_append]
        omega
      have read := readEntries_chars entries none bounded inner _ rest (by omega) enough
      obtain ⟨cs, first⟩ := exists_quote_entries none
      rw [first] at read ⊢
      rw [List.cons_append] at read ⊢
      rw [readValue?_object inner (by decide) (by decide), read]
      rfl
termination_by structural json => json

theorem readItems_chars : ∀ items : List Json, items ≠ [] → BoundedItems items →
    ∀ (levels fuel : Nat) (rest : List Char), nestingItems items ≤ levels → items.length ≤ fuel →
      readItems (readValue? levels) fuel (commaSeparated (itemChars items) ++ ']' :: rest) =
        some (canonicalItems items, rest)
  | [], more, _, _, _, _, _, _ => absurd rfl more
  | item :: items, _, bounded, levels, fuel, rest, fits, enough => by
    rw [nestingItems] at fits
    obtain ⟨fuel, rfl⟩ : ∃ less, fuel = less + 1 := by
      rw [List.length_cons] at enough
      exact ⟨fuel - 1, by omega⟩
    have first := fun tail => readValue?_chars item bounded.1 levels tail (by omega)
    cases items with
    | nil =>
      rw [items_text_last, readItems_last fuel (first _ (closed_cons (by simp) rest))]
      rfl
    | cons next items =>
      have tail := readItems_chars (next :: items) (by simp) bounded.2 levels fuel rest (by omega)
        (Nat.le_of_succ_le_succ enough)
      rw [items_text_more, readItems_more fuel (first _ (closed_cons (by simp) _)), tail]
      rfl
termination_by structural items => items

theorem readEntries_chars : ∀ entries : List (String × Json), entries ≠ [] →
    BoundedEntries entries → ∀ (levels fuel : Nat) (rest : List Char),
      nestingEntries entries ≤ levels → entries.length ≤ fuel →
      readEntries (readValue? levels) fuel (commaSeparated (entryChars entries) ++ '}' :: rest) =
        some (canonicalEntries entries, rest)
  | [], more, _, _, _, _, _, _ => absurd rfl more
  | (key, item) :: entries, _, bounded, levels, fuel, rest, fits, enough => by
    rw [nestingEntries] at fits
    obtain ⟨fuel, rfl⟩ : ∃ less, fuel = less + 1 := by
      rw [List.length_cons] at enough
      exact ⟨fuel - 1, by omega⟩
    have first := fun tail => readValue?_chars item bounded.1 levels tail (by omega)
    cases entries with
    | nil =>
      rw [entries_text_last, readEntries_last fuel key (first _ (closed_cons (by simp) rest))]
      rfl
    | cons next entries =>
      have tail := readEntries_chars (next :: entries) (by simp) bounded.2 levels fuel rest
        (by omega) (Nat.le_of_succ_le_succ enough)
      rw [entries_text_more, readEntries_more fuel key (first _ (closed_cons (by simp) _)), tail]
      rfl
termination_by structural entries => entries

end

/-- The text of a document that nests no deeper than a reader allows is read back. -/
theorem readWithin?_render {json : Json} {levels : Nat} (bounded : json.Bounded)
    (fits : json.nesting ≤ levels) : readWithin? levels json.render = some json.canonical := by
  have read := readValue?_chars json bounded levels [] fits closed_nil
  rw [List.append_nil] at read
  rw [readWithin?, render, String.toList_ofList, read]
  rfl

theorem read?_render {json : Json} (bounded : json.Bounded) (fits : json.nesting ≤ maxLevels) :
    read? json.render = some json.canonical :=
  readWithin?_render bounded fits

theorem canonicalEntries_eq_map (entries : List (String × Json)) :
    canonicalEntries entries = entries.map fun e => (e.1, e.2.canonical) := by
  induction entries with
  | nil => rfl
  | cons e entries ih => rw [canonicalEntries, ih, List.map_cons]

/-- In a document that was written and read the members are found that were written. -/
theorem lookup_canonical {entries : List (String × Json)}
    (distinct : (entries.map Prod.fst).Nodup) (key : String) :
    (Entries.ofList (canonicalEntries entries)).lookup key =
      (entries.lookup key).map canonical := by
  rw [canonicalEntries_eq_map, Entries.lookup_ofList]
  · exact Entries.lookup_mapValues (fun _ => canonical) key entries
  · rwa [List.map_map]

theorem canonicalItems_eq_map (items : List Json) : canonicalItems items = items.map canonical := by
  induction items with
  | nil => rfl
  | cons item rest ih => rw [canonicalItems, ih, List.map_cons]

theorem boundedEntries_iff {entries : List (String × Json)} :
    BoundedEntries entries ↔ ∀ e ∈ entries, e.2.Bounded := by
  induction entries with
  | nil => simp [BoundedEntries]
  | cons e rest ih => simp only [BoundedEntries, ih, List.forall_mem_cons]

theorem boundedItems_iff {items : List Json} :
    BoundedItems items ↔ ∀ item ∈ items, item.Bounded := by
  induction items with
  | nil => simp [BoundedItems]
  | cons item rest ih => simp only [BoundedItems, ih, List.forall_mem_cons]

end Json

end FlatRecord
