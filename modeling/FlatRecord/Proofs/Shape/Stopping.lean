import FlatRecord.Proofs.Shape.Located
import Mathlib.Data.List.Forall2

namespace FlatRecord

/-- A step of a reading: to a part of a value or to the content of an alternative. -/
inductive Turn where
  | part (step : Step)
  | label (name : String)

/-- How a reading comes from the whole to a part, outermost step first. -/
abbrev Way := List Turn

namespace Way

/-- Where the way leads. The name of an alternative is the key of its content. -/
def position (way : Way) : Position :=
  way.map fun
    | .part step => step
    | .label name => .key name

/-- The position without the names of alternatives. -/
def reported (way : Way) : Position :=
  way.filterMap fun
    | .part step => some step
    | .label _ => none

end Way

namespace Value

/-- What a value holds as a list. Null and blank text hold nothing. -/
inductive ItemsOf : Value → List Value → Prop
  | array (items : List Value) : ItemsOf (.array items) items
  | null : ItemsOf .null []
  | blank {s : String} : (Text.trim s).isEmpty = true → ItemsOf (.string s) []
  | text {s : String} {items : List Value} : (Text.trim s).isEmpty = false →
    readJson? s = some (.array items) → ItemsOf (.string s) items

/-- What a value holds under keys. -/
inductive EntriesOf : Value → List (String × Value) → Prop
  | object (entries : List (String × Value)) : EntriesOf (.object entries) entries
  | null : EntriesOf .null []
  | text {s : String} {entries : List (String × Value)} :
    readJson? s = some (.object entries) → EntriesOf (.string s) entries

end Value

namespace Shape

/-- Whether a value can be read as a type. -/
def Reads (shape : Shape) (v : Value) : Prop := ∃ d, shape.readValue v = .ok d

/-- Whether a reading of named parts gets past an entry: it can be read if its name is known and
passed over otherwise, unless there must not be others. -/
def Passes (parts : List (Field Shape)) (closed : Bool) (e : String × Value) : Prop :=
  match parts.find? (·.name == e.1) with
  | some field => field.type.Reads e.2
  | none => closed = false

/-- A reading of a value as a type comes to a text that should hold JSON and does not. All parts
before it can be read. -/
inductive Stops : Shape → Value → Way → String → Prop
  | listText {item : Shape} {s : String} : (Text.trim s).isEmpty = false →
    Value.readJson? s = none → Stops (.list item) (.string s) [] s
  | tupleText {form : TupleForm} {items : List Shape} {s : String} :
    (Text.trim s).isEmpty = false → Value.readJson? s = none →
      Stops (.tuple form items) (.string s) [] s
  | mapText {key item : Shape} {s : String} : Value.readJson? s = none →
    Stops (.map key item) (.string s) [] s
  | fieldsText {form : FieldsForm} {closed : Bool} {parts : List (Field Shape)} {s : String} :
    Value.readJson? s = none → Stops (.fields form closed parts) (.string s) [] s
  | option {content : Shape} {v : Value} {way : Way} {s : String} : v.isNull = false →
    Stops content v way s → Stops (.option content) v way s
  | wrapped {content : Shape} {v : Value} {way : Way} {s : String} :
    Stops content v way s → Stops (.wrapped content) v way s
  | item {item : Shape} {v w : Value} {before after : List Value} {way : Way} {s : String} :
    v.ItemsOf (before ++ w :: after) → (∀ u ∈ before, item.Reads u) → Stops item w way s →
      Stops (.list item) v (.part (.index before.length) :: way) s
  | tupleItem {form : TupleForm} {first others : List Shape} {item : Shape} {v w : Value}
    {before after : List Value} {way : Way} {s : String} : v.ItemsOf (before ++ w :: after) →
      List.Forall₂ Reads first before → Stops item w way s →
        Stops (.tuple form (first ++ item :: others)) v (.part (.index before.length) :: way) s
  | key {key item : Shape} {v w : Value} {before after : List (String × Value)} {name : String}
    {way : Way} {s : String} : v.EntriesOf (before ++ (name, w) :: after) →
      (∀ e ∈ before, key.Reads (.string e.1) ∧ item.Reads e.2) → Stops key (.string name) way s →
        Stops (.map key item) v (.part (.key name) :: way) s
  | entry {key item : Shape} {v w : Value} {before after : List (String × Value)} {name : String}
    {way : Way} {s : String} : v.EntriesOf (before ++ (name, w) :: after) →
      (∀ e ∈ before, key.Reads (.string e.1) ∧ item.Reads e.2) → key.Reads (.string name) →
        Stops item w way s → Stops (.map key item) v (.part (.key name) :: way) s
  | field {form : FieldsForm} {closed : Bool} {parts : List (Field Shape)} {field : Field Shape}
    {v w : Value} {before after : List (String × Value)} {name : String} {way : Way} {s : String} :
      v.EntriesOf (before ++ (name, w) :: after) → (∀ e ∈ before, Passes parts closed e) →
        parts.find? (·.name == name) = some field → Stops field.type w way s →
          Stops (.fields form closed parts) v (.part (.key name) :: way) s
  | content {name label : String} {alternatives : List (Variant Shape)}
    {alternative : Variant Shape} {content : Shape} {w : Value} {way : Way} {s : String} :
      alternatives.find? (·.name == label) = some alternative →
        alternative.content = some content → Stops content w way s →
          Stops (.variants name alternatives) (.object [(label, w)]) (.label label :: way) s

end Shape

namespace Reader

variable {place : Position}

theorem bind_eq_error_iff {α β : Type} {x : Except ReadError α} {f : α → Except ReadError β}
    {e : ReadError} : x >>= f = .error e ↔ x = .error e ∨ ∃ a, x = .ok a ∧ f a = .error e := by
  cases x <;> simp [bind, Except.bind]

theorem items_eq_ok_iff {expected : Expectation} {position : Position} {v : Value}
    {vs : List Value} : items expected position v = .ok vs ↔ v.ItemsOf vs := by
  constructor
  · intro h
    cases v with
    | array =>
      cases h
      exact .array vs
    | null =>
      cases h
      exact .null
    | string s =>
      simp only [items] at h
      split at h
      next empty =>
        cases h
        exact .blank empty
      next more =>
        split at h
        next holds =>
          cases h
          exact .text (Bool.eq_false_iff.mpr more) holds
        all_goals cases h
    | _ => cases h
  · intro h
    cases h with
    | array => rfl
    | null => rfl
    | blank empty => exact if_pos empty
    | text more holds => simp [items, more, holds]

theorem items_eq_invalidJson_iff {expected : Expectation} {position : Position} {v : Value} :
    items expected position v = .error (.invalidJson place) ↔
      position = place ∧ ∃ s, v = .string s ∧ (Text.trim s).isEmpty = false ∧
        Value.readJson? s = none := by
  constructor
  · intro h
    cases v with
    | string s =>
      simp only [items] at h
      split at h
      next => cases h
      next more =>
        split at h
        next => cases h
        next => cases h
        next unread =>
          cases h
          exact ⟨rfl, s, rfl, Bool.eq_false_iff.mpr more, unread⟩
    | _ => cases h
  · rintro ⟨rfl, s, rfl, more, unread⟩
    simp [items, more, unread]

theorem entries_eq_ok_iff {expected : Expectation} {position : Position} {v : Value}
    {es : List (String × Value)} : entries expected position v = .ok es ↔ v.EntriesOf es := by
  constructor
  · intro h
    cases v with
    | object =>
      cases h
      exact .object es
    | null =>
      cases h
      exact .null
    | string s =>
      simp only [entries] at h
      split at h
      next holds =>
        cases h
        exact .text holds
      all_goals cases h
    | _ => cases h
  · intro h
    cases h with
    | object => rfl
    | null => rfl
    | text holds => simp [entries, holds]

theorem entries_eq_invalidJson_iff {expected : Expectation} {position : Position} {v : Value} :
    entries expected position v = .error (.invalidJson place) ↔
      position = place ∧ ∃ s, v = .string s ∧ Value.readJson? s = none := by
  constructor
  · intro h
    cases v with
    | string s =>
      simp only [entries] at h
      split at h
      next => cases h
      next => cases h
      next unread =>
        cases h
        exact ⟨rfl, s, rfl, unread⟩
    | _ => cases h
  · rintro ⟨rfl, s, rfl, unread⟩
    simp [entries, unread]

theorem Placed.part_eq_ok_iff {reader : Reader} (h : reader.Placed) {step : Step} {v : Value}
    {d : Datum} : reader ([] ++ [step]) v = .ok d ↔ reader [] v = .ok d :=
  (h v).eq_ok_iff

theorem Placed.part_eq_invalidJson_iff {reader : Reader} (h : reader.Placed) {step : Step}
    {v : Value} : reader ([] ++ [step]) v = .error (.invalidJson place) ↔
      ∃ rest, reader [] v = .error (.invalidJson rest) ∧ step :: rest = place := by
  have moved : reader [step] v = .error (.invalidJson place) ↔
      ∃ rest, reader [] v = .error (.invalidJson rest) ∧ place = [step] ++ rest :=
    (h v).eq_invalidJson_iff
  simpa [eq_comm] using moved

/-- Things in a row of which one stops what goes on along them, while those before it do not. -/
def FirstStop {α : Type} (goesOn : α → Prop) (stops : Nat → α → Prop) (xs : List α) : Prop :=
  ∃ before x after, xs = before ++ x :: after ∧ (∀ y ∈ before, goesOn y) ∧ stops before.length x

theorem firstStop_nil {α : Type} {goesOn : α → Prop} {stops : Nat → α → Prop} :
    ¬FirstStop goesOn stops [] := by
  rintro ⟨before, x, after, eq, -⟩
  simp at eq

theorem firstStop_cons {α : Type} {goesOn : α → Prop} {stops : Nat → α → Prop} {x : α}
    {xs : List α} : FirstStop goesOn stops (x :: xs) ↔
      stops 0 x ∨ goesOn x ∧ FirstStop goesOn (fun i => stops (i + 1)) xs := by
  constructor
  · rintro ⟨before, y, after, eq, before_ok, stop⟩
    cases before with
    | nil =>
      cases eq
      exact .inl stop
    | cons z before =>
      cases eq
      obtain ⟨here, later⟩ := List.forall_mem_cons.mp before_ok
      exact .inr ⟨here, before, y, after, rfl, later, stop⟩
  · rintro (stop | ⟨here, before, y, after, rfl, later, stop⟩)
    · exact ⟨[], x, xs, rfl, by simp, stop⟩
    · exact ⟨x :: before, y, after, rfl, List.forall_mem_cons.mpr ⟨here, later⟩, stop⟩

theorem Placed.each_eq_invalidJson_iff {item : Reader} (h : item.Placed) {i : Nat}
    {vs : List Value} : Reader.each item [] i vs = .error (.invalidJson place) ↔
      FirstStop (fun u => ∃ d, item [] u = .ok d)
        (fun n w => ∃ rest, item [] w = .error (.invalidJson rest) ∧ .index (i + n) :: rest = place)
        vs := by
  induction vs generalizing i with
  | nil => exact iff_of_false (by simp [Reader.each]) firstStop_nil
  | cons v vs ih =>
    rw [Reader.each, bind_eq_error_iff, h.part_eq_invalidJson_iff, firstStop_cons]
    simp only [h.part_eq_ok_iff, bind_eq_error_iff, ih, pure, Except.pure, reduceCtorEq, and_false,
      exists_false, or_false, exists_and_right, Nat.add_zero, Nat.add_assoc, Nat.add_comm 1]

theorem inOrder_eq_invalidJson_iff {readers : List Reader} (h : ∀ reader ∈ readers, reader.Placed)
    {expected : Expectation} {i : Nat} {vs : List Value} :
    inOrder expected [] i readers vs = .error (.invalidJson place) ↔
      ∃ first reader others before w after rest, readers = first ++ reader :: others ∧
        vs = before ++ w :: after ∧ List.Forall₂ (fun r u => ∃ d, r [] u = .ok d) first before ∧
        reader [] w = .error (.invalidJson rest) ∧ .index (i + before.length) :: rest = place := by
  induction readers generalizing i vs with
  | nil =>
    apply iff_of_false
    · cases vs <;> simp [inOrder]
    · rintro ⟨first, reader, others, _, _, _, _, eq, -⟩
      simp at eq
  | cons reader readers ih =>
    obtain ⟨here, later⟩ := List.forall_mem_cons.mp h
    cases vs with
    | nil =>
      apply iff_of_false
      · simp [inOrder]
      · rintro ⟨_, _, _, before, w, after, _, -, eq, -⟩
        simp at eq
    | cons v vs =>
      rw [inOrder, bind_eq_error_iff, here.part_eq_invalidJson_iff]
      simp only [here.part_eq_ok_iff, bind_eq_error_iff, ih later, pure, Except.pure, reduceCtorEq,
        and_false, exists_false, or_false]
      constructor
      · rintro (⟨rest, failed, rfl⟩ | ⟨d, done, first, r, others, before, w, after, rest, rfl, rfl,
          read, failed, rfl⟩)
        · exact ⟨[], reader, readers, [], v, vs, rest, rfl, rfl, .nil, failed, rfl⟩
        · refine ⟨reader :: first, r, others, v :: before, w, after, rest, rfl, rfl,
            .cons ⟨d, done⟩ read, failed, ?_⟩
          rw [List.length_cons, Nat.add_assoc, Nat.add_comm 1]
      · rintro ⟨first, r, others, before, w, after, rest, eq, eq', read, failed, rfl⟩
        cases read with
        | nil =>
          cases eq
          cases eq'
          exact .inl ⟨rest, failed, rfl⟩
        | @cons _ _ first before read tail =>
          cases eq
          cases eq'
          obtain ⟨d, done⟩ := read
          refine .inr ⟨d, done, first, r, others, before, w, after, rest, rfl, rfl, tail, failed, ?_⟩
          rw [List.length_cons, Nat.add_assoc, Nat.add_comm 1]

theorem Placed.mapEntries_eq_invalidJson_iff {key item : Reader} (h : key.Placed) (h' : item.Placed)
    {done : List (Datum × Datum)} {es : List (String × Value)} :
    mapEntries key item [] done es = .error (.invalidJson place) ↔
      FirstStop (fun e => (∃ k, key [] (.string e.1) = .ok k) ∧ ∃ d, item [] e.2 = .ok d)
        (fun _ e => ∃ rest, (key [] (.string e.1) = .error (.invalidJson rest) ∨
          (∃ k, key [] (.string e.1) = .ok k) ∧ item [] e.2 = .error (.invalidJson rest)) ∧
            .key e.1 :: rest = place) es := by
  induction es generalizing done with
  | nil => exact iff_of_false (by simp [mapEntries]) firstStop_nil
  | cons e es ih =>
    obtain ⟨name, v⟩ := e
    rw [mapEntries]
    simp only [bind_eq_error_iff, h.part_eq_invalidJson_iff, h'.part_eq_invalidJson_iff,
      h.part_eq_ok_iff, h'.part_eq_ok_iff, ih, firstStop_cons]
    constructor
    · rintro (⟨rest, failed, rfl⟩ | ⟨k, read, ⟨rest, failed, rfl⟩ | ⟨d, done, later⟩⟩)
      · exact .inl ⟨rest, .inl failed, rfl⟩
      · exact .inl ⟨rest, .inr ⟨⟨k, read⟩, failed⟩, rfl⟩
      · exact .inr ⟨⟨⟨k, read⟩, d, done⟩, later⟩
    · rintro (⟨rest, failed | ⟨⟨k, read⟩, failed⟩, rfl⟩ | ⟨⟨⟨k, read⟩, d, done⟩, later⟩)
      · exact .inl ⟨rest, failed, rfl⟩
      · exact .inr ⟨k, read, .inl ⟨rest, failed, rfl⟩⟩
      · exact .inr ⟨k, read, .inr ⟨d, done, later⟩⟩

theorem knownFields_eq_invalidJson_iff {readers : List OfField}
    (h : ∀ reader ∈ readers, reader.read.Placed) {closed : Bool} {es : List (String × Value)} :
    knownFields readers closed [] es = .error (.invalidJson place) ↔
      FirstStop
        (fun e => match readers.find? (·.name == e.1) with
          | some reader => ∃ d, reader.read [] e.2 = .ok d
          | none => closed = false)
        (fun _ e => ∃ reader rest, readers.find? (·.name == e.1) = some reader ∧
          reader.read [] e.2 = .error (.invalidJson rest) ∧ .key e.1 :: rest = place) es := by
  induction es with
  | nil => exact iff_of_false (by simp [knownFields]) firstStop_nil
  | cons e es ih =>
    obtain ⟨name, v⟩ := e
    rw [knownFields, firstStop_cons]
    cases found : readers.find? (·.name == name) with
    | none =>
      cases closed with
      | true => simp [throw, throwThe, MonadExceptOf.throw]
      | false => simp [ih]
    | some reader =>
      have placed := h reader (List.mem_of_find?_eq_some found)
      simp only [bind_eq_error_iff, placed.part_eq_invalidJson_iff, placed.part_eq_ok_iff, ih, pure,
        Except.pure, reduceCtorEq, and_false, exists_false, or_false, Option.some.injEq,
        exists_and_left, exists_eq_left', exists_and_right]

theorem arrange_ne_invalidJson (found : List (String × Datum)) (readers : List OfField) :
    arrange found readers ≠ .error (.invalidJson place) := by
  induction readers with
  | nil => simp [arrange]
  | cons reader readers ih =>
    rw [arrange]
    cases (found.lookup reader.name).or reader.missing with
    | none => simp [throw, throwThe, MonadExceptOf.throw]
    | some d => simp [bind_eq_error_iff, ih, pure, Except.pure]

theorem content_eq_invalidJson_iff {readers : List OfVariant} {position : Position} {name : String}
    {given : Option Value} : content readers position name given = .error (.invalidJson place) ↔
      ∃ reader read, readers.find? (·.name == name) = some reader ∧ reader.content = some read ∧
        read position (given.getD .null) = .error (.invalidJson place) := by
  unfold content
  cases readers.find? (·.name == name) with
  | none => simp
  | some reader =>
    cases inner : reader.content with
    | none =>
      simp only [inner]
      split <;> simp [inner]
    | some read =>
      cases result : read position (given.getD .null) <;> simp [Except.map, inner, result]

end Reader

namespace Shape

/-- Reading ends for want of JSON exactly where it stops, and says where that is but for the names
of alternatives. -/
def Pinpoints (shape : Shape) : Prop :=
  ∀ v place, shape.readValue v = .error (.invalidJson place) ↔
    ∃ way s, shape.Stops v way s ∧ way.reported = place

/-- A type that takes no text for JSON and has no parts that could. -/
theorem pinpoints_of_plain {shape : Shape}
    (h : ∀ v place, shape.readValue v ≠ .error (.invalidJson place))
    (plain : ∀ v way s, ¬shape.Stops v way s) : shape.Pinpoints := by
  intro v place
  apply iff_of_false (h v place)
  rintro ⟨way, s, stops, -⟩
  exact plain v way s stops

theorem convert_ne_invalidJson {α : Type} {wrap : α → Datum} {x : Except ConversionError α}
    {place : Position} : Reader.convert [] wrap x ≠ .error (.invalidJson place) := by
  cases x <;> simp [Reader.convert]

theorem pinpoints_option {content : Shape} (ih : content.Pinpoints) : (option content).Pinpoints := by
  intro v place
  have unfolded : (option content).readValue v =
      if v.isNull then .ok .absent else (content.readValue v).map .present := rfl
  rw [unfolded]
  constructor
  · intro h
    split at h
    next => cases h
    next some =>
      have failed : content.readValue v = .error (.invalidJson place) := by
        cases result : content.readValue v with
        | ok d => rw [result] at h; cases h
        | error e => rw [result] at h; cases h; rfl
      obtain ⟨way, s, stops, rfl⟩ := (ih v place).mp failed
      exact ⟨way, s, .option (Bool.eq_false_iff.mpr some) stops, rfl⟩
  · rintro ⟨way, s, stops, rfl⟩
    cases stops with
    | option some stops =>
      rw [some, (ih v way.reported).mpr ⟨way, s, stops, rfl⟩]
      rfl

theorem pinpoints_wrapped {content : Shape} (ih : content.Pinpoints) :
    (wrapped content).Pinpoints := by
  intro v place
  have unfolded : (wrapped content).readValue v = content.readValue v := rfl
  rw [unfolded, ih v place]
  constructor
  · rintro ⟨way, s, stops, rfl⟩
    exact ⟨way, s, .wrapped stops, rfl⟩
  · rintro ⟨way, s, stops, rfl⟩
    cases stops with
    | wrapped stops => exact ⟨way, s, stops, rfl⟩

theorem pinpoints_list {item : Shape} (ih : item.Pinpoints) : (list item).Pinpoints := by
  intro v place
  have unfolded : (list item).readValue v = Reader.items .list [] v >>= fun vs =>
      Reader.each item.read [] 0 vs >>= fun ds => .ok (.list ds) := rfl
  rw [unfolded]
  simp only [Reader.bind_eq_error_iff, Reader.items_eq_invalidJson_iff, Reader.items_eq_ok_iff,
    (placed_read item).each_eq_invalidJson_iff, reduceCtorEq, and_false, exists_false, or_false,
    Nat.zero_add]
  constructor
  · rintro (⟨rfl, s, rfl, more, unread⟩ | ⟨vs, holds, before, w, after, rfl, read, rest, failed, rfl⟩)
    · exact ⟨[], s, .listText more unread, rfl⟩
    · obtain ⟨way, s, stops, rfl⟩ := (ih w rest).mp failed
      exact ⟨_, s, .item holds read stops, rfl⟩
  · rintro ⟨way, s, stops, rfl⟩
    cases stops with
    | listText more unread => exact .inl ⟨rfl, s, rfl, more, unread⟩
    | @item _ _ w before after way _ holds read stops =>
      have failed := (ih w way.reported).mpr ⟨way, s, stops, rfl⟩
      exact .inr ⟨_, holds, before, w, after, rfl, read, way.reported, failed, rfl⟩

theorem pinpoints_tuple (form : TupleForm) {items : List Shape}
    (ih : ∀ item ∈ items, item.Pinpoints) : (tuple form items).Pinpoints := by
  intro v place
  have placed : ∀ reader ∈ items.map read, reader.Placed :=
    List.forall_mem_map.mpr fun item _ => placed_read item
  have unfolded : (tuple form items).readValue v =
      Reader.items (.tuple form (readers items).length) [] v >>= fun vs =>
        Reader.inOrder (.tupleItems form (readers items).length) [] 0 (readers items) vs >>=
          fun ds => .ok (.list ds) := rfl
  rw [unfolded, readers_eq_map]
  simp only [Reader.bind_eq_error_iff, Reader.items_eq_invalidJson_iff, Reader.items_eq_ok_iff,
    Reader.inOrder_eq_invalidJson_iff placed, reduceCtorEq, and_false, exists_false, or_false,
    Nat.zero_add]
  constructor
  · rintro (⟨rfl, s, rfl, more, unread⟩ | ⟨vs, holds, first, reader, others, before, w, after, rest,
      eq, rfl, passed, failed, rfl⟩)
    · exact ⟨[], s, .tupleText more unread, rfl⟩
    · obtain ⟨shapes, next, rfl, rfl, made⟩ := List.map_eq_append_iff.mp eq
      obtain ⟨item, later, rfl, rfl, rfl⟩ := List.map_eq_cons_iff.mp made
      obtain ⟨way, s, stops, rfl⟩ := (ih item (by simp) w rest).mp failed
      rw [List.forall₂_map_left_iff] at passed
      exact ⟨_, s, .tupleItem holds passed stops, rfl⟩
  · rintro ⟨way, s, stops, rfl⟩
    cases stops with
    | tupleText more unread => exact .inl ⟨rfl, s, rfl, more, unread⟩
    | @tupleItem _ first others item _ w before after way _ holds passed stops =>
      have failed := (ih item (by simp) w way.reported).mpr ⟨way, s, stops, rfl⟩
      exact .inr ⟨_, holds, first.map read, item.read, others.map read, before, w, after,
        way.reported, by simp, rfl, List.forall₂_map_left_iff.mpr passed, failed, rfl⟩

theorem pinpoints_map {key item : Shape} (ihKey : key.Pinpoints) (ihItem : item.Pinpoints) :
    (map key item).Pinpoints := by
  intro v place
  have unfolded : (map key item).readValue v = Reader.entries .map [] v >>= fun es =>
      Reader.mapEntries key.read item.read [] [] es >>= fun ds => .ok (.map ds) := rfl
  rw [unfolded]
  simp only [Reader.bind_eq_error_iff, Reader.entries_eq_invalidJson_iff, Reader.entries_eq_ok_iff,
    (placed_read key).mapEntries_eq_invalidJson_iff (placed_read item), reduceCtorEq, and_false,
    exists_false, or_false]
  constructor
  · rintro (⟨rfl, s, rfl, unread⟩ | ⟨es, holds, before, ⟨name, w⟩, after, rfl, passed, rest,
      failed | ⟨read, failed⟩, rfl⟩)
    · exact ⟨[], s, .mapText unread, rfl⟩
    · obtain ⟨way, s, stops, rfl⟩ := (ihKey _ rest).mp failed
      exact ⟨_, s, .key holds passed stops, rfl⟩
    · obtain ⟨way, s, stops, rfl⟩ := (ihItem w rest).mp failed
      exact ⟨_, s, .entry holds passed read stops, rfl⟩
  · rintro ⟨way, s, stops, rfl⟩
    cases stops with
    | mapText unread => exact .inl ⟨rfl, s, rfl, unread⟩
    | @key _ _ _ w before after name way _ holds passed stops =>
      have failed := (ihKey (.string name) way.reported).mpr ⟨way, s, stops, rfl⟩
      exact .inr ⟨_, holds, before, (name, w), after, rfl, passed, way.reported, .inl failed, rfl⟩
    | @entry _ _ _ w before after name way _ holds passed read stops =>
      have failed := (ihItem w way.reported).mpr ⟨way, s, stops, rfl⟩
      exact .inr ⟨_, holds, before, (name, w), after, rfl, passed, way.reported,
        .inr ⟨read, failed⟩, rfl⟩

theorem find?_fieldReaders (parts : List (Field Shape)) (name : String) :
    (fieldReaders parts).find? (·.name == name) =
      (parts.find? (·.name == name)).map fieldReader := by
  rw [fieldReaders_eq_map, List.find?_map]
  rfl

theorem passes_iff {parts : List (Field Shape)} {closed : Bool} {e : String × Value} :
    Passes parts closed e ↔ match (fieldReaders parts).find? (·.name == e.1) with
      | some reader => ∃ d, reader.read [] e.2 = .ok d
      | none => closed = false := by
  rw [find?_fieldReaders, Passes]
  cases parts.find? (·.name == e.1) <;> rfl

theorem pinpoints_fields (form : FieldsForm) (closed : Bool) {parts : List (Field Shape)}
    (ih : ∀ field ∈ parts, field.type.Pinpoints) : (fields form closed parts).Pinpoints := by
  intro v place
  have placed : ∀ reader ∈ fieldReaders parts, reader.read.Placed := by
    rw [fieldReaders_eq_map]
    exact List.forall_mem_map.mpr fun field _ => placed_read field.type
  have unfolded : (fields form closed parts).readValue v =
      Reader.entries (.fields form) [] v >>= fun es =>
        Reader.knownFields (fieldReaders parts) closed [] es >>= fun found =>
          Reader.arrange found (fieldReaders parts) >>= fun ds => .ok (.fields ds) := rfl
  rw [unfolded]
  simp only [Reader.bind_eq_error_iff, Reader.entries_eq_invalidJson_iff, Reader.entries_eq_ok_iff,
    Reader.knownFields_eq_invalidJson_iff placed, Reader.arrange_ne_invalidJson, ← passes_iff,
    reduceCtorEq, and_false, exists_false, or_false]
  constructor
  · rintro (⟨rfl, s, rfl, unread⟩ | ⟨es, holds, before, ⟨name, w⟩, after, rfl, passed, reader, rest,
      known, failed, rfl⟩)
    · exact ⟨[], s, .fieldsText unread, rfl⟩
    · rw [find?_fieldReaders] at known
      obtain ⟨field, there, rfl⟩ := Option.map_eq_some_iff.mp known
      obtain ⟨way, s, stops, rfl⟩ := (ih field (List.mem_of_find?_eq_some there) w rest).mp failed
      exact ⟨_, s, .field holds passed there stops, rfl⟩
  · rintro ⟨way, s, stops, rfl⟩
    cases stops with
    | fieldsText unread => exact .inl ⟨rfl, s, rfl, unread⟩
    | @field _ _ _ field _ w before after name way _ holds passed there stops =>
      have failed := (ih field (List.mem_of_find?_eq_some there) w way.reported).mpr
        ⟨way, s, stops, rfl⟩
      have known := (find?_fieldReaders parts name).trans (congrArg (Option.map fieldReader) there)
      exact .inr ⟨_, holds, before, (name, w), after, rfl, passed, fieldReader field, way.reported,
        known, failed, rfl⟩

/-- Null holds no text that could stop a reading. -/
theorem readValue_null_ne_invalidJson (shape : Shape) (place : Position) :
    shape.readValue .null ≠ .error (.invalidJson place) := by
  intro h
  induction shape using Shape.induction with
  | wrapped content ih => exact ih h
  | tuple form items => cases items <;> cases h
  | fields form closed parts =>
    have unfolded : (fields form closed parts).readValue .null =
        Reader.arrange [] (fieldReaders parts) >>= fun ds => .ok (.fields ds) := rfl
    rw [unfolded, Reader.bind_eq_error_iff] at h
    rcases h with failed | ⟨_, _, eq⟩
    · exact Reader.arrange_ne_invalidJson _ _ failed
    · cases eq
  | firstOf name options =>
    simp only [readValue, read] at h
    split at h <;> cases h
  | _ => cases h

theorem find?_variantReaders (alternatives : List (Variant Shape)) (name : String) :
    (variantReaders alternatives).find? (·.name == name) =
      (alternatives.find? (·.name == name)).map variantReader := by
  rw [variantReaders_eq_map, List.find?_map]
  rfl

theorem content_eq_invalidJson_iff {alternatives : List (Variant Shape)} {label : String}
    {given : Option Value} {place : Position} :
    Reader.content (variantReaders alternatives) [] label given = .error (.invalidJson place) ↔
      ∃ alternative content, alternatives.find? (·.name == label) = some alternative ∧
        alternative.content = some content ∧
          content.readValue (given.getD .null) = .error (.invalidJson place) := by
  rw [Reader.content_eq_invalidJson_iff, find?_variantReaders]
  constructor
  · rintro ⟨reader, read, found, inner, failed⟩
    obtain ⟨alternative, there, rfl⟩ := Option.map_eq_some_iff.mp found
    obtain ⟨content, typed, rfl⟩ := Option.map_eq_some_iff.mp inner
    exact ⟨alternative, content, there, typed, failed⟩
  · rintro ⟨alternative, content, there, typed, failed⟩
    exact ⟨variantReader alternative, content.read, congrArg (Option.map variantReader) there,
      congrArg (Option.map read) typed, failed⟩

theorem pinpoints_variants (name : String) {alternatives : List (Variant Shape)}
    (ih : ∀ alternative ∈ alternatives, ∀ content, alternative.content = some content →
      content.Pinpoints) : (variants name alternatives).Pinpoints := by
  intro v place
  constructor
  · intro h
    cases v with
    | string label =>
      -- A name by itself is read with null for its content.
      obtain ⟨_, content, _, _, failed⟩ := content_eq_invalidJson_iff.mp h
      exact absurd failed (readValue_null_ne_invalidJson content place)
    | object entries =>
      rcases entries with _ | ⟨⟨label, w⟩, _ | ⟨next, rest⟩⟩
      · cases h
      · obtain ⟨alternative, content, there, typed, failed⟩ := content_eq_invalidJson_iff.mp h
        have inner := ih alternative (List.mem_of_find?_eq_some there) content typed
        obtain ⟨way, s, stops, rfl⟩ := (inner w place).mp failed
        exact ⟨_, s, .content there typed stops, rfl⟩
      · cases h
    | _ => cases h
  · rintro ⟨way, s, stops, rfl⟩
    cases stops with
    | @content _ label _ alternative content w way _ there typed stops =>
      have inner := ih alternative (List.mem_of_find?_eq_some there) content typed
      have failed := (inner w way.reported).mpr ⟨way, s, stops, rfl⟩
      exact content_eq_invalidJson_iff.mpr ⟨alternative, content, there, typed, failed⟩

theorem pinpoints (shape : Shape) : shape.Pinpoints := by
  induction shape using Shape.induction with
  | option content ih => exact pinpoints_option ih
  | wrapped content ih => exact pinpoints_wrapped ih
  | list item ih => exact pinpoints_list ih
  | tuple form items ih => exact pinpoints_tuple form ih
  | map key item ihKey ihItem => exact pinpoints_map ihKey ihItem
  | fields form closed parts ih => exact pinpoints_fields form closed ih
  | variants name alternatives ih => exact pinpoints_variants name ih
  | bool | float | single =>
    apply pinpoints_of_plain
    · exact fun v place => convert_ne_invalidJson
    · rintro v way s ⟨⟩
  | text | any =>
    apply pinpoints_of_plain
    · rintro v place ⟨⟩
    · rintro v way s ⟨⟩
  | int type =>
    apply pinpoints_of_plain
    · intro v place
      simp only [readValue, read, Reader.int]
      cases v.toInt64 with
      | ok n =>
        dsimp only
        split <;> simp
      | error e => simp
    · rintro v way s ⟨⟩
  | wideInt signed =>
    apply pinpoints_of_plain
    · intro v place
      simp only [readValue, read, Reader.wideInt]
      repeat' split
      all_goals simp
    · rintro v way s ⟨⟩
  | char =>
    apply pinpoints_of_plain
    · intro v place
      simp only [readValue, read, Reader.char]
      split <;> simp
    · rintro v way s ⟨⟩
  | unit | unitNamed name =>
    apply pinpoints_of_plain
    · intro v place
      simp only [readValue, read, Reader.unit]
      split <;> simp
    · rintro v way s ⟨⟩
  | firstOf name options =>
    apply pinpoints_of_plain
    · intro v place
      simp only [readValue, read]
      split <;> simp
    · rintro v way s ⟨⟩

end Shape

end FlatRecord
