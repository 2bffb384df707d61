import FlatRecord.Shape.Read

namespace FlatRecord

namespace ReadError

/-- The error as seen from further outside, where the place it was met at has a position. -/
def below (position : Position) : ReadError → ReadError
  | .invalidJson rest => .invalidJson (position ++ rest)
  | .unreadable rest reason => .unreadable (position ++ rest) reason
  | e => e

theorem below_below (position rest : Position) (e : ReadError) :
    (e.below rest).below position = e.below (position ++ rest) := by
  cases e <;> simp [below]

theorem below_eq_invalidJson {position place : Position} {e : ReadError} :
    e.below position = .invalidJson place ↔ ∃ rest, e = .invalidJson rest ∧ place = position ++ rest := by
  cases e <;> simp [below, eq_comm]

end ReadError

/-- What is read at a position depends on it only in where errors are said to be. -/
def Located {α : Type} (read : Position → Except ReadError α) : Prop :=
  ∀ position, read position = (read []).mapError (ReadError.below position)

namespace Located

variable {α β : Type} {read : Position → Except ReadError α}

theorem ok (a : α) : Located fun _ => .ok a := fun _ => rfl

theorem error {e : Position → ReadError} (h : ∀ position, (e []).below position = e position) :
    Located fun position => (.error (e position) : Except ReadError α) := fun position =>
  congrArg Except.error (h position).symm

theorem invalidJson : Located fun position => (.error (.invalidJson position) : Except ReadError α) :=
  error fun position => congrArg ReadError.invalidJson (List.append_nil position)

theorem unreadable (reason : Unreadable) :
    Located fun position => (.error (.unreadable position reason) : Except ReadError α) :=
  error fun position => congrArg (ReadError.unreadable · reason) (List.append_nil position)

theorem bind (h : Located read) {next : α → Position → Except ReadError β}
    (k : ∀ a, Located (next a)) : Located fun position => read position >>= fun a => next a position := by
  intro position
  dsimp only
  rw [h position]
  cases read [] with
  | ok a => exact k a position
  | error e => rfl

theorem map (h : Located read) (f : α → β) : Located fun position => (read position).map f := by
  intro position
  dsimp only
  rw [h position]
  cases read [] <;> rfl

/-- A part stands below the whole. -/
theorem part (h : Located read) (step : Step) : Located fun position => read (position ++ [step]) := by
  intro position
  dsimp only
  rw [List.nil_append, h (position ++ [step]), h [step]]
  cases read [] with
  | ok a => rfl
  | error e => exact congrArg Except.error (e.below_below position [step]).symm

theorem eq_ok_iff (h : Located read) {position : Position} {a : α} :
    read position = .ok a ↔ read [] = .ok a := by
  rw [h position]
  cases read [] with
  | ok b => exact Iff.rfl
  | error e => exact iff_of_false nofun nofun

theorem eq_invalidJson_iff (h : Located read) {position place : Position} :
    read position = .error (.invalidJson place) ↔
      ∃ rest, read [] = .error (.invalidJson rest) ∧ place = position ++ rest := by
  rw [h position]
  cases read [] with
  | ok a => exact iff_of_false nofun nofun
  | error e =>
    have moved : (Except.error e : Except ReadError α).mapError (ReadError.below position) =
      .error (e.below position) := rfl
    simp only [moved, Except.error.injEq, ReadError.below_eq_invalidJson]

end Located

namespace Reader

/-- A reader for which positions matter only in errors. -/
def Placed (reader : Reader) : Prop := ∀ v, Located fun position => reader position v

theorem located_convert {α : Type} (wrap : α → Datum) (x : Except ConversionError α) :
    Located fun position => convert position wrap x := by
  cases x with
  | ok a => exact .ok (wrap a)
  | error e => exact .unreadable (.conversion e)

theorem located_items (expected : Expectation) (v : Value) :
    Located fun position => items expected position v := by
  cases v with
  | null => exact .ok []
  | array vs => exact .ok vs
  | string s =>
    by_cases blank : (Text.trim s).isEmpty
    · simp only [items, if_pos blank]
      exact .ok []
    · simp only [items, if_neg blank]
      cases Value.readJson? s with
      | none => exact .invalidJson
      | some v =>
        cases v with
        | array vs => exact .ok vs
        | _ => exact .unreadable _
  | _ => exact .error fun _ => rfl

theorem located_entries (expected : Expectation) (v : Value) :
    Located fun position => entries expected position v := by
  cases v with
  | null => exact .ok []
  | object es => exact .ok es
  | string s =>
    simp only [entries]
    cases Value.readJson? s with
    | none => exact .invalidJson
    | some v =>
      cases v with
      | object es => exact .ok es
      | _ => exact .unreadable _
  | _ => exact .error fun _ => rfl

theorem placed_int (type : IntType) : Placed (int type) := by
  intro v
  simp only [int]
  cases v.toInt64 with
  | ok n =>
    by_cases holds : type.holds n.toInt
    · simp only [if_pos holds]
      exact .ok _
    · simp only [if_neg holds]
      exact .error fun _ => rfl
  | error e => exact .unreadable _

theorem placed_wideInt (signed : Bool) : Placed (wideInt signed) := by
  intro v
  cases v with
  | int n =>
    simp only [wideInt]
    split
    · exact .ok _
    · exact .error fun _ => rfl
  | _ => exact .error fun _ => rfl

theorem placed_char : Placed char := by
  intro v
  simp only [char]
  split
  · exact .ok _
  · exact .error fun _ => rfl

theorem placed_unit (expected : Expectation) : Placed (unit expected) := by
  intro v
  simp only [unit]
  split
  · exact .ok _
  · exact .error fun _ => rfl

theorem Placed.option {content : Reader} (h : content.Placed) : Placed (option content) := by
  intro v
  simp only [Reader.option]
  by_cases null : v.isNull
  · simp only [if_pos null]
    exact .ok _
  · simp only [if_neg null]
    exact (h v).map _

theorem Placed.each {item : Reader} (h : item.Placed) (i : Nat) (vs : List Value) :
    Located fun position => each item position i vs := by
  induction vs generalizing i with
  | nil => exact .ok []
  | cons v rest ih =>
    exact ((h v).part (.index i)).bind fun d => (ih (i + 1)).bind fun ds => .ok (d :: ds)

theorem Placed.list {item : Reader} (h : item.Placed) : Placed (list item) := fun v =>
  (located_items .list v).bind fun vs => (h.each 0 vs).bind fun ds => .ok (Datum.list ds)

theorem located_inOrder {readers : List Reader} (h : ∀ reader ∈ readers, reader.Placed)
    (expected : Expectation) (i : Nat) (vs : List Value) :
    Located fun position => inOrder expected position i readers vs := by
  induction readers generalizing i vs with
  | nil =>
    cases vs with
    | nil => exact .ok []
    | cons v rest => exact .error fun _ => rfl
  | cons reader readers ih =>
    obtain ⟨here, later⟩ := List.forall_mem_cons.mp h
    cases vs with
    | nil => exact .error fun _ => rfl
    | cons v rest =>
      exact ((here v).part (.index i)).bind fun d =>
        (ih later (i + 1) rest).bind fun ds => .ok (d :: ds)

theorem placed_tuple (form : TupleForm) {readers : List Reader}
    (h : ∀ reader ∈ readers, reader.Placed) : Placed (tuple form readers) := fun v =>
  (located_items _ v).bind fun vs => (located_inOrder h _ 0 vs).bind fun ds => .ok (Datum.list ds)

theorem located_mapEntries {key item : Reader} (h : key.Placed) (h' : item.Placed)
    (done : List (Datum × Datum)) (es : List (String × Value)) :
    Located fun position => mapEntries key item position done es := by
  induction es generalizing done with
  | nil => exact .ok done
  | cons e rest ih =>
    obtain ⟨name, v⟩ := e
    exact ((h (.string name)).part (.key name)).bind fun k =>
      ((h' v).part (.key name)).bind fun d => ih (putKey k d done)

theorem Placed.map {key item : Reader} (h : key.Placed) (h' : item.Placed) :
    Placed (map key item) := fun v =>
  (located_entries .map v).bind fun es => (located_mapEntries h h' [] es).bind fun ds => .ok (Datum.map ds)

theorem located_knownFields {readers : List OfField} (h : ∀ reader ∈ readers, reader.read.Placed)
    (closed : Bool) (es : List (String × Value)) :
    Located fun position => knownFields readers closed position es := by
  induction es with
  | nil => exact .ok []
  | cons e rest ih =>
    obtain ⟨name, v⟩ := e
    simp only [knownFields]
    cases found : readers.find? (·.name == name) with
    | some reader =>
      have placed := h reader (List.mem_of_find?_eq_some found)
      exact ((placed v).part (.key name)).bind fun d => ih.bind fun ds => .ok ((name, d) :: ds)
    | none =>
      cases closed with
      | true => exact .error fun _ => rfl
      | false => exact ih

theorem located_arrange (found : List (String × Datum)) (readers : List OfField) :
    Located fun _ => arrange found readers := by
  induction readers with
  | nil => exact .ok []
  | cons reader rest ih =>
    simp only [arrange]
    cases (found.lookup reader.name).or reader.missing with
    | none => exact .error fun _ => rfl
    | some d =>
      exact ih.bind fun ds => .ok _

theorem placed_fields (form : FieldsForm) (closed : Bool) {readers : List OfField}
    (h : ∀ reader ∈ readers, reader.read.Placed) : Placed (fields form closed readers) := fun v =>
  (located_entries _ v).bind fun es => (located_knownFields h closed es).bind fun found =>
    (located_arrange found readers).bind fun ds => .ok (Datum.fields ds)

theorem located_content {readers : List OfVariant}
    (h : ∀ reader ∈ readers, ∀ read, reader.content = some read → read.Placed) (name : String)
    (given : Option Value) : Located fun position => content readers position name given := by
  simp only [content]
  cases found : readers.find? (·.name == name) with
  | none => exact .error fun _ => rfl
  | some reader =>
    simp only
    cases inner : reader.content with
    | some read =>
      exact (h reader (List.mem_of_find?_eq_some found) read inner _).map _
    | none =>
      simp only
      split
      · exact .ok _
      · exact .error fun _ => rfl

theorem placed_variants (name : String) {readers : List OfVariant}
    (h : ∀ reader ∈ readers, ∀ read, reader.content = some read → read.Placed) :
    Placed (variants name readers) := by
  intro v
  cases v with
  | string variant => exact located_content h variant none
  | object es =>
    rcases es with _ | ⟨⟨variant, given⟩, _ | ⟨next, rest⟩⟩
    · exact .error fun _ => rfl
    · exact located_content h variant (some given)
    · exact .error fun _ => rfl
  | _ => exact .error fun _ => rfl

end Reader

namespace Shape

theorem readers_eq_map (items : List Shape) : readers items = items.map read := by
  induction items with
  | nil => rfl
  | cons item rest ih => rw [readers, ih, List.map_cons]

/-- What a reading of named parts knows about one of them. -/
def fieldReader (field : Field Shape) : Reader.OfField :=
  ⟨field.name, field.type.read, field.fallback.or field.type.whenMissing?, field.omitEmpty⟩

theorem fieldReaders_eq_map (parts : List (Field Shape)) :
    fieldReaders parts = parts.map fieldReader := by
  induction parts with
  | nil => rfl
  | cons field rest ih => rw [fieldReaders, ih, List.map_cons, fieldReader]

theorem optionalReader_eq_map (content : Option Shape) :
    optionalReader content = content.map read := by
  cases content <;> rfl

def variantReader (alternative : Variant Shape) : Reader.OfVariant :=
  ⟨alternative.name, alternative.content.map read⟩

theorem variantReaders_eq_map (alternatives : List (Variant Shape)) :
    variantReaders alternatives = alternatives.map variantReader := by
  induction alternatives with
  | nil => rfl
  | cons alternative rest ih =>
    rw [variantReaders, ih, List.map_cons, variantReader, optionalReader_eq_map]

theorem sizeOf_type_lt {field : Field Shape} {parts : List (Field Shape)} (h : field ∈ parts) :
    sizeOf field.type < sizeOf parts := by
  have within := List.sizeOf_lt_of_mem h
  obtain ⟨name, type, fallback, omitEmpty⟩ := field
  rw [Field.mk.sizeOf_spec] at within
  dsimp only
  omega

theorem sizeOf_content_lt {alternative : Variant Shape} {alternatives : List (Variant Shape)}
    (h : alternative ∈ alternatives) {content : Shape}
    (typed : alternative.content = some content) : sizeOf content < sizeOf alternatives := by
  have within := List.sizeOf_lt_of_mem h
  obtain ⟨name, _⟩ := alternative
  cases typed
  rw [Variant.mk.sizeOf_spec, Option.some.sizeOf_spec] at within
  omega

section Induction

variable {motive : Shape → Prop} (bool : motive .bool) (int : ∀ type, motive (.int type))
  (wideInt : ∀ signed, motive (.wideInt signed)) (float : motive .float) (single : motive .single)
  (char : motive .char) (text : motive .text) (unit : motive .unit)
  (unitNamed : ∀ name, motive (.unitNamed name)) (any : motive .any)
  (option : ∀ content, motive content → motive (.option content))
  (wrapped : ∀ content, motive content → motive (.wrapped content))
  (list : ∀ item, motive item → motive (.list item))
  (tuple : ∀ form items, (∀ item ∈ items, motive item) → motive (.tuple form items))
  (map : ∀ key item, motive key → motive item → motive (.map key item))
  (fields : ∀ form closed parts, (∀ field ∈ parts, motive field.type) →
    motive (.fields form closed parts))
  (variants : ∀ name alternatives,
    (∀ alternative ∈ alternatives, ∀ content, alternative.content = some content → motive content) →
      motive (.variants name alternatives))
  (firstOf : ∀ name options, motive (.firstOf name options))
include bool int wideInt float single char text unit unitNamed any option wrapped list tuple map
  fields variants firstOf

/-- What holds of a type if it holds of its parts holds of all types. -/
@[elab_as_elim]
theorem induction : ∀ shape : Shape, motive shape
  | .bool => bool
  | .int type => int type
  | .wideInt signed => wideInt signed
  | .float => float
  | .single => single
  | .char => char
  | .text => text
  | .unit => unit
  | .unitNamed name => unitNamed name
  | .any => any
  | .option content => option content (induction content)
  | .wrapped content => wrapped content (induction content)
  | .list item => list item (induction item)
  | .tuple form items => tuple form items fun item _ => induction item
  | .map key item => map key item (induction key) (induction item)
  | .fields form closed parts =>
    fields form closed parts fun field mem =>
      have := sizeOf_type_lt mem
      induction field.type
  | .variants name alternatives =>
    variants name alternatives fun alternative mem content typed =>
      have := sizeOf_content_lt mem typed
      induction content
  | .firstOf name options => firstOf name options
termination_by shape => sizeOf shape

end Induction

/-- A value is read in the same way wherever it stands. -/
theorem placed_read (shape : Shape) : shape.read.Placed := by
  induction shape using Shape.induction with
  | bool => exact fun v => Reader.located_convert .bool v.toBool
  | int type => exact Reader.placed_int type
  | wideInt signed => exact Reader.placed_wideInt signed
  | float => exact fun v => Reader.located_convert .float v.toFloat
  | single => exact fun v => Reader.located_convert _ v.toFloat
  | char => exact Reader.placed_char
  | text => exact fun v => .ok (Datum.text v.text)
  | unit => exact Reader.placed_unit .unit
  | unitNamed name => exact Reader.placed_unit (.unitNamed name)
  | any => exact fun v => .ok (Datum.value v)
  | option content ih => exact ih.option
  | wrapped content ih => exact ih
  | list item ih => exact ih.list
  | tuple form items ih =>
    rw [read, readers_eq_map]
    exact Reader.placed_tuple form (List.forall_mem_map.mpr ih)
  | map key item ihKey ihItem => exact ihKey.map ihItem
  | fields form closed parts ih =>
    rw [read, fieldReaders_eq_map]
    exact Reader.placed_fields form closed (List.forall_mem_map.mpr ih)
  | variants name alternatives ih =>
    rw [read, variantReaders_eq_map]
    apply Reader.placed_variants name
    intro reader made read given
    obtain ⟨alternative, mem, rfl⟩ := List.mem_map.mp made
    obtain ⟨content, typed, rfl⟩ := Option.map_eq_some_iff.mp given
    exact ih alternative mem content typed
  | firstOf name options =>
    intro v
    simp only [read]
    split
    · exact .ok _
    · exact .error fun _ => rfl

end Shape

end FlatRecord
