import FlatRecord.Proofs.Flat.RoundTrip
import FlatRecord.Proofs.Value.ArrayText
import FlatRecord.Shape.Read

namespace FlatRecord

namespace Value

mutual

/-- No object is empty, but for the objects within arrays. -/
def Filled : Value → Prop
  | .object entries => entries ≠ [] ∧ FilledEntries entries
  | _ => True
termination_by structural v => v

def FilledEntries : List (String × Value) → Prop
  | [] => True
  | (_, v) :: rest => v.Filled ∧ FilledEntries rest
termination_by structural entries => entries

end

mutual

/-- The texts of all arrays can be read back: they hold finite floats only and nest no deeper than
a reader follows. -/
def Printable : Value → Prop
  | .array items => (Value.array items).Finite ∧ (Value.array items).nesting ≤ Json.maxLevels
  | .object entries => PrintableEntries entries
  | _ => True
termination_by structural v => v

def PrintableEntries : List (String × Value) → Prop
  | [] => True
  | (_, v) :: rest => v.Printable ∧ PrintableEntries rest
termination_by structural entries => entries

end

/-- What comes out of a record as it went in, but for the arrays that are texts then. -/
structure Storable (v : Value) : Prop where
  ordered : v.Ordered
  filled : ∀ entries, v = .object entries → FilledEntries entries
  printable : v.Printable

theorem filledEntries_iff {entries : List (String × Value)} :
    FilledEntries entries ↔ ∀ e ∈ entries, e.2.Filled := by
  induction entries with
  | nil => simp [FilledEntries]
  | cons e rest ih => simp only [FilledEntries, ih, List.forall_mem_cons]

theorem printableEntries_iff {entries : List (String × Value)} :
    PrintableEntries entries ↔ ∀ e ∈ entries, e.2.Printable := by
  induction entries with
  | nil => simp [PrintableEntries]
  | cons e rest ih => simp only [PrintableEntries, ih, List.forall_mem_cons]

theorem Storable.entry {entries : List (String × Value)} (storable : (object entries).Storable) :
    ∀ e ∈ entries, e.2.Storable := by
  have ordered := storable.ordered
  have printable := storable.printable
  rw [Ordered] at ordered
  rw [Printable] at printable
  intro e mem
  have filled := filledEntries_iff.mp (storable.filled entries rfl) e mem
  refine ⟨orderedEntries_iff.mp ordered.2 e mem, ?_, printableEntries_iff.mp printable e mem⟩
  intro below eq
  rw [eq, Filled] at filled
  exact filled.2

mutual

theorem hollow_of_filled : ∀ v : Value, v.Filled → v.hollow = false
  | .object entries, filled => by
    rw [Filled] at filled
    rw [hollow]
    exact hollowEntries_of_filled entries filled.1 filled.2
  | .array _, _ => rfl
  | .null, _ => rfl
  | .bool _, _ => rfl
  | .int _, _ => rfl
  | .float _, _ => rfl
  | .string _, _ => rfl
termination_by structural v => v

theorem hollowEntries_of_filled : ∀ entries : List (String × Value), entries ≠ [] →
    FilledEntries entries → hollowEntries entries = false
  | [], more, _ => absurd rfl more
  | (_, v) :: rest, _, filled => by
    rw [hollowEntries, hollow_of_filled v filled.1, Bool.false_and]
termination_by structural entries => entries

end

/-- Nothing is left out of the normal form of an object whose parts are not empty. -/
theorem normalEntries_eq_map {entries : List (String × Value)} (filled : FilledEntries entries) :
    normalEntries entries = entries.map fun e => (e.1, e.2.normal) := by
  induction entries with
  | nil => rfl
  | cons e rest ih =>
    rw [normalEntries, if_neg (by simp [hollow_of_filled e.2 filled.1]), ih filled.2, List.map_cons]

theorem isNull_normal (v : Value) : v.normal.isNull = v.isNull := by
  cases v <;> rfl

end Value

/-- Two outcomes are the same where they succeed, whatever their errors are. -/
def Alike {α : Type} (a b : Except ReadError α) : Prop := ∀ x, a = .ok x ↔ b = .ok x

namespace Alike

variable {α β : Type} {a b : Except ReadError α}

theorem refl (a : Except ReadError α) : Alike a a := fun _ => Iff.rfl

theorem errors (d e : ReadError) : Alike (.error d : Except ReadError α) (.error e) := by
  intro x
  simp

theorem bind {f g : α → Except ReadError β} (h : Alike a b) (k : ∀ x, Alike (f x) (g x)) :
    Alike (a >>= f) (b >>= g) := by
  cases a with
  | ok x =>
    have eq : b = .ok x := (h x).mp rfl
    rw [eq]
    exact k x
  | error d =>
    cases b with
    | ok x => cases (h x).mpr rfl
    | error e => exact errors d e

theorem map (h : Alike a b) (f : α → β) : Alike (a.map f) (b.map f) := by
  cases a with
  | ok x =>
    have eq : b = .ok x := (h x).mp rfl
    rw [eq]
    exact refl _
  | error d =>
    cases b with
    | ok x => cases (h x).mpr rfl
    | error e => exact errors d e

end Alike

namespace Shape

mutual

/-- Types that say everywhere what they expect: no part takes data of any kind or tries several
ways of reading, and no alternative is called by the text of an array. -/
def Directed : Shape → Prop
  | .any => False
  | .firstOf _ options => options = []
  | .option content => content.Directed
  | .wrapped content => content.Directed
  | .list item => item.Directed
  | .tuple _ items => DirectedItems items
  | .map key item => key.Directed ∧ item.Directed
  | .fields _ _ parts => DirectedFields parts
  | .variants _ alternatives => DirectedVariants alternatives
  | _ => True
termination_by structural shape => shape

def DirectedItems : List Shape → Prop
  | [] => True
  | shape :: rest => shape.Directed ∧ DirectedItems rest
termination_by structural shapes => shapes

def DirectedFields : List (Field Shape) → Prop
  | [] => True
  | ⟨_, type, _, _⟩ :: rest => type.Directed ∧ DirectedFields rest
termination_by structural fields => fields

def DirectedVariants : List (Variant Shape) → Prop
  | [] => True
  | ⟨name, content⟩ :: rest =>
    (∀ items, Value.readJson? name ≠ some (.array items)) ∧ DirectedContent content ∧
      DirectedVariants rest
termination_by structural variants => variants

def DirectedContent : Option Shape → Prop
  | none => True
  | some shape => shape.Directed
termination_by structural shape => shape

end

/-- A type that contains itself is directed however deep it is taken apart. -/
theorem directed_unfold {step : Shape → Shape}
    (h : ∀ shape, shape.Directed → (step shape).Directed) : ∀ depth, (unfold step depth).Directed
  | 0 => rfl
  | depth + 1 => h _ (directed_unfold h depth)

/-- A part of a type and the part of a value that it is to read, outside of arrays. -/
inductive Meets : Shape → Value → Shape → Value → Prop
  | whole (shape : Shape) (v : Value) : Meets shape v shape v
  | option {content part : Shape} {v w : Value} :
    Meets content v part w → Meets (.option content) v part w
  | wrapped {content part : Shape} {v w : Value} :
    Meets content v part w → Meets (.wrapped content) v part w
  | item {key item part : Shape} {entries : List (String × Value)} {e : String × Value}
    {w : Value} : e ∈ entries → Meets item e.2 part w → Meets (.map key item) (.object entries) part w
  | field {form : FieldsForm} {closed : Bool} {parts : List (Field Shape)} {field : Field Shape}
    {part : Shape} {entries : List (String × Value)} {e : String × Value} {w : Value} :
    e ∈ entries → parts.find? (·.name == e.1) = some field → Meets field.type e.2 part w →
      Meets (.fields form closed parts) (.object entries) part w
  | content {name label : String} {alternatives : List (Variant Shape)} {found : Variant Shape}
    {content part : Shape} {v w : Value} :
    alternatives.find? (·.name == label) = some found → found.content = some content →
      Meets content v part w → Meets (.variants name alternatives) (.object [(label, v)]) part w

/-- No text is expected where there is an object. -/
def Unclashing (shape : Shape) (v : Value) : Prop :=
  ∀ entries, ¬Meets shape v .text (.object entries)

section ArrayText

variable {items : List Value}
  (reads : Value.readJson? (Value.array items).jsonText = some (.array items)) (position : Position)
include reads

theorem items_arrayText (expected : Expectation) :
    Reader.items expected position (.string (Value.array items).jsonText) = .ok items := by
  have bracketed := Value.bracketed_jsonText items
  have some : (Value.array items).jsonText.isEmpty = false := by
    have first := bracketed.first
    by_contra empty
    rw [Bool.not_eq_false, String.isEmpty_iff] at empty
    rw [empty] at first
    cases first
  simp [Reader.items, bracketed.trim_eq, some, reads]

theorem entries_arrayText (expected : Expectation) :
    Reader.entries expected position (.string (Value.array items).jsonText) =
      .error (.unreadable position (.notObjectText .array)) := by
  simp [Reader.entries, reads, Value.kind]

theorem content_arrayText {alternatives : List (Variant Shape)}
    (directed : DirectedVariants alternatives) (given : Option Value) :
    ∃ e, Reader.content (variantReaders alternatives) position (Value.array items).jsonText given =
      .error e := by
  have unknown : (variantReaders alternatives).find? (·.name == (Value.array items).jsonText) =
      none := by
    induction alternatives with
    | nil => rfl
    | cons alternative rest ih =>
      obtain ⟨name, content⟩ := alternative
      have other : (name == (Value.array items).jsonText) = false := by
        rw [beq_eq_false_iff_ne]
        rintro rfl
        exact directed.1 items reads
      rw [variantReaders, List.find?_cons, other]
      exact ih directed.2.2
  rw [Reader.content, unknown]
  exact ⟨_, rfl⟩

/-- The text of an array is read as the array itself by every type that is directed. -/
theorem read_arrayText : ∀ shape : Shape, shape.Directed →
    Alike (shape.read position (.string (Value.array items).jsonText))
      (shape.read position (.array items))
  | .bool, _ => by
    have text := (Value.bracketed_jsonText items).toBool_eq
    rw [read, Reader.bool, text]
    exact Alike.errors _ _
  | .int type, _ => by
    have text := (Value.bracketed_jsonText items).toInt64_eq
    rw [read, Reader.int, text]
    exact Alike.errors _ _
  | .wideInt signed, _ => Alike.errors _ _
  | .float, _ => by
    have text := (Value.bracketed_jsonText items).toFloat_eq
    rw [read, Reader.float, text]
    exact Alike.errors _ _
  | .single, _ => by
    have text := (Value.bracketed_jsonText items).toFloat_eq
    rw [read, Reader.single, text]
    exact Alike.errors _ _
  | .char, _ => Alike.refl _
  | .text, _ => Alike.refl _
  | .unit, _ => Alike.errors _ _
  | .unitNamed _, _ => Alike.errors _ _
  | .option content, directed => by
    have inner := read_arrayText content directed
    rw [read, Reader.option, Reader.option, if_neg (by simp [Value.isNull]),
      if_neg (by simp [Value.isNull])]
    exact inner.map Datum.present
  | .wrapped content, directed => read_arrayText content directed
  | .list item, _ => by
    rw [read, Reader.list, items_arrayText reads]
    exact Alike.refl _
  | .tuple form shapes, _ => by
    rw [read, Reader.tuple, items_arrayText reads]
    exact Alike.refl _
  | .map key item, _ => by
    rw [read, Reader.map, entries_arrayText reads]
    exact Alike.errors _ _
  | .fields form closed parts, _ => by
    rw [read, Reader.fields, entries_arrayText reads]
    exact Alike.errors _ _
  | .variants name alternatives, directed => by
    obtain ⟨e, unknown⟩ := content_arrayText reads position directed none
    rw [read, Reader.variants, unknown]
    exact Alike.errors _ _
  | .any, directed => directed.elim
  | .firstOf name options, directed => by
    have none : options = [] := directed
    subst none
    exact Alike.errors _ _
termination_by structural shape => shape

end ArrayText

section Entries

/-- A reader gives the same for a value and for its normal form, as far as it succeeds. -/
def Normalizing (reader : Reader) (v : Value) : Prop :=
  ∀ position, Alike (reader position v.normal) (reader position v)

variable (position : Position)

theorem mapEntries_normal (key : Reader) {item : Reader} {entries : List (String × Value)}
    (h : ∀ e ∈ entries, Normalizing item e.2) (done : List (Datum × Datum)) :
    Alike (Reader.mapEntries key item position done (entries.map fun e => (e.1, e.2.normal)))
      (Reader.mapEntries key item position done entries) := by
  induction entries generalizing done with
  | nil => exact Alike.refl _
  | cons e rest ih =>
    rw [List.map_cons, Reader.mapEntries, Reader.mapEntries]
    apply (Alike.refl _).bind
    intro k
    apply (h e List.mem_cons_self _).bind
    intro d
    exact ih (fun e mem => h e (List.mem_cons_of_mem _ mem)) _

theorem knownFields_normal {readers : List Reader.OfField} (closed : Bool)
    {entries : List (String × Value)}
    (h : ∀ e ∈ entries, ∀ reader, readers.find? (·.name == e.1) = some reader →
      Normalizing reader.read e.2) :
    Alike (Reader.knownFields readers closed position (entries.map fun e => (e.1, e.2.normal)))
      (Reader.knownFields readers closed position entries) := by
  induction entries with
  | nil => exact Alike.refl _
  | cons e rest ih =>
    have tail := ih fun e mem => h e (List.mem_cons_of_mem _ mem)
    rw [List.map_cons, Reader.knownFields, Reader.knownFields]
    cases found : readers.find? (·.name == e.1) with
    | none =>
      cases closed with
      | true => exact Alike.refl _
      | false => exact tail
    | some reader =>
      apply (h e List.mem_cons_self reader found _).bind
      intro d
      apply tail.bind
      intro ds
      exact Alike.refl _

theorem content_normal {readers : List Reader.OfVariant} {label : String} {v : Value}
    (h : ∀ reader read, readers.find? (·.name == label) = some reader →
      reader.content = some read → Normalizing read v) :
    Alike (Reader.content readers position label (some v.normal))
      (Reader.content readers position label (some v)) := by
  unfold Reader.content
  cases found : readers.find? (·.name == label) with
  | none => exact Alike.refl _
  | some reader =>
    simp only
    cases inner : reader.content with
    | none =>
      simp only [Option.getD_some, Value.isNull_normal]
      by_cases null : v.isNull
      · simp only [null, ↓reduceIte]
        exact Alike.refl _
      · simp only [null]
        exact Alike.errors _ _
    | some read => exact (h reader read found inner position).map _

end Entries

/-- Only objects have to be looked at: what is neither an array nor an object is its own normal
form. -/
theorem normalizing_of_object {shape : Shape} {v : Value} (directed : shape.Directed)
    (storable : v.Storable)
    (h : ∀ entries, v = .object entries → Normalizing shape.read (.object entries)) :
    Normalizing shape.read v := by
  cases v with
  | object entries => exact h entries rfl
  | array items =>
    have printable := storable.printable
    rw [Value.Printable] at printable
    have reads := Value.readJson?_jsonText storable.ordered printable.2
    rw [Value.printed_of_finite _ printable.1] at reads
    exact fun position => read_arrayText reads position shape directed
  | _ => exact fun position => Alike.refl _

theorem normal_object {entries : List (String × Value)}
    (storable : (Value.object entries).Storable) :
    (Value.object entries).normal = .object (entries.map fun e => (e.1, e.2.normal)) := by
  rw [Value.normal, Value.normalEntries_eq_map (storable.filled entries rfl)]

/-- The text of an object is longer than one character. -/
theorem char_object (position : Position) (entries : List (String × Value)) :
    Reader.char position (.object entries) =
      .error (.invalidValue (.string (Value.object entries).text) .character) := by
  have braces : (Value.object entries).text.toList = '{' ::
      (Json.commaSeparated (Json.entryChars (Value.toJsonEntries entries)) ++ ['}']) := by
    rw [Value.text, Value.jsonText, Json.render, String.toList_ofList]
    rfl
  unfold Reader.char
  split
  next one =>
    rw [braces] at one
    simp at one
  next => rfl

theorem map_object (key item : Reader) (position : Position) (entries : List (String × Value)) :
    Reader.map key item position (.object entries) =
      Reader.mapEntries key item position [] entries >>= fun done => .ok (.map done) := rfl

theorem fields_object (form : FieldsForm) (closed : Bool) (readers : List Reader.OfField)
    (position : Position) (entries : List (String × Value)) :
    Reader.fields form closed readers position (.object entries) =
      Reader.knownFields readers closed position entries >>= fun found =>
        Reader.arrange found readers >>= fun arranged => .ok (.fields arranged) := rfl

mutual

theorem read_normal : ∀ shape : Shape, shape.Directed → ∀ v : Value, v.Storable →
    shape.Unclashing v → Normalizing shape.read v
  | .bool, directed, v, storable, _ =>
    normalizing_of_object directed storable fun _ _ _ => Alike.errors _ _
  | .int type, directed, v, storable, _ =>
    normalizing_of_object directed storable fun _ _ _ => Alike.errors _ _
  | .wideInt signed, directed, v, storable, _ =>
    normalizing_of_object directed storable fun _ _ _ => Alike.errors _ _
  | .float, directed, v, storable, _ =>
    normalizing_of_object directed storable fun _ _ _ => Alike.errors _ _
  | .single, directed, v, storable, _ =>
    normalizing_of_object directed storable fun _ _ _ => Alike.errors _ _
  | .char, directed, v, storable, _ => by
    apply normalizing_of_object directed storable
    rintro entries rfl position
    rw [read, normal_object storable, char_object, char_object]
    exact Alike.errors _ _
  | .text, directed, v, storable, unclashing => by
    apply normalizing_of_object directed storable
    rintro entries rfl
    exact absurd (.whole .text _) (unclashing entries)
  | .unit, directed, v, storable, _ =>
    normalizing_of_object directed storable fun _ _ _ => Alike.errors _ _
  | .unitNamed _, directed, v, storable, _ =>
    normalizing_of_object directed storable fun _ _ _ => Alike.errors _ _
  | .option content, directed, v, storable, unclashing => by
    have inner := read_normal content directed v storable fun entries meets =>
      unclashing entries (.option meets)
    intro position
    rw [read, Reader.option, Reader.option, Value.isNull_normal]
    by_cases null : v.isNull
    · rw [if_pos null, if_pos null]
      exact Alike.refl _
    · rw [if_neg null, if_neg null]
      exact (inner position).map Datum.present
  | .wrapped content, directed, v, storable, unclashing =>
    read_normal content directed v storable fun entries meets => unclashing entries (.wrapped meets)
  | .list item, directed, v, storable, _ =>
    normalizing_of_object directed storable fun _ _ _ => Alike.errors _ _
  | .tuple form shapes, directed, v, storable, _ =>
    normalizing_of_object directed storable fun _ _ _ => Alike.errors _ _
  | .map key item, directed, v, storable, unclashing => by
    apply normalizing_of_object directed storable
    rintro entries rfl position
    have items : ∀ e ∈ entries, Normalizing item.read e.2 := fun e mem =>
      read_normal item directed.2 e.2 (storable.entry e mem) fun below meets =>
        unclashing below (.item mem meets)
    rw [read, normal_object storable, map_object, map_object]
    exact (mapEntries_normal position key.read items []).bind fun _ => Alike.refl _
  | .fields form closed parts, directed, v, storable, unclashing => by
    apply normalizing_of_object directed storable
    rintro entries rfl position
    have known : ∀ e ∈ entries, ∀ reader,
        (fieldReaders parts).find? (·.name == e.1) = some reader →
          Normalizing reader.read e.2 := by
      intro e mem reader found
      obtain ⟨field, there, normalizing⟩ := fieldReaders_normal parts directed e.1 reader found
      exact normalizing e.2 (storable.entry e mem) fun below meets =>
        unclashing below (.field mem there meets)
    rw [read, normal_object storable, fields_object, fields_object]
    exact (knownFields_normal position closed known).bind fun _ => Alike.refl _
  | .variants name alternatives, directed, v, storable, unclashing => by
    apply normalizing_of_object directed storable
    rintro entries rfl position
    rw [read, normal_object storable]
    rcases entries with _ | ⟨e, _ | ⟨next, rest⟩⟩
    · exact Alike.errors _ _
    · obtain ⟨label, given⟩ := e
      apply content_normal
      intro reader read found inner
      obtain ⟨alternative, content, there, typed, normalizing⟩ :=
        variantReaders_normal alternatives directed label reader read found inner
      exact normalizing given (storable.entry (label, given) List.mem_cons_self)
        fun below meets => unclashing below (.content there typed meets)
    · exact Alike.errors _ _
  | .any, directed, _, _, _ => directed.elim
  | .firstOf name options, directed, v, storable, _ => by
    have none : options = [] := directed
    subst none
    exact normalizing_of_object directed storable fun _ _ _ => Alike.errors _ _
termination_by structural shape => shape

theorem fieldReaders_normal : ∀ parts : List (Field Shape), DirectedFields parts →
    ∀ key reader, (fieldReaders parts).find? (·.name == key) = some reader →
      ∃ field, parts.find? (·.name == key) = some field ∧
        ∀ v : Value, v.Storable → field.type.Unclashing v → Normalizing reader.read v
  | [], _, key, reader, found => by
    cases found
  | ⟨name, type, fallback, omitEmpty⟩ :: rest, directed, key, reader, found => by
    rw [fieldReaders, List.find?_cons] at found
    rw [List.find?_cons]
    cases same : name == key with
    | true =>
      simp only [same, Option.some.injEq] at found ⊢
      subst found
      exact ⟨_, rfl, read_normal type directed.1⟩
    | false =>
      simp only [same] at found ⊢
      exact fieldReaders_normal rest directed.2 key reader found
termination_by structural parts => parts

theorem variantReaders_normal : ∀ alternatives : List (Variant Shape),
    DirectedVariants alternatives → ∀ label reader read,
      (variantReaders alternatives).find? (·.name == label) = some reader →
      reader.content = some read →
      ∃ found content, alternatives.find? (·.name == label) = some found ∧
        found.content = some content ∧
        ∀ v : Value, v.Storable → content.Unclashing v → Normalizing read v
  | [], _, _, _, _, found, _ => by
    cases found
  | ⟨name, content⟩ :: rest, directed, label, reader, read, found, inner => by
    rw [variantReaders, List.find?_cons] at found
    rw [List.find?_cons]
    cases same : name == label with
    | true =>
      simp only [same, Option.some.injEq] at found ⊢
      subst found
      obtain ⟨shape, typed, normalizing⟩ := optionalReader_normal content directed.2.1 read inner
      exact ⟨_, shape, rfl, typed, normalizing⟩
    | false =>
      simp only [same] at found ⊢
      exact variantReaders_normal rest directed.2.2 label reader read found inner
termination_by structural alternatives => alternatives

theorem optionalReader_normal : ∀ content : Option Shape, DirectedContent content →
    ∀ read, optionalReader content = some read →
      ∃ shape, content = some shape ∧
        ∀ v : Value, v.Storable → shape.Unclashing v → Normalizing read v
  | none, _, _, found => by
    cases found
  | some shape, directed, read, found => by
    rw [optionalReader, Option.some.injEq] at found
    subst found
    exact ⟨shape, rfl, read_normal shape directed⟩
termination_by structural content => content

end

end Shape

end FlatRecord
