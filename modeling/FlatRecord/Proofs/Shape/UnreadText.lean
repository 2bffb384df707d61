import FlatRecord.Proofs.Shape.Stopping
import FlatRecord.Proofs.Value.JsonText

namespace FlatRecord

/-- Of things in a row at most one is the first that stops what goes on along them. -/
theorem first_unique {α : Type} {goesOn : α → Prop} {before before' after after' : List α}
    {x x' : α} (eq : before ++ x :: after = before' ++ x' :: after') (h : ∀ y ∈ before, goesOn y)
    (stop : ¬goesOn x) (h' : ∀ y ∈ before', goesOn y) (stop' : ¬goesOn x') :
    before.length = before'.length ∧ x = x' := by
  induction before generalizing before' with
  | nil =>
    cases before' with
    | nil => exact ⟨rfl, (List.cons.inj eq).1⟩
    | cons y before' =>
      cases eq
      exact absurd (h' _ List.mem_cons_self) stop
  | cons y before ih =>
    cases before' with
    | nil =>
      cases eq
      exact absurd (h _ List.mem_cons_self) stop'
    | cons y' before' =>
      obtain ⟨_, rest⟩ := List.cons.inj eq
      obtain ⟨length, same⟩ :=
        ih rest (List.forall_mem_cons.mp h).2 (List.forall_mem_cons.mp h').2
      exact ⟨congrArg (· + 1) length, same⟩

theorem first_pair_unique {α β : Type} {goesOn : α → β → Prop} {first first' others others' : List α}
    {before before' after after' : List β} {a a' : α} {b b' : β}
    (eq : first ++ a :: others = first' ++ a' :: others')
    (eq' : before ++ b :: after = before' ++ b' :: after') (h : List.Forall₂ goesOn first before)
    (stop : ¬goesOn a b) (h' : List.Forall₂ goesOn first' before') (stop' : ¬goesOn a' b') :
    before.length = before'.length ∧ a = a' ∧ b = b' := by
  obtain ⟨length, along⟩ := List.forall₂_iff_zip.mp h
  obtain ⟨length', along'⟩ := List.forall₂_iff_zip.mp h'
  have pairs : first.zip before ++ (a, b) :: others.zip after =
      first'.zip before' ++ (a', b') :: others'.zip after' := by
    rw [← List.zip_cons_cons, ← List.zip_append length, eq, eq', List.zip_append length',
      List.zip_cons_cons]
  have before_ok : ∀ p ∈ first.zip before, goesOn p.1 p.2 := fun p mem => along mem
  have before_ok' : ∀ p ∈ first'.zip before', goesOn p.1 p.2 := fun p mem => along' mem
  obtain ⟨same, pair⟩ := first_unique pairs before_ok stop before_ok' stop'
  obtain ⟨rfl, rfl⟩ := Prod.mk.inj pair
  rw [List.length_zip, List.length_zip, length, length', Nat.min_self, Nat.min_self] at same
  exact ⟨same, rfl, rfl⟩

namespace Position

/-- The steps below something that has a text: a dot before each key, brackets around indices. -/
def spelledBelow : Position → String
  | [] => ""
  | .key key :: rest => "." ++ key ++ spelledBelow rest
  | .index i :: rest => "[" ++ toString i ++ "]" ++ spelledBelow rest

/-- The keys from the root with dots between them, and indices in brackets. -/
def spelled : Position → String
  | .key key :: rest => key ++ spelledBelow rest
  | position => spelledBelow position

theorem foldl_extendText {text : String} (h : text ≠ "") (position : Position) :
    position.foldl extendText text = text ++ spelledBelow position := by
  induction position generalizing text with
  | nil => exact String.append_empty.symm
  | cons step rest ih =>
    rw [List.foldl_cons]
    cases step with
    | key key =>
      have some : text.isEmpty = false := by simpa using h
      rw [extendText, some, if_neg Bool.false_ne_true, Path.child, ih (by simp [h]), spelledBelow]
      simp only [String.append_assoc]
    | index i =>
      rw [extendText, ih (by simp [h]), spelledBelow]
      simp only [String.append_assoc]

/-- Text made step by step is the text of the whole, unless its first key is empty and no dot can
be seen after it. -/
theorem text_eq_spelled {position : Position} (first : Step.key "" ∉ position) :
    position.text = position.spelled := by
  rcases position with _ | ⟨key | i, rest⟩
  · rfl
  · have some : key ≠ "" := by
      rintro rfl
      exact first List.mem_cons_self
    exact foldl_extendText some rest
  · have some : extendText "" (.index i) ≠ "" := by simp [extendText]
    rw [text, List.foldl_cons, foldl_extendText some, spelled, spelledBelow, extendText]
    · simp only [String.append_assoc, String.empty_append]
    · rintro key _ ⟨⟩

theorem length_spelled_le (position : Position) :
    position.spelled.length ≤ position.spelledBelow.length := by
  rcases position with _ | ⟨key | i, rest⟩
  · exact Nat.le_refl _
  · simp only [spelled, spelledBelow, String.length_append]
    omega
  · exact Nat.le_refl _

theorem length_spelledBelow_le (position : Position) :
    position.spelledBelow.length ≤ position.spelled.length + 1 := by
  rcases position with _ | ⟨key | i, rest⟩
  · exact Nat.le_succ _
  · have dot : ".".length = 1 := rfl
    simp only [spelled, spelledBelow, String.length_append]
    omega
  · exact Nat.le_succ _

end Position

namespace Way

variable {way : Way}

/-- The names of the alternatives that the way leads through. -/
def labels (way : Way) : List String :=
  way.filterMap fun
    | .part _ => none
    | .label name => some name

@[simp]
theorem labels_part (step : Step) (way : Way) : labels (.part step :: way) = way.labels := rfl

@[simp]
theorem labels_label (name : String) (way : Way) :
    labels (.label name :: way) = name :: way.labels := rfl

@[simp]
theorem position_part (step : Step) (way : Way) :
    position (.part step :: way) = step :: way.position := rfl

@[simp]
theorem position_label (name : String) (way : Way) :
    position (.label name :: way) = .key name :: way.position := rfl

@[simp]
theorem reported_part (step : Step) (way : Way) :
    reported (.part step :: way) = step :: way.reported := rfl

@[simp]
theorem reported_label (name : String) (way : Way) :
    reported (.label name :: way) = way.reported := rfl

theorem reported_of_labels_eq_nil (none : way.labels = []) : way.reported = way.position := by
  induction way with
  | nil => rfl
  | cons turn way ih =>
    cases turn with
    | part step => rw [reported_part, position_part, ih none]
    | label name => cases none

theorem mem_position_of_reported {step : Step} (h : step ∈ way.reported) : step ∈ way.position := by
  induction way with
  | nil => exact h
  | cons turn way ih =>
    cases turn with
    | part first =>
      rcases List.mem_cons.mp h with rfl | later
      · exact List.mem_cons_self
      · exact List.mem_cons_of_mem _ (ih later)
    | label name => exact List.mem_cons_of_mem _ (ih h)

/-- Each name that is left out shortens the text by the name and a dot. -/
theorem length_spelledBelow_reported (named : Step.key "" ∉ way.position) :
    way.reported.spelledBelow.length + 2 * way.labels.length ≤ way.position.spelledBelow.length := by
  induction way with
  | nil => exact Nat.le_refl _
  | cons turn way ih =>
    have rest := ih fun mem => named (List.mem_cons_of_mem _ mem)
    cases turn with
    | part step =>
      rw [reported_part, labels_part, position_part]
      cases step <;> simp only [Position.spelledBelow, String.length_append] <;> omega
    | label name =>
      have some : name.length ≠ 0 := by
        rw [ne_eq, String.length_eq_zero_iff]
        rintro rfl
        exact named List.mem_cons_self
      have dot : ".".length = 1 := rfl
      rw [reported_label, labels_label, position_label]
      simp only [Position.spelledBelow, String.length_append, List.length_cons]
      omega

/-- The reported text is that of the position only if no name is left out. -/
theorem spelled_reported_iff (named : Step.key "" ∉ way.position) :
    way.reported.spelled = way.position.spelled ↔ way.labels = [] := by
  constructor
  · intro same
    have shorter := length_spelledBelow_reported named
    have above := way.reported.length_spelled_le
    have below := way.position.length_spelledBelow_le
    rw [same] at above
    exact List.eq_nil_of_length_eq_zero (by omega)
  · intro none
    rw [reported_of_labels_eq_nil none]

end Way

namespace Value

/-- What stands at a position. An entry has its key there too, and a text that holds JSON has the
parts of what it holds. -/
inductive PartAt : Value → Position → Value → Prop
  | whole (v : Value) : PartAt v [] v
  | item {items : List Value} {i : Nat} {w x : Value} {position : Position} :
    items[i]? = some w → PartAt w position x → PartAt (.array items) (.index i :: position) x
  | name {entries : List (String × Value)} {e : String × Value} {x : Value} {position : Position} :
    e ∈ entries → PartAt (.string e.1) position x →
      PartAt (.object entries) (.key e.1 :: position) x
  | entry {entries : List (String × Value)} {e : String × Value} {x : Value} {position : Position} :
    e ∈ entries → PartAt e.2 position x → PartAt (.object entries) (.key e.1 :: position) x
  | held {s : String} {w x : Value} {position : Position} :
    readJson? s = some w → PartAt w position x → PartAt (.string s) position x

/-- No key in the value is empty, also in texts that hold JSON, whether a reading comes to them or
not. -/
def Named (v : Value) : Prop :=
  ∀ position entries, v.PartAt position (.object entries) → ∀ e ∈ entries, e.1 ≠ ""

theorem named_string_iff {s : String} :
    (string s).Named ↔ ∀ w, readJson? s = some w → w.Named := by
  constructor
  · intro named w holds position entries there
    exact named position entries (.held holds there)
  · intro named position entries there
    cases there with
    | held holds there => exact named _ holds position entries there

theorem named_array_iff {items : List Value} :
    (array items).Named ↔ ∀ w ∈ items, w.Named := by
  constructor
  · intro named w mem position entries there
    obtain ⟨i, found⟩ := List.mem_iff_getElem?.mp mem
    exact named _ entries (.item found there)
  · intro named position entries there
    cases there with
    | item found there => exact named _ (List.mem_of_getElem? found) _ entries there

theorem named_object_iff {entries : List (String × Value)} :
    (object entries).Named ↔ ∀ e ∈ entries, e.1 ≠ "" ∧ (string e.1).Named ∧ e.2.Named := by
  constructor
  · intro named e mem
    refine ⟨named [] entries (.whole _) e mem, ?_, ?_⟩
    · intro position below there
      exact named _ below (.name mem there)
    · intro position below there
      exact named _ below (.entry mem there)
  · intro named position below there
    cases there with
    | whole => exact fun e mem => (named e mem).1
    | name mem there => exact (named _ mem).2.1 _ below there
    | entry mem there => exact (named _ mem).2.2 _ below there

theorem Named.not_mem {v x : Value} {position : Position} (named : v.Named)
    (there : v.PartAt position x) : Step.key "" ∉ position := by
  induction there with
  | whole => exact List.not_mem_nil
  | item found _ ih =>
    have below := ih (named_array_iff.mp named _ (List.mem_of_getElem? found))
    simpa using below
  | name mem _ ih =>
    obtain ⟨some, key, _⟩ := named_object_iff.mp named _ mem
    simpa [some.symm] using ih key
  | entry mem _ ih =>
    obtain ⟨some, _, item⟩ := named_object_iff.mp named _ mem
    simpa [some.symm] using ih item
  | held holds _ ih => exact ih (named_string_iff.mp named _ holds)

/-- A text without JSON has no parts but itself. -/
theorem PartAt.nil_of_unread {s : String} {x : Value} {position : Position}
    (unread : readJson? s = none) (there : (string s).PartAt position x) : position = [] := by
  cases there with
  | whole => rfl
  | held holds _ => cases unread.symm.trans holds

variable {v w x : Value} {position : Position}

theorem ItemsOf.partAt {before after : List Value} (holds : v.ItemsOf (before ++ w :: after))
    (there : w.PartAt position x) : v.PartAt (.index before.length :: position) x := by
  have found : (before ++ w :: after)[before.length]? = some w := by simp
  generalize before ++ w :: after = items at holds found
  cases holds with
  | array => exact .item found there
  | null => cases found
  | blank => cases found
  | text _ read => exact .held read (.item found there)

theorem EntriesOf.partAt {entries : List (String × Value)} {e : String × Value}
    (holds : v.EntriesOf entries) (mem : e ∈ entries)
    (there : (string e.1).PartAt position x ∨ e.2.PartAt position x) :
    v.PartAt (.key e.1 :: position) x := by
  have inside : (Value.object entries).PartAt (.key e.1 :: position) x :=
    there.elim (.name mem) (.entry mem)
  cases holds with
  | object => exact inside
  | null => cases mem
  | text read => exact .held read inside

theorem ItemsOf.unique {vs ws : List Value} (h : v.ItemsOf vs) (h' : v.ItemsOf ws) : vs = ws := by
  have read : Reader.items .list [] v = .ok vs := Reader.items_eq_ok_iff.mpr h
  exact Except.ok.inj (read.symm.trans (Reader.items_eq_ok_iff.mpr h'))

theorem EntriesOf.unique {es fs : List (String × Value)} (h : v.EntriesOf es)
    (h' : v.EntriesOf fs) : es = fs := by
  have read : Reader.entries .map [] v = .ok es := Reader.entries_eq_ok_iff.mpr h
  exact Except.ok.inj (read.symm.trans (Reader.entries_eq_ok_iff.mpr h'))

theorem EntriesOf.first_unique {goesOn : String × Value → Prop}
    {before before' after after' : List (String × Value)} {name name' : String} {w w' : Value}
    (holds : v.EntriesOf (before ++ (name, w) :: after))
    (holds' : v.EntriesOf (before' ++ (name', w') :: after')) (h : ∀ e ∈ before, goesOn e)
    (stop : ¬goesOn (name, w)) (h' : ∀ e ∈ before', goesOn e) (stop' : ¬goesOn (name', w')) :
    name = name' ∧ w = w' :=
  Prod.mk.inj (FlatRecord.first_unique (holds.unique holds') h stop h' stop').2

theorem ItemsOf.not_unread {s : String} {vs : List Value} (holds : (Value.string s).ItemsOf vs)
    (more : (Text.trim s).isEmpty = false) : Value.readJson? s ≠ none := by
  cases holds with
  | blank empty => cases more.symm.trans empty
  | text _ read => simp [read]

theorem EntriesOf.not_unread {s : String} {es : List (String × Value)}
    (holds : (Value.string s).EntriesOf es) : Value.readJson? s ≠ none := by
  cases holds with
  | text read => simp [read]

end Value

namespace Shape

variable {shape : Shape} {v : Value} {way way' : Way} {s s' : String}

/-- The text that stops a reading holds no JSON and stands where the way leads. -/
theorem Stops.partAt (stops : shape.Stops v way s) :
    v.PartAt way.position (.string s) ∧ Value.readJson? s = none := by
  induction stops with
  | listText _ unread => exact ⟨.whole _, unread⟩
  | tupleText _ unread => exact ⟨.whole _, unread⟩
  | mapText unread => exact ⟨.whole _, unread⟩
  | fieldsText unread => exact ⟨.whole _, unread⟩
  | option _ _ ih => exact ih
  | wrapped _ ih => exact ih
  | item holds _ _ ih => exact ⟨holds.partAt ih.1, ih.2⟩
  | tupleItem holds _ _ ih => exact ⟨holds.partAt ih.1, ih.2⟩
  | @key _ _ _ w _ _ name _ _ holds _ _ ih =>
    exact ⟨holds.partAt (e := (name, w)) (by simp) (.inl ih.1), ih.2⟩
  | @entry _ _ _ w _ _ name _ _ holds _ _ _ ih =>
    exact ⟨holds.partAt (e := (name, w)) (by simp) (.inr ih.1), ih.2⟩
  | @field _ _ _ _ _ w _ _ name _ _ holds _ _ _ ih =>
    exact ⟨holds.partAt (e := (name, w)) (by simp) (.inr ih.1), ih.2⟩
  | @content _ label _ _ _ w _ _ _ _ _ ih =>
    exact ⟨.entry (e := (label, w)) (by simp) ih.1, ih.2⟩

theorem Stops.not_reads (stops : shape.Stops v way s) : ¬shape.Reads v := by
  rintro ⟨d, done⟩
  have failed := (pinpoints shape v way.reported).mpr ⟨way, s, stops, rfl⟩
  cases done.symm.trans failed

theorem not_passes {parts : List (Field Shape)} {closed : Bool} {name : String} {field : Field Shape}
    (there : parts.find? (·.name == name) = some field) (stops : field.type.Stops v way s) :
    ¬Passes parts closed (name, v) := by
  simpa [Passes, there] using stops.not_reads

/-- At most one text stops a reading, and in one way. -/
theorem Stops.unique (stops : shape.Stops v way s) (stops' : shape.Stops v way' s') :
    way = way' ∧ s = s' := by
  -- A text that holds no JSON has no parts, so the two can only differ in where among the parts of
  -- one value they stop. There the first part that cannot be read decides.
  induction stops generalizing way' s' with
  | listText more unread =>
    cases stops' with
    | listText => exact ⟨rfl, rfl⟩
    | item holds => exact absurd unread (holds.not_unread more)
  | tupleText more unread =>
    cases stops' with
    | tupleText => exact ⟨rfl, rfl⟩
    | tupleItem holds => exact absurd unread (holds.not_unread more)
  | mapText unread =>
    cases stops' with
    | mapText => exact ⟨rfl, rfl⟩
    | key holds => exact absurd unread holds.not_unread
    | entry holds => exact absurd unread holds.not_unread
  | fieldsText unread =>
    cases stops' with
    | fieldsText => exact ⟨rfl, rfl⟩
    | field holds => exact absurd unread holds.not_unread
  | option some _ ih =>
    cases stops' with
    | option _ below => exact ih below
  | wrapped _ ih =>
    cases stops' with
    | wrapped below => exact ih below
  | item holds reads stops ih =>
    cases stops' with
    | listText more unread => exact absurd unread (holds.not_unread more)
    | item holds' reads' stops' =>
      obtain ⟨length, rfl⟩ := first_unique (holds.unique holds') reads stops.not_reads reads'
        stops'.not_reads
      obtain ⟨rfl, rfl⟩ := ih stops'
      exact ⟨by rw [length], rfl⟩
  | @tupleItem form first others item _ _ _ _ _ _ holds reads stops ih =>
    generalize eq : first ++ item :: others = items at stops'
    cases stops' with
    | tupleText more unread => exact absurd unread (holds.not_unread more)
    | tupleItem holds' reads' stops' =>
      obtain ⟨length, rfl, rfl⟩ := first_pair_unique eq (holds.unique holds') reads stops.not_reads
        reads' stops'.not_reads
      obtain ⟨rfl, rfl⟩ := ih stops'
      exact ⟨by rw [length], rfl⟩
  | @key key item _ w _ _ name _ _ holds reads stops ih =>
    have stop : ¬(key.Reads (.string name) ∧ item.Reads w) := fun e => stops.not_reads e.1
    cases stops' with
    | mapText unread => exact absurd unread holds.not_unread
    | key holds' reads' stops' =>
      obtain ⟨rfl, rfl⟩ := holds.first_unique holds' reads stop reads' fun e =>
        stops'.not_reads e.1
      obtain ⟨rfl, rfl⟩ := ih stops'
      exact ⟨rfl, rfl⟩
    | entry holds' reads' read' stops' =>
      obtain ⟨rfl, rfl⟩ := holds.first_unique holds' reads stop reads' fun e =>
        stops'.not_reads e.2
      exact absurd read' stops.not_reads
  | @entry key item _ w _ _ name _ _ holds reads read stops ih =>
    have stop : ¬(key.Reads (.string name) ∧ item.Reads w) := fun e => stops.not_reads e.2
    cases stops' with
    | mapText unread => exact absurd unread holds.not_unread
    | key holds' reads' stops' =>
      obtain ⟨rfl, rfl⟩ := holds.first_unique holds' reads stop reads' fun e =>
        stops'.not_reads e.1
      exact absurd read stops'.not_reads
    | entry holds' reads' _ stops' =>
      obtain ⟨rfl, rfl⟩ := holds.first_unique holds' reads stop reads' fun e =>
        stops'.not_reads e.2
      obtain ⟨rfl, rfl⟩ := ih stops'
      exact ⟨rfl, rfl⟩
  | field holds passes there stops ih =>
    cases stops' with
    | fieldsText unread => exact absurd unread holds.not_unread
    | field holds' passes' there' stops' =>
      obtain ⟨rfl, rfl⟩ := holds.first_unique holds' passes (not_passes there stops) passes'
        (not_passes there' stops')
      cases there.symm.trans there'
      obtain ⟨rfl, rfl⟩ := ih stops'
      exact ⟨rfl, rfl⟩
  | content there typed _ ih =>
    cases stops' with
    | content there' typed' stops' =>
      cases there.symm.trans there'
      cases typed.symm.trans typed'
      obtain ⟨rfl, rfl⟩ := ih stops'
      exact ⟨rfl, rfl⟩

/-- Reading ends for want of JSON exactly if it comes to a text without any, and then there is one
such text. What is reported is its position without the names of alternatives, so that the reported
path is the path of the text, where no key on the way is empty, only if the way leads through no
content of an alternative. -/
theorem unread_text_reported (v : Value) (shape : Shape) (place : Position) :
    shape.readValue v = .error (.invalidJson place) ↔
      ∃ way s, shape.Stops v way s ∧
        (∀ way' s', shape.Stops v way' s' → way' = way ∧ s' = s) ∧
        v.PartAt way.position (.string s) ∧ Value.readJson? s = none ∧ place = way.reported ∧
        (Step.key "" ∉ way.position →
          place.text = place.spelled ∧ (place.text = way.position.spelled ↔ way.labels = [])) := by
  rw [pinpoints shape v place]
  constructor
  · rintro ⟨way, s, stops, rfl⟩
    obtain ⟨there, unread⟩ := stops.partAt
    refine ⟨way, s, stops, fun _ _ stops' => stops'.unique stops, there, unread, rfl, ?_⟩
    intro keys
    -- Without empty keys no dot is lost when the path is put together from the root on.
    have spelled : way.reported.text = way.reported.spelled :=
      Position.text_eq_spelled fun mem => keys (Way.mem_position_of_reported mem)
    refine ⟨spelled, ?_⟩
    rw [spelled]
    exact Way.spelled_reported_iff keys
  · rintro ⟨way, s, stops, _, _, _, rfl, _⟩
    exact ⟨way, s, stops, rfl⟩

theorem unread_text_reported_held :
    ∃ (v : Value) (shape : Shape) (way : Way), v = .object [("a", .string "[[],\"[oops\"]")] ∧
      v.Named ∧ shape = map .text (list (list .bool)) ∧
      shape.readValue v = .error (.invalidJson [.key "a", .index 1]) ∧
      shape.Stops v way "[oops" ∧ way.labels = [] ∧
      Position.text [.key "a", .index 1] = way.position.spelled := by
  let v : Value := .object [("a", .string "[[],\"[oops\"]")]
  let shape := map .text (list (list .bool))
  let items : List Value := [.array [], .string "[oops"]
  have ordered : (Value.array items).Ordered := by simp [items, Value.Ordered, Value.OrderedItems]
  have text : (Value.array items).jsonText = "[[],\"[oops\"]" := by decide +kernel
  have held : Value.readJson? "[[],\"[oops\"]" = some (.array items) := by
    rw [← text, Value.readJson?_jsonText ordered (by decide)]
    rfl
  have unread : Value.readJson? "[oops" = none := Option.isNone_iff_eq_none.mp (by decide +kernel)
  have plain : Value.readJson? "a" = none := Option.isNone_iff_eq_none.mp (by decide +kernel)
  have named : v.Named := by
    simp [v, items, Value.named_object_iff, Value.named_string_iff, Value.named_array_iff, held,
      unread, plain]
  have reads : ∀ u ∈ [Value.array []], (list .bool).Reads u :=
    List.forall_mem_singleton.mpr ⟨_, rfl⟩
  have inside : (list (list .bool)).Stops (.string "[[],\"[oops\"]") [.part (.index 1)] "[oops" :=
    .item (.text (by decide +kernel) held) reads (.listText (by decide +kernel) unread)
  have stops : shape.Stops v [.part (.key "a"), .part (.index 1)] "[oops" :=
    .entry (.object ([] ++ [_])) (List.forall_mem_nil _) ⟨_, rfl⟩ inside
  have failed : shape.readValue v = .error (.invalidJson [.key "a", .index 1]) :=
    (pinpoints shape v _).mpr ⟨_, _, stops, rfl⟩
  obtain ⟨way, s, _, unique, there, _, _, spelled⟩ := (unread_text_reported v shape _).mp failed
  obtain ⟨rfl, rfl⟩ := unique _ _ stops
  obtain ⟨_, same⟩ := spelled (named.not_mem there)
  exact ⟨v, shape, _, rfl, named, rfl, failed, stops, rfl, same.mpr rfl⟩

/-- The name of an alternative whose content holds no JSON is missing from the reported path, at
which no such text stands. -/
theorem unread_content_misplaced :
    (∃ (v : Value) (shape : Shape), v = .array [.string "Unit", .object [("Pair", .string "[oops")]] ∧
      shape = list (.variants "Shape" [⟨"Unit", none⟩,
        ⟨"Pair", some (.tuple (.ofVariant "Shape" "Pair") [.int ⟨true, 64⟩, .text])⟩]) ∧ v.Named ∧
      shape.readValue v = .error (.invalidJson [.index 1]) ∧
      v.PartAt [.index 1, .key "Pair"] (.string "[oops")) ∧
    ¬∀ (v : Value) (shape : Shape) (place : Position), v.Named →
      shape.readValue v = .error (.invalidJson place) →
      ∃ position s, v.PartAt position (.string s) ∧ Value.readJson? s = none ∧
        place.text = position.spelled := by
  let pair : Value := .object [("Pair", .string "[oops")]
  let alternatives : List (Variant Shape) := [⟨"Unit", none⟩,
    ⟨"Pair", some (.tuple (.ofVariant "Shape" "Pair") [.int ⟨true, 64⟩, .text])⟩]
  let shape : Shape := list (.variants "Shape" alternatives)
  have unread : Value.readJson? "[oops" = none := Option.isNone_iff_eq_none.mp (by decide +kernel)
  have unit : Value.readJson? "Unit" = none := Option.isNone_iff_eq_none.mp (by decide +kernel)
  have name : Value.readJson? "Pair" = none := Option.isNone_iff_eq_none.mp (by decide +kernel)
  have named : (Value.array [.string "Unit", pair]).Named := by
    simp [pair, Value.named_object_iff, Value.named_string_iff, Value.named_array_iff, unread, unit,
      name]
  have reads : ∀ u ∈ [Value.string "Unit"], (Shape.variants "Shape" alternatives).Reads u :=
    List.forall_mem_singleton.mpr ⟨_, rfl⟩
  have content : (Shape.variants "Shape" alternatives).Stops pair [.label "Pair"] "[oops" :=
    .content rfl rfl (.tupleText (by decide +kernel) unread)
  have items : (Value.array [.string "Unit", pair]).ItemsOf ([.string "Unit"] ++ [pair]) := .array _
  have stops : shape.Stops (.array [.string "Unit", pair]) [.part (.index 1), .label "Pair"] "[oops" :=
    .item items reads content
  have failed : shape.readValue (.array [.string "Unit", pair]) = .error (.invalidJson [.index 1]) :=
    (pinpoints shape _ _).mpr ⟨_, _, stops, rfl⟩
  refine ⟨⟨_, shape, rfl, rfl, named, failed, stops.partAt.1⟩, ?_⟩
  intro right
  obtain ⟨position, s, there, _, same⟩ := right _ shape [.index 1] named failed
  cases there with
  | @item _ i w _ position found there =>
    rcases i with _ | _ | i
    · cases found
      cases Value.PartAt.nil_of_unread unit there
      exact absurd same (by decide)
    · cases found
      simp only [pair] at there
      cases there with
      | name mem there =>
        cases List.mem_singleton.mp mem
        cases Value.PartAt.nil_of_unread name there
        exact absurd same (by decide)
      | entry mem there =>
        cases List.mem_singleton.mp mem
        cases Value.PartAt.nil_of_unread unread there
        exact absurd same (by decide)
    · cases found

end Shape

end FlatRecord
