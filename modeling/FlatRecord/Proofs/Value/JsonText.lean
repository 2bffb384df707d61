import FlatRecord.Proofs.Json.RoundTrip
import FlatRecord.Proofs.Value.Ordered

namespace FlatRecord

namespace Value

mutual

/-- The value with null in the place of every float that is not finite. -/
def printed : Value → Value
  | .float x => if x.isFinite then .float x else .null
  | .array items => .array (printedItems items)
  | .object entries => .object (printedEntries entries)
  | .null => .null
  | .bool b => .bool b
  | .int n => .int n
  | .string s => .string s
termination_by structural v => v

def printedItems : List Value → List Value
  | [] => []
  | v :: rest => v.printed :: printedItems rest
termination_by structural items => items

def printedEntries : List (String × Value) → List (String × Value)
  | [] => []
  | (key, v) :: rest => (key, v.printed) :: printedEntries rest
termination_by structural entries => entries

end

mutual

def Finite : Value → Prop
  | .float x => x.isFinite = true
  | .array items => FiniteItems items
  | .object entries => FiniteEntries entries
  | _ => True
termination_by structural v => v

def FiniteItems : List Value → Prop
  | [] => True
  | v :: rest => v.Finite ∧ FiniteItems rest
termination_by structural items => items

def FiniteEntries : List (String × Value) → Prop
  | [] => True
  | (_, v) :: rest => v.Finite ∧ FiniteEntries rest
termination_by structural entries => entries

end

mutual

/-- How deep arrays and objects nest. -/
def nesting : Value → Nat
  | .array items => nestingItems items + 1
  | .object entries => nestingEntries entries + 1
  | _ => 0
termination_by structural v => v

def nestingItems : List Value → Nat
  | [] => 0
  | v :: rest => max v.nesting (nestingItems rest)
termination_by structural items => items

def nestingEntries : List (String × Value) → Nat
  | [] => 0
  | (_, v) :: rest => max v.nesting (nestingEntries rest)
termination_by structural entries => entries

end

mutual

theorem printed_of_finite : ∀ v : Value, v.Finite → v.printed = v
  | .null, _ => rfl
  | .bool b, _ => rfl
  | .int n, _ => rfl
  | .string s, _ => rfl
  | .float x, finite => if_pos finite
  | .array items, finite => by
    rw [printed, printedItems_of_finite items finite]
  | .object entries, finite => by
    rw [printed, printedEntries_of_finite entries finite]
termination_by structural v => v

theorem printedItems_of_finite :
    ∀ items : List Value, FiniteItems items → printedItems items = items
  | [], _ => rfl
  | v :: rest, finite => by
    rw [printedItems, printed_of_finite v finite.1, printedItems_of_finite rest finite.2]
termination_by structural items => items

theorem printedEntries_of_finite :
    ∀ entries : List (String × Value), FiniteEntries entries → printedEntries entries = entries
  | [], _ => rfl
  | (key, v) :: rest, finite => by
    rw [printedEntries, printed_of_finite v finite.1, printedEntries_of_finite rest finite.2]
termination_by structural entries => entries

end

mutual

theorem nesting_toJson : ∀ v : Value, v.toJson.nesting = v.nesting
  | .null => rfl
  | .bool b => rfl
  | .int n => rfl
  | .string s => rfl
  | .float x => by
    rw [toJson]
    split <;> rfl
  | .array items => by
    rw [toJson, Json.nesting, nesting, nestingItems_toJson items]
  | .object entries => by
    rw [toJson, Json.nesting, nesting, nestingEntries_toJson entries]
termination_by structural v => v

theorem nestingItems_toJson :
    ∀ items : List Value, Json.nestingItems (toJsonItems items) = nestingItems items
  | [] => rfl
  | v :: rest => by
    rw [toJsonItems, Json.nestingItems, nestingItems, nesting_toJson v, nestingItems_toJson rest]
termination_by structural items => items

theorem nestingEntries_toJson : ∀ entries : List (String × Value),
    Json.nestingEntries (toJsonEntries entries) = nestingEntries entries
  | [] => rfl
  | (key, v) :: rest => by
    rw [toJsonEntries, Json.nestingEntries, nestingEntries, nesting_toJson v,
      nestingEntries_toJson rest]
termination_by structural entries => entries

end

theorem inRange_toInt (n : Int64) : Json.InRange n.toInt := by
  have low := Int64.minValue_le_toInt n
  have high := Int64.toInt_le n
  have least : Int64.minValue.toInt = -(twoTo 63 : Int) := by decide
  have greatest : Int64.maxValue.toInt < (twoTo 64 : Int) := by decide
  exact ⟨least ▸ low, Int.lt_of_le_of_lt high greatest⟩

mutual

theorem bounded_toJson : ∀ v : Value, v.toJson.Bounded
  | .null => trivial
  | .bool b => trivial
  | .int n => inRange_toInt n
  | .string s => trivial
  | .float x => by
    rw [toJson]
    split <;> trivial
  | .array items => by
    rw [toJson, Json.Bounded]
    exact boundedItems_toJson items
  | .object entries => by
    rw [toJson, Json.Bounded]
    exact boundedEntries_toJson entries
termination_by structural v => v

theorem boundedItems_toJson : ∀ items : List Value, Json.BoundedItems (toJsonItems items)
  | [] => trivial
  | v :: rest => ⟨bounded_toJson v, boundedItems_toJson rest⟩
termination_by structural items => items

theorem boundedEntries_toJson :
    ∀ entries : List (String × Value), Json.BoundedEntries (toJsonEntries entries)
  | [] => trivial
  | (_, v) :: rest => ⟨bounded_toJson v, boundedEntries_toJson rest⟩
termination_by structural entries => entries

end

theorem toJsonEntries_eq_map (entries : List (String × Value)) :
    toJsonEntries entries = entries.map fun e => (e.1, e.2.toJson) := by
  induction entries with
  | nil => rfl
  | cons e entries ih => rw [toJsonEntries, ih, List.map_cons]

theorem printedEntries_eq_map (entries : List (String × Value)) :
    printedEntries entries = entries.map fun e => (e.1, e.2.printed) := by
  induction entries with
  | nil => rfl
  | cons e entries ih => rw [printedEntries, ih, List.map_cons]

theorem ofWhole_toInt (n : Int64) : ofWhole n.toInt = .int n := by
  rw [ofWhole, if_pos ⟨Int64.minValue_le_toInt n, Int64.toInt_le n⟩, Int64.ofInt_toInt]

mutual

/-- The document of a value, written and read, describes the value as it was printed. -/
theorem ofJson_canonical : ∀ v : Value, v.Ordered → ofJson v.toJson.canonical = v.printed
  | .null, _ => rfl
  | .bool b, _ => rfl
  | .int n, _ => ofWhole_toInt n
  | .string s, _ => rfl
  | .float x, _ => by
    rw [toJson, printed]
    by_cases finite : x.isFinite
    · simp [finite, Json.canonical, ofJson]
    · simp [finite, Json.canonical, ofJson]
  | .array items, ordered => by
    rw [toJson, Json.canonical, ofJson, printed, ofJsonItems_canonical items ordered]
  | .object entries, ordered => by
    rw [Ordered] at ordered
    have written : Entries.Ascending (Json.canonicalEntries (toJsonEntries entries)) := by
      rw [Json.canonicalEntries_eq_map, toJsonEntries_eq_map, List.map_map]
      exact Entries.ascending_mapValues (f := fun _ v => v.toJson.canonical) ordered.1
    have read : Entries.Ascending (printedEntries entries) := by
      rw [printedEntries_eq_map]
      exact Entries.ascending_mapValues (f := fun _ v => v.printed) ordered.1
    rw [toJson, Json.canonical, Entries.ofList_of_ascending written, ofJson,
      ofJsonEntries_canonical entries ordered.2, ofEntries, Entries.ofList_of_ascending read, printed]
termination_by structural v => v

theorem ofJsonItems_canonical : ∀ items : List Value, OrderedItems items →
    ofJsonItems (Json.canonicalItems (toJsonItems items)) = printedItems items
  | [], _ => rfl
  | v :: rest, ordered => by
    rw [toJsonItems, Json.canonicalItems, ofJsonItems, printedItems, ofJson_canonical v ordered.1,
      ofJsonItems_canonical rest ordered.2]
termination_by structural items => items

theorem ofJsonEntries_canonical : ∀ entries : List (String × Value), OrderedEntries entries →
    ofJsonEntries (Json.canonicalEntries (toJsonEntries entries)) = printedEntries entries
  | [], _ => rfl
  | (key, v) :: rest, ordered => by
    rw [toJsonEntries, Json.canonicalEntries, ofJsonEntries, printedEntries,
      ofJson_canonical v ordered.1, ofJsonEntries_canonical rest ordered.2]
termination_by structural entries => entries

end

/-- A value is read back from its JSON text as it was printed. -/
theorem readJson?_jsonText {v : Value} (ordered : v.Ordered) (fits : v.nesting ≤ Json.maxLevels) :
    readJson? v.jsonText = some v.printed := by
  have read := Json.read?_render (bounded_toJson v) (Nat.le_trans (Nat.le_of_eq (nesting_toJson v)) fits)
  rw [readJson?, jsonText, read, Option.map_some, ofJson_canonical v ordered]

end Value

end FlatRecord
