import FlatRecord.Value.Json

namespace FlatRecord

namespace Value

mutual

/-- The entries of every object stand in key order, each key once. -/
def Ordered : Value → Prop
  | .array items => OrderedItems items
  | .object entries => Entries.Ascending entries ∧ OrderedEntries entries
  | _ => True
termination_by structural v => v

def OrderedItems : List Value → Prop
  | [] => True
  | v :: rest => v.Ordered ∧ OrderedItems rest
termination_by structural items => items

def OrderedEntries : List (String × Value) → Prop
  | [] => True
  | (_, v) :: rest => v.Ordered ∧ OrderedEntries rest
termination_by structural entries => entries

end

theorem orderedEntries_iff {entries : List (String × Value)} :
    OrderedEntries entries ↔ ∀ e ∈ entries, e.2.Ordered := by
  induction entries with
  | nil => simp [OrderedEntries]
  | cons e rest ih => simp only [OrderedEntries, ih, List.forall_mem_cons]

mutual

/-- Documents describe ordered values only. -/
theorem ofJson_ordered : ∀ json : Json, (ofJson json).Ordered
  | .null => trivial
  | .bool _ => trivial
  | .int n => by
    rw [ofJson, ofWhole]
    split <;> trivial
  | .float _ => trivial
  | .string _ => trivial
  | .array items => by
    rw [ofJson, Ordered]
    exact ofJsonItems_ordered items
  | .object entries => by
    rw [ofJson, ofEntries, Ordered, orderedEntries_iff]
    refine ⟨Entries.ascending_ofList _, ?_⟩
    intro e mem
    exact orderedEntries_iff.mp (ofJsonEntries_ordered entries) e (Entries.mem_ofList mem)
termination_by structural json => json

theorem ofJsonItems_ordered : ∀ items : List Json, OrderedItems (ofJsonItems items)
  | [] => trivial
  | item :: rest => ⟨ofJson_ordered item, ofJsonItems_ordered rest⟩
termination_by structural items => items

theorem ofJsonEntries_ordered :
    ∀ entries : List (String × Json), OrderedEntries (ofJsonEntries entries)
  | [] => trivial
  | (_, item) :: rest => ⟨ofJson_ordered item, ofJsonEntries_ordered rest⟩
termination_by structural entries => entries

end

end Value

end FlatRecord
