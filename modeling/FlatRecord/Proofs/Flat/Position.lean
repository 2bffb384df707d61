import FlatRecord.Proofs.Flat.Leaves

namespace FlatRecord

namespace Value

def isObject : Value → Bool
  | .object _ => true
  | _ => false

theorem isObject_of_not_container {v : Value} (h : v.isContainer = false) : v.isObject = false := by
  cases v with
  | object _ => cases h
  | _ => rfl

/-- What stands where keys lead from a value, through objects only. -/
def at? : List String → Value → Option Value
  | [], v => some v
  | key :: keys, .object entries => (entries.lookup key).bind (at? keys)
  | _ :: _, _ => none

/-- Keys lead from a value to another, which is not an object. -/
def LeafAt (v : Value) (keys : List String) (x : Value) : Prop :=
  v.at? keys = some x ∧ x.isObject = false

/-- What is stored for a leaf, where an array has its JSON text. -/
def stored : Value → Value
  | .array items => .string (Value.array items).jsonText
  | v => v

/-- The entries of every object to which keys lead stand in key order. -/
def KeyOrdered (v : Value) : Prop :=
  ∀ keys entries, v.at? keys = some (.object entries) → Entries.Ascending entries

theorem at?_cons {key : String} {keys : List String} {entries : List (String × Value)} :
    (Value.object entries).at? (key :: keys) = (entries.lookup key).bind (at? keys) := rfl

theorem at?_cons_eq_some {v x : Value} {key : String} {keys : List String} :
    v.at? (key :: keys) = some x ↔
      ∃ entries w, v = .object entries ∧ entries.lookup key = some w ∧ w.at? keys = some x := by
  cases v with
  | object entries =>
    rw [at?_cons, Option.bind_eq_some_iff]
    constructor
    · rintro ⟨w, found, below⟩
      exact ⟨entries, w, rfl, found, below⟩
    · rintro ⟨_, w, eq, found, below⟩
      cases eq
      exact ⟨w, found, below⟩
  | _ => simp [at?]

theorem leafAt_nil {v x : Value} : v.LeafAt [] x ↔ v = x ∧ v.isObject = false := by
  constructor
  · rintro ⟨⟨rfl⟩, leaf⟩
    exact ⟨rfl, leaf⟩
  · rintro ⟨rfl, leaf⟩
    exact ⟨rfl, leaf⟩

theorem leafAt_cons {v x : Value} {key : String} {keys : List String} :
    v.LeafAt (key :: keys) x ↔
      ∃ entries w, v = .object entries ∧ entries.lookup key = some w ∧ w.LeafAt keys x := by
  unfold LeafAt
  rw [at?_cons_eq_some]
  constructor
  · rintro ⟨⟨entries, w, eq, found, below⟩, leaf⟩
    exact ⟨entries, w, eq, found, below, leaf⟩
  · rintro ⟨entries, w, eq, found, below, leaf⟩
    exact ⟨⟨entries, w, eq, found, below⟩, leaf⟩

theorem leafAt_of_leaf {v x : Value} (leaf : v.isObject = false) {keys : List String} :
    v.LeafAt keys x ↔ keys = [] ∧ x = v := by
  cases keys with
  | nil =>
    rw [leafAt_nil]
    constructor
    · rintro ⟨rfl, _⟩
      exact ⟨rfl, rfl⟩
    · rintro ⟨_, rfl⟩
      exact ⟨rfl, leaf⟩
  | cons key keys =>
    cases v with
    | object _ => cases leaf
    | _ => simp [leafAt_cons]

theorem KeyOrdered.ascending {entries : List (String × Value)}
    (ordered : (Value.object entries).KeyOrdered) : Entries.Ascending entries :=
  ordered [] entries rfl

theorem KeyOrdered.below {entries : List (String × Value)}
    (ordered : (Value.object entries).KeyOrdered) {key : String} {v : Value}
    (found : entries.lookup key = some v) : v.KeyOrdered := by
  intro keys below at_
  apply ordered (key :: keys)
  rw [at?_cons, found]
  exact at_

theorem Ordered.keyOrdered {v : Value} (ordered : v.Ordered) : v.KeyOrdered := by
  intro keys below reached
  induction keys generalizing v with
  | nil =>
    cases reached
    rw [Ordered] at ordered
    exact ordered.1
  | cons key keys ih =>
    obtain ⟨entries, w, rfl, found, reached⟩ := at?_cons_eq_some.mp reached
    rw [Ordered, orderedEntries_iff] at ordered
    exact ih (ordered.2 _ (Entries.mem_of_lookup found)) reached

theorem nil_mem_leaves {v y : Value} :
    ([], y) ∈ v.leaves ↔ v.isObject = false ∧ y = v.stored := by
  cases v with
  | object entries =>
    rw [leaves]
    constructor
    · intro mem
      exact absurd rfl (leavesOf_ne_nil mem)
    · rintro ⟨⟨⟩, _⟩
  | _ => simp [leaves, isObject, stored]

/-- The leaves of a value are those to which keys lead, as they are stored. -/
theorem mem_leaves_iff {v : Value} (ordered : v.KeyOrdered) {keys : List String} {y : Value} :
    (keys, y) ∈ v.leaves ↔ ∃ x, v.LeafAt keys x ∧ y = x.stored := by
  induction keys generalizing v with
  | nil =>
    simp only [nil_mem_leaves, leafAt_nil]
    constructor
    · rintro ⟨leaf, rfl⟩
      exact ⟨v, ⟨rfl, leaf⟩, rfl⟩
    · rintro ⟨_, ⟨rfl, leaf⟩, rfl⟩
      exact ⟨leaf, rfl⟩
  | cons key keys ih =>
    cases v with
    | object entries =>
      rw [leaves, cons_mem_leavesOf ordered.ascending]
      constructor
      · rintro ⟨w, found, mem⟩
        obtain ⟨x, leaf, rfl⟩ := (ih (ordered.below found)).mp mem
        exact ⟨x, leafAt_cons.mpr ⟨entries, w, rfl, found, leaf⟩, rfl⟩
      · rintro ⟨x, leaf, rfl⟩
        obtain ⟨_, w, eq, found, leaf⟩ := leafAt_cons.mp leaf
        cases eq
        exact ⟨w, found, (ih (ordered.below found)).mpr ⟨x, leaf, rfl⟩⟩
    | _ => simp [leaves, leafAt_cons]

end Value

end FlatRecord
