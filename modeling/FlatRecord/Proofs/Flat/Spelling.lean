import FlatRecord.Proofs.Flat.Position

namespace FlatRecord

namespace Path

/-- The characters of keys that stand below others: a dot comes before each. -/
def dotted (keys : List String) : List Char := keys.flatMap fun key => '.' :: key.toList

theorem dotted_append (keys others : List String) :
    dotted (keys ++ others) = dotted keys ++ dotted others := List.flatMap_append

theorem toList_foldl_child (path : String) (keys : List String) :
    (keys.foldl child path).toList = path.toList ++ dotted keys := by
  induction keys generalizing path with
  | nil => simp [dotted]
  | cons key keys ih =>
    have step : (child path key).toList = path.toList ++ '.' :: key.toList := by simp [child]
    rw [List.foldl_cons, ih, step, dotted, dotted, List.flatMap_cons]
    simp

theorem toList_intercalate (key : String) (keys : List String) :
    (".".intercalate (key :: keys)).toList = key.toList ++ dotted keys := by
  induction keys generalizing key with
  | nil => simp [dotted]
  | cons next keys ih =>
    rw [String.intercalate_cons_cons, String.toList_append, ih, dotted, dotted, List.flatMap_cons]
    simp

/-- The path of keys is their texts with dots between them. -/
theorem join_eq_intercalate (keys : List String) : join none keys = ".".intercalate keys := by
  cases keys with
  | nil => simp [join]
  | cons key keys =>
    apply String.toList_inj.mp
    rw [toList_intercalate]
    exact toList_foldl_child key keys

/-- The first key in which two sequences differ goes on with a dot in the second of them. -/
def GoesOn (keys others : List String) : Prop :=
  ∃ common key more rest rest', keys = common ++ key :: rest ∧
    others = common ++ (key ++ "." ++ more) :: rest'

theorem GoesOn.cons {keys others : List String} (h : GoesOn keys others) (first : String) :
    GoesOn (first :: keys) (first :: others) := by
  obtain ⟨common, key, more, rest, rest', rfl, rfl⟩ := h
  exact ⟨first :: common, key, more, rest, rest', rfl, rfl⟩

/-- A key that is longer than another, but spells the same path with those after it, holds all of
the other and goes on where this has a dot after it. -/
theorem goesOn_of_longer {key other : String} {keys others : List String} {c : Char}
    {more : List Char} (longer : other.toList = key.toList ++ c :: more)
    (same : dotted keys = c :: more ++ dotted others) : GoesOn (key :: keys) (other :: others) := by
  cases keys with
  | nil => cases same
  | cons next keys =>
    rw [dotted, List.flatMap_cons] at same
    obtain ⟨rfl, -⟩ := List.cons.inj same
    have text : other = key ++ "." ++ String.ofList more := by
      apply String.toList_inj.mp
      simp [longer]
    exact ⟨[], key, String.ofList more, next :: keys, others, rfl, by rw [text]; rfl⟩

theorem eq_or_goesOn_of_dotted {keys others : List String} (same : dotted keys = dotted others) :
    keys = others ∨ GoesOn keys others ∨ GoesOn others keys := by
  induction keys generalizing others with
  | nil =>
    cases others with
    | nil => exact .inl rfl
    | cons other others => cases same
  | cons key keys ih =>
    cases others with
    | nil => cases same
    | cons other others =>
      rw [dotted, dotted, List.flatMap_cons, List.flatMap_cons] at same
      have chars : key.toList ++ dotted keys = other.toList ++ dotted others :=
        (List.cons.inj same).2
      rcases List.append_eq_append_iff.mp chars with ⟨more, longer, rest⟩ | ⟨more, longer, rest⟩
      · cases more with
        | nil =>
          have heads : other = key := String.toList_inj.mp (longer.trans (List.append_nil _))
          subst heads
          rcases ih rest with rfl | goes | goes
          · exact .inl rfl
          · exact .inr (.inl (goes.cons _))
          · exact .inr (.inr (goes.cons _))
        | cons c more => exact .inr (.inl (goesOn_of_longer longer rest))
      · cases more with
        | nil =>
          have heads : key = other := String.toList_inj.mp (longer.trans (List.append_nil _))
          subst heads
          rcases ih rest.symm with rfl | goes | goes
          · exact .inl rfl
          · exact .inr (.inl (goes.cons _))
          · exact .inr (.inr (goes.cons _))
        | cons c more => exact .inr (.inr (goesOn_of_longer longer rest))

theorem eq_or_goesOn {keys others : List String} (filled : keys ≠ []) (filled' : others ≠ [])
    (same : ".".intercalate keys = ".".intercalate others) :
    keys = others ∨ GoesOn keys others ∨ GoesOn others keys := by
  obtain ⟨key, keys, rfl⟩ := List.exists_cons_of_ne_nil filled
  obtain ⟨other, others, rfl⟩ := List.exists_cons_of_ne_nil filled'
  apply eq_or_goesOn_of_dotted
  have chars := congrArg String.toList same
  rw [toList_intercalate, toList_intercalate] at chars
  exact congrArg (List.cons '.') chars

theorem GoesOn.lt {keys others : List String} (h : GoesOn keys others) : keys < others := by
  obtain ⟨common, key, more, rest, rest', rfl, rfl⟩ := h
  have longer : key < key ++ "." ++ more := by
    rw [String.lt_iff, String.append_assoc, String.toList_append]
    have goes : key.toList ++ [] < key.toList ++ ("." ++ more).toList :=
      List.append_left_lt (by simp)
    rwa [List.append_nil] at goes
  exact List.append_left_lt (List.cons_lt_cons_iff.mpr (.inl longer))

/-- Of two key sequences that spell the same path, the one in which a key goes on with a dot where
they differ first is the later one. -/
theorem lt_iff_goesOn {keys others : List String} (filled : keys ≠ []) (filled' : others ≠ [])
    (same : ".".intercalate keys = ".".intercalate others) : keys < others ↔ GoesOn keys others := by
  refine ⟨?_, GoesOn.lt⟩
  intro lt
  rcases eq_or_goesOn filled filled' same with rfl | goes | goes
  · exact absurd lt (List.lt_irrefl keys)
  · exact goes
  · exact absurd goes.lt (List.lt_asymm lt)

end Path

namespace Value

mutual

/-- The leaves of a value stand in the order of their key sequences. -/
theorem leaves_rising :
    ∀ v : Value, v.KeyOrdered → v.leaves.Pairwise fun l m => l.1 < m.1
  | .object entries, ordered => by
    have ascending := ordered.ascending
    rw [leaves]
    apply leavesOf_rising entries ascending
    intro e mem
    exact ordered.below ((Entries.lookup_eq_some_iff ascending).mpr mem)
  | .array _, _ => List.pairwise_singleton _ _
  | .null, _ => List.pairwise_singleton _ _
  | .bool _, _ => List.pairwise_singleton _ _
  | .int _, _ => List.pairwise_singleton _ _
  | .float _, _ => List.pairwise_singleton _ _
  | .string _, _ => List.pairwise_singleton _ _
termination_by structural v => v

theorem leavesOf_rising :
    ∀ entries : List (String × Value), Entries.Ascending entries →
      (∀ e ∈ entries, e.2.KeyOrdered) → (leavesOf entries).Pairwise fun l m => l.1 < m.1
  | [], _, _ => List.Pairwise.nil
  | (key, v) :: rest, ascending, ordered => by
    obtain ⟨above, tail⟩ := List.pairwise_cons.mp ascending
    obtain ⟨here, later⟩ := List.forall_mem_cons.mp ordered
    rw [leavesOf, List.pairwise_append]
    refine ⟨?_, leavesOf_rising rest tail later, ?_⟩
    · rw [List.pairwise_map]
      apply (leaves_rising v here).imp
      exact fun lt => List.cons_lt_cons_iff.mpr (.inr ⟨rfl, lt⟩)
    · intro l mem m mem'
      obtain ⟨below, _, rfl⟩ := List.mem_map.mp mem
      obtain ⟨other, w, others, memRest, _, eq⟩ := mem_leavesOf.mp mem'
      rw [eq]
      exact List.cons_lt_cons_iff.mpr (.inl (above _ memRest))
termination_by structural entries => entries

end

/-- Of leaves in the order of their keys the last one at a path is stored. -/
theorem find?_ofList_rising {ls : List (List String × Value)}
    (rising : ls.Pairwise fun l m => l.1 < m.1) (spell : List String → String) {path : String}
    {y : Value} :
    (KeyMap.ofList (ls.map fun l => (spell l.1, l.2))).find? path = some y ↔
      ∃ keys, (keys, y) ∈ ls ∧ spell keys = path ∧
        ∀ l ∈ ls, spell l.1 = path → l.1 = keys ∨ l.1 < keys := by
  rw [KeyMap.find?, KeyMap.ofList, Entries.lookup_ofList_eq_some_iff]
  constructor
  · rintro ⟨before, after, eq, last⟩
    obtain ⟨first, rest, rfl, rfl, others⟩ := List.map_eq_append_iff.mp eq
    obtain ⟨l, later, rfl, here, rfl⟩ := List.map_eq_cons_iff.mp others
    obtain ⟨rfl, rfl⟩ := Prod.mk.inj here
    refine ⟨l.1, by simp, rfl, ?_⟩
    intro m mem same
    rcases List.mem_append.mp mem with early | mem
    · exact .inr ((List.pairwise_append.mp rising).2.2 m early l List.mem_cons_self)
    · rcases List.mem_cons.mp mem with rfl | late
      · exact .inl rfl
      · exact absurd same (last _ (List.mem_map_of_mem late))
  · rintro ⟨keys, mem, rfl, greatest⟩
    obtain ⟨first, later, rfl⟩ := List.append_of_mem mem
    refine ⟨first.map fun l => (spell l.1, l.2), later.map fun l => (spell l.1, l.2), by simp, ?_⟩
    intro e late same
    obtain ⟨l, mem, rfl⟩ := List.mem_map.mp late
    have after := (List.pairwise_cons.mp (List.pairwise_append.mp rising).2.1).1 l mem
    rcases greatest l (by simp [mem]) same with eq | before
    · rw [eq] at after
      exact List.lt_irrefl _ after
    · exact List.lt_asymm after before

theorem LeafAt.filled {entries : List (String × Value)} {keys : List String} {x : Value}
    (leaf : (Value.object entries).LeafAt keys x) : keys ≠ [] := by
  rintro rfl
  cases (leafAt_nil.mp leaf).2

section Flattened

variable {v : Value} (ordered : v.KeyOrdered) {flat : FlatMap} (flattened : v.flatten = .ok flat)
  {path : String}
include ordered flattened

theorem contains_flatten :
    flat.contains path = true ↔ ∃ keys x, v.LeafAt keys x ∧ ".".intercalate keys = path := by
  obtain ⟨entries, rfl, rfl⟩ := flatten_eq_ok_iff.mp flattened
  rw [KeyMap.contains_ofList, List.map_map, List.mem_map, ← leaves]
  constructor
  · rintro ⟨l, mem, spelled⟩
    obtain ⟨x, leaf, -⟩ := (mem_leaves_iff ordered).mp mem
    exact ⟨l.1, x, leaf, (Path.join_eq_intercalate l.1).symm.trans spelled⟩
  · rintro ⟨keys, x, leaf, spelled⟩
    have mem := (mem_leaves_iff ordered).mpr ⟨x, leaf, rfl⟩
    exact ⟨_, mem, (Path.join_eq_intercalate keys).trans spelled⟩

theorem find?_flatten {y : Value} :
    flat.find? path = some y ↔
      ∃ keys x, v.LeafAt keys x ∧ ".".intercalate keys = path ∧ y = x.stored ∧
        ∀ others z, v.LeafAt others z → ".".intercalate others = path →
          others = keys ∨ others < keys := by
  obtain ⟨entries, rfl, rfl⟩ := flatten_eq_ok_iff.mp flattened
  have rising := leaves_rising _ ordered
  have mem_iff : ∀ keys y, (keys, y) ∈ leavesOf entries ↔
      ∃ x, (Value.object entries).LeafAt keys x ∧ y = x.stored := by
    intro keys y
    rw [← mem_leaves_iff ordered, leaves]
  rw [leaves] at rising
  simp only [Path.join_eq_intercalate]
  rw [find?_ofList_rising rising]
  constructor
  · rintro ⟨keys, mem, spelled, greatest⟩
    obtain ⟨x, leaf, rfl⟩ := (mem_iff keys y).mp mem
    refine ⟨keys, x, leaf, spelled, rfl, ?_⟩
    intro others z other same
    exact greatest (others, z.stored) ((mem_iff _ _).mpr ⟨z, other, rfl⟩) same
  · rintro ⟨keys, x, leaf, spelled, rfl, greatest⟩
    refine ⟨keys, (mem_iff _ _).mpr ⟨x, leaf, rfl⟩, spelled, ?_⟩
    intro l mem same
    obtain ⟨z, other, -⟩ := (mem_iff l.1 l.2).mp mem
    exact greatest l.1 z other same

end Flattened

/-- Flattening stores at a path the last of the leaves whose keys spell it, in the order of key
sequences: where two of them differ first, the key that goes on with a dot wins. -/
theorem flatten_stores_greatest {entries : List (String × Value)}
    (ordered : (Value.object entries).Ordered) :
    ∃ flat, (Value.object entries).flatten = .ok flat ∧
      (∀ path, flat.contains path = true ↔
        ∃ keys x, (Value.object entries).LeafAt keys x ∧ ".".intercalate keys = path) ∧
      (∀ path y, flat.find? path = some y ↔
        ∃ keys x, (Value.object entries).LeafAt keys x ∧ ".".intercalate keys = path ∧
          y = x.stored ∧
          ∀ others z, (Value.object entries).LeafAt others z → ".".intercalate others = path →
            others = keys ∨ others < keys) ∧
      ∀ keys others x z, (Value.object entries).LeafAt keys x →
        (Value.object entries).LeafAt others z →
          ".".intercalate keys = ".".intercalate others →
            (keys < others ↔ Path.GoesOn keys others) := by
  have sorted := ordered.keyOrdered
  have flattened : (Value.object entries).flatten = .ok (.ofList (leavesBelow none entries)) := rfl
  refine ⟨_, flattened, fun _ => contains_flatten sorted flattened,
    fun _ _ => find?_flatten sorted flattened, ?_⟩
  intro keys others x z leaf other same
  exact Path.lt_iff_goesOn leaf.filled other.filled same

/-- Three leaves spell one path, and two keys without a character another. -/
theorem flatten_stores_greatest_of_three :
    ∃ v : Value, v = object [("", .object [("", .bool true)]), (".", .array [.null]),
        ("a", .object [("b", .object [("c", .int 1)]), ("b.c", .int 2)]),
        ("a.b", .object [("c", .int 3), ("d", .object [])])] ∧
      v.Ordered ∧ v.LeafAt ["", ""] (.bool true) ∧ v.LeafAt ["a", "b.c"] (.int 2) ∧
      v.LeafAt ["a.b", "c"] (.int 3) ∧ ["a", "b.c"] < ["a.b", "c"] ∧
      ∃ flat, v.flatten = .ok flat ∧ flat.contains "." = true ∧
        flat.entries = [(".", .string "[null]"), ("a.b.c", .int 3)] := by
  let entries : List (String × Value) := [("", .object [("", .bool true)]), (".", .array [.null]),
    ("a", .object [("b", .object [("c", .int 1)]), ("b.c", .int 2)]),
    ("a.b", .object [("c", .int 3), ("d", .object [])])]
  have ordered : (object entries).Ordered := by
    simp only [entries, Ordered, OrderedEntries, OrderedItems, Entries.Ascending]
    decide
  have blank : (object entries).LeafAt ["", ""] (.bool true) := ⟨rfl, rfl⟩
  have inner : (object entries).LeafAt ["a", "b.c"] (.int 2) := ⟨rfl, rfl⟩
  have outer : (object entries).LeafAt ["a.b", "c"] (.int 3) := ⟨rfl, rfl⟩
  obtain ⟨flat, flattened, paths, _, spellings⟩ := flatten_stores_greatest ordered
  have later : Path.GoesOn ["a", "b.c"] ["a.b", "c"] := ⟨[], "a", "b", ["b.c"], ["c"], rfl, rfl⟩
  refine ⟨_, rfl, ordered, blank, inner, outer, (spellings _ _ _ _ inner outer rfl).mpr later,
    flat, flattened, (paths ".").mpr ⟨_, _, blank, rfl⟩, ?_⟩
  cases flattened
  rfl

end Value

end FlatRecord
