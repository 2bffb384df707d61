import FlatRecord.Flat
import FlatRecord.Proofs.Value.Ordered

namespace FlatRecord

namespace Path

/-- The path of keys below another path, or at the top. -/
def join (path : Option String) : List String → String
  | [] => path.getD ""
  | key :: keys => keys.foldl child (extend path key)

theorem join_child (path : String) (keys : List String) :
    join (some path) keys = keys.foldl child path := by
  cases keys <;> rfl

theorem join_extend (path : Option String) (key : String) (keys : List String) :
    join (some (extend path key)) keys = join path (key :: keys) :=
  join_child _ keys

theorem splitDots_ne_nil (cs : List Char) : splitDots cs ≠ [] := by
  cases cs with
  | nil => simp [splitDots]
  | cons c cs =>
    rw [splitDots]
    split
    · simp
    · split <;> simp

theorem splitDots_of_dotless {cs : List Char} (h : '.' ∉ cs) : splitDots cs = [cs] := by
  induction cs with
  | nil => rfl
  | cons c cs ih =>
    have ne : c ≠ '.' := fun eq => h (by simp [eq])
    have rest : '.' ∉ cs := fun mem => h (List.mem_cons_of_mem c mem)
    rw [splitDots, if_neg ne, ih rest]

theorem splitDots_append_dot (cs ds : List Char) :
    splitDots (cs ++ '.' :: ds) = splitDots cs ++ splitDots ds := by
  induction cs with
  | nil => simp [splitDots]
  | cons c cs ih =>
    rw [List.cons_append, splitDots, splitDots, ih]
    by_cases dot : c = '.'
    · simp [dot]
    · cases split : splitDots cs with
      | nil => exact absurd split (splitDots_ne_nil cs)
      | cons part parts => simp [dot]

theorem segments_of_dotless {key : String} (h : '.' ∉ key.toList) : segments key = [key] := by
  simp [segments, splitDots_of_dotless h]

theorem segments_child (path : String) {key : String} (h : '.' ∉ key.toList) :
    segments (child path key) = segments path ++ [key] := by
  have chars : (child path key).toList = path.toList ++ '.' :: key.toList := by
    simp [child, String.toList_append]
  unfold segments
  rw [chars, splitDots_append_dot, splitDots_of_dotless h]
  simp

theorem segments_foldl_child (path : String) {keys : List String}
    (h : ∀ key ∈ keys, '.' ∉ key.toList) :
    segments (keys.foldl child path) = segments path ++ keys := by
  induction keys generalizing path with
  | nil => simp
  | cons key keys ih =>
    rw [List.foldl_cons, ih _ fun k mem => h k (List.mem_cons_of_mem key mem),
      segments_child path (h key List.mem_cons_self)]
    simp

/-- Keys without dots can be read off the path they are joined to. -/
theorem segments_join {keys : List String} (ne : keys ≠ []) (h : ∀ key ∈ keys, '.' ∉ key.toList) :
    segments (join none keys) = keys := by
  cases keys with
  | nil => exact absurd rfl ne
  | cons key keys =>
    have head : segments key = [key] := segments_of_dotless (h key List.mem_cons_self)
    have tail := segments_foldl_child key fun k mem => h k (List.mem_cons_of_mem key mem)
    simpa [join, extend, head] using tail

end Path

namespace Value

def isContainer : Value → Bool
  | .array _ => true
  | .object _ => true
  | _ => false

mutual

/-- The key sequences that lead to something other than an object, in key order, each with what
is stored for it. -/
def leaves : Value → List (List String × Value)
  | .object entries => leavesOf entries
  | .array items => [([], .string (Value.array items).jsonText)]
  | leaf => [([], leaf)]
termination_by structural v => v

def leavesOf : List (String × Value) → List (List String × Value)
  | [] => []
  | (key, v) :: rest => v.leaves.map (fun l => (key :: l.1, l.2)) ++ leavesOf rest
termination_by structural entries => entries

end

mutual

/-- Flattening stores every leaf at the joined keys that lead to it. -/
theorem leavesAt_eq (path : String) :
    ∀ v : Value, leavesAt path v = v.leaves.map fun l => (Path.join (some path) l.1, l.2)
  | .object entries => by
    rw [leavesAt, leaves]
    exact leavesBelow_eq (some path) entries
  | .array items => by simp [leavesAt, leaves, Path.join]
  | .null => by simp [leavesAt, leaves, Path.join]
  | .bool b => by simp [leavesAt, leaves, Path.join]
  | .int n => by simp [leavesAt, leaves, Path.join]
  | .float x => by simp [leavesAt, leaves, Path.join]
  | .string s => by simp [leavesAt, leaves, Path.join]
termination_by structural v => v

theorem leavesBelow_eq (path : Option String) :
    ∀ entries : List (String × Value),
      leavesBelow path entries = (leavesOf entries).map fun l => (Path.join path l.1, l.2)
  | [] => rfl
  | (key, v) :: rest => by
    rw [leavesBelow, leavesOf, List.map_append, List.map_map]
    have head := leavesAt_eq (Path.extend path key) v
    simp only [Path.join_extend] at head
    rw [head, leavesBelow_eq path rest]
    rfl
termination_by structural entries => entries

end

mutual

theorem leaves_stored : ∀ (v : Value), ∀ l ∈ v.leaves, l.2.isContainer = false
  | .object entries => by
    rw [leaves]
    exact leavesOf_stored entries
  | .array items => by simp [leaves, isContainer]
  | .null => by simp [leaves, isContainer]
  | .bool b => by simp [leaves, isContainer]
  | .int n => by simp [leaves, isContainer]
  | .float x => by simp [leaves, isContainer]
  | .string s => by simp [leaves, isContainer]
termination_by structural v => v

theorem leavesOf_stored :
    ∀ entries : List (String × Value), ∀ l ∈ leavesOf entries, l.2.isContainer = false
  | [] => by simp [leavesOf]
  | (key, v) :: rest => by
    intro l mem
    rw [leavesOf] at mem
    rcases List.mem_append.mp mem with mem | mem
    · obtain ⟨below, leaf, rfl⟩ := List.mem_map.mp mem
      exact leaves_stored v below leaf
    · exact leavesOf_stored rest l mem
termination_by structural entries => entries

end

theorem mem_leavesOf {entries : List (String × Value)} {l : List String × Value} :
    l ∈ leavesOf entries ↔
      ∃ key v keys, (key, v) ∈ entries ∧ (keys, l.2) ∈ v.leaves ∧ l.1 = key :: keys := by
  obtain ⟨path, x⟩ := l
  induction entries with
  | nil => simp [leavesOf]
  | cons e rest ih =>
    obtain ⟨key, v⟩ := e
    rw [leavesOf, List.mem_append, ih]
    constructor
    · rintro (mem | ⟨k, w, keys, mem, leaf, eq⟩)
      · obtain ⟨⟨keys, y⟩, leaf, eq⟩ := List.mem_map.mp mem
        cases eq
        exact ⟨key, v, keys, List.mem_cons_self, leaf, rfl⟩
      · exact ⟨k, w, keys, List.mem_cons_of_mem _ mem, leaf, eq⟩
    · rintro ⟨k, w, keys, mem, leaf, eq⟩
      rcases List.mem_cons.mp mem with same | mem
      · cases same
        exact Or.inl (List.mem_map.mpr ⟨(keys, x), leaf, by rw [← eq]⟩)
      · exact Or.inr ⟨k, w, keys, mem, leaf, eq⟩

theorem leavesOf_ne_nil {entries : List (String × Value)} {l : List String × Value}
    (h : l ∈ leavesOf entries) : l.1 ≠ [] := by
  obtain ⟨key, v, keys, _, _, eq⟩ := mem_leavesOf.mp h
  simp [eq]

theorem cons_mem_leavesOf {entries : List (String × Value)} (h : Entries.Ascending entries)
    {key : String} {keys : List String} {x : Value} :
    (key :: keys, x) ∈ leavesOf entries ↔
      ∃ v, entries.lookup key = some v ∧ (keys, x) ∈ v.leaves := by
  rw [mem_leavesOf]
  constructor
  · rintro ⟨k, v, rest, mem, leaf, eq⟩
    cases eq
    exact ⟨v, (Entries.lookup_eq_some_iff h).mpr mem, leaf⟩
  · rintro ⟨v, found, leaf⟩
    exact ⟨key, v, keys, (Entries.lookup_eq_some_iff h).mp found, leaf, rfl⟩

theorem flatten_eq_ok_iff {v : Value} {flat : FlatMap} :
    v.flatten = .ok flat ↔
      ∃ entries, v = .object entries ∧
        flat = .ofList ((leavesOf entries).map fun l => (Path.join none l.1, l.2)) := by
  cases v with
  | object entries =>
    simp only [flatten, leavesBelow_eq]
    constructor
    · intro h
      cases h
      exact ⟨entries, rfl, rfl⟩
    · rintro ⟨_, eq, rfl⟩
      cases eq
      rfl
  | _ => simp [flatten]

theorem flatten_stored {v : Value} {flat : FlatMap} (h : v.flatten = .ok flat) {path : String}
    {raw : Value} (found : flat.find? path = some raw) : raw.isContainer = false := by
  obtain ⟨entries, _, rfl⟩ := flatten_eq_ok_iff.mp h
  obtain ⟨l, leaf, eq⟩ := List.mem_map.mp (Entries.mem_ofList (KeyMap.find?_eq_some_iff.mp found))
  cases eq
  exact leavesOf_stored entries l leaf

theorem storeAt_eq (flat : FlatMap) (path : String) (v : Value) :
    storeAt flat path v = flat.insertAll (leavesAt path v) := by
  cases v <;> rfl

/-- Entries that are stored one by one are taken apart as the entries of an object are. -/
theorem flattenAll_eq (entries : List (String × Value)) :
    flattenAll entries = .ofList (entries.flatMap fun e => leavesAt e.1 e.2) := by
  have stored : ∀ (entries : List (String × Value)) (flat : FlatMap),
      entries.foldl (fun flat e => storeAt flat e.1 e.2) flat =
        flat.insertAll (entries.flatMap fun e => leavesAt e.1 e.2) := by
    intro entries
    induction entries with
    | nil => exact fun _ => rfl
    | cons e entries ih =>
      intro flat
      rw [List.foldl_cons, ih, storeAt_eq, List.flatMap_cons]
      apply KeyMap.ext_entries
      exact List.foldl_append.symm
  exact stored entries .empty

theorem flattenAll_stored {entries : List (String × Value)} {path : String} {raw : Value}
    (found : (flattenAll entries).find? path = some raw) : raw.isContainer = false := by
  rw [flattenAll_eq] at found
  have mem := Entries.mem_ofList (KeyMap.find?_eq_some_iff.mp found)
  obtain ⟨e, _, below⟩ := List.mem_flatMap.mp mem
  rw [leavesAt_eq] at below
  obtain ⟨l, leaf, eq⟩ := List.mem_map.mp below
  cases eq
  exact leaves_stored e.2 l leaf

/-- Neither key sequence goes on from the other. -/
def Diverging (keys others : List String) : Prop := ¬keys <+: others ∧ ¬others <+: keys

theorem Diverging.symm {keys others : List String} (h : Diverging keys others) :
    Diverging others keys := ⟨h.2, h.1⟩

theorem diverging_cons {key : String} {keys others : List String} :
    Diverging (key :: keys) (key :: others) ↔ Diverging keys others := by
  simp [Diverging]

theorem diverging_of_ne {key other : String} (h : key ≠ other) (keys others : List String) :
    Diverging (key :: keys) (other :: others) := by
  simp [Diverging, h, h.symm]

mutual

/-- No leaf lies below another. -/
theorem leaves_diverging :
    ∀ v : Value, v.Ordered → v.leaves.Pairwise fun l m => Diverging l.1 m.1
  | .object entries, ordered => by
    rw [Ordered] at ordered
    rw [leaves]
    exact leavesOf_diverging entries ordered.1 ordered.2
  | .array _, _ => List.pairwise_singleton _ _
  | .null, _ => List.pairwise_singleton _ _
  | .bool _, _ => List.pairwise_singleton _ _
  | .int _, _ => List.pairwise_singleton _ _
  | .float _, _ => List.pairwise_singleton _ _
  | .string _, _ => List.pairwise_singleton _ _
termination_by structural v => v

theorem leavesOf_diverging :
    ∀ entries : List (String × Value), Entries.Ascending entries → OrderedEntries entries →
      (leavesOf entries).Pairwise fun l m => Diverging l.1 m.1
  | [], _, _ => List.Pairwise.nil
  | (key, v) :: rest, ascending, ordered => by
    obtain ⟨above, tail⟩ := List.pairwise_cons.mp ascending
    rw [leavesOf, List.pairwise_append]
    refine ⟨?_, leavesOf_diverging rest tail ordered.2, ?_⟩
    · rw [List.pairwise_map]
      exact (leaves_diverging v ordered.1).imp fun h => diverging_cons.mpr h
    · intro l mem m mem'
      obtain ⟨below, _, rfl⟩ := List.mem_map.mp mem
      obtain ⟨other, w, others, memRest, _, eq⟩ := mem_leavesOf.mp mem'
      have lt : key < other := above _ memRest
      have ne : key ≠ other := by
        rintro rfl
        exact String.lt_irrefl key lt
      rw [eq]
      exact diverging_of_ne ne _ _
termination_by structural entries => entries

end

end Value

end FlatRecord
