import Mathlib.Data.List.Nodup
import FlatRecord.Proofs.Flat.Kept

namespace FlatRecord

namespace Value

mutual

/-- Objects that hold nothing but such objects. -/
def hollow : Value → Bool
  | .object entries => hollowEntries entries
  | _ => false
termination_by structural v => v

def hollowEntries : List (String × Value) → Bool
  | [] => true
  | (_, v) :: rest => v.hollow && hollowEntries rest
termination_by structural entries => entries

end

mutual

/-- The value with the JSON text in the place of every array that is in no other array, and
without hollow objects below the top. -/
def normal : Value → Value
  | .object entries => .object (normalEntries entries)
  | .array items => .string (Value.array items).jsonText
  | leaf => leaf
termination_by structural v => v

def normalEntries : List (String × Value) → List (String × Value)
  | [] => []
  | (key, v) :: rest =>
    if v.hollow then normalEntries rest else (key, v.normal) :: normalEntries rest
termination_by structural entries => entries

end

mutual

/-- No key has a dot, but for the keys within arrays. -/
def Dotless : Value → Prop
  | .object entries => DotlessEntries entries
  | _ => True
termination_by structural v => v

def DotlessEntries : List (String × Value) → Prop
  | [] => True
  | (key, v) :: rest => '.' ∉ key.toList ∧ v.Dotless ∧ DotlessEntries rest
termination_by structural entries => entries

end

mutual

theorem leaves_of_hollow : ∀ v : Value, v.hollow = true → v.leaves = []
  | .object entries, h => by
    rw [hollow] at h
    rw [leaves]
    exact leavesOf_of_hollow entries h
  | .array _, h => by simp [hollow] at h
  | .null, h => by simp [hollow] at h
  | .bool _, h => by simp [hollow] at h
  | .int _, h => by simp [hollow] at h
  | .float _, h => by simp [hollow] at h
  | .string _, h => by simp [hollow] at h
termination_by structural v => v

theorem leavesOf_of_hollow :
    ∀ entries : List (String × Value), hollowEntries entries = true → leavesOf entries = []
  | [], _ => rfl
  | (key, v) :: rest, h => by
    rw [hollowEntries, Bool.and_eq_true] at h
    rw [leavesOf, leaves_of_hollow v h.1, leavesOf_of_hollow rest h.2]
    rfl
termination_by structural entries => entries

end

mutual

/-- The normal form has the same leaves. -/
theorem leaves_normal : ∀ v : Value, v.normal.leaves = v.leaves
  | .object entries => by
    rw [normal, leaves, leaves]
    exact leavesOf_normalEntries entries
  | .array _ => rfl
  | .null => rfl
  | .bool _ => rfl
  | .int _ => rfl
  | .float _ => rfl
  | .string _ => rfl
termination_by structural v => v

theorem leavesOf_normalEntries :
    ∀ entries : List (String × Value), leavesOf (normalEntries entries) = leavesOf entries
  | [] => rfl
  | (key, v) :: rest => by
    rw [normalEntries]
    by_cases h : v.hollow
    · rw [if_pos h, leavesOf, leaves_of_hollow v h, leavesOf_normalEntries rest]
      rfl
    · rw [if_neg h, leavesOf, leavesOf, leaves_normal v, leavesOf_normalEntries rest]
termination_by structural entries => entries

end

theorem normalEntries_ne_nil {entries : List (String × Value)} (h : hollowEntries entries = false) :
    normalEntries entries ≠ [] := by
  induction entries with
  | nil => simp [hollowEntries] at h
  | cons e rest ih =>
    obtain ⟨key, v⟩ := e
    rw [normalEntries]
    by_cases hv : v.hollow
    · rw [if_pos hv]
      apply ih
      simpa [hollowEntries, hv] using h
    · rw [if_neg hv]
      simp

theorem exists_of_mem_normalEntries {entries : List (String × Value)} {e : String × Value}
    (h : e ∈ normalEntries entries) : ∃ v, (e.1, v) ∈ entries ∧ e.2 = v.normal := by
  induction entries with
  | nil => simp [normalEntries] at h
  | cons first rest ih =>
    obtain ⟨key, v⟩ := first
    rw [normalEntries] at h
    have later : e ∈ normalEntries rest →
        ∃ w, (e.1, w) ∈ (key, v) :: rest ∧ e.2 = w.normal := by
      intro mem
      obtain ⟨w, old, eq⟩ := ih mem
      exact ⟨w, List.mem_cons_of_mem _ old, eq⟩
    by_cases hv : v.hollow
    · rw [if_pos hv] at h
      exact later h
    · rw [if_neg hv] at h
      rcases List.mem_cons.mp h with rfl | mem
      · exact ⟨v, List.mem_cons_self, rfl⟩
      · exact later mem

mutual

theorem normal_trim : ∀ v : Value, v.Ordered → v.hollow = false →
    ∀ below, v.normal = .object below → below ≠ [] ∧ Trim below
  | .object entries, ordered, solid => by
    rw [Ordered] at ordered
    rw [hollow] at solid
    rw [normal]
    intro below eq
    cases eq
    exact ⟨normalEntries_ne_nil solid, normalEntries_trim entries ordered.1 ordered.2⟩
  | .array _, _, _ => by simp [normal]
  | .null, _, _ => by simp [normal]
  | .bool _, _, _ => by simp [normal]
  | .int _, _, _ => by simp [normal]
  | .float _, _, _ => by simp [normal]
  | .string _, _, _ => by simp [normal]
termination_by structural v => v

theorem normalEntries_trim : ∀ entries : List (String × Value), Entries.Ascending entries →
    OrderedEntries entries → Trim (normalEntries entries)
  | [], _, _ => Trim.nil
  | (key, v) :: rest, ascending, ordered => by
    obtain ⟨above, tail⟩ := List.pairwise_cons.mp ascending
    have trimRest := normalEntries_trim rest tail ordered.2
    rw [normalEntries]
    cases hv : v.hollow with
    | true => exact trimRest
    | false =>
      have first : ∀ e ∈ normalEntries rest, key < e.1 := by
        intro e mem
        obtain ⟨w, old, _⟩ := exists_of_mem_normalEntries mem
        exact above (e.1, w) old
      have placed : Trim (Entries.insert key v.normal (normalEntries rest)) :=
        trimRest.insert (normal_trim v ordered.1 hv)
      rwa [Entries.insert_eq_cons first] at placed
termination_by structural entries => entries

end

theorem stored_of_leafAt_normal {v x : Value} {keys : List String}
    (leaf : v.normal.LeafAt keys x) : x.stored = x := by
  induction keys generalizing v with
  | nil =>
    obtain ⟨rfl, _⟩ := leafAt_nil.mp leaf
    cases v <;> rfl
  | cons key keys ih =>
    obtain ⟨inner, w, eq, found, below⟩ := leafAt_cons.mp leaf
    cases v with
    | object entries =>
      rw [normal] at eq
      cases eq
      obtain ⟨u, _, rfl⟩ := exists_of_mem_normalEntries (Entries.mem_of_lookup found)
      exact ih below
    | _ => cases eq

/-- Keys lead to the leaves of the normal form, of which none is an array. -/
theorem leafAt_normal {entries : List (String × Value)} (ordered : (Value.object entries).Ordered)
    {keys : List String} {x : Value} :
    (Value.object (normalEntries entries)).LeafAt keys x ↔ (keys, x) ∈ leavesOf entries := by
  rw [Ordered] at ordered
  have trim := normalEntries_trim entries ordered.1 ordered.2
  have listed : (Value.object (normalEntries entries)).leaves = leavesOf entries := by
    rw [leaves, leavesOf_normalEntries]
  rw [← listed, mem_leaves_iff trim.keyOrdered]
  constructor
  · intro leaf
    exact ⟨x, leaf, (stored_of_leafAt_normal (v := .object entries) leaf).symm⟩
  · rintro ⟨w, leaf, rfl⟩
    rwa [stored_of_leafAt_normal (v := .object entries) leaf]

mutual

theorem leaves_dotless :
    ∀ v : Value, v.Dotless → ∀ l ∈ v.leaves, ∀ key ∈ l.1, '.' ∉ key.toList
  | .object entries, dotless => by
    rw [Dotless] at dotless
    rw [leaves]
    exact leavesOf_dotless entries dotless
  | .array _, _ => by simp [leaves]
  | .null, _ => by simp [leaves]
  | .bool _, _ => by simp [leaves]
  | .int _, _ => by simp [leaves]
  | .float _, _ => by simp [leaves]
  | .string _, _ => by simp [leaves]
termination_by structural v => v

theorem leavesOf_dotless : ∀ entries : List (String × Value), DotlessEntries entries →
    ∀ l ∈ leavesOf entries, ∀ key ∈ l.1, '.' ∉ key.toList
  | [], _ => by simp [leavesOf]
  | (first, v) :: rest, dotless => by
    obtain ⟨here, below, later⟩ := dotless
    intro l mem key memKey
    rw [leavesOf] at mem
    rcases List.mem_append.mp mem with mem | mem
    · obtain ⟨m, leaf, rfl⟩ := List.mem_map.mp mem
      rcases List.mem_cons.mp memKey with rfl | memKey
      · exact here
      · exact leaves_dotless v below m leaf key memKey
    · exact leavesOf_dotless rest later l mem key memKey
termination_by structural entries => entries

end

theorem eq_of_prefix_of_diverging {ls : List (List String × Value)}
    (diverging : ls.Pairwise fun l m => Diverging l.1 m.1) {l m : List String × Value}
    (mem : l ∈ ls) (mem' : m ∈ ls) (begins : l.1 <+: m.1) : l.1 = m.1 := by
  have forth : ls.Pairwise fun l m => l.1 <+: m.1 → l.1 = m.1 :=
    diverging.imp fun apart way => absurd way apart.1
  have back : ls.Pairwise (flip fun l m => l.1 <+: m.1 → l.1 = m.1) :=
    diverging.imp fun apart way => absurd way apart.2
  exact List.Pairwise.forall_of_forall_of_flip (fun _ _ _ => rfl) forth back mem mem' begins

/-- What is unflattened from the leaves of an object, in whatever order, is its normal form. -/
theorem unflatten_eq_normal {entries : List (String × Value)} {flat : FlatMap}
    (ordered : (Value.object entries).Ordered)
    (perm : (flat.entries.map fun e => (Path.segments e.1, e.2)).Perm (leavesOf entries)) :
    unflatten flat = (Value.object entries).normal := by
  obtain ⟨ascending, below⟩ : Entries.Ascending entries ∧ OrderedEntries entries := by
    rwa [Ordered] at ordered
  have leaf_of_mem : ∀ e ∈ flat.entries, (Path.segments e.1, e.2) ∈ leavesOf entries :=
    fun e mem => perm.mem_iff.mp (List.mem_map_of_mem mem)
  have leaf : ∀ e ∈ flat.entries, e.2.isObject = false := fun e mem =>
    isObject_of_not_container (leavesOf_stored entries _ (leaf_of_mem e mem))
  have kept : ∀ e ∈ flat.entries, Kept flat.entries e.1 := by
    intro e mem f memF begins
    have diverging := leavesOf_diverging entries ascending below
    have same := eq_of_prefix_of_diverging diverging (leaf_of_mem f memF) (leaf_of_mem e mem) begins
    exact Path.segments_inj.mp same
  obtain ⟨built, rebuilt, trim, leaves⟩ := exists_built leaf
  rw [rebuilt, normal]
  congr 1
  apply trim.eq_of_leaves (normalEntries_trim entries ascending below)
  intro keys x
  rw [leaves, leafAt_normal ordered]
  constructor
  · rintro ⟨path, mem, _, rfl⟩
    exact leaf_of_mem _ mem
  · intro mem
    obtain ⟨e, stored, eq⟩ := List.mem_map.mp (perm.mem_iff.mpr mem)
    cases eq
    exact ⟨e.1, stored, kept e stored, rfl⟩

section

variable {entries : List (String × Value)} (ordered : (Value.object entries).Ordered)
  (dotless : (Value.object entries).Dotless)
include ordered dotless

/-- The flat form of an object without dots in its keys holds every leaf once. -/
theorem flatten_perm :
    ∃ flat, (Value.object entries).flatten = .ok flat ∧
      (flat.entries.map fun e => (Path.segments e.1, e.2)).Perm (leavesOf entries) := by
  rw [Ordered] at ordered
  rw [Dotless] at dotless
  have diverging := leavesOf_diverging entries ordered.1 ordered.2
  have segments : ∀ l ∈ leavesOf entries, Path.segments (Path.join none l.1) = l.1 :=
    fun l mem => Path.segments_join (leavesOf_ne_nil mem) (leavesOf_dotless entries dotless l mem)
  let stored := (leavesOf entries).map fun l => (Path.join none l.1, l.2)
  have back : stored.map (fun e => (Path.segments e.1, e.2)) = leavesOf entries := by
    rw [List.map_map]
    exact (List.map_congr_left fun l mem => by simp [segments l mem]).trans (List.map_id _)
  have distinct : (stored.map Prod.fst).Nodup := by
    have keys : ((stored.map Prod.fst).map Path.segments).Nodup := by
      have eq : (stored.map Prod.fst).map Path.segments = (leavesOf entries).map Prod.fst := by
        rw [List.map_map, List.map_map]
        exact List.map_congr_left segments
      rw [eq, List.Nodup, List.pairwise_map]
      apply diverging.imp
      intro l m apart same
      exact apart.1 ⟨[], by rw [List.append_nil, same]⟩
    exact List.Nodup.of_map _ keys
  refine ⟨.ofList stored, flatten_eq_ok_iff.mpr ⟨entries, rfl, rfl⟩, ?_⟩
  have perm := (KeyMap.ofList_perm distinct).map fun e => (Path.segments e.1, e.2)
  rwa [back] at perm

/-- Unflattening the flat form of an object whose keys have no dots gives its normal form. The
flat form has as many entries as the object has leaves, and every leaf is found again. -/
theorem unflatten_flatten :
    ∃ flat, (Value.object entries).flatten = .ok flat ∧
      unflatten flat = (Value.object entries).normal ∧
      flat.size = (Value.object entries).leaves.length ∧
      (Value.object entries).normal.leaves = (Value.object entries).leaves := by
  obtain ⟨flat, flattened, perm⟩ := flatten_perm ordered dotless
  refine ⟨flat, flattened, unflatten_eq_normal ordered perm, ?_, leaves_normal _⟩
  have length := perm.length_eq
  rw [List.length_map] at length
  rw [leaves, KeyMap.size, length]

end

theorem unflatten_flatten_nested :
    (object [("", .int 1), ("a", .object [("b", .array [.null]), ("c", .object [])])]).Ordered ∧
    (object [("", .int 1), ("a", .object [("b", .array [.null]), ("c", .object [])])]).Dotless ∧
    ∃ flat,
      (object [("", .int 1), ("a", .object [("b", .array [.null]), ("c", .object [])])]).flatten =
        .ok flat ∧
      unflatten flat = object [("", .int 1), ("a", .object [("b", .string "[null]")])] ∧
      flat.size = 2 := by
  have ordered : (object [("", .int 1),
      ("a", .object [("b", .array [.null]), ("c", .object [])])]).Ordered := by
    simp only [Ordered, OrderedEntries, OrderedItems, Entries.Ascending]
    decide
  have dotless : (object [("", .int 1),
      ("a", .object [("b", .array [.null]), ("c", .object [])])]).Dotless := by
    simp [Dotless, DotlessEntries]
  obtain ⟨flat, flattened, rebuilt, size, _⟩ := unflatten_flatten ordered dotless
  refine ⟨ordered, dotless, flat, flattened, ?_, ?_⟩
  · rw [rebuilt]
    rfl
  · rw [size]
    rfl

end Value

end FlatRecord
