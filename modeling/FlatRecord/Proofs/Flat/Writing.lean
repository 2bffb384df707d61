import FlatRecord.Proofs.Flat.Leaves
import FlatRecord.Record.Basic
import Mathlib.Data.List.Induction

namespace FlatRecord

namespace Path

theorem child_child (path key other : String) :
    child (child path key) other = child path (child key other) := by
  simp only [child, String.append_assoc]

theorem child_inj {path key other : String} (h : child path key = child path other) :
    key = other := by
  have chars := congrArg String.toList h
  simp only [child, String.toList_append] at chars
  exact String.toList_inj.mp (List.append_cancel_left chars)

theorem foldl_child_child (path key : String) (keys : List String) :
    keys.foldl child (child path key) = child path (keys.foldl child key) := by
  induction keys generalizing key with
  | nil => rfl
  | cons next keys ih => rw [List.foldl_cons, List.foldl_cons, child_child, ih]

theorem join_some (path : String) {keys : List String} (filled : keys ≠ []) :
    join (some path) keys = child path (join none keys) := by
  obtain ⟨key, keys, rfl⟩ := List.exists_cons_of_ne_nil filled
  exact foldl_child_child path key keys

end Path

namespace KeyMap

variable {α : Type}

theorem find?_ofList (news : List (String × α)) (key : String) :
    (ofList news).find? key = news.reverse.lookup key := by
  have looked := Entries.lookup_insertAll [] news key
  rwa [List.lookup_nil, Option.or_none] at looked

/-- Of two lists of bindings the later one counts first. -/
theorem find?_ofList_append (news others : List (String × α)) (key : String) :
    (ofList (news ++ others)).find? key =
      ((ofList others).find? key).or ((ofList news).find? key) := by
  rw [find?_ofList, find?_ofList, find?_ofList, List.reverse_append, List.lookup_append]

theorem find?_ofList_below (path : String) (news : List (String × α)) {key : String} {a : α} :
    (ofList (news.map fun e => (Path.child path e.1, e.2))).find? key = some a ↔
      ∃ rest, key = Path.child path rest ∧ (ofList news).find? rest = some a := by
  rw [find?, ofList, Entries.lookup_ofList_eq_some_iff]
  simp only [find?, ofList, Entries.lookup_ofList_eq_some_iff]
  constructor
  · rintro ⟨before, after, eq, last⟩
    obtain ⟨first, others, rfl, rfl, more⟩ := List.map_eq_append_iff.mp eq
    obtain ⟨e, later, rfl, here, rfl⟩ := List.map_eq_cons_iff.mp more
    obtain ⟨rfl, rfl⟩ := Prod.mk.inj here
    refine ⟨e.1, rfl, first, later, rfl, ?_⟩
    intro f mem same
    exact last _ (List.mem_map_of_mem mem) (congrArg (Path.child path) same)
  · rintro ⟨rest, rfl, before, after, rfl, last⟩
    refine ⟨_, after.map fun e => (Path.child path e.1, e.2), List.map_append.trans rfl, ?_⟩
    intro f mem same
    obtain ⟨e, there, rfl⟩ := List.mem_map.mp mem
    exact last e there (Path.child_inj same)

end KeyMap

namespace Value

/-- What an entry stores at which paths: a value itself at the key, an array its text there, and
an object the leaves of its flat form at their paths below the key. -/
inductive Writes (key : String) : Value → String → Value → Prop
  | leaf {v : Value} : v.isContainer = false → Writes key v key v
  | array (items : List Value) :
    Writes key (.array items) key (.string (Value.array items).jsonText)
  | below {entries : List (String × Value)} {flat : FlatMap} {path : String} {x : Value} :
    (object entries).flatten = .ok flat → flat.find? path = some x →
      Writes key (.object entries) (Path.child key path) x

/-- The last of the entries that store something at a path stores this value there. -/
def LastWrite (entries : List (String × Value)) (path : String) (x : Value) : Prop :=
  ∃ before key v after, entries = before ++ (key, v) :: after ∧ Writes key v path x ∧
    ∀ e ∈ after, ∀ y, ¬Writes e.1 e.2 path y

theorem leavesBelow_some (key : String) (entries : List (String × Value)) :
    leavesBelow (some key) entries =
      (leavesBelow none entries).map fun l => (Path.child key l.1, l.2) := by
  rw [leavesBelow_eq, leavesBelow_eq, List.map_map]
  apply List.map_congr_left
  intro l leaf
  rw [Function.comp_apply, Path.join_some key (leavesOf_ne_nil leaf)]

theorem leavesAt_of_leaf (key : String) {v : Value} (h : v.isContainer = false) :
    leavesAt key v = [(key, v)] := by
  cases v with
  | array items => cases h
  | object entries => cases h
  | _ => rfl

theorem writes_iff {key : String} {v : Value} {path : String} {x : Value} :
    Writes key v path x ↔ (KeyMap.ofList (leavesAt key v)).find? path = some x := by
  have single : ∀ y : Value, (KeyMap.ofList [(key, y)]).find? path = some x ↔ key = path ∧ y = x := by
    intro y
    rw [KeyMap.find?_ofList, List.reverse_singleton]
    by_cases eq : path = key
    · subst eq
      simp
    · simp [Entries.lookup_cons_of_ne eq, Ne.symm eq]
  cases v with
  | object entries =>
    rw [leavesAt, leavesBelow_some, KeyMap.find?_ofList_below]
    constructor
    · intro writes
      cases writes with
      | leaf isLeaf => cases isLeaf
      | below flattened found =>
        cases flattened
        exact ⟨_, rfl, found⟩
    · rintro ⟨rest, rfl, found⟩
      exact .below rfl found
  | array items =>
    rw [leavesAt, single]
    constructor
    · intro writes
      cases writes with
      | leaf isLeaf => cases isLeaf
      | array => exact ⟨rfl, rfl⟩
    · rintro ⟨rfl, rfl⟩
      exact .array items
  | _ =>
    rw [leavesAt_of_leaf key rfl, single]
    constructor
    · intro writes
      cases writes
      exact ⟨rfl, rfl⟩
    · rintro ⟨rfl, rfl⟩
      exact .leaf rfl

theorem find?_flattenAll_concat (entries : List (String × Value)) (key : String) (v : Value)
    (path : String) :
    (flattenAll (entries ++ [(key, v)])).find? path =
      ((KeyMap.ofList (leavesAt key v)).find? path).or ((flattenAll entries).find? path) := by
  have split : (entries ++ [(key, v)]).flatMap (fun e => leavesAt e.1 e.2) =
      entries.flatMap (fun e => leavesAt e.1 e.2) ++ leavesAt key v := by
    rw [List.flatMap_append, List.flatMap_singleton]
  rw [flattenAll_eq, flattenAll_eq, split, KeyMap.find?_ofList_append]

theorem not_lastWrite_nil (path : String) (x : Value) : ¬LastWrite [] path x := by
  rintro ⟨before, key, v, after, eq, -⟩
  simp at eq

/-- What an entry writes stays until another one writes at the same path. -/
theorem lastWrite_concat {entries : List (String × Value)} {key : String} {v : Value}
    {path : String} {x : Value} :
    LastWrite (entries ++ [(key, v)]) path x ↔
      Writes key v path x ∨ (∀ y, ¬Writes key v path y) ∧ LastWrite entries path x := by
  constructor
  · rintro ⟨before, k, w, after, eq, writes, last⟩
    rcases List.eq_nil_or_concat after with rfl | ⟨later, e, rfl⟩
    · obtain ⟨rfl, same⟩ := List.append_inj' eq rfl
      cases same
      exact .inl writes
    · rw [List.concat_eq_append, ← List.cons_append, ← List.append_assoc] at eq
      obtain ⟨rfl, same⟩ := List.append_inj' eq rfl
      cases same
      refine .inr ⟨last (key, v) (by simp), before, k, w, later, rfl, writes, ?_⟩
      exact fun e mem => last e (by simp [mem])
  · rintro (writes | ⟨silent, before, k, w, after, rfl, writes, last⟩)
    · exact ⟨entries, key, v, [], rfl, writes, by simp⟩
    · refine ⟨before, k, w, after ++ [(key, v)], by simp, writes, ?_⟩
      intro e mem
      rcases List.mem_append.mp mem with earlier | mem
      · exact last e earlier
      · rw [List.mem_singleton.mp mem]
        exact silent

/-- Values stored one after the other leave at every path what was written there last. -/
theorem find?_flattenAll {entries : List (String × Value)} {path : String} {x : Value} :
    (flattenAll entries).find? path = some x ↔ LastWrite entries path x := by
  induction entries using List.reverseRecOn with
  | nil => exact iff_of_false (by simp [flattenAll]) (not_lastWrite_nil path x)
  | append_singleton entries e ih =>
    rw [find?_flattenAll_concat, Option.or_eq_some_iff, lastWrite_concat, ih, writes_iff]
    simp only [writes_iff, Option.eq_none_iff_forall_ne_some, ne_eq]

/-- The entries of an object stored one by one give its flat form. -/
theorem flatten_object (entries : List (String × Value)) :
    (object entries).flatten = .ok (flattenAll entries) := by
  have same : leavesBelow none entries = entries.flatMap fun e => leavesAt e.1 e.2 := by
    induction entries with
    | nil => rfl
    | cons e rest ih =>
      rw [leavesBelow, ih, List.flatMap_cons]
      rfl
  rw [flatten, same, flattenAll_eq]

theorem not_writes_empty (key path : String) (x : Value) : ¬Writes key (.object []) path x := by
  rw [writes_iff]
  exact Option.some_ne_none x ∘ Eq.symm

end Value

namespace Record

/-- The entries of an object, stored one by one, leave the same record as the object. Of any
entries a record keeps at every path what was written there last: a value itself, an array as its
text, and of an object its leaves below the key, so nothing of one without entries. Every field has
the type that is declared for its path. -/
theorem setFlat_keeps_last_writes (r : Record) (entries : List (String × Value)) :
    r.setData (.object entries) = .ok (r.setFlat entries) ∧
      (∀ path c, (r.setFlat entries).cell? path = some c ↔
        ∃ x, Value.LastWrite entries path x ∧ c = .typed x (r.schema.find? path)) ∧
      ∀ key path x, ¬Value.Writes key (.object []) path x := by
  refine ⟨?_, ?_, Value.not_writes_empty⟩
  · rw [setData_eq, Value.flatten_object]
    rfl
  · intro path c
    unfold cell? setFlat replaceFields cellsOf
    rw [KeyMap.find?_mapValues, Option.map_eq_some_iff]
    exact exists_congr fun x => and_congr Value.find?_flattenAll eq_comm

end Record

end FlatRecord
