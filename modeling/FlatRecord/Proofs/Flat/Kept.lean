import FlatRecord.Proofs.Flat.Rebuild
import FlatRecord.Proofs.Flat.Spelling

namespace FlatRecord

namespace Path

theorem dotted_segments (path : String) : dotted (segments path) = '.' :: path.toList := by
  have chars : ∀ cs : List Char, (splitDots cs).flatMap (fun part => '.' :: part) = '.' :: cs := by
    intro cs
    induction cs with
    | nil => rfl
    | cons c cs ih =>
      rw [splitDots]
      split
      next dot => rw [List.flatMap_cons, ih, dot, List.cons_append, List.nil_append]
      next =>
        obtain ⟨part, parts, split⟩ := List.exists_cons_of_ne_nil (splitDots_ne_nil cs)
        rw [split, List.flatMap_cons] at ih
        have rest : part ++ parts.flatMap (fun part => '.' :: part) = cs := (List.cons.inj ih).2
        rw [split, List.flatMap_cons, List.cons_append, List.cons_append, rest]
  have texts : dotted (segments path) = (splitDots path.toList).flatMap fun part => '.' :: part := by
    simp [dotted, segments, List.flatMap_map]
  rw [texts, chars]

theorem segments_ne_nil (path : String) : segments path ≠ [] := by
  intro none
  have same := dotted_segments path
  rw [none] at same
  cases same

/-- A path is its segments with dots between them. -/
theorem intercalate_segments (path : String) : ".".intercalate (segments path) = path := by
  have same := dotted_segments path
  obtain ⟨key, keys, split⟩ := List.exists_cons_of_ne_nil (segments_ne_nil path)
  apply String.toList_inj.mp
  rw [split] at same ⊢
  rw [toList_intercalate]
  exact (List.cons.inj same).2

theorem segments_inj {path other : String} : segments path = segments other ↔ path = other := by
  refine ⟨?_, congrArg segments⟩
  intro same
  rw [← intercalate_segments path, same, intercalate_segments]

/-- A path whose segments begin another path does not come after it, whatever characters follow. -/
theorem not_lt_of_segments_prefix {path other : String}
    (way : segments other <+: segments path) : ¬path < other := by
  obtain ⟨rest, split⟩ := way
  have begins : dotted (segments other) <+: dotted (segments path) :=
    ⟨dotted rest, by rw [← split, dotted_append]⟩
  rw [dotted_segments, dotted_segments] at begins
  exact (List.cons_prefix_cons.mp begins).2.le

end Path

namespace Value

/-- No other of the paths ends where a dot stands in this one. -/
def Kept (entries : List (String × Value)) (path : String) : Prop :=
  ∀ e ∈ entries, Path.segments e.1 <+: Path.segments path → e.1 = path

/-- Of the paths that a path goes on from, one is kept. -/
theorem exists_kept_prefix {entries : List (String × Value)} {path : String} {e : String × Value}
    (mem : e ∈ entries) (way : Path.segments e.1 <+: Path.segments path) :
    ∃ f ∈ entries, Path.segments f.1 <+: Path.segments path ∧ Kept entries f.1 := by
  induction size : (Path.segments e.1).length using Nat.strongRecOn generalizing e with
  | ind n ih =>
    by_cases kept : Kept entries e.1
    · exact ⟨e, mem, way, kept⟩
    · obtain ⟨f, memF, begins, other⟩ : ∃ f ∈ entries,
          Path.segments f.1 <+: Path.segments e.1 ∧ f.1 ≠ e.1 := by
        simpa [Kept] using kept
      have shorter : (Path.segments f.1).length < n := by
        rw [← size]
        apply Nat.lt_of_le_of_ne begins.length_le
        intro same
        exact other (Path.segments_inj.mp (begins.eq_of_length same))
      exact ih _ shorter memF (begins.trans way) rfl

theorem kept_append_iff {entries : List (String × Value)} {e f : String × Value}
    (later : ∀ f ∈ entries, f.1 < e.1) (mem : f ∈ entries) :
    Kept (entries ++ [e]) f.1 ↔ Kept entries f.1 := by
  constructor
  · intro kept g memG
    exact kept g (List.mem_append_left _ memG)
  · intro kept g memG begins
    rcases List.mem_append.mp memG with old | new
    · exact kept g old begins
    · cases List.mem_singleton.mp new
      exact absurd (later f mem) (Path.not_lt_of_segments_prefix begins)

/-- Entries that hold exactly the kept ones of the values at paths that were stored in them. -/
structure Built (stored entries : List (String × Value)) : Prop where
  trim : Trim entries
  leaves : ∀ keys x, (Value.object entries).LeafAt keys x ↔
    ∃ path, (path, x) ∈ stored ∧ Kept stored path ∧ keys = Path.segments path

theorem built_nil : Built [] [] := by
  refine ⟨Trim.nil, ?_⟩
  intro keys x
  cases keys <;> simp [leafAt_nil, cons_leafAt_object, isObject]

/-- Storing a value at the next path in order keeps exactly the kept ones. -/
theorem Built.insertAt {stored entries : List (String × Value)} (built : Built stored entries)
    {e : String × Value} (later : ∀ f ∈ stored, f.1 < e.1) (leaf : e.2.isObject = false) :
    Built (stored ++ [e]) (Value.insertAt (Path.segments e.1) e.2 entries) := by
  have old : ∀ keys x, (Value.object entries).LeafAt keys x ↔ ∃ path, (path, x) ∈ stored ∧
      Kept (stored ++ [e]) path ∧ keys = Path.segments path := by
    intro keys x
    rw [built.leaves]
    constructor
    · rintro ⟨path, mem, kept, eq⟩
      exact ⟨path, mem, (kept_append_iff later mem).mpr kept, eq⟩
    · rintro ⟨path, mem, kept, eq⟩
      exact ⟨path, mem, (kept_append_iff later mem).mp kept, eq⟩
  by_cases blocked : ∃ f ∈ stored, Path.segments f.1 <+: Path.segments e.1
  · obtain ⟨f, mem, way⟩ := blocked
    obtain ⟨g, memG, wayG, kept⟩ := exists_kept_prefix mem way
    have there := (built.leaves _ g.2).mpr ⟨g.1, memG, kept, rfl⟩
    rw [insertAt_of_leaf built.trim there wayG]
    refine ⟨built.trim, ?_⟩
    intro keys x
    rw [old]
    constructor
    · rintro ⟨path, mem, rest⟩
      exact ⟨path, List.mem_append_left _ mem, rest⟩
    · rintro ⟨path, mem, kept', eq⟩
      rcases List.mem_append.mp mem with mem | new
      · exact ⟨path, mem, kept', eq⟩
      · cases List.mem_singleton.mp new
        have same := kept' g (List.mem_append_left _ memG) wayG
        exact absurd (same ▸ later g memG) (String.lt_irrefl _)
  · have apart : Apart (Path.segments e.1) entries := by
      intro others x other
      obtain ⟨path, mem, _, rfl⟩ := (built.leaves others x).mp other
      refine ⟨?_, fun way => blocked ⟨_, mem, way⟩⟩
      exact fun way => Path.not_lt_of_segments_prefix way (later _ mem)
    have gains := gains_insertAt leaf built.trim (Path.segments_ne_nil e.1) apart
    refine ⟨gains.trim, ?_⟩
    intro keys x
    rw [gains.leaves, old]
    have kept : Kept (stored ++ [e]) e.1 := by
      intro f mem way
      rcases List.mem_append.mp mem with mem | new
      · exact absurd ⟨f, mem, way⟩ blocked
      · rw [List.mem_singleton.mp new]
    constructor
    · rintro (⟨rfl, rfl⟩ | ⟨path, mem, rest⟩)
      · exact ⟨e.1, List.mem_append_right _ (List.mem_singleton_self _), kept, rfl⟩
      · exact ⟨path, List.mem_append_left _ mem, rest⟩
    · rintro ⟨path, mem, kept', eq⟩
      rcases List.mem_append.mp mem with mem | new
      · exact .inr ⟨path, mem, kept', eq⟩
      · cases List.mem_singleton.mp new
        exact .inl ⟨eq, rfl⟩

theorem Built.insertAll {stored entries news : List (String × Value)}
    (built : Built stored entries) (ascending : Entries.Ascending (stored ++ news))
    (leaf : ∀ e ∈ news, e.2.isObject = false) :
    Built (stored ++ news)
      (news.foldl (fun acc e => Value.insertAt (Path.segments e.1) e.2 acc) entries) := by
  induction news generalizing stored entries with
  | nil => rwa [List.append_nil]
  | cons e news ih =>
    obtain ⟨here, later⟩ := List.forall_mem_cons.mp leaf
    have before : ∀ f ∈ stored, f.1 < e.1 := fun f mem =>
      (List.pairwise_append.mp ascending).2.2 f mem e List.mem_cons_self
    rw [List.append_cons] at ascending ⊢
    exact ih (built.insertAt before here) ascending later

/-- Unflattening keeps exactly the values whose paths are kept. -/
theorem exists_built {flat : FlatMap} (leaf : ∀ e ∈ flat.entries, e.2.isObject = false) :
    ∃ entries, unflatten flat = .object entries ∧ Built flat.entries entries :=
  ⟨_, rfl, built_nil.insertAll flat.ascending leaf⟩

theorem kept_congr {entries others : List (String × Value)} (same : ∀ e, e ∈ others ↔ e ∈ entries)
    (path : String) : Kept others path ↔ Kept entries path := by
  simp only [Kept, same]

theorem Built.ofList {stored entries : List (String × Value)}
    (distinct : (stored.map Prod.fst).Nodup) (built : Built (KeyMap.ofList stored).entries entries) :
    Built stored entries := by
  refine ⟨built.trim, ?_⟩
  intro keys x
  have mem_iff := fun e => KeyMap.mem_ofList_iff distinct (e := e)
  simp only [built.leaves, mem_iff, kept_congr mem_iff]

/-- The flat form of what was built is what was kept, where nothing kept is an array. -/
theorem Built.flatten {stored entries : List (String × Value)} (built : Built stored entries)
    (plain : ∀ e ∈ stored, e.2.stored = e.2) :
    ∃ flat, (Value.object entries).flatten = .ok flat ∧
      ∀ path v, flat.find? path = some v ↔ (path, v) ∈ stored ∧ Kept stored path := by
  have flattened : (Value.object entries).flatten = .ok (.ofList (leavesBelow none entries)) := rfl
  refine ⟨_, flattened, ?_⟩
  intro path v
  rw [find?_flatten built.trim.keyOrdered flattened]
  constructor
  · rintro ⟨keys, x, leaf, spelled, rfl, _⟩
    obtain ⟨other, mem, kept, rfl⟩ := (built.leaves keys x).mp leaf
    rw [Path.intercalate_segments] at spelled
    rw [plain _ mem, ← spelled]
    exact ⟨mem, kept⟩
  · rintro ⟨mem, kept⟩
    refine ⟨Path.segments path, v, (built.leaves _ v).mpr ⟨path, mem, kept, rfl⟩,
      Path.intercalate_segments path, (plain _ mem).symm, ?_⟩
    -- No other leaf spells the path, because its keys are the segments of what they spell.
    intro others z leaf spelled
    obtain ⟨other, _, _, rfl⟩ := (built.leaves others z).mp leaf
    rw [Path.intercalate_segments] at spelled
    exact .inl (congrArg Path.segments spelled)

/-- Unflattening does not depend on the order of the entries. A value is found along the segments
of its path unless another path ends on the way there; there are no other leaves and no empty
objects within, and flattening gives back what was kept. -/
theorem unflatten_keeps {entries : List (String × Value)}
    (distinct : (entries.map Prod.fst).Nodup) (leaf : ∀ e ∈ entries, e.2.isObject = false) :
    (∀ others : List (String × Value), others.Perm entries →
      unflatten (.ofList others) = unflatten (.ofList entries)) ∧
    (∀ path v, (path, v) ∈ entries →
      ((unflatten (.ofList entries)).at? (Path.segments path) = some v ↔ Kept entries path)) ∧
    (∀ keys x, (unflatten (.ofList entries)).LeafAt keys x →
      ∃ path, (path, x) ∈ entries ∧ Kept entries path ∧ keys = Path.segments path) ∧
    (∀ keys, keys ≠ [] → (unflatten (.ofList entries)).at? keys ≠ some (.object [])) ∧
    ((∀ e ∈ entries, ∀ items, e.2 ≠ .array items) →
      ∃ flat, (unflatten (.ofList entries)).flatten = .ok flat ∧
        ∀ path v, flat.find? path = some v ↔ (path, v) ∈ entries ∧ Kept entries path) := by
  have sorted : ∀ e ∈ (KeyMap.ofList entries).entries, e.2.isObject = false :=
    fun e mem => leaf e ((KeyMap.mem_ofList_iff distinct).mp mem)
  obtain ⟨tree, rebuilt, built⟩ := exists_built sorted
  replace built := built.ofList distinct
  rw [rebuilt]
  refine ⟨?_, ?_, fun keys x => (built.leaves keys x).mp, ?_, ?_⟩
  · intro others perm
    rw [KeyMap.ofList_eq_of_perm distinct perm, rebuilt]
  · intro path v mem
    constructor
    · intro found
      obtain ⟨other, _, kept, same⟩ := (built.leaves _ v).mp ⟨found, leaf _ mem⟩
      rwa [Path.segments_inj.mp same]
    · intro kept
      exact ((built.leaves _ v).mpr ⟨path, mem, kept, rfl⟩).1
  · intro keys filled empty
    exact (built.trim.object_at empty).2 filled rfl
  · intro plain
    apply built.flatten
    intro e mem
    cases value : e.2 with
    | array items => exact absurd value (plain e mem items)
    | _ => rfl

/-- Of a chain of paths the first is kept, and of the next two neither, although another path
stands between them in the order; the empty path is the first of another chain. -/
theorem unflatten_keeps_chain :
    ∃ entries : List (String × Value),
      entries = [("x.y.z.w", .int 4), ("x.y!", .null), (".", .int 5), ("x.y", .int 1),
        ("x.y.z", .int 3), ("", .bool true)] ∧
      (entries.map Prod.fst).Nodup ∧ (∀ e ∈ entries, e.2.isObject = false) ∧
      unflatten (.ofList entries.reverse) = unflatten (.ofList entries) ∧
      Kept entries "x.y" ∧ ¬Kept entries "x.y.z.w" ∧ ¬Kept entries "." ∧
      (unflatten (.ofList entries)).at? ["x", "y"] = some (.int 1) ∧
      (unflatten (.ofList entries)).at? ["", ""] ≠ some (.int 5) ∧
      ∃ flat, (unflatten (.ofList entries)).flatten = .ok flat ∧
        flat.find? "x.y" = some (.int 1) ∧ flat.find? "x.y.z" ≠ some (.int 3) := by
  obtain ⟨entries, same⟩ : ∃ entries : List (String × Value), entries =
      [("x.y.z.w", .int 4), ("x.y!", .null), (".", .int 5), ("x.y", .int 1),
        ("x.y.z", .int 3), ("", .bool true)] := ⟨_, rfl⟩
  have distinct : (entries.map Prod.fst).Nodup := by subst same; decide
  have leaf : ∀ e ∈ entries, e.2.isObject = false := by subst same; simp [isObject]
  have plain : ∀ e ∈ entries, ∀ items, e.2 ≠ .array items := by subst same; simp
  have short : ("x.y", .int 1) ∈ entries := by simp [same]
  have dots : (".", .int 5) ∈ entries := by simp [same]
  have first : Kept entries "x.y" := by subst same; unfold Kept; decide
  have under : ¬Kept entries "x.y.z" := by subst same; unfold Kept; decide
  have far : ¬Kept entries "x.y.z.w" := by subst same; unfold Kept; decide
  have dot : ¬Kept entries "." := by subst same; unfold Kept; decide
  obtain ⟨order, found, _, _, flattened⟩ := unflatten_keeps distinct leaf
  obtain ⟨flat, whole, kept⟩ := flattened plain
  refine ⟨entries, same, distinct, leaf, order _ (List.reverse_perm entries), first, far, dot,
    (found "x.y" _ short).mpr first, mt (found "." _ dots).mp dot, flat, whole,
    (kept _ _).mpr ⟨short, first⟩, fun there => under ((kept _ _).mp there).2⟩

end Value

end FlatRecord
