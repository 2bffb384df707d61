import FlatRecord.Proofs.Flat.Position

namespace FlatRecord

namespace Value

/-- Entries in key order, in which every object within holds something. -/
inductive Trim : List (String × Value) → Prop
  | mk {entries : List (String × Value)} : Entries.Ascending entries →
      (∀ key inner, entries.lookup key = some (.object inner) → inner ≠ []) →
      (∀ key inner, entries.lookup key = some (.object inner) → Trim inner) → Trim entries

/-- No leaf lies on the way to the keys or below them. -/
def Apart (keys : List String) (entries : List (String × Value)) : Prop :=
  ∀ others x, (Value.object entries).LeafAt others x → Diverging keys others

theorem cons_leafAt_object {entries : List (String × Value)} {key : String} {keys : List String}
    {x : Value} : (Value.object entries).LeafAt (key :: keys) x ↔
      ∃ v, entries.lookup key = some v ∧ v.LeafAt keys x := by
  rw [leafAt_cons]
  constructor
  · rintro ⟨_, v, eq, found, leaf⟩
    cases eq
    exact ⟨v, found, leaf⟩
  · rintro ⟨v, found, leaf⟩
    exact ⟨entries, v, rfl, found, leaf⟩

namespace Trim

variable {entries : List (String × Value)}

theorem ascending (trim : Trim entries) : Entries.Ascending entries := by
  cases trim with
  | mk ascending _ _ => exact ascending

theorem within (trim : Trim entries) {key : String} {below : List (String × Value)}
    (found : entries.lookup key = some (.object below)) : Trim below := by
  cases trim with
  | mk _ _ inner => exact inner key below found

theorem nonempty (trim : Trim entries) {key : String} {below : List (String × Value)}
    (found : entries.lookup key = some (.object below)) : below ≠ [] := by
  cases trim with
  | mk _ nonempty _ => exact nonempty key below found

theorem nil : Trim [] := by
  apply Trim.mk Entries.ascending_nil
  all_goals
    intro key _
    simp

/-- Every object to which keys lead is trim, and holds something if it is not the outermost. -/
theorem object_at (trim : Trim entries) {keys : List String} {below : List (String × Value)}
    (reached : (Value.object entries).at? keys = some (.object below)) :
    Trim below ∧ (keys ≠ [] → below ≠ []) := by
  induction keys generalizing entries with
  | nil =>
    cases reached
    exact ⟨trim, fun filled => absurd rfl filled⟩
  | cons key keys ih =>
    obtain ⟨_, v, eq, found, reached⟩ := at?_cons_eq_some.mp reached
    cases eq
    cases keys with
    | nil =>
      cases reached
      exact ⟨trim.within found, fun _ => trim.nonempty found⟩
    | cons next keys =>
      obtain ⟨inner, w, rfl, found', reached'⟩ := at?_cons_eq_some.mp reached
      obtain ⟨trimBelow, nonempty⟩ := ih (trim.within found) reached
      exact ⟨trimBelow, fun _ => nonempty (List.cons_ne_nil _ _)⟩

theorem keyOrdered (trim : Trim entries) : (Value.object entries).KeyOrdered :=
  fun _ _ reached => (trim.object_at reached).1.ascending

/-- Below every key there is a leaf. -/
theorem exists_leaf (trim : Trim entries) {key : String} {v : Value}
    (found : entries.lookup key = some v) : ∃ keys x, v.LeafAt keys x := by
  induction trim generalizing key v with
  | @mk entries ascending nonempty inner ih =>
    cases v with
    | object below =>
      obtain ⟨e, rest, rfl⟩ := List.exists_cons_of_ne_nil (nonempty key below found)
      obtain ⟨keys, x, leaf⟩ := ih key _ found List.lookup_cons_self
      exact ⟨e.1 :: keys, x, cons_leafAt_object.mpr ⟨e.2, List.lookup_cons_self, leaf⟩⟩
    | _ => exact ⟨[], _, leafAt_nil.mpr ⟨rfl, rfl⟩⟩

theorem insert (trim : Trim entries) {key : String} {v : Value}
    (inner : ∀ below, v = .object below → below ≠ [] ∧ Trim below) :
    Trim (Entries.insert key v entries) := by
  apply Trim.mk (Entries.ascending_insert trim.ascending)
  · intro k below found
    rcases Entries.eq_or_lookup_of_lookup_insert found with new | old
    · exact (inner below new.symm).1
    · exact trim.nonempty old
  · intro k below found
    rcases Entries.eq_or_lookup_of_lookup_insert found with new | old
    · exact (inner below new.symm).2
    · exact trim.within old

/-- Trim entries are determined by their leaves. -/
theorem eq_of_leaves {other : List (String × Value)} (trim : Trim entries) (trim' : Trim other)
    (same : ∀ keys x, (Value.object entries).LeafAt keys x ↔ (Value.object other).LeafAt keys x) :
    entries = other := by
  induction trim generalizing other with
  | @mk entries ascending nonempty inner ih =>
    have trim : Trim entries := Trim.mk ascending nonempty inner
    apply Entries.eq_of_lookup_eq ascending trim'.ascending
    intro key
    have sameAt : ∀ keys x, (∃ v, entries.lookup key = some v ∧ v.LeafAt keys x) ↔
        ∃ w, other.lookup key = some w ∧ w.LeafAt keys x := by
      intro keys x
      rw [← cons_leafAt_object, ← cons_leafAt_object]
      exact same (key :: keys) x
    cases found : entries.lookup key with
    | none =>
      cases found' : other.lookup key with
      | none => rfl
      | some w =>
        obtain ⟨keys, x, leaf⟩ := trim'.exists_leaf found'
        obtain ⟨v, found'', _⟩ := (sameAt keys x).mpr ⟨w, found', leaf⟩
        simp [found] at found''
    | some v =>
      obtain ⟨keys, x, leaf⟩ := trim.exists_leaf found
      obtain ⟨w, found', leaf'⟩ := (sameAt keys x).mp ⟨v, found, leaf⟩
      rw [found']
      cases keys with
      | nil =>
        obtain ⟨rfl, _⟩ := leafAt_nil.mp leaf
        obtain ⟨rfl, _⟩ := leafAt_nil.mp leaf'
        rfl
      | cons k keys =>
        obtain ⟨below, _, rfl, _, _⟩ := leafAt_cons.mp leaf
        obtain ⟨below', _, rfl, _, _⟩ := leafAt_cons.mp leaf'
        have sameBelow : ∀ keys x,
            (Value.object below).LeafAt keys x ↔ (Value.object below').LeafAt keys x := by
          intro keys x
          simpa [found, found'] using sameAt keys x
        rw [ih key below found (trim'.within found') sameBelow]

end Trim

theorem leafAt_insert {entries : List (String × Value)} {key k : String} {keys : List String}
    {v x : Value} : (Value.object (Entries.insert key v entries)).LeafAt (k :: keys) x ↔
      (k = key ∧ v.LeafAt keys x) ∨ (k ≠ key ∧ (Value.object entries).LeafAt (k :: keys) x) := by
  rw [cons_leafAt_object, cons_leafAt_object]
  by_cases eq : k = key
  · subst eq
    simp [Entries.lookup_insert_self]
  · simp [Entries.lookup_insert_of_ne eq, eq]

theorem lookup_eq_none_of_apart {entries : List (String × Value)} (trim : Trim entries)
    {key : String} (apart : Apart [key] entries) : entries.lookup key = none := by
  cases found : entries.lookup key with
  | none => rfl
  | some v =>
    obtain ⟨keys, y, leaf⟩ := trim.exists_leaf found
    exact absurd ⟨keys, rfl⟩ (apart _ _ (cons_leafAt_object.mpr ⟨v, found, leaf⟩)).1

/-- Trim entries with exactly one leaf more than others. -/
structure Gains (keys : List String) (x : Value) (entries result : List (String × Value)) :
    Prop where
  trim : Trim result
  nonempty : result ≠ []
  leaves : ∀ others y, (Value.object result).LeafAt others y ↔
    (others = keys ∧ y = x) ∨ (Value.object entries).LeafAt others y

section Storing

variable {key : String} {keys : List String} {x : Value} {entries : List (String × Value)}

/-- Replacing what stands at a key by the same leaves and one more adds this leaf to all. -/
theorem gains_insert (trim : Trim entries) {v : Value}
    (inner : ∀ below, v = .object below → below ≠ [] ∧ Trim below)
    (more : ∀ others y, v.LeafAt others y ↔
      (others = keys ∧ y = x) ∨ (Value.object entries).LeafAt (key :: others) y) :
    Gains (key :: keys) x entries (Entries.insert key v entries) := by
  refine ⟨trim.insert inner, ?_, ?_⟩
  · intro empty
    have found := Entries.lookup_insert_self key v entries
    simp [empty] at found
  · intro others y
    cases others with
    | nil => simp [leafAt_nil, isObject]
    | cons k others =>
      rw [leafAt_insert]
      by_cases eq : k = key
      · subst eq
        simp [more others y]
      · simp [eq]

theorem Gains.below {inner result : List (String × Value)} (gains : Gains keys x inner result)
    (trim : Trim entries)
    (old : ∀ others y, (Value.object entries).LeafAt (key :: others) y ↔
      (Value.object inner).LeafAt others y) :
    Gains (key :: keys) x entries (Entries.insert key (.object result) entries) := by
  apply gains_insert trim
  · intro below eq
    cases eq
    exact ⟨gains.nonempty, gains.trim⟩
  · intro others y
    rw [gains.leaves, old]

theorem gains_insert_leaf (leaf : x.isObject = false) (trim : Trim entries)
    (absent : entries.lookup key = none) :
    Gains [key] x entries (Entries.insert key x entries) := by
  apply gains_insert trim
  · rintro below rfl
    cases leaf
  · intro others y
    have fresh : ¬(Value.object entries).LeafAt (key :: others) y := by
      simp [cons_leafAt_object, absent]
    simp [leafAt_of_leaf leaf, fresh]

/-- Where nothing is in the way, storing a value adds it to the leaves and changes no other. -/
theorem gains_insertAt (leaf : x.isObject = false) (trim : Trim entries) (ne : keys ≠ [])
    (apart : Apart keys entries) : Gains keys x entries (insertAt keys x entries) := by
  induction keys generalizing entries with
  | nil => exact absurd rfl ne
  | cons key rest ih =>
    cases rest with
    | nil =>
      have absent := lookup_eq_none_of_apart trim apart
      have result : insertAt [key] x entries = Entries.insert key x entries := by
        simp [insertAt, absent]
      rw [result]
      exact gains_insert_leaf leaf trim absent
    | cons next rest =>
      cases found : entries.lookup key with
      | none =>
        have clear : Apart (next :: rest) [] := by
          intro others y other
          cases others <;> simp [leafAt_nil, leafAt_cons, isObject] at other
        have result : insertAt (key :: next :: rest) x entries =
            Entries.insert key (.object (insertAt (next :: rest) x [])) entries := by
          simp [insertAt, found]
        rw [result]
        apply (ih Trim.nil (by simp) clear).below trim
        intro others y
        cases others <;> simp [cons_leafAt_object, leafAt_nil, found, isObject]
      | some v =>
        cases v with
        | object inner =>
          have old : ∀ others y, (Value.object entries).LeafAt (key :: others) y ↔
              (Value.object inner).LeafAt others y := by
            intro others y
            rw [cons_leafAt_object]
            simp [found]
          have apartInner : Apart (next :: rest) inner := by
            intro others y other
            exact diverging_cons.mp (apart _ y ((old others y).mpr other))
          have result : insertAt (key :: next :: rest) x entries =
              Entries.insert key (.object (insertAt (next :: rest) x inner)) entries := by
            simp [insertAt, found]
          rw [result]
          exact (ih (trim.within found) (by simp) apartInner).below trim old
        | _ =>
          have there : (Value.object entries).LeafAt [key] _ :=
            cons_leafAt_object.mpr ⟨_, found, leafAt_nil.mpr ⟨rfl, rfl⟩⟩
          exact absurd ⟨next :: rest, rfl⟩ (apart _ _ there).2

/-- A leaf on the way to the keys, or at them, keeps everything as it is. -/
theorem insertAt_of_leaf (trim : Trim entries) {short : List String} {y : Value}
    (leaf : (Value.object entries).LeafAt short y) (way : short <+: keys) :
    insertAt keys x entries = entries := by
  induction keys generalizing entries short with
  | nil => rfl
  | cons key rest ih =>
    cases short with
    | nil => cases (leafAt_nil.mp leaf).2
    | cons first short =>
      obtain ⟨rfl, inside⟩ := List.cons_prefix_cons.mp way
      obtain ⟨v, found, leaf⟩ := cons_leafAt_object.mp leaf
      cases rest with
      | nil => simp [insertAt, found]
      | cons next rest =>
        cases v with
        | object inner =>
          have same := ih (trim.within found) leaf inside
          simp only [insertAt, found, same]
          exact Entries.insert_of_lookup trim.ascending found
        | _ => simp [insertAt, found]

end Storing

end Value

end FlatRecord
