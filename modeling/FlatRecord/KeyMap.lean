namespace FlatRecord

variable {α β : Type}

namespace Entries

/-- The keys rise strictly, so no key stands twice. -/
def Ascending (es : List (String × α)) : Prop :=
  es.Pairwise fun a b => a.1 < b.1

/-- Puts a binding at its place in the key order, replacing an older one of the same key. -/
def insert (key : String) (a : α) : List (String × α) → List (String × α)
  | [] => [(key, a)]
  | (k, b) :: rest =>
    if key < k then (key, a) :: (k, b) :: rest
    else if key = k then (key, a) :: rest
    else (k, b) :: insert key a rest

def erase (key : String) (es : List (String × α)) : List (String × α) :=
  es.filter fun e => e.1 != key

/-- Inserts the bindings one after the other, so of repeated keys the last wins. -/
def insertAll (es news : List (String × α)) : List (String × α) :=
  news.foldl (fun acc e => insert e.1 e.2 acc) es

def ofList (news : List (String × α)) : List (String × α) :=
  insertAll [] news

theorem lt_of_not_lt_of_ne {a b : String} (h : ¬a < b) (hne : a ≠ b) : b < a := by
  rcases Std.lt_trichotomy a b with lt | eq | gt
  · exact absurd lt h
  · exact absurd eq hne
  · exact gt

theorem mem_insert {key : String} {a : α} {es : List (String × α)} {e : String × α}
    (h : e ∈ insert key a es) : e = (key, a) ∨ e ∈ es := by
  induction es with
  | nil => simpa [insert] using h
  | cons hd rest ih =>
    obtain ⟨k, b⟩ := hd
    rw [insert] at h
    split at h
    · simpa using h
    · split at h
      · rcases List.mem_cons.mp h with eq | mem
        · exact Or.inl eq
        · exact Or.inr (List.mem_cons_of_mem _ mem)
      · rcases List.mem_cons.mp h with eq | mem
        · exact Or.inr (by simp [eq])
        · exact (ih mem).imp_right (List.mem_cons_of_mem _)

theorem ascending_nil : Ascending ([] : List (String × α)) := List.Pairwise.nil

theorem ascending_insert {key : String} {a : α} {es : List (String × α)}
    (h : Ascending es) : Ascending (insert key a es) := by
  induction es with
  | nil => exact List.pairwise_singleton _ _
  | cons hd rest ih =>
    obtain ⟨k, b⟩ := hd
    have above := (List.pairwise_cons.mp h).1
    have tail := (List.pairwise_cons.mp h).2
    rw [insert]
    split
    next lt =>
      apply List.pairwise_cons.mpr ⟨?_, h⟩
      intro e mem
      rcases List.mem_cons.mp mem with rfl | mem
      · exact lt
      · exact String.lt_trans lt (above e mem)
    next notLt =>
      split
      next eq => exact List.pairwise_cons.mpr ⟨fun e mem => eq ▸ above e mem, tail⟩
      next ne =>
        apply List.pairwise_cons.mpr ⟨?_, ih tail⟩
        intro e mem
        rcases mem_insert mem with rfl | mem
        · exact lt_of_not_lt_of_ne notLt ne
        · exact above e mem

theorem ascending_erase {key : String} {es : List (String × α)} (h : Ascending es) :
    Ascending (erase key es) :=
  h.sublist List.filter_sublist

theorem ascending_insertAll {es news : List (String × α)} (h : Ascending es) :
    Ascending (insertAll es news) := by
  induction news generalizing es with
  | nil => exact h
  | cons e rest ih => exact ih (ascending_insert h)

theorem ascending_ofList (news : List (String × α)) : Ascending (ofList news) :=
  ascending_insertAll ascending_nil

theorem mem_insertAll {es news : List (String × α)} {e : String × α}
    (h : e ∈ insertAll es news) : e ∈ es ∨ e ∈ news := by
  induction news generalizing es with
  | nil => exact Or.inl h
  | cons n news ih =>
    rcases ih h with old | new
    · rcases mem_insert old with eq | mem
      · exact Or.inr (by simp [eq])
      · exact Or.inl mem
    · exact Or.inr (List.mem_cons_of_mem n new)

theorem mem_ofList {news : List (String × α)} {e : String × α} (h : e ∈ ofList news) : e ∈ news :=
  (mem_insertAll h).resolve_left (by simp)

theorem ascending_mapValues {f : String → α → β} {es : List (String × α)} (h : Ascending es) :
    Ascending (es.map fun e => (e.1, f e.1 e.2)) :=
  List.pairwise_map.mpr (h.imp fun lt => lt)

theorem lookup_cons_of_ne {key other : String} (h : other ≠ key) (a : α)
    (es : List (String × α)) : ((key, a) :: es).lookup other = es.lookup other := by
  have differ : (other == key) = false := by simpa using h
  rw [List.lookup_cons, differ]

theorem lookup_insert_self (key : String) (a : α) (es : List (String × α)) :
    (insert key a es).lookup key = some a := by
  induction es with
  | nil => simp [insert]
  | cons hd rest ih =>
    obtain ⟨k, b⟩ := hd
    rw [insert]
    split
    · exact List.lookup_cons_self
    · split
      · exact List.lookup_cons_self
      next ne => rw [lookup_cons_of_ne ne, ih]

theorem lookup_insert_of_ne {key other : String} (h : other ≠ key) (a : α)
    (es : List (String × α)) : (insert key a es).lookup other = es.lookup other := by
  induction es with
  | nil => exact lookup_cons_of_ne h a []
  | cons hd rest ih =>
    obtain ⟨k, b⟩ := hd
    rw [insert]
    split
    · exact lookup_cons_of_ne h a _
    · split
      next eq =>
        subst eq
        rw [lookup_cons_of_ne h, lookup_cons_of_ne h]
      next => simp only [List.lookup_cons, ih]

theorem eq_or_lookup_of_lookup_insert {key k : String} {a b : α} {es : List (String × α)}
    (h : (insert key a es).lookup k = some b) : b = a ∨ es.lookup k = some b := by
  by_cases eq : k = key
  · subst eq
    rw [lookup_insert_self] at h
    exact Or.inl (Option.some.inj h).symm
  · rw [lookup_insert_of_ne eq] at h
    exact Or.inr h

theorem lookup_erase_self (key : String) (es : List (String × α)) :
    (erase key es).lookup key = none := by
  induction es with
  | nil => rfl
  | cons hd rest ih =>
    obtain ⟨k, b⟩ := hd
    by_cases h : k = key
    · simpa [erase, h] using ih
    · have step : erase key ((k, b) :: rest) = (k, b) :: erase key rest := by simp [erase, h]
      rw [step, lookup_cons_of_ne (Ne.symm h), ih]

theorem lookup_erase_of_ne {key other : String} (h : other ≠ key) (es : List (String × α)) :
    (erase key es).lookup other = es.lookup other := by
  induction es with
  | nil => rfl
  | cons hd rest ih =>
    obtain ⟨k, b⟩ := hd
    by_cases hk : k = key
    · subst hk
      have step : erase k ((k, b) :: rest) = erase k rest := by simp [erase]
      rw [step, lookup_cons_of_ne h, ih]
    · have step : erase key ((k, b) :: rest) = (k, b) :: erase key rest := by simp [erase, hk]
      rw [step, List.lookup_cons, List.lookup_cons, ih]

theorem lookup_mapValues (f : String → α → β) (key : String) (es : List (String × α)) :
    (es.map fun e => (e.1, f e.1 e.2)).lookup key = (es.lookup key).map (f key) := by
  induction es with
  | nil => rfl
  | cons hd rest ih =>
    obtain ⟨k, b⟩ := hd
    rw [List.map_cons]
    by_cases h : key = k
    · subst h
      rw [List.lookup_cons_self, List.lookup_cons_self, Option.map_some]
    · rw [lookup_cons_of_ne h, lookup_cons_of_ne h, ih]

theorem mem_of_lookup {key : String} {a : α} {es : List (String × α)}
    (h : es.lookup key = some a) : (key, a) ∈ es := by
  induction es with
  | nil => simp at h
  | cons hd rest ih =>
    obtain ⟨k, b⟩ := hd
    by_cases hk : key = k
    · subst hk
      rw [List.lookup_cons_self] at h
      simp [Option.some.inj h]
    · rw [lookup_cons_of_ne hk] at h
      exact List.mem_cons_of_mem _ (ih h)

theorem lookup_insertAll (es news : List (String × α)) (key : String) :
    (insertAll es news).lookup key = (news.reverse.lookup key).or (es.lookup key) := by
  induction news generalizing es with
  | nil => rfl
  | cons e news ih =>
    obtain ⟨k, a⟩ := e
    have step : insertAll es ((k, a) :: news) = insertAll (insert k a es) news := rfl
    rw [step, ih, List.reverse_cons, List.lookup_append, Option.or_assoc]
    by_cases h : key = k
    · subst h
      rw [lookup_insert_self, List.lookup_cons_self, Option.some_or]
    · rw [lookup_insert_of_ne h, lookup_cons_of_ne h, List.lookup_nil, Option.none_or]

/-- What a key is bound to stands last among the bindings of this key. -/
theorem lookup_ofList_eq_some_iff {key : String} {a : α} {es : List (String × α)} :
    (ofList es).lookup key = some a ↔
      ∃ before after, es = before ++ (key, a) :: after ∧ ∀ e ∈ after, e.1 ≠ key := by
  rw [ofList, lookup_insertAll, List.lookup_nil, Option.or_none, List.lookup_eq_some_iff]
  constructor
  · rintro ⟨after, before, eq, other⟩
    refine ⟨before.reverse, after.reverse, ?_, ?_⟩
    · rw [← List.reverse_reverse es, eq]
      simp
    · intro e mem
      have differ := other e (List.mem_reverse.mp mem)
      exact fun same => by simp [same] at differ
  · rintro ⟨before, after, rfl, other⟩
    refine ⟨after.reverse, before.reverse, by simp, ?_⟩
    intro e mem
    have differ := other e (List.mem_reverse.mp mem)
    simpa using differ.symm

theorem distinct_of_ascending {es : List (String × α)} (h : Ascending es) :
    (es.map Prod.fst).Nodup := by
  apply List.pairwise_map.mpr
  apply h.imp
  intro a b lt eq
  rw [eq] at lt
  exact String.lt_irrefl _ lt

theorem lookup_eq_some_iff_of_distinct {key : String} {a : α} {es : List (String × α)}
    (distinct : (es.map Prod.fst).Nodup) : es.lookup key = some a ↔ (key, a) ∈ es := by
  constructor
  · exact mem_of_lookup
  · intro mem
    induction es with
    | nil => simp at mem
    | cons hd rest ih =>
      obtain ⟨k, b⟩ := hd
      obtain ⟨fresh, distinct⟩ := List.nodup_cons.mp distinct
      rcases List.mem_cons.mp mem with eq | later
      · cases eq
        exact List.lookup_cons_self
      · have ne : key ≠ k := by
          rintro rfl
          exact fresh (List.mem_map.mpr ⟨_, later, rfl⟩)
        rw [lookup_cons_of_ne ne]
        exact ih distinct later

theorem lookup_eq_some_iff {key : String} {a : α} {es : List (String × α)} (h : Ascending es) :
    es.lookup key = some a ↔ (key, a) ∈ es :=
  lookup_eq_some_iff_of_distinct (distinct_of_ascending h)

theorem lookup_eq_none_of_lt {key : String} {es : List (String × α)}
    (h : ∀ e ∈ es, key < e.1) : es.lookup key = none := by
  cases found : es.lookup key with
  | none => rfl
  | some a => exact absurd (h _ (mem_of_lookup found)) (String.lt_irrefl key)

/-- Bindings in key order are determined by what they give for every key. -/
theorem eq_of_lookup_eq {es fs : List (String × α)} (he : Ascending es) (hf : Ascending fs)
    (h : ∀ key, es.lookup key = fs.lookup key) : es = fs := by
  induction es generalizing fs with
  | nil =>
    cases fs with
    | nil => rfl
    | cons f fs =>
      obtain ⟨j, b⟩ := f
      simpa using h j
  | cons e es ih =>
    obtain ⟨k, a⟩ := e
    have aboveE := (List.pairwise_cons.mp he).1
    cases fs with
    | nil => simpa using h k
    | cons f fs =>
      obtain ⟨j, b⟩ := f
      have aboveF := (List.pairwise_cons.mp hf).1
      have memF : (k, a) ∈ (j, b) :: fs :=
        mem_of_lookup ((h k).symm.trans List.lookup_cons_self)
      have memE : (j, b) ∈ (k, a) :: es :=
        mem_of_lookup ((h j).trans List.lookup_cons_self)
      have heads : (k, a) = (j, b) := by
        rcases List.mem_cons.mp memF with eq | mem
        · exact eq
        · rcases List.mem_cons.mp memE with eq | mem'
          · exact eq.symm
          · exact absurd (String.lt_trans (aboveF _ mem) (aboveE _ mem')) (String.lt_irrefl j)
      obtain ⟨rfl, rfl⟩ := Prod.mk.inj heads
      have tails : es = fs := by
        apply ih (List.pairwise_cons.mp he).2 (List.pairwise_cons.mp hf).2
        intro key
        by_cases hk : key = k
        · subst hk
          rw [lookup_eq_none_of_lt aboveE, lookup_eq_none_of_lt aboveF]
        · have := h key
          rwa [lookup_cons_of_ne hk, lookup_cons_of_ne hk] at this
      rw [tails]

/-- Storing again what is stored changes nothing. -/
theorem insert_of_lookup {key : String} {a : α} {es : List (String × α)} (h : Ascending es)
    (found : es.lookup key = some a) : insert key a es = es := by
  apply eq_of_lookup_eq (ascending_insert h) h
  intro other
  by_cases eq : other = key
  · rw [eq, lookup_insert_self, found]
  · rw [lookup_insert_of_ne eq]

theorem insert_eq_cons {key : String} {a : α} {es : List (String × α)}
    (first : ∀ e ∈ es, key < e.1) : insert key a es = (key, a) :: es := by
  cases es with
  | nil => rfl
  | cons e es => rw [insert, if_pos (first e List.mem_cons_self)]

theorem length_insert_le (key : String) (a : α) (es : List (String × α)) :
    (insert key a es).length ≤ es.length + 1 := by
  induction es with
  | nil => exact Nat.le_refl 1
  | cons hd rest ih =>
    obtain ⟨k, b⟩ := hd
    rw [insert]
    split
    · exact Nat.le_refl _
    · split
      · exact Nat.le_succ _
      · exact Nat.succ_le_succ ih

theorem insert_perm {key : String} (a : α) {es : List (String × α)}
    (fresh : ∀ e ∈ es, e.1 ≠ key) : (insert key a es).Perm ((key, a) :: es) := by
  induction es with
  | nil => exact List.Perm.refl _
  | cons hd rest ih =>
    obtain ⟨k, b⟩ := hd
    have ne : key ≠ k := fun eq => fresh (k, b) List.mem_cons_self eq.symm
    rw [insert, if_neg ne]
    split
    · exact List.Perm.refl _
    · have tail := ih fun e mem => fresh e (List.mem_cons_of_mem _ mem)
      exact (tail.cons (k, b)).trans (List.Perm.swap _ _ _)

theorem insertAll_perm {es news : List (String × α)} (h : ((es ++ news).map Prod.fst).Nodup) :
    (insertAll es news).Perm (es ++ news) := by
  induction news generalizing es with
  | nil => simp [insertAll]
  | cons e news ih =>
    obtain ⟨key, a⟩ := e
    have fresh : ∀ e ∈ es, e.1 ≠ key := by
      rw [List.map_append, List.nodup_append] at h
      exact fun e mem => h.2.2 e.1 (List.mem_map_of_mem mem) key List.mem_cons_self
    have moved : (insert key a es ++ news).Perm (es ++ (key, a) :: news) :=
      ((insert_perm a fresh).append_right news).trans List.perm_middle.symm
    have step := ih ((moved.map Prod.fst).nodup_iff.mpr h)
    exact step.trans moved

theorem lookup_ofList {es : List (String × α)} (distinct : (es.map Prod.fst).Nodup)
    (key : String) : (ofList es).lookup key = es.lookup key := by
  have same : (ofList es).Perm es := insertAll_perm distinct
  apply Option.ext
  intro a
  rw [lookup_eq_some_iff (ascending_ofList es), lookup_eq_some_iff_of_distinct distinct,
    same.mem_iff]

theorem ofList_of_ascending {es : List (String × α)} (h : Ascending es) : ofList es = es :=
  eq_of_lookup_eq (ascending_ofList es) h (lookup_ofList (distinct_of_ascending h))

end Entries

/-- A finite map from text keys, listed in ascending key order. -/
structure KeyMap (α : Type) where
  entries : List (String × α)
  ascending : Entries.Ascending entries

namespace KeyMap

theorem ext_entries {m n : KeyMap α} (h : m.entries = n.entries) : m = n := by
  cases m
  cases n
  cases h
  rfl

instance [DecidableEq α] : DecidableEq (KeyMap α) := fun m n =>
  if h : m.entries = n.entries then isTrue (ext_entries h)
  else isFalse fun eq => h (congrArg entries eq)

def empty : KeyMap α := ⟨[], Entries.ascending_nil⟩

instance : Inhabited (KeyMap α) := ⟨empty⟩

def find? (m : KeyMap α) (key : String) : Option α := m.entries.lookup key

def contains (m : KeyMap α) (key : String) : Bool := (m.find? key).isSome

def insert (m : KeyMap α) (key : String) (a : α) : KeyMap α :=
  ⟨Entries.insert key a m.entries, Entries.ascending_insert m.ascending⟩

def erase (m : KeyMap α) (key : String) : KeyMap α :=
  ⟨Entries.erase key m.entries, Entries.ascending_erase m.ascending⟩

def insertAll (m : KeyMap α) (news : List (String × α)) : KeyMap α :=
  ⟨Entries.insertAll m.entries news, Entries.ascending_insertAll m.ascending⟩

/-- Of repeated keys the last wins. -/
def ofList (news : List (String × α)) : KeyMap α :=
  ⟨Entries.ofList news, Entries.ascending_ofList news⟩

def mapValues (f : String → α → β) (m : KeyMap α) : KeyMap β :=
  ⟨m.entries.map fun e => (e.1, f e.1 e.2), Entries.ascending_mapValues m.ascending⟩

def keys (m : KeyMap α) : List String := m.entries.map Prod.fst

def size (m : KeyMap α) : Nat := m.entries.length

def isEmpty (m : KeyMap α) : Bool := m.entries.isEmpty

@[simp] theorem find?_empty (key : String) : (empty : KeyMap α).find? key = none := rfl

@[simp] theorem find?_insert_self (m : KeyMap α) (key : String) (a : α) :
    (m.insert key a).find? key = some a :=
  Entries.lookup_insert_self key a m.entries

theorem find?_insert_of_ne (m : KeyMap α) {key other : String} (h : other ≠ key) (a : α) :
    (m.insert key a).find? other = m.find? other :=
  Entries.lookup_insert_of_ne h a m.entries

@[simp] theorem find?_erase_self (m : KeyMap α) (key : String) : (m.erase key).find? key = none :=
  Entries.lookup_erase_self key m.entries

theorem find?_erase_of_ne (m : KeyMap α) {key other : String} (h : other ≠ key) :
    (m.erase key).find? other = m.find? other :=
  Entries.lookup_erase_of_ne h m.entries

@[simp] theorem find?_mapValues (f : String → α → β) (m : KeyMap α) (key : String) :
    (m.mapValues f).find? key = (m.find? key).map (f key) :=
  Entries.lookup_mapValues f key m.entries

theorem size_insert_le (m : KeyMap α) (key : String) (a : α) : (m.insert key a).size ≤ m.size + 1 :=
  Entries.length_insert_le key a m.entries

theorem find?_eq_some_iff {m : KeyMap α} {key : String} {a : α} :
    m.find? key = some a ↔ (key, a) ∈ m.entries :=
  Entries.lookup_eq_some_iff m.ascending

theorem ext_find? {m n : KeyMap α} (h : ∀ key, m.find? key = n.find? key) : m = n :=
  ext_entries (Entries.eq_of_lookup_eq m.ascending n.ascending h)

theorem ofList_perm {news : List (String × α)} (h : (news.map Prod.fst).Nodup) :
    (ofList news).entries.Perm news :=
  Entries.insertAll_perm h

theorem mem_ofList_iff {news : List (String × α)} (h : (news.map Prod.fst).Nodup)
    {e : String × α} : e ∈ (ofList news).entries ↔ e ∈ news :=
  (ofList_perm h).mem_iff

/-- Bindings of distinct keys give the same map in whatever order they are listed. -/
theorem ofList_eq_of_perm {news others : List (String × α)} (h : (news.map Prod.fst).Nodup)
    (perm : others.Perm news) : ofList others = ofList news := by
  have h' : (others.map Prod.fst).Nodup := (perm.map Prod.fst).nodup_iff.mpr h
  apply ext_find?
  intro key
  apply Option.ext
  intro a
  rw [find?_eq_some_iff, find?_eq_some_iff, mem_ofList_iff h', mem_ofList_iff h, perm.mem_iff]

theorem find?_ofList_of_ascending {es : List (String × α)} (h : Entries.Ascending es)
    (key : String) : (ofList es).find? key = es.lookup key :=
  congrArg (List.lookup key) (Entries.ofList_of_ascending h)

theorem contains_insert (m : KeyMap α) (key other : String) (a : α) :
    (m.insert key a).contains other = true ↔ other = key ∨ m.contains other = true := by
  unfold contains
  by_cases h : other = key
  · subst h
    simp
  · simp [find?_insert_of_ne m h, h]

theorem contains_insertAll (m : KeyMap α) (news : List (String × α)) (key : String) :
    (m.insertAll news).contains key = true ↔
      m.contains key = true ∨ key ∈ news.map Prod.fst := by
  induction news generalizing m with
  | nil => simp [insertAll, Entries.insertAll, contains, find?]
  | cons e news ih =>
    have step : m.insertAll (e :: news) = (m.insert e.1 e.2).insertAll news := rfl
    rw [step, ih, contains_insert, List.map_cons, List.mem_cons]
    constructor
    · rintro ((eq | old) | new)
      · exact Or.inr (Or.inl eq)
      · exact Or.inl old
      · exact Or.inr (Or.inr new)
    · rintro (old | eq | new)
      · exact Or.inl (Or.inr old)
      · exact Or.inl (Or.inl eq)
      · exact Or.inr new

theorem contains_ofList (news : List (String × α)) (key : String) :
    (ofList news).contains key = true ↔ key ∈ news.map Prod.fst := by
  have built : ofList news = empty.insertAll news := rfl
  rw [built, contains_insertAll]
  exact or_iff_right Bool.false_ne_true

end KeyMap

end FlatRecord
