import FlatRecord.Proofs.Record.Coherent

namespace FlatRecord

namespace Record

/-- A record with the schema and the scope of another. -/
def equipped (r other : Record) : Record :=
  (((r.withSchema other.schema).withConfig other.scope.config).withFunctions
    other.scope.functions).withBindings other.scope.bindings

theorem Coherent.equipped {r : Record} (coherent : r.Coherent) (other : Record) :
    (r.equipped other).Coherent :=
  (((coherent.withSchema _).withScope _).withScope _).withScope _

theorem bare_equipped_replaceFields (r : Record) (flat : FlatMap) :
    ((empty.replaceFields flat).equipped r).bare = (r.replaceFields flat).bare := by
  unfold Record.equipped
  rw [← withSchema_replaceFields]
  rfl

/-- Records that differ only in what they have kept cannot be told apart. -/
theorem Faithful.indistinct {r s : Record} (hr : r.Faithful) (hs : s.Faithful)
    (same : r.bare = s.bare) :
    (∀ q, r.satisfies q = s.satisfies q) ∧ r.toFlat = s.toFlat ∧ r.toMap = s.toMap ∧
      ∀ path, r.kind? path = s.kind? path := by
  refine ⟨?_, ?_, ?_, ?_⟩
  · intro q
    have scope : r.scope = s.scope := by
      rw [← scope_bare, same, scope_bare]
    rw [hr.satisfies_eq, hs.satisfies_eq, answer, answer, hr.plainSource_eq, hs.plainSource_eq,
      same, scope]
  · rw [hr.toFlat_eq, hs.toFlat_eq, same]
  · rw [hr.toMap_eq, hs.toMap_eq, same]
  · intro path
    rw [← kind?_bare, same, kind?_bare]

/-- After a population nothing of what was done to a record before shows: it answers like one that
is made from the same data and has the same schema and scope, whatever is read in between. -/
theorem setData_forgets {r s : Record} {v : Value} (reached : Reached r)
    (populated : r.setData v = .ok s) :
    ∃ fresh, Record.ofValue v = .ok fresh ∧ ∀ readings,
      (∀ q, (s.observeAll readings).satisfies q = (fresh.equipped s).satisfies q) ∧
      (s.observeAll readings).toFlat = (fresh.equipped s).toFlat ∧
      (s.observeAll readings).toMap = (fresh.equipped s).toMap ∧
      ∀ path, (s.observeAll readings).kind? path = (fresh.equipped s).kind? path := by
  obtain ⟨flat, flattened, rfl⟩ := setData_eq_ok_iff.mp populated
  have made : Record.ofValue v = .ok (empty.replaceFields flat) :=
    setData_eq_ok_iff.mpr ⟨flat, flattened, rfl⟩
  refine ⟨_, made, ?_⟩
  intro readings
  have coherent := reached.coherent.replaceFields fun _ _ => Value.flatten_stored flattened
  have anew := (Reached.ofValue made).coherent.equipped (r.replaceFields flat)
  obtain ⟨faithful, same⟩ := coherent.toFaithful.observeAll readings
  apply faithful.indistinct anew.toFaithful
  exact same.trans (bare_equipped_replaceFields r flat).symm

theorem setData_forgets_old :
    ∃ r s fresh : Record, Reached r ∧ r.get? "old" = some (.string "ab") ∧
      (∃ pattern, r.patterns.patterns.find? "a_" = some pattern) ∧
      r.setData (.object [("flag", .int 1)]) = .ok s ∧
      Record.ofValue (.object [("flag", .int 1)]) = .ok fresh ∧
      (∀ q, s.satisfies q = (fresh.equipped s).satisfies q) ∧
      s.toMap = (fresh.equipped s).toMap ∧ s.kind? "flag" = some .bool ∧ s.kind? "old" = none := by
  let q : Query := .single (.like (.property "old") "a_")
  let start := (ofFlat [("old", .string "ab")]).declareType "flag" (some .bool)
  let r := start.observe (.query q)
  have first : Reached start :=
    .next (.declareType "flag" (some .bool)) (.ofFlat [("old", .string "ab")])
  have reached : Reached r := first.observe (.query q)
  obtain ⟨faithful, same⟩ := first.coherent.toFaithful.observe (.query q)
  have field : r.get? "old" = some (.string "ab") := by
    rw [faithful.get?_eq, same]
    rfl
  have used : (r.patterns.patterns.find? "a_").isSome = true := by decide +kernel
  have populated : ∃ s, r.setData (.object [("flag", .int 1)]) = .ok s := by
    rw [setData_eq]
    exact ⟨_, rfl⟩
  obtain ⟨s, populated⟩ := populated
  obtain ⟨fresh, made, alike⟩ := setData_forgets reached populated
  obtain ⟨answers, _, maps, kinds⟩ := alike []
  refine ⟨r, s, fresh, reached, field, Option.isSome_iff_exists.mp used, populated, made, answers,
    maps, ?_, ?_⟩
  all_goals
    cases populated
    decide +kernel

end Record

end FlatRecord
