import FlatRecord.Like.Cache
import FlatRecord.Proofs.Regex.Matching

namespace FlatRecord

namespace Like

variable {engine : Regex.Engine}

/-- Everything that is kept is what its text is compiled to. -/
def Cache.Ready (cache : Cache engine) : Prop :=
  ∀ text regex, cache.patterns.find? text = some regex → compile engine text = .ok regex

theorem ready_empty : Cache.Ready ({} : Cache engine) := by
  intro text regex h
  simp at h

theorem Cache.Ready.put {cache : Cache engine} (ready : cache.Ready) {text : String}
    {regex : engine.Compiled} (made : compile engine text = .ok regex) :
    (cache.put text regex).Ready := by
  intro other kept h
  unfold Cache.put at h
  by_cases eq : other = text
  · subst eq
    rw [KeyMap.find?_insert_self] at h
    rw [made, Option.some.inj h]
  · rw [KeyMap.find?_insert_of_ne _ eq] at h
    by_cases full : Cache.capacity ≤ cache.patterns.size
    · simp [full] at h
    · simp only [full, ↓reduceIte] at h
      exact ready other kept h

/-- A cache answers as matching without one does, and is as good as before. -/
theorem Cache.Ready.test {cache : Cache engine} (ready : cache.Ready) (mode : LikeMode)
    (text pattern : String) :
    (cache.test mode text pattern).1 = Like.test engine mode text pattern ∧
      (cache.test mode text pattern).2.Ready := by
  cases mode with
  | substring => exact ⟨rfl, ready⟩
  | pattern =>
    unfold Cache.test Like.test
    cases found : cache.patterns.find? pattern with
    | some kept => simpa only [ready pattern kept found, true_and] using ready
    | none =>
      cases made : compile engine pattern with
      | ok regex => exact ⟨rfl, ready.put made⟩
      | error e => exact ⟨rfl, ready⟩

/-- A call fails only for its pattern. -/
theorem Cache.malformed_of_test {cache : Cache engine} {mode : LikeMode} {text pattern : String}
    {e : EvalError} (failed : (cache.test mode text pattern).1 = .error e) :
    ∃ fault, e = .malformedOperand .like fault := by
  unfold Cache.test at failed
  split at failed
  next => cases failed
  next =>
    split at failed
    next => cases failed
    next =>
      split at failed
      next => cases failed
      next reason _ =>
        cases failed
        exact ⟨.pattern reason, rfl⟩

/-- A question to a cache. -/
structure Call where
  mode : LikeMode
  text : String
  pattern : String

def Call.answer (engine : Regex.Engine) (call : Call) : Except EvalError Bool :=
  test engine call.mode call.text call.pattern

namespace Cache

/-- The answers to calls one after the other, and the cache after the last of them. A call that
fails does not stop the others. -/
def run : Cache engine → List Call → List (Except EvalError Bool) × Cache engine
  | cache, [] => ([], cache)
  | cache, call :: rest =>
    match cache.test call.mode call.text call.pattern with
    | (answer, next) =>
      match next.run rest with
      | (answers, last) => (answer :: answers, last)

/-- What holds of a cache after every call. -/
structure Sound (cache : Cache engine) : Prop where
  ready : cache.Ready
  bounded : cache.patterns.size ≤ capacity

theorem sound_empty : Sound ({} : Cache engine) := ⟨ready_empty, Nat.zero_le _⟩

/-- There is room for another pattern, as a full cache is emptied first. -/
theorem size_put_le (cache : Cache engine) (text : String) (regex : engine.Compiled) :
    (cache.put text regex).patterns.size ≤ capacity := by
  unfold put
  by_cases full : capacity ≤ cache.patterns.size
  · simp only [full, ↓reduceIte]
    have added := KeyMap.size_insert_le .empty text regex
    exact Nat.le_trans added (Nat.succ_le_of_lt (Nat.zero_lt_succ _))
  · simp only [full, ↓reduceIte]
    have added := KeyMap.size_insert_le cache.patterns text regex
    omega

theorem Sound.test {cache : Cache engine} (sound : cache.Sound) (call : Call) :
    (cache.test call.mode call.text call.pattern).1 = call.answer engine ∧
      (cache.test call.mode call.text call.pattern).2.Sound := by
  obtain ⟨mode, text, pattern⟩ := call
  obtain ⟨same, ready⟩ := sound.ready.test mode text pattern
  refine ⟨same, ready, ?_⟩
  cases mode with
  | substring => exact sound.bounded
  | pattern =>
    unfold Cache.test
    cases cache.patterns.find? pattern with
    | some kept => exact sound.bounded
    | none =>
      cases compile engine pattern with
      | ok regex => exact size_put_le cache pattern regex
      | error e => exact sound.bounded

/-- Whatever was asked before, calls are answered as without a cache. -/
theorem Sound.run {cache : Cache engine} (sound : cache.Sound) (calls : List Call) :
    (cache.run calls).1 = calls.map (Call.answer engine) ∧ (cache.run calls).2.Sound := by
  induction calls generalizing cache with
  | nil => exact ⟨rfl, sound⟩
  | cons call rest ih =>
    obtain ⟨same, next⟩ := sound.test call
    obtain ⟨others, last⟩ := ih next
    refine ⟨?_, last⟩
    rw [List.map_cons, ← same, ← others]
    rfl

/-- A pattern that was compiled is at hand from then on. -/
theorem Ready.find?_test {cache : Cache engine} (ready : cache.Ready) (text : String)
    {pattern : String} {regex : engine.Compiled} (made : compile engine pattern = .ok regex) :
    (cache.test .pattern text pattern).2.patterns.find? pattern = some regex := by
  unfold Cache.test
  cases found : cache.patterns.find? pattern with
  | some kept =>
    have same := ready pattern kept found
    rw [made] at same
    rw [found, Except.ok.inj same]
  | none =>
    rw [made]
    exact KeyMap.find?_insert_self _ pattern _

theorem test_of_refused (cache : Cache engine) (text : String) {pattern : String}
    {e : Regex.Error} (refused : compile engine pattern = .error e) :
    (cache.test .pattern text pattern).2 = cache := by
  unfold Cache.test
  cases found : cache.patterns.find? pattern with
  | some kept => rfl
  | none => rw [refused]

/-- Calls that start with an empty cache are answered as without one, with the same failures. The
cache never holds more than 256 entries, each of them what its own text is compiled to. The pattern
matched last is there, unless it cannot be compiled; then the cache stays as it was. -/
theorem run_transparent (engine : Regex.Engine) (calls : List Call) :
    ∃ last : Cache engine, run {} calls = (calls.map (Call.answer engine), last) ∧
      (∀ text regex, last.patterns.find? text = some regex → compile engine text = .ok regex) ∧
      last.patterns.size ≤ 256 ∧
      (∀ text pattern regex, compile engine pattern = .ok regex →
        (last.test .pattern text pattern).2.patterns.find? pattern = some regex) ∧
      ∀ text pattern e, compile engine pattern = .error e →
        (last.test .pattern text pattern).2 = last := by
  obtain ⟨answers, sound⟩ := (sound_empty : Sound ({} : Cache engine)).run calls
  refine ⟨(run {} calls).2, Prod.ext answers rfl, sound.ready, sound.bounded, ?_, ?_⟩
  · exact fun text _ _ made => sound.ready.find?_test text made
  · exact fun text _ _ refused => test_of_refused _ text refused

/-- A pattern that is asked for twice, with another one in between that is too large. -/
theorem run_transparent_twice :
    ∃ (engine : Regex.Engine) (calls : List Call) (last : Cache engine) (e : EvalError),
      calls = [⟨.pattern, "Oslo", "O%"⟩, ⟨.pattern, "Oslo", "%%%%%%%%%%%%%"⟩,
        ⟨.substring, "Bergen", "e%r"⟩, ⟨.pattern, "Bergen", "O%"⟩] ∧
      e = .malformedOperand .like (.pattern (.tooLarge 30)) ∧
      run {} calls = ([.ok true, .error e, .ok true, .ok false], last) ∧
      last.patterns.size ≤ 256 ∧
      (∃ regex, compile engine "O%" = .ok regex ∧
        (last.test .pattern "Odda" "O%").2.patterns.find? "O%" = some regex) ∧
      (last.test .pattern "Oslo" "%%%%%%%%%%%%%").2 = last := by
  let engine := Regex.Engine.plain.limited 30
  let calls : List Call := [⟨.pattern, "Oslo", "O%"⟩, ⟨.pattern, "Oslo", "%%%%%%%%%%%%%"⟩,
    ⟨.substring, "Bergen", "e%r"⟩, ⟨.pattern, "Bergen", "O%"⟩]
  have long : 30 < (source Regex.escape "%%%%%%%%%%%%%").length := by decide +kernel
  have refused : compile engine "%%%%%%%%%%%%%" = .error (.tooLarge 30) := Regex.compile_limited long
  have answers : ∀ {x : Except EvalError Bool} {b : Bool}, x.toOption = some b → x = .ok b := by
    rintro (e | c) b answer
    · cases answer
    · rw [Option.some.inj answer]
  have first : Like.test engine .pattern "Oslo" "O%" = .ok true := answers (by decide +kernel)
  have second : Like.test engine .pattern "Oslo" "%%%%%%%%%%%%%" =
      .error (.malformedOperand .like (.pattern (.tooLarge 30))) := by
    rw [Like.test, refused]
  have fourth : Like.test engine .pattern "Bergen" "O%" = .ok false := answers (by decide +kernel)
  obtain ⟨last, answered, _, bounded, kept, untouched⟩ := run_transparent engine calls
  refine ⟨engine, calls, last, _, rfl, rfl, ?_, bounded, ?_, untouched "Oslo" _ _ refused⟩
  · rw [answered]
    simp only [calls, List.map_cons, List.map_nil, Call.answer, first, second, fourth]
    rfl
  · cases made : compile engine "O%" with
    | ok regex => exact ⟨regex, rfl, kept "Odda" "O%" regex made⟩
    | error e =>
      have compiled : (compile engine "O%").isOk = true := by decide +kernel
      rw [made] at compiled
      cases compiled

end Cache

end Like

end FlatRecord
