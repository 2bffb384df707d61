import FlatRecord.Like.Pattern
import FlatRecord.Proofs.Regex.Matching
import Mathlib.Data.List.Forall2

namespace FlatRecord

theorem Text.isInfix_iff {part text : List Char} : isInfix part text = true ↔ part <:+: text := by
  induction text with
  | nil => simp [isInfix, List.isEmpty_iff]
  | cons c rest ih => rw [isInfix, Bool.or_eq_true, List.isPrefixOf_iff_prefix, ih, List.infix_cons_iff]

namespace Like

/-- The parts of a text that a character of a pattern stands for. -/
inductive Takes : Char → List Char → Prop
  | anyText (part : List Char) : Takes '%' part
  | anyChar (c : Char) : Takes '_' [c]
  | exactly {c : Char} : c ≠ '%' → c ≠ '_' → Takes c [c]

/-- The text consists of parts in a row, one for each character of the pattern. -/
def Covers (pattern text : List Char) : Prop :=
  ∃ parts, parts.flatten = text ∧ List.Forall₂ Takes pattern parts

theorem takes_plain {c : Char} (h : c ≠ '%') (h' : c ≠ '_') {part : List Char} :
    Takes c part ↔ part = [c] := by
  constructor
  · intro takes
    cases takes with
    | anyText => exact absurd rfl h
    | anyChar => exact absurd rfl h'
    | exactly => rfl
  · rintro rfl
    exact .exactly h h'

theorem covers_nil {text : List Char} : Covers [] text ↔ text = [] := by
  constructor
  · rintro ⟨parts, rfl, takes⟩
    rw [List.forall₂_nil_left_iff.mp takes]
    rfl
  · rintro rfl
    exact ⟨[], rfl, .nil⟩

theorem covers_cons {c : Char} {pattern text : List Char} :
    Covers (c :: pattern) text ↔ ∃ part rest, part ++ rest = text ∧ Takes c part ∧ Covers pattern rest := by
  constructor
  · rintro ⟨parts, rfl, takes⟩
    obtain ⟨part, others, first, later, rfl⟩ := List.forall₂_cons_left_iff.mp takes
    exact ⟨part, others.flatten, rfl, first, others, rfl, later⟩
  · rintro ⟨part, rest, rfl, first, others, rfl, later⟩
    exact ⟨part :: others, rfl, .cons first later⟩

/-- A pattern without wildcards covers nothing but itself. -/
theorem covers_plain_append {plain pattern text : List Char} (h : '%' ∉ plain) (h' : '_' ∉ plain) :
    Covers (plain ++ pattern) text ↔ ∃ rest, plain ++ rest = text ∧ Covers pattern rest := by
  induction plain generalizing text with
  | nil => simp
  | cons c plain ih =>
    have later : ∀ text, Covers (plain ++ pattern) text ↔
        ∃ rest, plain ++ rest = text ∧ Covers pattern rest :=
      fun _ => ih (fun mem => h (.tail c mem)) fun mem => h' (.tail c mem)
    have here : ∀ part, Takes c part ↔ part = [c] := fun part =>
      takes_plain (fun eq => h (by simp [eq])) fun eq => h' (by simp [eq])
    rw [List.cons_append, covers_cons]
    simp only [later, here]
    constructor
    · rintro ⟨_, _, rfl, rfl, rest, rfl, covers⟩
      exact ⟨rest, rfl, covers⟩
    · rintro ⟨rest, rfl, covers⟩
      exact ⟨[c], plain ++ rest, rfl, rfl, rest, rfl, covers⟩

/-- The part of an expression that a character of a pattern stands for. -/
def partOf (c : Char) : Regex.Part :=
  if c = '%' then .many .any else if c = '_' then .one .any else .one (.exactly c)

/-- The expression that a pattern stands for, for whole texts. -/
def expression (pattern : List Char) : Regex := .start :: (pattern.map partOf ++ [.finish])

theorem text_partOf (escape : String → String) (c : Char) :
    (partOf c).text escape = piece escape c := by
  unfold partOf piece
  split
  next => rfl
  next =>
    split
    next => rfl
    next => rfl

/-- What is written for a pattern is what is written for its expression. -/
theorem source_eq_text (escape : String → String) (pattern : String) :
    source escape pattern = (expression pattern.toList).text escape := by
  rw [source, Regex.text, expression, List.foldl_cons, List.foldl_append, List.foldl_map]
  simp only [text_partOf]
  rfl

/-- Without a limit every pattern is compiled. -/
theorem compile_plain (pattern : String) :
    compile .plain pattern = .ok (expression pattern.toList) := by
  rw [compile, source_eq_text]
  exact Regex.compile_plain (expression pattern.toList)

theorem takes_partOf {c : Char} {before taken after : List Char} :
    (partOf c).Takes before taken after ↔ Takes c taken := by
  unfold partOf
  split
  next anyText =>
    subst anyText
    exact iff_of_true (.many before after fun _ _ => rfl) (.anyText taken)
  next notAnyText =>
    split
    next anyChar =>
      subst anyChar
      constructor
      · intro takes
        cases takes with
        | @one _ d => exact .anyChar d
      · intro takes
        cases takes with
        | anyChar => exact .one before after rfl
        | exactly _ notAnyChar => exact absurd rfl notAnyChar
    next notAnyChar =>
      rw [takes_plain notAnyText notAnyChar]
      constructor
      · intro takes
        cases takes with
        | one _ _ same => rw [beq_iff_eq.mp same]
      · rintro rfl
        exact .one before after (beq_self_eq_true c)

theorem starts_partOf (pattern before text : List Char) :
    Regex.Starts (pattern.map partOf ++ [.finish]) before text ↔ Covers pattern text := by
  induction pattern generalizing before text with
  | nil =>
    rw [List.map_nil, List.nil_append, Regex.starts_cons, covers_nil]
    constructor
    · rintro ⟨taken, rest, rfl, takes, _⟩
      cases takes
      rfl
    · rintro rfl
      exact ⟨[], [], rfl, .finish before, Regex.starts_nil _ _⟩
  | cons c pattern ih =>
    rw [List.map_cons, List.cons_append, Regex.starts_cons, covers_cons]
    simp only [takes_partOf, ih]

/-- The expression is found in the texts that the pattern covers, as it begins where they begin
and ends where they end. -/
theorem found_expression {pattern text : List Char} :
    (expression pattern).Found text ↔ Covers pattern text := by
  simp only [Regex.Found, expression, Regex.starts_cons, starts_partOf]
  constructor
  · rintro ⟨before, _, rfl, taken, rest, rfl, takes, covers⟩
    cases takes
    exact covers
  · intro covers
    exact ⟨[], text, rfl, [], text, rfl, .start text, covers⟩

section Standard

variable {engine : Regex.Engine} (standard : engine.Standard) {pattern : String}
include standard

theorem isMatch_iff_covers {regex : engine.Compiled} (made : compile engine pattern = .ok regex)
    (text : String) : engine.isMatch regex text = true ↔ Covers pattern.toList text.toList := by
  rw [compile, source_eq_text] at made
  rw [standard.finds _ regex made, found_expression]

theorem tooLarge_of_compile {e : Regex.Error} (refused : compile engine pattern = .error e) :
    ∃ limit, e = .tooLarge limit := by
  rw [compile, source_eq_text] at refused
  exact standard.refuses _ e refused

end Standard

theorem holds_iff_of_plain {text pattern : String} (h : '%' ∉ pattern.toList) :
    holds text pattern = true ↔ pattern.toList <:+: text.toList := by
  have kept : pattern.toList.filter (· != '%') = pattern.toList := by
    apply List.filter_eq_self.mpr
    intro c mem
    have ne : c ≠ '%' := fun eq => h (by rwa [eq] at mem)
    simpa using ne
  rw [holds, kept, Text.isInfix_iff]

/-- Between two percent signs a pattern without wildcards is looked for anywhere in the text. -/
theorem covers_between_percents {plain text : List Char} (h : '%' ∉ plain) (h' : '_' ∉ plain) :
    Covers ('%' :: plain ++ ['%']) text ↔ plain <:+: text := by
  rw [List.cons_append, covers_cons]
  simp only [covers_plain_append h h', covers_cons, covers_nil]
  constructor
  · rintro ⟨before, _, rfl, _, _, rfl, after, _, rfl, _, rfl⟩
    exact ⟨before, after, by simp⟩
  · rintro ⟨before, after, rfl⟩
    exact ⟨before, plain ++ after, by simp, .anyText before, after, rfl, after, [], by simp,
      .anyText after, rfl⟩

/-- A pattern is compiled, unless the engine has no room for its expression, to what matches the
texts that consist of parts in a row, one for each character of the pattern: any text for a percent
sign, any one character for an underscore, and for any other character itself. A pattern without
wildcards that stands between percent signs is matched by the texts that hold it somewhere, as the
pattern alone is in substring mode, again unless there is no room. -/
theorem compile_covers {engine : Regex.Engine} (standard : engine.Standard) (pattern : String) :
    ((∃ regex, compile engine pattern = .ok regex ∧
        ∀ text, engine.isMatch regex text = true ↔
          ∃ parts, parts.flatten = text.toList ∧ List.Forall₂ Takes pattern.toList parts) ∨
      ∃ limit, compile engine pattern = .error (.tooLarge limit) ∧
        engine.compile ((expression pattern.toList).text engine.escape) =
          .error (.tooLarge limit)) ∧
    ('%' ∉ pattern.toList → '_' ∉ pattern.toList →
      (∀ text, test engine .pattern text ("%" ++ pattern ++ "%") =
        test engine .substring text pattern) ∨
      ∃ limit, compile engine ("%" ++ pattern ++ "%") = .error (.tooLarge limit) ∧
        ∀ text, test engine .pattern text ("%" ++ pattern ++ "%") =
          .error (.malformedOperand .like (.pattern (.tooLarge limit)))) := by
  constructor
  · cases made : compile engine pattern with
    | ok regex => exact .inl ⟨regex, rfl, isMatch_iff_covers standard made⟩
    | error e =>
      obtain ⟨limit, rfl⟩ := tooLarge_of_compile standard made
      rw [compile, source_eq_text] at made
      exact .inr ⟨limit, rfl, made⟩
  · intro noPercent noUnderscore
    have chars : ("%" ++ pattern ++ "%").toList = '%' :: pattern.toList ++ ['%'] := by
      simp [String.toList_append]
    simp only [test]
    cases made : compile engine ("%" ++ pattern ++ "%") with
    | ok regex =>
      refine .inl fun text => congrArg Except.ok (Bool.eq_iff_iff.mpr ?_)
      rw [isMatch_iff_covers standard made, chars, covers_between_percents noPercent noUnderscore,
        holds_iff_of_plain noPercent]
    | error e =>
      obtain ⟨limit, rfl⟩ := tooLarge_of_compile standard made
      exact .inr ⟨limit, rfl, fun _ => rfl⟩

/-- Metacharacters and line breaks are characters like others, for an engine that has no room for
long patterns. -/
theorem compile_covers_lines :
    ∃ engine : Regex.Engine, engine.Standard ∧
      test engine .pattern "(a.b)\n+" "%.%_+" = .ok true ∧
      test engine .pattern "x(a\nb" "%(a\n%" = test engine .substring "x(a\nb" "(a\n" ∧
      test engine .pattern "a" "%%%%%%%%%%%%%" =
        .error (.malformedOperand .like (.pattern (.tooLarge 30))) := by
  let engine := Regex.Engine.plain.limited 30
  have standard : engine.Standard := Regex.plain_standard.limited 30
  have dotted : List.Forall₂ Takes "%.%_+".toList [['(', 'a'], ['.'], ['b', ')'], ['\n'], ['+']] :=
    .cons (.anyText _) (.cons (.exactly (by decide) (by decide)) (.cons (.anyText _)
      (.cons (.anyChar _) (.cons (.exactly (by decide) (by decide)) .nil))))
  refine ⟨engine, standard, ?_, ?_, ?_⟩
  · obtain ⟨regex, made, covers⟩ | ⟨limit, refused, _⟩ := (compile_covers standard "%.%_+").1
    · simp only [test, made]
      exact congrArg Except.ok ((covers "(a.b)\n+").mpr ⟨_, rfl, dotted⟩)
    · have fits : (compile engine "%.%_+").isOk = true := by decide +kernel
      rw [refused] at fits
      cases fits
  · obtain agree | ⟨limit, _, refused⟩ := (compile_covers standard "(a\n").2 (by decide) (by decide)
    · exact agree "x(a\nb"
    · have fits : (test engine .pattern "" "%(a\n%").isOk = true := by decide +kernel
      have failed : test engine .pattern "" "%(a\n%" =
        .error (.malformedOperand .like (.pattern (.tooLarge limit))) := refused ""
      rw [failed] at fits
      cases fits
  · have long : 30 < (source Regex.escape "%%%%%%%%%%%%%").length := by decide +kernel
    have refused : compile engine "%%%%%%%%%%%%%" = .error (.tooLarge 30) :=
      Regex.compile_limited long
    rw [test, refused]

end Like

end FlatRecord
