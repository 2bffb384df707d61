import FlatRecord.Regex.Plain

namespace FlatRecord

namespace Regex

/-- What a part of an expression takes of a text, between what stands before and after it. -/
inductive Part.Takes : Part → List Char → List Char → List Char → Prop
  | start (after : List Char) : Takes .start [] [] after
  | finish (before : List Char) : Takes .finish before [] []
  | one {atom : Atom} {c : Char} (before after : List Char) : atom.takes c = true →
    Takes (.one atom) before [c] after
  | many {atom : Atom} {taken : List Char} (before after : List Char) :
    (∀ c ∈ taken, atom.takes c = true) → Takes (.many atom) before taken after

/-- What an expression takes of a text: its parts take theirs one after the other. -/
inductive Takes : Regex → List Char → List Char → List Char → Prop
  | nil (before after : List Char) : Takes [] before [] after
  | cons {part : Part} {regex : Regex} {before taken rest after : List Char} :
    part.Takes before taken (rest ++ after) → Takes regex (before ++ taken) rest after →
      Takes (part :: regex) before (taken ++ rest) after

/-- A text begins with what the expression stands for, after what stands before that text. -/
def Starts (regex : Regex) (before text : List Char) : Prop :=
  ∃ taken after, taken ++ after = text ∧ regex.Takes before taken after

/-- The expression stands for something that the text holds anywhere. -/
def Found (regex : Regex) (text : List Char) : Prop :=
  ∃ before rest, before ++ rest = text ∧ regex.Starts before rest

/-- What an engine is to do with expressions without groups and choices. -/
structure Engine.Standard (engine : Engine) : Prop where
  /-- Such an expression is well formed, with escaped characters for those meant literally. -/
  refuses : ∀ (regex : Regex) (e : Error),
    engine.compile (regex.text engine.escape) = .error e → ∃ limit, e = .tooLarge limit
  /-- A match is searched for everywhere in the text. -/
  finds : ∀ (regex : Regex) (compiled : engine.Compiled),
    engine.compile (regex.text engine.escape) = .ok compiled →
      ∀ text, engine.isMatch compiled text = true ↔ regex.Found text.toList

theorem starts_nil (before text : List Char) : Starts [] before text :=
  ⟨[], text, rfl, .nil before text⟩

theorem starts_cons {part : Part} {regex : Regex} {before text : List Char} :
    Starts (part :: regex) before text ↔ ∃ taken rest, taken ++ rest = text ∧
      part.Takes before taken rest ∧ regex.Starts (before ++ taken) rest := by
  constructor
  · rintro ⟨_, after, rfl, takes⟩
    cases takes with
    | @cons _ _ _ taken rest _ first later =>
      exact ⟨taken, rest ++ after, by simp, first, rest, after, rfl, later⟩
  · rintro ⟨taken, _, rfl, first, rest, after, rfl, later⟩
    exact ⟨taken ++ rest, after, by simp, .cons first later⟩

section Reading

def Atom.chars : Atom → List Char
  | .any => ['.']
  | .exactly c => if isMeta c then ['\\', c] else [c]

def Part.chars : Part → List Char
  | .start => ['^']
  | .finish => ['$']
  | .one atom => atom.chars
  | .many atom => atom.chars ++ ['*']

theorem toList_text_atom (atom : Atom) : (atom.text escape).toList = atom.chars := by
  cases atom with
  | any => rfl
  | exactly c => simp [Atom.text, Atom.chars, escape]

theorem toList_text_part (part : Part) : (part.text escape).toList = part.chars := by
  cases part with
  | start => rfl
  | finish => rfl
  | one atom => exact toList_text_atom atom
  | many atom =>
    rw [Part.text, String.toList_append, toList_text_atom]
    rfl

theorem toList_text (regex : Regex) :
    (regex.text escape).toList = '(' :: '?' :: 's' :: ')' :: regex.flatMap Part.chars := by
  have written : ∀ (regex : Regex) (text : String),
      (regex.foldl (fun text part => text ++ part.text escape) text).toList =
        text.toList ++ regex.flatMap Part.chars := by
    intro regex
    induction regex with
    | nil => simp
    | cons part regex ih =>
      intro text
      rw [List.foldl_cons, ih, String.toList_append, toList_text_part, List.flatMap_cons,
        List.append_assoc]
  exact written regex "(?s)"

/-- What a part is read as before stars are put to their atoms. -/
def Part.tokens : Part → List Token
  | .start => [.place .start]
  | .finish => [.place .finish]
  | .one atom => [.atom atom]
  | .many atom => [.atom atom, .star]

/-- A character that stands for itself is none of those that are read in another way. -/
theorem readTokens_ordinary {c : Char} (ordinary : isMeta c = false) (rest : List Char) :
    readTokens (c :: rest) = (readTokens rest).map (.atom (.exactly c) :: ·) := by
  have ne : ∀ d, isMeta d = true → c ≠ d := by
    rintro d special rfl
    rw [ordinary] at special
    cases special
  rw [readTokens, ordinary]
  · rfl
  · exact fun _ _ eq _ => ne '\\' rfl eq
  · exact ne '^' rfl
  · exact ne '$' rfl
  · exact ne '.' rfl
  · exact ne '*' rfl

theorem readTokens_atom (atom : Atom) (rest : List Char) :
    readTokens (atom.chars ++ rest) = (readTokens rest).map (.atom atom :: ·) := by
  cases atom with
  | any => rfl
  | exactly c =>
    unfold Atom.chars
    cases special : isMeta c with
    | true => simp [readTokens, special]
    | false => simpa [special] using readTokens_ordinary special rest

theorem readTokens_part (part : Part) (rest : List Char) :
    readTokens (part.chars ++ rest) = (readTokens rest).map (part.tokens ++ ·) := by
  cases part with
  | start => rfl
  | finish => rfl
  | one atom => exact readTokens_atom atom rest
  | many atom =>
    have star : readTokens ('*' :: rest) = (readTokens rest).map (.star :: ·) := rfl
    rw [Part.chars, List.append_assoc, readTokens_atom, List.singleton_append, star, Option.map_map]
    rfl

theorem readTokens_flatMap (regex : Regex) :
    readTokens (regex.flatMap Part.chars) = some (regex.flatMap Part.tokens) := by
  induction regex with
  | nil => rfl
  | cons part regex ih =>
    rw [List.flatMap_cons, readTokens_part, ih, List.flatMap_cons]
    rfl

/-- No part begins with a star, so that an atom keeps the one that follows it in its own part. -/
theorem ofTokens_cons (part : Part) (regex : Regex) :
    ofTokens ((part :: regex).flatMap Part.tokens) =
      (ofTokens (regex.flatMap Part.tokens)).map (part :: ·) := by
  cases part with
  | start => rfl
  | finish => rfl
  | many atom => rfl
  | one atom =>
    cases regex with
    | nil => rfl
    | cons next regex => cases next <;> rfl

theorem ofTokens_flatMap (regex : Regex) : ofTokens (regex.flatMap Part.tokens) = some regex := by
  induction regex with
  | nil => rfl
  | cons part regex ih =>
    rw [ofTokens_cons, ih]
    rfl

/-- An expression is read back from what is written for it. -/
theorem read?_text (regex : Regex) : read? (regex.text escape) = some regex := by
  unfold read?
  rw [toList_text]
  change (readTokens (regex.flatMap Part.chars)).bind ofTokens = some regex
  rw [readTokens_flatMap]
  exact ofTokens_flatMap regex

end Reading

/-- Answers for all suffixes of a text, the longest first and the empty one last. A question is
about a suffix and what stands before it. -/
inductive Answers (p : List Char → List Char → Prop) : List Bool → List Char → List Char → Prop
  | last {b : Bool} {before : List Char} : (b = true ↔ p before []) → Answers p [b] before []
  | next {b : Bool} {row : List Bool} {before : List Char} {c : Char} {text : List Char} :
    (b = true ↔ p before (c :: text)) → Answers p row (before ++ [c]) text →
      Answers p (b :: row) before (c :: text)

theorem exists_split_nil {q : List Char → List Char → Prop} :
    (∃ taken rest, taken ++ rest = [] ∧ q taken rest) ↔ q [] [] := by
  simp [List.append_eq_nil_iff, and_assoc]

/-- A text is split before its first character or after it. -/
theorem exists_split_cons {q : List Char → List Char → Prop} {c : Char} {text : List Char} :
    (∃ taken rest, taken ++ rest = c :: text ∧ q taken rest) ↔
      q [] (c :: text) ∨ ∃ taken rest, taken ++ rest = text ∧ q (c :: taken) rest := by
  constructor
  · rintro ⟨taken, rest, eq, accepted⟩
    cases taken with
    | nil =>
      obtain rfl : rest = c :: text := eq
      exact .inl accepted
    | cons d taken =>
      obtain ⟨rfl, split⟩ := List.cons.inj eq
      exact .inr ⟨taken, rest, split, accepted⟩
  · rintro (accepted | ⟨taken, rest, eq, accepted⟩)
    · exact ⟨[], c :: text, rfl, accepted⟩
    · exact ⟨c :: taken, rest, congrArg (c :: ·) eq, accepted⟩

namespace Answers

variable {p q : List Char → List Char → Prop} {row : List Bool} {before text : List Char}

theorem headD (answers : Answers p row before text) : row.headD false = true ↔ p before text := by
  cases answers with
  | last answer => exact answer
  | next answer _ => exact answer

theorem congr (answers : Answers p row before text) (same : ∀ s t, p s t ↔ q s t) :
    Answers q row before text := by
  induction answers with
  | last answer => exact .last (answer.trans (same _ _))
  | next answer _ ih => exact .next (answer.trans (same _ _)) ih

theorem all (always : ∀ s t, p s t) (before text : List Char) :
    Answers p (text.map (fun _ => true) ++ [true]) before text := by
  induction text generalizing before with
  | nil => exact .last (iff_of_true rfl (always _ _))
  | cons c text ih => exact .next (iff_of_true rfl (always _ _)) (ih _)

/-- What is accepted after one character is asked for after that character. -/
theorem afterOne (answers : Answers p row before text) (passes : Char → Bool) :
    Answers (fun s t => ∃ c rest, c :: rest = t ∧ passes c = true ∧ p (s ++ [c]) rest)
      (afterOne passes text row) before text := by
  induction answers with
  | last _ => exact .last (by simp)
  | @next b row before c text _ later ih =>
    have first : row.headD false = true ↔ p (before ++ [c]) text := later.headD
    have here : (passes c && row.headD false) = true ↔
        ∃ d rest, d :: rest = c :: text ∧ passes d = true ∧ p (before ++ [d]) rest := by
      rw [Bool.and_eq_true, first]
      constructor
      · exact fun accepted => ⟨c, text, rfl, accepted⟩
      · rintro ⟨_, _, eq, accepted⟩
        obtain ⟨rfl, rfl⟩ := List.cons.inj eq
        exact accepted
    cases later with
    | last _ => exact .next here ih
    | next _ _ => exact .next here ih

theorem afterMany (answers : Answers p row before text) (passes : Char → Bool) :
    Answers (fun s t => ∃ taken rest, taken ++ rest = t ∧ (∀ c ∈ taken, passes c = true) ∧
      p (s ++ taken) rest) (afterMany passes text row) before text := by
  induction answers with
  | last answer =>
    refine .last ?_
    rw [exists_split_nil]
    simpa using answer
  | @next b row before c text answer _ ih =>
    refine .next ?_ ih
    rw [Bool.or_eq_true, Bool.and_eq_true, answer, ih.headD, exists_split_cons]
    simp [and_assoc, and_left_comm]

/-- Nothing is at the start of a text after a part of it. -/
theorem notFirst (answers : Answers p row before text) (nonempty : before ≠ []) :
    Answers (fun s t => s = [] ∧ p s t) (row.map fun _ => false) before text := by
  induction answers with
  | last _ => exact .last (by simp [nonempty])
  | next _ _ ih => exact .next (by simp [nonempty]) (ih (by simp))

theorem onlyFirst (answers : Answers p row [] text) :
    Answers (fun s t => s = [] ∧ p s t) (onlyFirst row) [] text := by
  cases answers with
  | last answer => exact .last (by simpa using answer)
  | next answer later => exact .next (by simpa using answer) (later.notFirst (by simp))

theorem onlyLast (answers : Answers p row before text) :
    Answers (fun s t => t = [] ∧ p s t) (onlyLast row) before text := by
  induction answers with
  | last answer => exact .last (by simpa using answer)
  | next _ later ih =>
    cases later with
    | last _ => exact .next (by simp) ih
    | next _ _ => exact .next (by simp) ih

/-- One part of the expression more. -/
theorem step (answers : Answers p row [] text) (part : Part) :
    Answers (fun s t => ∃ taken rest, taken ++ rest = t ∧ part.Takes s taken rest ∧
      p (s ++ taken) rest) (part.step text row) [] text := by
  cases part with
  | start =>
    apply answers.onlyFirst.congr
    intro s t
    constructor
    · rintro ⟨rfl, accepted⟩
      exact ⟨[], t, rfl, .start t, accepted⟩
    · rintro ⟨taken, rest, rfl, takes, accepted⟩
      cases takes with
      | start => exact ⟨rfl, accepted⟩
  | finish =>
    apply answers.onlyLast.congr
    intro s t
    constructor
    · rintro ⟨rfl, accepted⟩
      exact ⟨[], [], rfl, .finish s, by simpa using accepted⟩
    · rintro ⟨taken, rest, rfl, takes, accepted⟩
      cases takes with
      | finish => exact ⟨rfl, by simpa using accepted⟩
  | one atom =>
    apply (answers.afterOne atom.takes).congr
    intro s t
    constructor
    · rintro ⟨c, rest, rfl, passing, accepted⟩
      exact ⟨[c], rest, rfl, .one s rest passing, accepted⟩
    · rintro ⟨taken, rest, rfl, takes, accepted⟩
      cases takes with
      | @one _ c _ _ passing => exact ⟨c, rest, rfl, passing, accepted⟩
  | many atom =>
    apply (answers.afterMany atom.takes).congr
    intro s t
    constructor
    · rintro ⟨taken, rest, rfl, passing, accepted⟩
      exact ⟨taken, rest, rfl, .many s rest passing, accepted⟩
    · rintro ⟨taken, rest, rfl, takes, accepted⟩
      cases takes with
      | many _ _ passing => exact ⟨taken, rest, rfl, passing, accepted⟩

theorem starts (regex : Regex) (text : List Char) :
    Answers regex.Starts (regex.row text) [] text := by
  induction regex with
  | nil => exact all starts_nil [] text
  | cons part regex ih => exact (ih.step part).congr fun _ _ => starts_cons.symm

theorem any (answers : Answers p row before text) :
    row.any id = true ↔ ∃ taken rest, taken ++ rest = text ∧ p (before ++ taken) rest := by
  induction answers with
  | last answer =>
    rw [exists_split_nil]
    simpa using answer
  | @next b row before c text answer _ ih =>
    rw [List.any_cons, Bool.or_eq_true, id, answer, ih, exists_split_cons]
    simp only [List.append_nil, List.append_assoc, List.singleton_append]

end Answers

theorem isFound_iff {regex : Regex} {text : String} :
    regex.isFound text = true ↔ regex.Found text.toList :=
  (Answers.starts regex text.toList).any

theorem compile_plain (regex : Regex) :
    Engine.plain.compile (regex.text Engine.plain.escape) = .ok regex := by
  have read : read? (regex.text Engine.plain.escape) = some regex := read?_text regex
  simp only [Engine.plain] at read ⊢
  rw [read]

theorem plain_standard : Engine.plain.Standard where
  refuses regex e refused := by
    rw [compile_plain] at refused
    cases refused
  finds regex compiled made text := by
    rw [compile_plain] at made
    cases made
    exact isFound_iff

/-- An engine that refuses expressions of more characters. -/
def Engine.limited (engine : Engine) (limit : Nat) : Engine where
  Compiled := engine.Compiled
  escape := engine.escape
  compile text := if limit < text.length then .error (.tooLarge limit) else engine.compile text
  isMatch := engine.isMatch

theorem compile_limited {engine : Engine} {limit : Nat} {text : String}
    (long : limit < text.length) :
    (engine.limited limit).compile text = .error (.tooLarge limit) :=
  if_pos long

theorem Engine.Standard.limited {engine : Engine} (standard : engine.Standard) (limit : Nat) :
    (engine.limited limit).Standard where
  refuses regex e refused := by
    simp only [Engine.limited] at refused
    split at refused
    next =>
      cases refused
      exact ⟨limit, rfl⟩
    next => exact standard.refuses regex e refused
  finds regex compiled made := by
    simp only [Engine.limited] at made
    split at made
    next => cases made
    next => exact standard.finds regex compiled made

end Regex

end FlatRecord
