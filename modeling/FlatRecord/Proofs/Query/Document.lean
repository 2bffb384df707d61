import FlatRecord.Proofs.Value.JsonText
import FlatRecord.Query.Json

namespace FlatRecord

open Document hiding optional

section Optional

variable {α β : Type} {members : List (String × α)} {key : String}
  {read : α → Except DocumentError β}

theorem Document.optional_none (absent : members.lookup key = none) :
    Document.optional members key read = .ok none := by
  rw [Document.optional, absent]

theorem Document.optional_some {a : α} {b : β} (present : members.lookup key = some a)
    (h : read a = .ok b) : Document.optional members key read = .ok (some b) := by
  rw [Document.optional, present]
  simp only [h]
  rfl

theorem Document.optional_unless {empty : Bool} {a : α} {b : β}
    (found : members.lookup key = if empty then none else some a) (h : read a = .ok b) :
    Document.optional members key read = .ok (if empty then none else some b) := by
  cases empty with
  | true => exact Document.optional_none found
  | false => exact Document.optional_some found h

end Optional

theorem Operator.read_name (op : Operator) : Operator.read op.name = .ok op := by
  cases op <;> rfl

theorem operator_name (op : Operator) : operator (.string op.name) = .ok op := by
  simp only [operator, text, Except.bind, bind, Operator.read_name]
  rfl

/-- The document of the value, written and read, describes the same value. -/
def Value.Recovered (v : Value) : Prop := ofJson v.toJson.canonical = v

theorem Value.recovered {v : Value} (ordered : v.Ordered) (finite : v.Finite) : v.Recovered := by
  rw [Recovered, ofJson_canonical v ordered, printed_of_finite v finite]

/-- The readings of the members of a document that was written and read are found under the keys
they were written under, although a reader puts the members in the order of their keys. -/
theorem lookup_readings {α : Type} (reading : Json → α) {entries : List (String × Json)}
    (distinct : (entries.map Prod.fst).Nodup) (key : String) :
    ((Entries.ofList (Json.canonicalEntries entries)).map fun e => (e.1, reading e.2)).lookup key =
      (entries.map fun e => (e.1, reading e.2.canonical)).lookup key := by
  rw [Entries.lookup_mapValues fun _ => reading, Json.lookup_canonical distinct,
    Entries.lookup_mapValues fun _ (json : Json) => reading json.canonical, Option.map_map]
  rfl

mutual

/-- The literals of a term, in the order it names them. -/
def Term.literals : Term → List Value
  | .literal v => [v]
  | .call _ args => Term.listLiterals args
  | .arithmetic _ left right => left.literals ++ right.literals
  | .cast _ term => term.literals
  | _ => []
termination_by structural t => t

def Term.listLiterals : List Term → List Value
  | [] => []
  | t :: ts => t.literals ++ Term.listLiterals ts
termination_by structural ts => ts

end

/-- A member of a document with its readings. -/
def TermMember.ofJson (json : Json) : TermMember :=
  ⟨json, Term.read true json, Term.readList true json⟩

namespace Term

theorem ofMembers_congr (inner : Bool) {members others : List (String × TermMember)}
    (same : ∀ key, members.lookup key = others.lookup key) :
    ofMembers inner members = ofMembers inner others := by
  unfold ofMembers Document.optional
  simp only [same]

theorem readMembers_eq_map (entries : List (String × Json)) :
    readMembers entries = entries.map fun e => (e.1, TermMember.ofJson e.2) := by
  induction entries with
  | nil => rfl
  | cons e rest ih => rw [readMembers, ih, List.map_cons, TermMember.ofJson]

theorem read_document (inner : Bool) {entries : List (String × Json)}
    (distinct : (entries.map Prod.fst).Nodup) :
    Term.read inner (Json.object entries).canonical =
      ofMembers inner (entries.map fun e => (e.1, TermMember.ofJson e.2.canonical)) := by
  rw [Json.canonical, Term.read, readMembers_eq_map]
  exact ofMembers_congr inner (lookup_readings TermMember.ofJson distinct)

mutual

/-- A term is read back from its document, within another term and on its own. -/
theorem read_canonical (inner : Bool) : ∀ t : Term, (∀ v ∈ t.literals, v.Recovered) →
    Term.read inner t.toJson.canonical = .ok t
  | .property path, _ => by
    rw [toJson, read_document inner (by simp)]
    rfl
  | .literal v, recovered => by
    have value : Value.ofJson v.toJson.canonical = v := recovered v (by simp [literals])
    rw [toJson, read_document inner (by simp)]
    exact congrArg (fun v => Except.ok (literal v)) value
  | .binding name, _ => by
    rw [toJson, read_document inner (by simp)]
    rfl
  | .call name args, recovered => by
    have terms := readItems_canonical true args recovered
    rw [toJson, read_document inner (by simp)]
    simp only [List.map_cons, TermMember.ofJson, Json.canonical, readList, terms]
    rfl
  | .arithmetic op left right, recovered => by
    rw [literals, List.forall_mem_append] at recovered
    have lefts := read_canonical true left recovered.1
    have rights := read_canonical true right recovered.2
    rw [toJson, read_document inner (by simp)]
    simp only [List.map_cons, TermMember.ofJson, lefts, rights, Json.canonical]
    cases op <;> rfl
  | .cast target term, recovered => by
    have operand := read_canonical true term recovered
    rw [toJson, read_document inner (by simp)]
    simp only [List.map_cons, TermMember.ofJson, operand]
    rfl
  | .dateTime name, _ => by
    rw [toJson, read_document inner (by simp)]
    rfl
termination_by structural t => t

theorem readItems_canonical (inner : Bool) :
    ∀ ts : List Term, (∀ v ∈ listLiterals ts, v.Recovered) →
      readItems inner (Json.canonicalItems (listToJson ts)) = .ok ts
  | [], _ => rfl
  | t :: ts, recovered => by
    rw [listLiterals, List.forall_mem_append] at recovered
    rw [listToJson, Json.canonicalItems, readItems, read_canonical inner t recovered.1,
      readItems_canonical inner ts recovered.2]
    rfl
termination_by structural ts => ts

end

theorem exists_object (t : Term) : ∃ entries, t.toJson.canonical = .object entries := by
  cases t <;> exact ⟨_, rfl⟩

theorem ofJson?_canonical {t : Term} (recovered : ∀ v ∈ t.literals, v.Recovered) :
    Term.ofJson? t.toJson.canonical = .ok (some t) := by
  have read := read_canonical false t recovered
  obtain ⟨entries, object⟩ := t.exists_object
  rw [object] at read ⊢
  unfold ofJson? ofJson
  simp only [read]
  rfl

theorem listLiterals_eq_flatMap (ts : List Term) : listLiterals ts = ts.flatMap literals := by
  induction ts with
  | nil => rfl
  | cons t ts ih => rw [listLiterals, List.flatMap_cons, ih]

end Term

theorem lookup_memberIf (present : Bool) (key other : String) (json : Json) :
    (memberIf present key json).lookup other =
      if other = key ∧ present = true then some json else none := by
  cases present with
  | false => simp [memberIf]
  | true =>
    by_cases h : other = key
    · simp [memberIf, h]
    · simp [memberIf, Entries.lookup_cons_of_ne h, h]

theorem lookup_memberOf {α : Type} (o : Option α) (key other : String) (f : α → Json) :
    (o.toList.map fun a => (key, f a)).lookup other = if other = key then o.map f else none := by
  cases o with
  | none => simp
  | some a =>
    by_cases h : other = key
    · simp [h]
    · simp [Entries.lookup_cons_of_ne h, h]

namespace Condition

/-- The literals of all terms of a condition. -/
def literals (c : Condition) : List Value := Term.listLiterals c.terms

/-- The members of a condition's document. -/
def members (c : Condition) : List (String × Json) :=
  [("op", .string c.op.name), ("left", c.left.toJson), ("right", c.right.toJson),
    ("negate", .bool c.negate)] ++
  memberIf (!c.candidates.isEmpty) "in_values" (.array (Term.listToJson c.candidates)) ++
  (c.lower.toList.map fun t => ("start", t.toJson)) ++
  (c.upper.toList.map fun t => ("end", t.toJson)) ++
  memberIf (!c.pattern.isEmpty) "pattern" (.string c.pattern)

theorem toJson_eq (c : Condition) : c.toJson = .object c.members := rfl

theorem distinct_members (c : Condition) : (c.members.map Prod.fst).Nodup := by
  have keys : (c.members.map Prod.fst).Sublist
      ["op", "left", "right", "negate", "in_values", "start", "end", "pattern"] := by
    have given : ∀ (present : Bool) (key : String) (json : Json),
        ((memberIf present key json).map Prod.fst).Sublist [key] := by
      intro present key json
      cases present <;> simp [memberIf]
    have bound : ∀ (o : Option Term) (key : String),
        ((o.toList.map fun t => (key, t.toJson)).map Prod.fst).Sublist [key] := by
      intro o key
      cases o <;> simp
    unfold members
    simp only [List.map_append]
    exact ((((List.Sublist.refl _).append (given _ _ _)).append (bound _ _)).append
      (bound _ _)).append (given _ _ _)
  exact List.Nodup.sublist keys (by decide)

section Members

variable (c : Condition)

theorem lookup_candidates : c.members.lookup "in_values" =
    if c.candidates.isEmpty then none else some (.array (Term.listToJson c.candidates)) := by
  simp [members, List.lookup_append, lookup_memberIf, lookup_memberOf, List.lookup_cons]

theorem lookup_lower : c.members.lookup "start" = c.lower.map Term.toJson := by
  simp [members, List.lookup_append, lookup_memberIf, lookup_memberOf, List.lookup_cons]

theorem lookup_upper : c.members.lookup "end" = c.upper.map Term.toJson := by
  simp [members, List.lookup_append, lookup_memberIf, lookup_memberOf, List.lookup_cons]

theorem lookup_pattern : c.members.lookup "pattern" =
    if c.pattern.isEmpty then none else some (.string c.pattern) := by
  simp [members, List.lookup_append, lookup_memberIf, lookup_memberOf, List.lookup_cons]

end Members

theorem optional_bound {entries : List (String × Json)} {key : String} {bound : Option Term}
    (found : entries.lookup key = (bound.map Term.toJson).map Json.canonical)
    (recovered : ∀ t ∈ bound, ∀ v ∈ t.literals, v.Recovered) :
    Document.optional entries key Term.ofJson? = .ok (bound.map some) := by
  cases bound with
  | none => exact Document.optional_none found
  | some t => exact Document.optional_some found (Term.ofJson?_canonical (recovered t rfl))

/-- The members of a condition's document as they are read, in key order. -/
def entries (c : Condition) : List (String × Json) :=
  Entries.ofList (Json.canonicalEntries c.members)

theorem lookup_entries (c : Condition) (key : String) :
    c.entries.lookup key = (c.members.lookup key).map Json.canonical :=
  Json.lookup_canonical c.distinct_members key

theorem read_op (c : Condition) : Document.optional c.entries "op" operator = .ok (some c.op) :=
  Document.optional_some (c.lookup_entries "op") (operator_name c.op)

theorem read_negate (c : Condition) :
    Document.optional c.entries "negate" bool = .ok (some c.negate) :=
  Document.optional_some (c.lookup_entries "negate") rfl

theorem read_pattern (c : Condition) : Document.optional c.entries "pattern" text =
    .ok (if c.pattern.isEmpty then none else some c.pattern) := by
  apply Document.optional_unless
  · rw [lookup_entries, lookup_pattern, apply_ite (Option.map Json.canonical)]
    rfl
  · rfl

section Terms

variable {c : Condition} (recovered : ∀ t ∈ c.terms, ∀ v ∈ t.literals, v.Recovered)
include recovered

theorem read_left : Document.optional c.entries "left" Term.ofJson = .ok (some c.left) :=
  Document.optional_some (c.lookup_entries "left")
    (Term.read_canonical false c.left (recovered _ (by simp [terms])))

theorem read_right : Document.optional c.entries "right" Term.ofJson = .ok (some c.right) :=
  Document.optional_some (c.lookup_entries "right")
    (Term.read_canonical false c.right (recovered _ (by simp [terms])))

theorem read_lower : Document.optional c.entries "start" Term.ofJson? = .ok (c.lower.map some) := by
  apply optional_bound
  · rw [lookup_entries, lookup_lower]
  · intro t mem
    exact recovered t (by simp [terms, Option.mem_def.mp mem])

theorem read_upper : Document.optional c.entries "end" Term.ofJson? = .ok (c.upper.map some) := by
  apply optional_bound
  · rw [lookup_entries, lookup_upper]
  · intro t mem
    exact recovered t (by simp [terms, Option.mem_def.mp mem])

theorem read_candidates : Document.optional c.entries "in_values" (Term.readList false) =
    .ok (if c.candidates.isEmpty then none else some c.candidates) := by
  apply Document.optional_unless
  · rw [lookup_entries, lookup_candidates, apply_ite (Option.map Json.canonical)]
    rfl
  · apply Term.readItems_canonical false c.candidates
    intro v mem
    rw [Term.listLiterals_eq_flatMap] at mem
    obtain ⟨t, candidate, mem⟩ := List.mem_flatMap.mp mem
    exact recovered t (by simp [terms, candidate]) v mem

end Terms

/-- A condition is read back from its document, in which the parts that are empty are left out. -/
theorem ofJson_canonical {c : Condition} (recovered : ∀ v ∈ c.literals, v.Recovered) :
    Condition.ofJson c.toJson.canonical = .ok c := by
  rw [literals, Term.listLiterals_eq_flatMap] at recovered
  have terms : ∀ t ∈ c.terms, ∀ v ∈ t.literals, v.Recovered := fun t mem v found =>
    recovered v (List.mem_flatMap_of_mem mem found)
  have candidates : (if c.candidates.isEmpty then none else some c.candidates).getD [] =
      c.candidates := by
    cases c.candidates <;> rfl
  have pattern : (if c.pattern.isEmpty then none else some c.pattern).getD "" = c.pattern := by
    by_cases empty : c.pattern.isEmpty
    · rw [if_pos empty, String.isEmpty_iff.mp empty]
      rfl
    · rw [if_neg empty]
      rfl
  have bound : ∀ o : Option Term, (o.map some).join = o := by
    intro o
    cases o <;> rfl
  -- The defaults of absent members are just the parts for which no member is written.
  have parts : ({ op := c.op, left := c.left, right := c.right, negate := c.negate
                  candidates := (if c.candidates.isEmpty then none else some c.candidates).getD []
                  lower := (c.lower.map some).join
                  upper := (c.upper.map some).join
                  pattern := (if c.pattern.isEmpty then none else some c.pattern).getD "" } :
      Condition) = c := by
    rw [candidates, pattern, bound, bound]
  have document : c.toJson.canonical = .object c.entries := rfl
  rw [document, Condition.ofJson, read_upper terms, read_candidates terms, read_left terms,
    read_negate, read_op, read_pattern, read_right terms, read_lower terms]
  exact congrArg Except.ok parts

theorem listOfJson_canonical {cs : List Condition}
    (recovered : ∀ v ∈ cs.flatMap literals, v.Recovered) :
    Condition.listOfJson (Json.array (cs.map toJson)).canonical = .ok cs := by
  rw [Json.canonical, Json.canonicalItems_eq_map, listOfJson]
  induction cs with
  | nil => rfl
  | cons c cs ih =>
    rw [List.flatMap_cons, List.forall_mem_append] at recovered
    rw [List.map_cons, List.map_cons, List.mapM_cons, ofJson_canonical recovered.1,
      ih recovered.2]
    rfl

end Condition

mutual

/-- The literals of the conditions of a query, at any depth. -/
def Query.literals : Query → List Value
  | .mk _ conditions subQueries =>
    conditions.flatMap Condition.literals ++ Query.listLiterals subQueries
termination_by structural q => q

def Query.listLiterals : List Query → List Value
  | [] => []
  | q :: qs => q.literals ++ Query.listLiterals qs
termination_by structural qs => qs

end

/-- A member of a document with its reading as a list of queries. -/
def QueryMember.ofJson (json : Json) : QueryMember := ⟨json, Query.listOfJson json⟩

namespace Query

theorem ofMembers_congr {members others : List (String × QueryMember)}
    (same : ∀ key, members.lookup key = others.lookup key) :
    ofMembers members = ofMembers others := by
  unfold ofMembers Document.optional
  simp only [same]

theorem readMembers_eq_map (entries : List (String × Json)) :
    readMembers entries = entries.map fun e => (e.1, QueryMember.ofJson e.2) := by
  induction entries with
  | nil => rfl
  | cons e rest ih => rw [readMembers, ih, List.map_cons, QueryMember.ofJson]

theorem ofJson_document {entries : List (String × Json)}
    (distinct : (entries.map Prod.fst).Nodup) :
    Query.ofJson (Json.object entries).canonical =
      ofMembers (entries.map fun e => (e.1, QueryMember.ofJson e.2.canonical)) := by
  rw [Json.canonical, Query.ofJson, readMembers_eq_map]
  exact ofMembers_congr (lookup_readings QueryMember.ofJson distinct)

mutual

theorem ofJson_canonical : ∀ q : Query, (∀ v ∈ q.literals, v.Recovered) →
    Query.ofJson q.toJson.canonical = .ok q
  | .mk isOr conditions subQueries, recovered => by
    rw [literals, List.forall_mem_append] at recovered
    have conds := Condition.listOfJson_canonical recovered.1
    have subs := readItems_canonical subQueries recovered.2
    let entries : List (String × Json) := [("is_or", .bool isOr),
      ("conditions", .array (conditions.map Condition.toJson)),
      ("sub_queries", .array (listToJson subQueries))]
    let members := entries.map fun e => (e.1, QueryMember.ofJson e.2.canonical)
    have readConditions : Document.optional members "conditions" (fun m =>
        Condition.listOfJson m.json) = .ok (some conditions) := Document.optional_some rfl conds
    have readIsOr : Document.optional members "is_or" (fun m => bool m.json) = .ok (some isOr) :=
      Document.optional_some rfl rfl
    have readSubQueries : Document.optional members "sub_queries" (fun m => m.queries) =
        .ok (some subQueries) := Document.optional_some rfl subs
    have read : ofMembers members = .ok (.mk isOr conditions subQueries) := by
      rw [ofMembers, readConditions, readIsOr, readSubQueries]
      rfl
    rw [toJson, ofJson_document (by simp)]
    exact read
termination_by structural q => q

theorem readItems_canonical : ∀ qs : List Query, (∀ v ∈ listLiterals qs, v.Recovered) →
    readItems (Json.canonicalItems (listToJson qs)) = .ok qs
  | [], _ => rfl
  | q :: qs, recovered => by
    rw [listLiterals, List.forall_mem_append] at recovered
    rw [listToJson, Json.canonicalItems, readItems, ofJson_canonical q recovered.1,
      readItems_canonical qs recovered.2]
    rfl
termination_by structural qs => qs

end

end Query

mutual

theorem Term.bounded_toJson : ∀ t : Term, t.toJson.Bounded
  | .property _ => ⟨trivial, trivial, trivial⟩
  | .literal v => ⟨trivial, v.bounded_toJson, trivial⟩
  | .binding _ => ⟨trivial, trivial, trivial⟩
  | .call _ args => ⟨trivial, trivial, Term.bounded_listToJson args, trivial⟩
  | .arithmetic _ left right =>
    ⟨trivial, trivial, Term.bounded_toJson left, Term.bounded_toJson right, trivial⟩
  | .cast _ term => ⟨trivial, trivial, Term.bounded_toJson term, trivial⟩
  | .dateTime _ => ⟨trivial, trivial, trivial⟩
termination_by structural t => t

theorem Term.bounded_listToJson : ∀ ts : List Term, Json.BoundedItems (Term.listToJson ts)
  | [] => trivial
  | t :: ts => ⟨Term.bounded_toJson t, Term.bounded_listToJson ts⟩
termination_by structural ts => ts

end

theorem Condition.bounded_toJson (c : Condition) : c.toJson.Bounded := by
  have given : ∀ (present : Bool) (key : String) (json : Json), json.Bounded →
      ∀ e ∈ memberIf present key json, e.2.Bounded := by
    intro present key json bounded e mem
    cases present with
    | false => cases mem
    | true =>
      cases List.mem_singleton.mp mem
      exact bounded
  have bound : ∀ (o : Option Term) (key : String),
      ∀ e ∈ o.toList.map fun t => (key, t.toJson), e.2.Bounded := by
    intro o key e mem
    obtain ⟨t, _, rfl⟩ := List.mem_map.mp mem
    exact t.bounded_toJson
  rw [toJson_eq, Json.Bounded, Json.boundedEntries_iff]
  unfold members
  simp only [List.forall_mem_append]
  refine ⟨⟨⟨⟨?_, ?_⟩, bound _ _⟩, bound _ _⟩, given _ _ _ trivial⟩
  · exact Json.boundedEntries_iff.mp
      ⟨trivial, c.left.bounded_toJson, c.right.bounded_toJson, trivial, trivial⟩
  · exact given _ _ _ (Term.bounded_listToJson c.candidates)

mutual

theorem Query.bounded_toJson : ∀ q : Query, q.toJson.Bounded
  | .mk isOr conditions subQueries => by
    have conds : Json.BoundedItems (conditions.map Condition.toJson) := by
      rw [Json.boundedItems_iff, List.forall_mem_map]
      exact fun c _ => c.bounded_toJson
    exact ⟨trivial, conds, Query.bounded_listToJson subQueries, trivial⟩
termination_by structural q => q

theorem Query.bounded_listToJson : ∀ qs : List Query, Json.BoundedItems (Query.listToJson qs)
  | [] => trivial
  | q :: qs => ⟨Query.bounded_toJson q, Query.bounded_listToJson qs⟩
termination_by structural qs => qs

end

/-- A query is read back from its text as it was, if its literals hold no floats that text cannot
show and the text nests no deeper than a reader allows. -/
theorem Query.readJson_render {q : Query} (ordered : ∀ v ∈ q.literals, v.Ordered)
    (finite : ∀ v ∈ q.literals, v.Finite) (fits : q.toJson.nesting ≤ Json.maxLevels) :
    Query.readJson q.toJson.render = .ok q := by
  have document := q.ofJson_canonical fun v mem => Value.recovered (ordered v mem) (finite v mem)
  rw [readJson, Json.read?_render q.bounded_toJson fits]
  exact document

theorem Query.readJson_render_nested :
    ∃ q : Query, q.literals = [.int 1, .float (.zero true), .null,
        .object [("kind", .string "cast")], .array [], .null] ∧
      q.toJson.nesting = 11 ∧ Query.readJson q.toJson.render = .ok q := by
  let between : Condition :=
    { op := .between, left := .literal (.int 1), right := .literal (.float (.zero true)),
      lower := some (.literal .null) }
  let listed : Condition :=
    { op := .notIn, left := .call "f" [.literal (.object [("kind", .string "cast")]), .call "g" []],
      right := .literal (.array []), negate := true,
      candidates := [.arithmetic .mod (.cast "int" (.binding "$$n")) (.property "")] }
  let q : Query :=
    .mk true [between] [.mk false [] [.all [listed], .empty, .any [.isNull (.dateTime "now")]]]
  have literals : q.literals = [.int 1, .float (.zero true), .null,
      .object [("kind", .string "cast")], .array [], .null] := rfl
  have ordered : ∀ v ∈ q.literals, v.Ordered := by
    simp only [literals, List.forall_mem_cons, List.not_mem_nil, false_implies, implies_true,
      Value.Ordered, Value.OrderedItems, Value.OrderedEntries, Entries.Ascending]
    decide
  have finite : ∀ v ∈ q.literals, v.Finite := by
    simp only [literals, List.forall_mem_cons, List.not_mem_nil, false_implies, implies_true,
      Value.Finite, Value.FiniteItems, Value.FiniteEntries]
    decide
  exact ⟨q, literals, rfl, readJson_render ordered finite (by decide)⟩

end FlatRecord
