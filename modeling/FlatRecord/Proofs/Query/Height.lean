import FlatRecord.Query.Basic

namespace FlatRecord

mutual

/-- How many levels the deepest term within a term lies below it. -/
def Term.height : Term → Nat
  | .call _ args => Term.listHeight args
  | .arithmetic _ left right => max (left.height + 1) (right.height + 1)
  | .cast _ term => term.height + 1
  | _ => 0
termination_by structural t => t

/-- How many levels the deepest of some terms, or within them, lies below what they are part of. -/
def Term.listHeight : List Term → Nat
  | [] => 0
  | t :: ts => max (t.height + 1) (Term.listHeight ts)
termination_by structural ts => ts

end

/-- Every term of a condition counts, whether or not its operator reads it. -/
def Condition.height (c : Condition) : Nat := Term.listHeight c.terms

def Condition.listHeight : List Condition → Nat
  | [] => 0
  | c :: cs => max (c.height + 1) (Condition.listHeight cs)

mutual

/-- How many levels the deepest node of a query lies below it: conditions and further queries are
one level below their query, and terms are one level below what they are part of. -/
def Query.height : Query → Nat
  | .mk _ conditions subQueries => max (Condition.listHeight conditions) (Query.listHeight subQueries)
termination_by structural q => q

def Query.listHeight : List Query → Nat
  | [] => 0
  | q :: qs => max (q.height + 1) (Query.listHeight qs)
termination_by structural qs => qs

end

namespace Term

theorem height_lt_listHeight {t : Term} {ts : List Term} (mem : t ∈ ts) :
    t.height < listHeight ts := by
  induction ts with
  | nil => cases mem
  | cons s ts ih =>
    rw [listHeight]
    rcases List.mem_cons.mp mem with rfl | mem
    · exact Nat.lt_of_succ_le (Nat.le_max_left _ _)
    · exact Nat.lt_of_lt_of_le (ih mem) (Nat.le_max_right _ _)

theorem listHeight_le_of_subset {ss ts : List Term} (subset : ss ⊆ ts) :
    listHeight ss ≤ listHeight ts := by
  induction ss with
  | nil => exact Nat.zero_le _
  | cons s ss ih =>
    obtain ⟨mem, rest⟩ := List.cons_subset.mp subset
    rw [listHeight]
    exact Nat.max_le.mpr ⟨height_lt_listHeight mem, ih rest⟩

end Term

end FlatRecord
