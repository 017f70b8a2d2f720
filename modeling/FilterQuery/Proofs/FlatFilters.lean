import FilterQuery.Filters

/-!
# Flat filters

A filter is flat if each of its combinations has two parts or more, none of which is a combination
under the same connective.  Filters are combined by putting the operands that they contribute one
behind the other.  So, whatever the filters are, it makes no difference which two of three are
combined first, and the conditions of the one filter stand behind those of the other.  Flat filters
are combined to a flat one, because an operand of a flat filter is never under the connective.
-/

namespace FilterQuery

/-- What a constraint says: which field is compared, how, and with what. -/
structure Condition where
  field : String
  comparison : Comparison
  argument : Argument

namespace Filter

/-- What holds of every constraint, and of a combination if it holds of each of its parts, holds of
every filter. -/
@[elab_as_elim]
theorem parts_induction {motive : Filter → Prop}
    (constraint : ∀ field op argument, motive (.constraint field op argument))
    (combination : ∀ op parts, (∀ part ∈ parts, motive part) → motive (.combination op parts)) :
    ∀ filter, motive filter
  | .constraint field op argument => constraint field op argument
  | .combination op parts =>
    combination op parts fun part _ => parts_induction constraint combination part

mutual

/-- The conditions of a filter, from left to right. -/
def conditions : Filter → List Condition
  | constraint field op argument => [⟨field, op, argument⟩]
  | combination _ parts => partConditions parts

/-- The conditions of some filters, from left to right. -/
def partConditions : List Filter → List Condition
  | [] => []
  | part :: rest => part.conditions ++ partConditions rest

end

/-- Whether a filter is a combination under a connective. -/
def isUnder (op : Connective) : Filter → Bool
  | combination inner _ => decide (inner = op)
  | constraint .. => false

/-- A filter whose combinations have two parts or more and no part under their own connective. -/
inductive IsFlat : Filter → Prop where
  | constraint {field : String} {op : Comparison} {argument : Argument} :
      IsFlat (.constraint field op argument)
  | combination {op : Connective} {parts : List Filter} (two : 2 ≤ parts.length)
      (flat : ∀ part ∈ parts, IsFlat part) (mixed : ∀ inner, Filter.combination op inner ∉ parts) :
      IsFlat (.combination op parts)

/-! ## Operands -/

theorem isUnder_iff {op : Connective} {filter : Filter} :
    filter.isUnder op = true ↔ ∃ parts, filter = .combination op parts := by
  cases filter with
  | constraint => simp [isUnder]
  | combination inner parts =>
    simp only [isUnder, decide_eq_true_eq, combination.injEq]
    constructor
    · rintro rfl
      exact ⟨parts, rfl, rfl⟩
    · rintro ⟨_, h, _⟩
      exact h

theorem operands_of_not_isUnder {op : Connective} {filter : Filter}
    (h : filter.isUnder op = false) : filter.operands op = [filter] := by
  cases filter with
  | constraint => rfl
  | combination inner parts =>
    have hne : inner ≠ op := by simpa [isUnder] using h
    rw [operands, if_neg hne]

@[simp] theorem operands_combination (op : Connective) (parts : List Filter) :
    (combination op parts).operands op = parts := by
  rw [operands, if_pos rfl]

/-- A combined filter contributes what both filters contribute. -/
theorem operands_combine (op : Connective) (left right : Filter) :
    (left.combine op right).operands op = left.operands op ++ right.operands op :=
  operands_combination op _

theorem combine_assoc (op : Connective) (left middle right : Filter) :
    (left.combine op middle).combine op right = left.combine op (middle.combine op right) := by
  rw [combine, operands_combine, List.append_assoc, ← operands_combine, ← combine]

/-! ## Conditions -/

theorem partConditions_append (xs ys : List Filter) :
    partConditions (xs ++ ys) = partConditions xs ++ partConditions ys := by
  induction xs with
  | nil => rfl
  | cons x xs ih => rw [List.cons_append, partConditions, partConditions, ih, List.append_assoc]

theorem mem_partConditions {condition : Condition} {parts : List Filter} :
    condition ∈ partConditions parts ↔ ∃ part ∈ parts, condition ∈ part.conditions := by
  induction parts with
  | nil => simp [partConditions]
  | cons part rest ih => simp [partConditions, ih]

/-- The operands of a filter have the conditions of the filter. -/
theorem partConditions_operands (op : Connective) (filter : Filter) :
    partConditions (filter.operands op) = filter.conditions := by
  cases hunder : filter.isUnder op with
  | false =>
    rw [operands_of_not_isUnder hunder, partConditions, partConditions, List.append_nil]
  | true =>
    obtain ⟨parts, rfl⟩ := isUnder_iff.mp hunder
    rw [operands_combination, conditions]

theorem conditions_combine (op : Connective) (left right : Filter) :
    (left.combine op right).conditions = left.conditions ++ right.conditions := by
  rw [combine, conditions, partConditions_append, partConditions_operands,
    partConditions_operands]

/-! ## Flat filters -/

theorem not_isUnder_of_mixed {op : Connective} {parts : List Filter}
    (h : ∀ inner, combination op inner ∉ parts) : ∀ part ∈ parts, part.isUnder op = false := by
  intro part hmem
  cases hunder : part.isUnder op with
  | false => rfl
  | true =>
    obtain ⟨inner, rfl⟩ := isUnder_iff.mp hunder
    exact absurd hmem (h inner)

private theorem IsFlat.operands {filter : Filter} (h : filter.IsFlat) (op : Connective) :
    1 ≤ (filter.operands op).length ∧ (∀ part ∈ filter.operands op, part.IsFlat) ∧
      ∀ inner, Filter.combination op inner ∉ filter.operands op := by
  cases hunder : filter.isUnder op with
  | false =>
    rw [operands_of_not_isUnder hunder]
    refine ⟨by simp, by simpa using h, ?_⟩
    intro inner hmem
    rw [← List.mem_singleton.mp hmem] at hunder
    simp [isUnder] at hunder
  | true =>
    obtain ⟨parts, rfl⟩ := isUnder_iff.mp hunder
    rw [operands_combination]
    cases h with
    | combination htwo hflat hmixed => exact ⟨by omega, hflat, hmixed⟩

theorem IsFlat.combine {left right : Filter} (hleft : left.IsFlat) (hright : right.IsFlat)
    (op : Connective) : (left.combine op right).IsFlat := by
  obtain ⟨hlength, hflat, hmixed⟩ := hleft.operands op
  obtain ⟨hlength', hflat', hmixed'⟩ := hright.operands op
  refine .combination ?_ ?_ ?_
  · rw [List.length_append]
    omega
  · intro part hmem
    rcases List.mem_append.mp hmem with hmem | hmem
    · exact hflat part hmem
    · exact hflat' part hmem
  · intro inner hmem
    rcases List.mem_append.mp hmem with hmem | hmem
    · exact hmixed inner hmem
    · exact hmixed' inner hmem

/-- Combining filters is associative, it keeps all of their conditions in order, whatever the
filters are, and it keeps filters flat. -/
theorem combine_keeps_order_and_flatness (op : Connective) (left middle right : Filter) :
    (left.combine op middle).combine op right = left.combine op (middle.combine op right) ∧
    (left.combine op middle).conditions = left.conditions ++ middle.conditions ∧
    (left.IsFlat → middle.IsFlat → (left.combine op middle).IsFlat) :=
  ⟨combine_assoc op left middle right, conditions_combine op left middle,
    fun hleft hmiddle => hleft.combine hmiddle op⟩

theorem combine_keeps_order_and_flatness_spliced :
    ∃ left middle : Filter, left.IsFlat ∧ middle.IsFlat ∧ left.isUnder .and = true ∧
      middle.isUnder .or = true ∧ (left.combine .and middle).IsFlat ∧
      (left.combine .and middle).conditions.map Condition.field = ["a", "b", "c", "b"] ∧
      (left.combine .and middle).combine .and (.combination .and []) =
        left.combine .and middle := by
  let on (field : String) := Filter.constraint field .equal (.one .null)
  let left := Filter.combination .and [on "a", on "b"]
  let middle := Filter.combination .or [on "c", on "b"]
  have hleft : left.IsFlat :=
    .combination (by decide) (by simp [on, IsFlat.constraint]) (by simp [on])
  have hmiddle : middle.IsFlat :=
    .combination (by decide) (by simp [on, IsFlat.constraint]) (by simp [on])
  obtain ⟨hassoc, horder, hflat⟩ :=
    combine_keeps_order_and_flatness .and left middle (.combination .and [])
  refine ⟨left, middle, hleft, hmiddle, rfl, rfl, hflat hleft hmiddle, ?_, hassoc⟩
  rw [horder]
  decide

end Filter

end FilterQuery
