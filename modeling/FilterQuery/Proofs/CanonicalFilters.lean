import FilterQuery.FilterTexts
import FilterQuery.Proofs.FlatFilters
import FilterQuery.Proofs.Lexemes

/-!
# Canonical filters

The filters that queries stand for: chains are flat, a chain has at least two parts, and every
constraint has an argument that its comparison takes and that can be written in a query.  A filter
put together by hand may have chains of one part and chains inside chains of the same kind; its
normal form has neither.  Groups are only needed where a disjunction is part of a conjunction.
-/

namespace FilterQuery

/-- Whether a value can be written in a query so that it is read as that value. -/
def Value.IsWritable : Value → Prop
  | .string text => IsBareRun text.toList ∧
    (classify text.toList = .identifier ∨ classify text.toList = .text)
  | .float x => x.isFinite = true
  | .integer _ | .boolean _ | .null => True

/-- The arguments that a comparison takes, made of values that can be written. -/
inductive Argument.Suits (op : Comparison) : Argument → Prop where
  | any (equality : op ∈ [.equal, .notEqual]) {value : Value} (writable : value.IsWritable) :
      Suits op (.one value)
  | ordered (ordering : op ∈ [.less, .lessOrEqual, .greater, .greaterOrEqual]) {value : Value}
      (orderable : value.isOrderable = true) (writable : value.IsWritable) : Suits op (.one value)
  | list (membership : op ∈ [.within, .outside]) {values : List Value} (ne_nil : values ≠ [])
      (orderable : ∀ value ∈ values, value.isOrderable = true)
      (writable : ∀ value ∈ values, value.IsWritable) : Suits op (.list values)

theorem Argument.suits_equal (n : Int64) : (Argument.one (.integer n)).Suits .equal :=
  .any (by simp) trivial

structure Condition.IsWritable (condition : Condition) : Prop where
  identifier : classify condition.field.toList = .identifier
  suits : condition.argument.Suits condition.comparison

namespace Filter

/-- A filter that can be written in a query. -/
inductive IsPrintable : Filter → Prop where
  | constraint {field : String} {op : Comparison} {argument : Argument}
      (identifier : classify field.toList = .identifier) (suits : argument.Suits op) :
      IsPrintable (.constraint field op argument)
  | combination {op : Connective} {parts : List Filter} (ne_nil : parts ≠ [])
      (printable : ∀ part ∈ parts, IsPrintable part) : IsPrintable (.combination op parts)

/-- A filter that is read from a query, up to the depth of its groups. -/
inductive IsCanonical : Filter → Prop where
  | constraint {field : String} {op : Comparison} {argument : Argument}
      (identifier : classify field.toList = .identifier) (suits : argument.Suits op) :
      IsCanonical (.constraint field op argument)
  | combination {op : Connective} {parts : List Filter} (two : 2 ≤ parts.length)
      (canonical : ∀ part ∈ parts, IsCanonical part)
      (mixed : ∀ inner, Filter.combination op inner ∉ parts) : IsCanonical (.combination op parts)

theorem IsCanonical.isPrintable {filter : Filter} (h : filter.IsCanonical) :
    filter.IsPrintable := by
  induction h with
  | constraint hfield hsuits => exact .constraint hfield hsuits
  | combination htwo _ _ ih =>
    refine .combination ?_ ih
    rintro rfl
    simp at htwo

mutual

/-- A filter without chains of one part and with chains made flat. -/
def normal : Filter → Filter
  | constraint field op argument => constraint field op argument
  | combination op [] => combination op []
  | combination op (first :: rest) => foldNormal op first.normal rest

def foldNormal (op : Connective) (left : Filter) : List Filter → Filter
  | [] => left
  | part :: rest => foldNormal op (left.combine op part.normal) rest

end

mutual

/-- How deep the groups of the canonical query are nested. -/
def grouping : Filter → Nat
  | constraint .. => 0
  | combination op parts => partsGrouping op parts

def partsGrouping (outer : Connective) : List Filter → Nat
  | [] => 0
  | part :: rest =>
    max (if part.needsGroup outer then part.grouping + 1 else part.grouping)
      (partsGrouping outer rest)

end

mutual

/-- The greatest number of steps on a path down a filter that lead from a conjunction to a
disjunction. -/
def alternations : Filter → Nat
  | constraint .. => 0
  | combination op parts => partsAlternations op parts

def partsAlternations (outer : Connective) : List Filter → Nat
  | [] => 0
  | part :: rest =>
    max (part.alternations + if outer = .and ∧ part.isUnder .or then 1 else 0)
      (partsAlternations outer rest)

end

/-! ## Canonical filters are normal -/

private theorem foldNormal_eq_foldl (op : Connective) (left : Filter) (rest : List Filter) :
    foldNormal op left rest = (rest.map normal).foldl (combine op) left := by
  induction rest generalizing left with
  | nil => rfl
  | cons part rest ih => rw [foldNormal, ih, List.map_cons, List.foldl_cons]

private theorem foldl_combine_combination {op : Connective} {parts rest : List Filter}
    (hmixed : ∀ part ∈ rest, part.isUnder op = false) :
    rest.foldl (combine op) (combination op parts) = combination op (parts ++ rest) := by
  induction rest generalizing parts with
  | nil => simp
  | cons part rest ih =>
    have hpart := operands_of_not_isUnder (hmixed part List.mem_cons_self)
    rw [List.foldl_cons, combine, operands_combination, hpart,
      ih fun p hp => hmixed p (List.mem_cons_of_mem _ hp)]
    simp

theorem foldl_combine_eq_combination {op : Connective} {first second : Filter} {rest : List Filter}
    (hmixed : ∀ part ∈ first :: second :: rest, part.isUnder op = false) :
    (second :: rest).foldl (combine op) first = combination op (first :: second :: rest) := by
  have hfirst := operands_of_not_isUnder (hmixed first (by simp))
  have hsecond := operands_of_not_isUnder (hmixed second (by simp))
  rw [List.foldl_cons, combine, hfirst, hsecond,
    foldl_combine_combination fun p hp => hmixed p (by simp [hp])]
  rfl

theorem IsCanonical.normal_eq {filter : Filter} (h : filter.IsCanonical) :
    filter.normal = filter := by
  induction h with
  | constraint => rfl
  | @combination op parts htwo hcanonical hmixed ih =>
    have hunder := not_isUnder_of_mixed hmixed
    match parts with
    | [] => simp at htwo
    | [_] => simp at htwo
    | first :: second :: rest =>
      have hrest : (second :: rest).map normal = second :: rest :=
        (List.map_congr_left fun p hp => ih p (List.mem_cons_of_mem _ hp)).trans (List.map_id _)
      rw [normal, ih first List.mem_cons_self, foldNormal_eq_foldl, hrest,
        foldl_combine_eq_combination hunder]

/-! ## Groups of canonical filters -/

/-- The only combination inside another that needs a group is a disjunction in a conjunction. -/
theorem needsGroup_of_not_isUnder {outer : Connective} {part : Filter}
    (h : part.isUnder outer = false) :
    part.needsGroup outer = decide (outer = .and ∧ part.isUnder .or = true) := by
  cases part with
  | constraint => simp [needsGroup, isUnder]
  | combination inner parts =>
    cases outer <;> cases inner <;> simp_all [isUnder, needsGroup] <;> decide

private theorem partsGrouping_eq {op : Connective} {parts : List Filter}
    (hgrouping : ∀ part ∈ parts, part.grouping = part.alternations)
    (hunder : ∀ part ∈ parts, part.isUnder op = false) :
    partsGrouping op parts = partsAlternations op parts := by
  induction parts with
  | nil => rfl
  | cons part rest ih =>
    have hpart := hgrouping part List.mem_cons_self
    have hgroup := needsGroup_of_not_isUnder (hunder part List.mem_cons_self)
    have hrest := ih (fun p hp => hgrouping p (List.mem_cons_of_mem _ hp))
      (fun p hp => hunder p (List.mem_cons_of_mem _ hp))
    rw [partsGrouping, partsAlternations, hrest, hgroup, hpart]
    by_cases hor : op = .and ∧ part.isUnder .or = true
    · simp [hor]
    · simp [hor]

theorem IsCanonical.grouping_eq {filter : Filter} (h : filter.IsCanonical) :
    filter.grouping = filter.alternations := by
  induction h with
  | constraint => rfl
  | combination _ _ hmixed ih =>
    rw [grouping, alternations]
    exact partsGrouping_eq ih (not_isUnder_of_mixed hmixed)

theorem partsAlternations_append (op : Connective) (xs ys : List Filter) :
    partsAlternations op (xs ++ ys) =
      max (partsAlternations op xs) (partsAlternations op ys) := by
  induction xs with
  | nil => simp [partsAlternations]
  | cons x xs ih => rw [List.cons_append, partsAlternations, partsAlternations, ih, Nat.max_assoc]

theorem partsAlternations_operands (op : Connective) (filter : Filter) :
    partsAlternations op (filter.operands op) =
      filter.alternations + if op = .and ∧ filter.isUnder .or then 1 else 0 := by
  cases hunder : filter.isUnder op with
  | false =>
    rw [operands_of_not_isUnder hunder, partsAlternations, partsAlternations]
    simp
  | true =>
    obtain ⟨parts, rfl⟩ := isUnder_iff.mp hunder
    rw [operands_combination, alternations]
    cases op <;> simp [isUnder]

theorem alternations_combine (op : Connective) (left right : Filter) :
    (left.combine op right).alternations =
      max (left.alternations + if op = .and ∧ left.isUnder .or then 1 else 0)
        (right.alternations + if op = .and ∧ right.isUnder .or then 1 else 0) := by
  rw [combine, alternations, partsAlternations_append, partsAlternations_operands,
    partsAlternations_operands]

/-! ## Combining canonical filters -/

/-- Canonical filters are the flat ones whose conditions can all be written. -/
theorem isCanonical_iff {filter : Filter} :
    filter.IsCanonical ↔ filter.IsFlat ∧ ∀ condition ∈ filter.conditions, condition.IsWritable := by
  constructor
  · intro h
    induction h with
    | constraint hfield hsuits =>
      refine ⟨.constraint, ?_⟩
      intro condition hmem
      rw [List.mem_singleton.mp hmem]
      exact ⟨hfield, hsuits⟩
    | combination htwo _ hmixed ih =>
      refine ⟨.combination htwo (fun part hmem => (ih part hmem).1) hmixed, ?_⟩
      intro condition hmem
      obtain ⟨part, hpart, hcondition⟩ := mem_partConditions.mp hmem
      exact (ih part hpart).2 condition hcondition
  · rintro ⟨hflat, hwritable⟩
    induction hflat with
    | constraint =>
      obtain ⟨hfield, hsuits⟩ := hwritable _ (List.mem_singleton.mpr rfl)
      exact .constraint hfield hsuits
    | combination htwo _ hmixed ih =>
      refine .combination htwo (fun part hmem => ih part hmem ?_) hmixed
      intro condition hcondition
      exact hwritable condition (mem_partConditions.mpr ⟨part, hmem, hcondition⟩)

theorem IsCanonical.combine {left right : Filter} (hleft : left.IsCanonical)
    (hright : right.IsCanonical) (op : Connective) : (left.combine op right).IsCanonical := by
  obtain ⟨hflat, hwritable⟩ := isCanonical_iff.mp hleft
  obtain ⟨hflat', hwritable'⟩ := isCanonical_iff.mp hright
  refine isCanonical_iff.mpr ⟨hflat.combine hflat' op, ?_⟩
  intro condition hmem
  rw [conditions_combine] at hmem
  rcases List.mem_append.mp hmem with hmem | hmem
  · exact hwritable condition hmem
  · exact hwritable' condition hmem

end Filter

end FilterQuery
