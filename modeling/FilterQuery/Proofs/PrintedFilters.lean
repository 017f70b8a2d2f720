import FilterQuery.Proofs.Enclosures
import FilterQuery.Proofs.GrammarReading
import FilterQuery.Proofs.WrittenFilters

/-!
# Printed filters

A filter that was put together by hand need not be one that a query is read as: it may have chains
of one part, and chains inside chains of the same kind.  Its canonical query is read as its normal
form all the same, as long as the groups in the query are not nested too deep; otherwise the query
is refused at the first parenthesis that goes too deep.
-/

namespace FilterQuery

theorem Written.groupNesting_tokenize {layer : Layer} {query : String} {filter : Filter}
    {nesting : Nat} (h : Written layer query.toList filter nesting) :
    groupNesting (tokenize query) = nesting := by
  obtain ⟨d, last, htokens, hend, hnesting, -⟩ := h.exists_derivation
  rw [htokens, groupNesting_derivation d last hend, hnesting]

theorem groupNesting_queryText {filter : Filter} (h : filter.IsPrintable) :
    groupNesting (tokenize filter.queryText) = filter.grouping :=
  h.written.groupNesting_tokenize

/-- A query whose groups are nested too deep is refused for that. -/
theorem parse_of_deep {query : String} {d : Derivation .disjunction} {last : Token}
    (htokens : tokenize query = d.tokens ++ [last]) (hdeep : maxNesting < d.nesting) :
    ∃ token ∈ tokenize query, token.kind = .opening ∧
      parse query = .error (.nestingTooDeep token) := by
  obtain ⟨token, hmem, hkind, hafter⟩ := after_derivation_of_deep d hdeep
  refine ⟨token, by simp [htokens, hmem], hkind, ?_⟩
  rw [parse_eq_error_iff, htokens]
  exact ReadingState.after_append_of_error hafter _

/-- The canonical query of a printable filter is read as its normal form, unless its groups are
nested too deep, which is then the error. -/
theorem parse_queryText_eq_normal {filter : Filter} (h : filter.IsPrintable) :
    (groupNesting (tokenize filter.queryText) ≤ maxNesting →
      parse filter.queryText = .ok filter.normal) ∧
    (maxNesting < groupNesting (tokenize filter.queryText) →
      ∃ token ∈ tokenize filter.queryText, token.kind = .opening ∧
        parse filter.queryText = .error (.nestingTooDeep token)) := by
  obtain ⟨d, last, htokens, hend, hgrouping, hfilter⟩ := exists_derivation_queryText h
  rw [groupNesting_queryText h, ← hgrouping]
  constructor
  · intro hnesting
    exact parse_eq_ok_iff_derives.mpr ⟨d.tokens, last, htokens, hend, d, rfl, hnesting, hfilter⟩
  · exact parse_of_deep htokens

/-- A constraint in chains of one part, in which disjunctions and conjunctions take turns. -/
def Filter.wrapped : Nat → Filter
  | 0 => .constraint "a" .equal (.one (.integer 1))
  | n + 1 => .combination .and [.combination .or [wrapped n]]

theorem Filter.isPrintable_wrapped (n : Nat) : (wrapped n).IsPrintable := by
  induction n with
  | zero => exact .constraint (by decide) (Argument.suits_equal 1)
  | succ n ih =>
    have hinner : IsPrintable (.combination .or [wrapped n]) :=
      .combination (by simp) (by simpa using ih)
    exact .combination (by simp) (by simpa using hinner)

theorem Filter.grouping_wrapped (n : Nat) : (wrapped n).grouping = n := by
  induction n with
  | zero => rfl
  | succ n ih =>
    have hfree : (wrapped n).needsGroup .or = false := by cases n <;> rfl
    have hgroup : (combination .or [wrapped n]).needsGroup .and = true := rfl
    simp [wrapped, grouping, partsGrouping, hgroup, hfree, ih]

theorem Filter.normal_wrapped (n : Nat) :
    (wrapped n).normal = .constraint "a" .equal (.one (.integer 1)) := by
  induction n with
  | zero => rfl
  | succ n ih => simpa [wrapped, normal, foldNormal] using ih

theorem parse_queryText_eq_normal_wrapped :
    (Filter.wrapped 128).IsPrintable ∧ (Filter.wrapped 129).IsPrintable ∧
      parse (Filter.wrapped 128).queryText = .ok (.constraint "a" .equal (.one (.integer 1))) ∧
      ∃ token, parse (Filter.wrapped 129).queryText = .error (.nestingTooDeep token) := by
  have h := Filter.isPrintable_wrapped 128
  have h' := Filter.isPrintable_wrapped 129
  have hnesting : groupNesting (tokenize (Filter.wrapped 128).queryText) ≤ maxNesting := by
    rw [groupNesting_queryText h, Filter.grouping_wrapped]
    decide
  have hdeep : maxNesting < groupNesting (tokenize (Filter.wrapped 129).queryText) := by
    rw [groupNesting_queryText h', Filter.grouping_wrapped]
    decide
  obtain ⟨token, -, -, htoken⟩ := (parse_queryText_eq_normal h').2 hdeep
  refine ⟨h, h', ?_, token, htoken⟩
  rw [(parse_queryText_eq_normal h).1 hnesting, Filter.normal_wrapped]

end FilterQuery
