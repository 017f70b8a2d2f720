import FilterQuery.Proofs.CanonicalRoundTrip
import FilterQuery.Proofs.PrintedFilters

/-!
# Fewest parentheses

No query that is read as a filter has fewer parentheses than its canonical query, and in none are
groups nested less deep.  Each list takes a parenthesis however it is written, and so does each
disjunction that is part of a conjunction; joining chains never asks for another one.  The canonical
query has no others.
-/

namespace FilterQuery

/-- How many parentheses some tokens open, for groups and for lists. -/
def openings (tokens : List Token) : Nat := tokens.countP fun token => token.kind = .opening

namespace Filter

mutual

def openings : Filter → Nat
  | constraint _ _ (.one _) => 0
  | constraint _ _ (.list _) => 1
  | combination op parts => partsOpenings op parts

def partsOpenings (outer : Connective) : List Filter → Nat
  | [] => 0
  | part :: rest =>
    (part.openings + if part.needsGroup outer then 1 else 0) + partsOpenings outer rest

end

/-! ## Parentheses of derivations -/

theorem partsOpenings_append (op : Connective) (xs ys : List Filter) :
    partsOpenings op (xs ++ ys) = partsOpenings op xs + partsOpenings op ys := by
  induction xs with
  | nil => simp [partsOpenings]
  | cons x xs ih =>
    rw [List.cons_append, partsOpenings, partsOpenings, ih,
      Nat.add_assoc _ _ (partsOpenings op ys)]

theorem partsOpenings_operands (op : Connective) (filter : Filter) :
    partsOpenings op (filter.operands op) =
      filter.openings + if op = .and ∧ filter.isUnder .or then 1 else 0 := by
  cases hunder : filter.isUnder op with
  | false =>
    rw [operands_of_not_isUnder hunder, partsOpenings, partsOpenings,
      needsGroup_of_not_isUnder hunder]
    simp
  | true =>
    obtain ⟨parts, rfl⟩ := isUnder_iff.mp hunder
    rw [operands_combination, openings]
    cases op <;> simp [isUnder]

theorem openings_combine (op : Connective) (left right : Filter) :
    (left.combine op right).openings =
      (left.openings + if op = .and ∧ left.isUnder .or then 1 else 0) +
        (right.openings + if op = .and ∧ right.isUnder .or then 1 else 0) := by
  rw [combine, openings, partsOpenings_append, partsOpenings_operands, partsOpenings_operands]

end Filter

/-- A derivation opens a parenthesis for each list and for each disjunction inside a
conjunction. -/
theorem countsGroups_openings :
    CountsGroups (· + ·) Filter.openings fun d => openings d.tokens where
  join_le := Nat.add_le_add
  need_and := by simp [Filter.openings_combine]
  need_or := by simp [Filter.openings_combine]
  constraint := by
    intro field op sign argument
    cases argument with
    | any | ordered => exact Nat.zero_le _
    | list =>
      simp [Filter.openings, openings, Derivation.tokens, DerivedArgument.tokens,
        DerivedArgument.argument, Spelling.token]
  group := by simp [openings, Derivation.tokens, Spelling.token]
  operand := fun _ => rfl
  and := by simp [openings, Derivation.tokens, Spelling.token]
  conjunction := fun _ => rfl
  or := by simp [openings, Derivation.tokens, Spelling.token]

/-! ## Parentheses of texts -/

theorem Scans.openings_le {offset offset' : Nat} {text rest : List Char} {tokens : List Token}
    (h : Scans offset text tokens offset' rest) : openings tokens ≤ text.count '(' := by
  induction h with
  | done => exact Nat.zero_le _
  | @next _ _ blanks literal tail _ kind tokens _ hlex _ _ ih =>
    have hliteral : (if kind = .opening then 1 else 0) ≤ literal.count '(' := by
      cases hlex with
      | opening => exact Nat.le_refl 1
      | _ => exact Nat.zero_le _
    rw [List.count_append, List.count_append]
    simp only [openings, List.countP_cons, decide_eq_true_eq] at ih ⊢
    omega

theorem openings_tokenize_le (query : String) :
    openings (tokenize query) ≤ query.toList.count '(' := by
  obtain ⟨tokens, offset, rest, last, hscans, hstops, -, hlist⟩ := exists_scans 0 query.toList
  have htokens : tokenize query = tokens ++ [last] := hlist
  have hlast : openings [last] = 0 := by
    cases hstops <;> rfl
  rw [htokens, openings, List.countP_append]
  exact Nat.le_trans (Nat.le_of_eq (congrArg _ hlast)) hscans.openings_le

section Texts

variable {op : Comparison}

private theorem IsBareRun.count_opening {text : List Char} (h : IsBareRun text) :
    text.count '(' = 0 := by
  rw [List.count_eq_zero]
  intro hmem
  have hreserved := h.unreserved '(' hmem
  cases hreserved

private theorem count_symbol (op : Comparison) : op.symbol.toList.count '(' = 0 := by
  cases op <;> decide

private theorem count_values {values : List Value} (h : ∀ value ∈ values, value.IsWritable) :
    (String.intercalate "," (values.map Value.queryText)).toList.count '(' = 0 := by
  rw [count_intercalate (by decide), List.flatMap_map]
  induction values with
  | nil => rfl
  | cons value values ih =>
    have hvalue := (h value List.mem_cons_self).queryText.1.count_opening
    rw [List.flatMap_cons, List.count_append, hvalue,
      ih fun v hv => h v (List.mem_cons_of_mem _ hv)]

private theorem count_constraint {field : String} {argument : Argument}
    (hfield : classify field.toList = .identifier) (hsuits : argument.Suits op) :
    (Filter.constraint field op argument).queryText.toList.count '(' =
      (Filter.constraint field op argument).openings := by
  have hname := (isBareRun_of_identifier hfield).count_opening
  cases hsuits with
  | any _ hwritable | ordered _ _ hwritable =>
    simp [Filter.queryText, Argument.queryText, Filter.openings, hname, count_symbol,
      hwritable.queryText.1.count_opening]
  | list _ _ _ hwritable =>
    simp [Filter.queryText, Argument.queryText, Filter.openings, hname, count_symbol,
      count_values hwritable, -String.toList_intercalate]

end Texts

namespace Filter

private theorem count_partText {part : Filter} (outer : Connective)
    (h : part.queryText.toList.count '(' = part.openings) :
    (part.partText outer).count '(' =
      part.openings + if part.needsGroup outer then 1 else 0 := by
  unfold partText
  split <;> simp [h]

private theorem count_partTexts {outer : Connective} {parts : List Filter}
    (h : ∀ part ∈ parts, part.queryText.toList.count '(' = part.openings) :
    (parts.flatMap (partText outer)).count '(' = partsOpenings outer parts := by
  induction parts with
  | nil => rfl
  | cons part rest ih =>
    rw [List.flatMap_cons, List.count_append, partsOpenings,
      count_partText outer (h part List.mem_cons_self),
      ih fun p hp => h p (List.mem_cons_of_mem _ hp)]

theorem IsPrintable.count_queryText {filter : Filter} (h : filter.IsPrintable) :
    filter.queryText.toList.count '(' = filter.openings := by
  induction h with
  | constraint hfield hsuits => exact count_constraint hfield hsuits
  | @combination op parts _ _ ih =>
    have hsymbol : '(' ∉ op.symbol.toList := by cases op <;> decide
    have htexts : ((partTexts op parts).flatMap String.toList) = parts.flatMap (partText op) := by
      simp [partTexts_eq_map, List.flatMap_map]
    rw [queryText, count_intercalate hsymbol, htexts, count_partTexts ih, openings]

end Filter

/-! ## Canonical queries -/

/-- The canonical query of what a query is read as is read as the same, opens no more parentheses
than the query, and has its groups nested no deeper. -/
theorem fewest_parentheses_queryText {query : String} {filter : Filter}
    (h : parse query = .ok filter) :
    parse filter.queryText = .ok filter ∧
      openings (tokenize filter.queryText) ≤ openings (tokenize query) ∧
      groupNesting (tokenize filter.queryText) ≤ groupNesting (tokenize query) := by
  obtain ⟨hcanonical, hnesting⟩ := isCanonical_of_parse h
  have hprintable := hcanonical.isPrintable
  obtain ⟨tokens, last, htokens, hend, d, rfl, -, rfl⟩ := parse_eq_ok_iff_derives.mp h
  refine ⟨parse_queryText_of_isCanonical hcanonical hnesting, ?_, ?_⟩
  · calc openings (tokenize d.filter.queryText)
        ≤ d.filter.queryText.toList.count '(' := openings_tokenize_le _
      _ = d.filter.openings := hprintable.count_queryText
      _ ≤ openings d.tokens := countsGroups_openings.need_le d
      _ ≤ openings (tokenize query) := by
        rw [htokens, openings, openings, List.countP_append]
        exact Nat.le_add_right _ _
  · calc groupNesting (tokenize d.filter.queryText)
        = d.filter.alternations := by rw [groupNesting_queryText hprintable, hcanonical.grouping_eq]
      _ ≤ d.nesting := countsGroups_alternations.need_le d
      _ = groupNesting (tokenize query) := by rw [htokens, groupNesting_derivation d last hend]

theorem fewest_parentheses_queryText_doubled : ∃ filter, parse "((a==1))" = .ok filter ∧
    parse filter.queryText = .ok filter ∧
    openings (tokenize filter.queryText) ≤ openings (tokenize "((a==1))") ∧
    groupNesting (tokenize filter.queryText) ≤ groupNesting (tokenize "((a==1))") := by
  let filter := Filter.constraint "a" .equal (.one (.integer 1))
  have hwritten : Written .operand filter.queryText.toList filter 0 :=
    written_constraint (by decide) (Argument.suits_equal 1)
  have htext : "((a==1))".toList = '(' :: ('(' :: (filter.queryText.toList ++ [')']) ++ [')']) := by
    decide
  have hdoubled : Written .disjunction "((a==1))".toList filter 2 :=
    htext ▸ hwritten.operand.conjunction.group.operand.conjunction.group.operand.conjunction
  have h : parse "((a==1))" = .ok filter := hdoubled.parse_eq_ok (by decide)
  exact ⟨filter, h, fewest_parentheses_queryText h⟩

end FilterQuery
