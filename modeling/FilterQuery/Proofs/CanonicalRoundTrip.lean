import FilterQuery.Proofs.GrammarReading
import FilterQuery.Proofs.WrittenFilters

/-!
# Round trip of canonical queries

The filters that are read from queries are the canonical ones whose groups are nested no deeper
than allowed.  In one direction, the literals of a query are bare runs of their class, and joining
canonical filters gives a canonical one; a derivation has a group wherever a disjunction is part of
a conjunction.  In the other direction, the canonical query of a canonical filter is read as it.
-/

namespace FilterQuery

/-! ## What is read is canonical -/

/-- A token whose literal, if it has a class, is a bare run of that class. -/
def Token.IsGenuine (token : Token) : Prop :=
  ∀ cls, token.kind = .literal cls →
    IsBareRun token.literal.toList ∧ classify token.literal.toList = cls

theorem IsLexeme.isGenuine {token : Token} (h : IsLexeme token.kind token.literal.toList) :
    token.IsGenuine := by
  intro cls hkind
  rw [hkind] at h
  cases h with
  | bare hrun => exact ⟨hrun, rfl⟩

theorem isGenuine_of_tokenize {query : String} {tokens : List Token} {last : Token}
    (h : tokenize query = tokens ++ [last]) : ∀ token ∈ tokens, token.IsGenuine := by
  obtain ⟨tokens', offset', rest, last', hscans, -, -, hlist⟩ := exists_scans 0 query.toList
  have heq : tokens ++ [last] = tokens' ++ [last'] := h.symm.trans hlist
  obtain ⟨rfl, -⟩ := List.append_inj' heq rfl
  exact fun token hmem => (hscans.isLexeme token hmem).isGenuine

section Genuine

variable {op : Comparison}

private theorem isWritable_of_isGenuine {literal : ValuedLiteral} (h : literal.token.IsGenuine) :
    literal.value.IsWritable := by
  obtain ⟨cls, spelling, value, hvalued⟩ := literal
  obtain ⟨hrun, hcls⟩ := h cls rfl
  cases hvalued with
  | identifier => exact ⟨hrun, .inl hcls⟩
  | text => exact ⟨hrun, .inr hcls⟩
  | float _ _ _ hfinite => exact hfinite
  | boolean | null | integer => trivial

private theorem values_of_isGenuine {literals : LiteralList}
    (h : ∀ token ∈ literals.tokens, token.IsGenuine) (hordered : literals.isOrdered = true) :
    literals.values ≠ [] ∧ (∀ value ∈ literals.values, value.isOrderable = true) ∧
      ∀ value ∈ literals.values, value.IsWritable := by
  induction literals with
  | single literal =>
    have hliteral : literal.token.IsGenuine := h _ (List.mem_singleton.mpr rfl)
    refine ⟨by simp [LiteralList.values], ?_, ?_⟩
    · intro value hvalue
      rw [List.mem_singleton.mp hvalue, literal.valued.isOrderable]
      exact hordered
    · intro value hvalue
      rw [List.mem_singleton.mp hvalue]
      exact isWritable_of_isGenuine hliteral
  | more front comma literal ih =>
    have hliteral : literal.token.IsGenuine := h _ (by simp [LiteralList.tokens])
    rw [LiteralList.isOrdered, Bool.and_eq_true] at hordered
    obtain ⟨hne, horderable, hwritable⟩ :=
      ih (fun token hmem => h token (by simp [LiteralList.tokens, hmem])) hordered.1
    refine ⟨by simp [LiteralList.values], ?_, ?_⟩
    · intro value hvalue
      rcases List.mem_append.mp hvalue with hvalue | hvalue
      · exact horderable value hvalue
      · rw [List.mem_singleton.mp hvalue, literal.valued.isOrderable]
        exact hordered.2
    · intro value hvalue
      rcases List.mem_append.mp hvalue with hvalue | hvalue
      · exact hwritable value hvalue
      · rw [List.mem_singleton.mp hvalue]
        exact isWritable_of_isGenuine hliteral

private theorem suits_of_isGenuine {derived : DerivedArgument op}
    (h : ∀ token ∈ derived.tokens, token.IsGenuine) : derived.argument.Suits op := by
  cases derived with
  | any hequal literal =>
    exact .any hequal (isWritable_of_isGenuine (h _ (List.mem_singleton.mpr rfl)))
  | ordered hordering literal hordered =>
    refine .ordered hordering ?_ (isWritable_of_isGenuine (h _ (List.mem_singleton.mpr rfl)))
    rw [literal.valued.isOrderable]
    exact hordered
  | list hmember opening literals hordered closing =>
    have hliterals : ∀ token ∈ literals.tokens, token.IsGenuine :=
      fun token hmem => h token (by simp [DerivedArgument.tokens, hmem])
    obtain ⟨hne, horderable, hwritable⟩ := values_of_isGenuine hliterals hordered
    exact .list hmember hne horderable hwritable

end Genuine

theorem isCanonical_of_isGenuine {layer : Layer} (d : Derivation layer)
    (h : ∀ token ∈ d.tokens, token.IsGenuine) : d.filter.IsCanonical := by
  induction d with
  | constraint field op sign argument =>
    have hfield := (h (field.token (.literal .identifier)) (by simp [Derivation.tokens])) _ rfl
    refine .constraint hfield.2 (suits_of_isGenuine fun token hmem => h token ?_)
    simp [Derivation.tokens, hmem]
  | group opening inner closing ih =>
    exact ih fun token hmem => h token (by simp [Derivation.tokens, hmem])
  | operand inner ih => exact ih h
  | and left semicolon right ihleft ihright =>
    rw [Derivation.filter_and]
    exact (ihleft fun token hmem => h token (by simp [Derivation.tokens, hmem])).combine
      (ihright fun token hmem => h token (by simp [Derivation.tokens, hmem])) .and
  | conjunction inner ih => exact ih h
  | or left comma right ihleft ihright =>
    rw [Derivation.filter_or]
    exact (ihleft fun token hmem => h token (by simp [Derivation.tokens, hmem])).combine
      (ihright fun token hmem => h token (by simp [Derivation.tokens, hmem])) .or

/-- A number that filters need and derivations have.  The numbers of the parts of a chain are
joined, and a group adds one. -/
structure CountsGroups (join : Nat → Nat → Nat) (need : Filter → Nat)
    (spent : {layer : Layer} → Derivation layer → Nat) : Prop where
  join_le : ∀ {m n m' n' : Nat}, m ≤ m' → n ≤ n' → join m n ≤ join m' n'
  need_and : ∀ left right, need (left.combine .and right) =
    join (need left + if left.isUnder .or then 1 else 0)
      (need right + if right.isUnder .or then 1 else 0)
  need_or : ∀ left right, need (left.combine .or right) = join (need left) (need right)
  constraint : ∀ field op sign argument,
    need (Derivation.constraint field op sign argument).filter ≤
      spent (.constraint field op sign argument)
  group : ∀ opening inner closing, spent (.group opening inner closing) = spent inner + 1
  operand : ∀ inner, spent (.operand inner) = spent inner
  and : ∀ left semicolon right, spent (.and left semicolon right) = join (spent left) (spent right)
  conjunction : ∀ inner, spent (.conjunction inner) = spent inner
  or : ∀ left comma right, spent (.or left comma right) = join (spent left) (spent right)

/-- What a filter needs in a layer: inside a conjunction, a disjunction needs a group. -/
private def needIn (need : Filter → Nat) : Layer → Filter → Nat
  | .disjunction, filter => need filter
  | .conjunction, filter | .operand, filter => need filter + if filter.isUnder .or then 1 else 0

private theorem needIn_le {join : Nat → Nat → Nat} {need : Filter → Nat}
    {spent : {layer : Layer} → Derivation layer → Nat} (h : CountsGroups join need spent)
    {layer : Layer} (d : Derivation layer) : needIn need layer d.filter ≤ spent d := by
  induction d with
  | constraint field op sign argument => exact h.constraint field op sign argument
  | group opening inner closing ih =>
    -- the group that is added is the one that a disjunction needs inside a conjunction
    rw [Derivation.filter_group, h.group]
    simp only [needIn] at ih ⊢
    split <;> omega
  | operand inner ih =>
    rw [h.operand]
    exact ih
  | and left semicolon right ihleft ihright =>
    have hunder : (left.filter.combine .and right.filter).isUnder .or = false := rfl
    rw [Derivation.filter_and, h.and, needIn, h.need_and, hunder]
    exact h.join_le ihleft ihright
  | conjunction inner ih =>
    rw [h.conjunction]
    exact Nat.le_trans (Nat.le_add_right _ _) ih
  | or left comma right ihleft ihright =>
    rw [Derivation.filter_or, h.or, needIn, h.need_or]
    exact h.join_le ihleft (Nat.le_trans (Nat.le_add_right _ _) ihright)

/-- What a filter needs, every derivation of it has. -/
theorem CountsGroups.need_le {join : Nat → Nat → Nat} {need : Filter → Nat}
    {spent : {layer : Layer} → Derivation layer → Nat} (h : CountsGroups join need spent)
    {layer : Layer} (d : Derivation layer) : need d.filter ≤ spent d := by
  have hneed := needIn_le h d
  cases layer with
  | disjunction => exact hneed
  | operand | conjunction => exact Nat.le_trans (Nat.le_add_right _ _) hneed

/-- Each disjunction inside a conjunction is nested in a group of its own. -/
theorem countsGroups_alternations : CountsGroups max Filter.alternations Derivation.nesting where
  join_le := by omega
  need_and := by simp [Filter.alternations_combine]
  need_or := by simp [Filter.alternations_combine]
  constraint := fun _ _ _ _ => Nat.le_refl 0
  group := fun _ _ _ => rfl
  operand := fun _ => rfl
  and := fun _ _ _ => rfl
  conjunction := fun _ => rfl
  or := fun _ _ _ => rfl

/-- What is read is canonical, and its groups are not nested too deep. -/
theorem isCanonical_of_parse {query : String} {filter : Filter} (h : parse query = .ok filter) :
    filter.IsCanonical ∧ filter.alternations ≤ maxNesting := by
  obtain ⟨tokens, last, htokens, -, d, rfl, hnesting, rfl⟩ := parse_eq_ok_iff_derives.mp h
  exact ⟨isCanonical_of_isGenuine d (isGenuine_of_tokenize htokens),
    Nat.le_trans (countsGroups_alternations.need_le d) hnesting⟩

/-! ## Canonical queries are read back -/

theorem Written.parse_eq_ok {query : String} {filter : Filter} {nesting : Nat}
    (h : Written .disjunction query.toList filter nesting) (hnesting : nesting ≤ maxNesting) :
    parse query = .ok filter := by
  obtain ⟨d, last, htokens, hend, rfl, hfilter⟩ := h.exists_derivation
  exact parse_eq_ok_iff_derives.mpr ⟨d.tokens, last, htokens, hend, d, rfl, hnesting, hfilter⟩

theorem parse_queryText_of_isPrintable {filter : Filter} (h : filter.IsPrintable)
    (hnesting : filter.grouping ≤ maxNesting) : parse filter.queryText = .ok filter.normal := by
  obtain ⟨d, last, htokens, hend, hgrouping, hfilter⟩ := exists_derivation_queryText h
  refine parse_eq_ok_iff_derives.mpr ⟨d.tokens, last, htokens, hend, d, rfl, ?_, hfilter⟩
  rw [hgrouping]
  exact hnesting

theorem parse_queryText_of_isCanonical {filter : Filter} (h : filter.IsCanonical)
    (hnesting : filter.alternations ≤ maxNesting) : parse filter.queryText = .ok filter := by
  rw [← h.grouping_eq] at hnesting
  have hread := parse_queryText_of_isPrintable h.isPrintable hnesting
  rwa [h.normal_eq] at hread

/-- The canonical query of what a query is read as is read as the same filter. -/
theorem parse_queryText_of_parse {query : String} {filter : Filter}
    (h : parse query = .ok filter) : parse filter.queryText = .ok filter := by
  obtain ⟨hcanonical, hnesting⟩ := isCanonical_of_parse h
  exact parse_queryText_of_isCanonical hcanonical hnesting

theorem parse_queryText_of_parse_group : ∃ filter, parse "a==1;(b==2,c==3)" = .ok filter ∧
    parse filter.queryText = .ok filter := by
  have hequal {field : String} (n : Int64) (hfield : classify field.toList = .identifier) :
      (Filter.constraint field .equal (.one (.integer n))).IsCanonical :=
    .constraint hfield (Argument.suits_equal n)
  let choice := Filter.combination .or
    [.constraint "b" .equal (.one (.integer 2)), .constraint "c" .equal (.one (.integer 3))]
  let filter := Filter.combination .and [.constraint "a" .equal (.one (.integer 1)), choice]
  have hchoice : choice.IsCanonical := by
    refine .combination (by decide) ?_ (by simp)
    simp [hequal 2 (show classify "b".toList = .identifier by decide),
      hequal 3 (show classify "c".toList = .identifier by decide)]
  have hcanonical : filter.IsCanonical := by
    refine .combination (by decide) ?_ (by simp [choice])
    simp [hchoice, hequal 1 (show classify "a".toList = .identifier by decide)]
  have htext : filter.queryText = "a==1;(b==2,c==3)" := by decide
  have h : parse "a==1;(b==2,c==3)" = .ok filter := by
    rw [← htext]
    exact parse_queryText_of_isCanonical hcanonical (by decide)
  exact ⟨_, h, parse_queryText_of_parse h⟩

/-- The filters that some query is read as. -/
theorem exists_parse_iff_isCanonical (filter : Filter) :
    (∃ query, parse query = .ok filter) ↔
      filter.IsCanonical ∧ filter.alternations ≤ maxNesting := by
  constructor
  · rintro ⟨query, h⟩
    exact isCanonical_of_parse h
  · rintro ⟨hcanonical, hnesting⟩
    exact ⟨filter.queryText, parse_queryText_of_isCanonical hcanonical hnesting⟩

end FilterQuery
