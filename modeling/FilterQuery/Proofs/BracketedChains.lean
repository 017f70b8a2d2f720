import FilterQuery.Proofs.JoinedQueries

/-!
# Bracketed chains

Operands that are joined by one connective make up a chain, in which parentheses make no difference.
However a chain is bracketed, and however often parts of it are put in parentheses, its tokens are
derived as a chain of the same operands, because combining filters under one connective is
associative.  Constraints in a chain become the parts of a single combination.
-/

namespace FilterQuery

/-- A query that is read as a filter, and that is one constraint or one group in parentheses. -/
structure Operand where
  query : String
  filter : Filter
  read : parse query = .ok filter
  single : ∃ (d : Derivation .operand) (last : Token), tokenize query = d.tokens ++ [last] ∧
    last.kind = .endOfInput

def Operand.ofConstraint {field : String} {op : Comparison} {argument : Argument}
    (hfield : classify field.toList = .identifier) (hsuits : argument.Suits op) : Operand where
  query := (Filter.constraint field op argument).queryText
  filter := .constraint field op argument
  read := parse_queryText_of_isCanonical (.constraint hfield hsuits) (Nat.zero_le _)
  single := by
    obtain ⟨d, last, htokens, hend, -⟩ := (written_constraint hfield hsuits).exists_derivation
    exact ⟨d, last, htokens, hend⟩

/-- A way to bracket a chain of operands.  Any part of it may be put in parentheses, also more than
once. -/
inductive Bracketing where
  | operand (operand : Operand)
  | wrapped (inner : Bracketing)
  | joined (left right : Bracketing)

namespace Bracketing

def operands : Bracketing → List Operand
  | operand e => [e]
  | wrapped inner => inner.operands
  | joined left right => left.operands ++ right.operands

/-- The query in which a connective joins the operands. -/
def text (op : Connective) : Bracketing → String
  | operand e => e.query
  | wrapped inner => "(" ++ inner.text op ++ ")"
  | joined left right => left.text op ++ op.symbol ++ right.text op

/-- The filter that is put together in the order of the brackets. -/
def filter (op : Connective) : Bracketing → Filter
  | operand e => e.filter
  | wrapped inner => inner.filter op
  | joined left right => (left.filter op).combine op (right.filter op)

end Bracketing

/-! ## Filters of chains -/

theorem Filter.combine_foldl (op : Connective) (left first : Filter) (rest : List Filter) :
    left.combine op (rest.foldl (combine op) first) =
      rest.foldl (combine op) (left.combine op first) := by
  induction rest generalizing first with
  | nil => rfl
  | cons part rest ih => rw [List.foldl_cons, List.foldl_cons, ih, combine_assoc]

/-- The brackets make no difference to the filter. -/
theorem Bracketing.exists_filter_eq_foldl (op : Connective) (b : Bracketing) :
    ∃ first rest, b.operands = first :: rest ∧
      b.filter op = (rest.map Operand.filter).foldl (Filter.combine op) first.filter := by
  induction b with
  | operand e => exact ⟨e, [], rfl, rfl⟩
  | wrapped inner ih => exact ih
  | joined left right ihleft ihright =>
    obtain ⟨first, rest, hleft, hfilter⟩ := ihleft
    obtain ⟨first', rest', hright, hfilter'⟩ := ihright
    refine ⟨first, rest ++ first' :: rest', by rw [operands, hleft, hright, List.cons_append], ?_⟩
    -- the operands on the right are combined with what stands to the left one after the other
    rw [filter, hfilter, hfilter', Filter.combine_foldl]
    simp

/-! ## Tokens of chains -/

section Chains

variable {budget : Nat} {tokens : List Token} {filter : Filter}

private theorem Derives.chain (op : Connective) (h : Derives .operand budget tokens filter) :
    Derives op.chainLayer budget tokens filter := by
  cases op with
  | and => exact h.operand
  | or => exact h.operand.conjunction

private theorem Derives.disjunction (op : Connective)
    (h : Derives op.chainLayer budget tokens filter) :
    Derives .disjunction budget tokens filter := by
  cases op with
  | and => exact h.conjunction
  | or => exact h

private theorem exists_mark (op : Connective) :
    ∃ c, op.symbol = String.ofList [c] ∧ IsMark (.connective op) c := by
  cases op with
  | and => exact ⟨';', rfl, .semicolon⟩
  | or => exact ⟨',', rfl, .comma⟩

/-- The tokens of an operand are derived as one. -/
theorem Operand.exists_derives (e : Operand) :
    ∃ tokens last, tokenize e.query = tokens ++ [last] ∧ last.kind = .endOfInput ∧
      Derives .operand maxNesting tokens e.filter := by
  obtain ⟨d, last, htokens, hend⟩ := e.single
  have hnesting : d.nesting ≤ maxNesting := by
    obtain ⟨_, last', htokens', hend', d', rfl, hnesting', -⟩ := parse_eq_ok_iff_derives.mp e.read
    rwa [← groupNesting_derivation d last hend, ← htokens, htokens',
      groupNesting_derivation d' last' hend']
  have hread : parse e.query = .ok d.filter := parse_eq_ok_iff_derives.mpr
    ⟨d.tokens, last, htokens, hend, .conjunction (.operand d), rfl, hnesting, rfl⟩
  have hfilter : d.filter = e.filter := Except.ok.inj (hread.symm.trans e.read)
  exact ⟨d.tokens, last, htokens, hend, d, rfl, hnesting, hfilter⟩

/-- A text that is scanned to its end as the tokens of a chain, wherever it stands. -/
private def IsChain (op : Connective) (text : String) (filter : Filter) : Prop :=
  ∀ offset, ∃ budget tokens last, (scanFrom offset text.toList).toList = tokens ++ [last] ∧
    last.kind = .endOfInput ∧ Derives op.chainLayer budget tokens filter

variable {op : Connective} {text text' : String} {left right : Filter}

private theorem Operand.isChain (e : Operand) (op : Connective) : IsChain op e.query e.filter := by
  intro offset
  obtain ⟨tokens, last, htokens, hend, hderives⟩ := e.exists_derives
  let r := Relabeling.moved (· + offset)
  exact ⟨maxNesting, tokens.map r.token, r.token last, toList_scanFrom_of_tokenize htokens offset,
    (r.kind_token last).trans hend, (hderives.relabel r).chain op⟩

private theorem IsChain.wrapped (h : IsChain op text filter) :
    IsChain op ("(" ++ text ++ ")") filter := by
  intro offset
  obtain ⟨budget, tokens, last, htokens, hend, hderives⟩ := h (offset + byteLength ['('])
  have hscans := scansAs_parenthesized htokens hend [] trivial
  have htext : '(' :: (text.toList ++ [')']) ++ [] = ("(" ++ text ++ ")").toList := by simp
  rw [htext] at hscans
  have hgroup := (hderives.disjunction op).group ⟨"(", offset⟩
    ⟨")", offset + byteLength ['('] + byteLength text.toList⟩
  exact ⟨_, _, _, hscans.toList_scanFrom_end, rfl, hgroup.chain op⟩

private theorem IsChain.joined (h : IsChain op text left) (h' : IsChain op text' right) :
    IsChain op (text ++ op.symbol ++ text') (left.combine op right) := by
  intro offset
  obtain ⟨c, hsymbol, mark⟩ := exists_mark op
  obtain ⟨budget, tokens, last, htokens, hend, hderives⟩ := h offset
  obtain ⟨budget', tokens', last', htokens', hend', hderives'⟩ :=
    h' (offset + byteLength (text.toList ++ [c]))
  have hscans := scansAs_append_mark htokens hend mark text'.toList trivial
  have htext : (text ++ op.symbol ++ text').toList = text.toList ++ [c] ++ text'.toList := by
    simp [hsymbol]
  -- the two chains may be nested differently deep, so both are taken within the larger budget
  have hchain := (hderives.mono (Nat.le_max_left budget budget')).join_chain op
    (hderives'.mono (Nat.le_max_right budget budget'))
    ⟨String.ofList [c], offset + byteLength text.toList⟩
  refine ⟨_, _, last', ?_, hend', hchain⟩
  rw [htext, hscans.toList_scanFrom, htokens']
  simp [Spelling.token]

/-- The query of a bracketed chain is scanned as the tokens of a chain. -/
private theorem Bracketing.isChain (b : Bracketing) (op : Connective) :
    IsChain op (b.text op) (b.filter op) := by
  induction b with
  | operand e => exact e.isChain op
  | wrapped inner ih => exact ih.wrapped
  | joined left right ihleft ihright => exact ihleft.joined ihright

end Chains

/-- Brackets make no difference to a chain of operands under one connective, as long as they are not
nested too deep: the chain is read as its operands combined from left to right, and if these are two
or more constraints, as the one combination that has them as its parts. -/
theorem parse_bracketing {op : Connective} {b : Bracketing} {first : Operand}
    {rest : List Operand} (hoperands : b.operands = first :: rest)
    (hnesting : groupNesting (tokenize (b.text op)) ≤ maxNesting) :
    parse (b.text op) = .ok ((rest.map Operand.filter).foldl (Filter.combine op) first.filter) ∧
      (rest ≠ [] →
        (∀ e ∈ b.operands, ∃ field comparison argument,
          e.filter = .constraint field comparison argument) →
        parse (b.text op) = .ok (.combination op (b.operands.map Operand.filter))) := by
  obtain ⟨first', rest', hoperands', hfilter⟩ := b.exists_filter_eq_foldl op
  obtain ⟨rfl, rfl⟩ := List.cons.inj (hoperands.symm.trans hoperands')
  obtain ⟨budget, tokens, last, htokens, hend, hderives⟩ := b.isChain op 0
  have htokenize : tokenize (b.text op) = tokens ++ [last] := htokens
  rw [htokenize] at hnesting
  have hread : parse (b.text op) = .ok (b.filter op) := parse_eq_ok_iff_derives.mpr
    ⟨tokens, last, htokenize, hend, (hderives.disjunction op).of_groupNesting hend hnesting⟩
  rw [hfilter] at hread
  refine ⟨hread, fun hne hconstraints => ?_⟩
  have hmixed : ∀ part ∈ b.operands.map Operand.filter, part.isUnder op = false := by
    intro part hpart
    obtain ⟨e, hmem, rfl⟩ := List.mem_map.mp hpart
    obtain ⟨field, comparison, argument, hconstraint⟩ := hconstraints e hmem
    rw [hconstraint]
    rfl
  cases rest with
  | nil => exact absurd rfl hne
  | cons second rest =>
    rw [hread]
    rw [hoperands, List.map_cons, List.map_cons] at hmixed ⊢
    exact congrArg Except.ok (Filter.foldl_combine_eq_combination hmixed)

theorem parse_bracketing_right : ∃ (b : Bracketing) (first : Operand) (rest : List Operand),
    b.text .and = "a==1;(b==2;c==3)" ∧ b.operands = first :: rest ∧
    groupNesting (tokenize (b.text .and)) ≤ maxNesting ∧
    parse "a==1;(b==2;c==3)" = .ok (.combination .and
      [.constraint "a" .equal (.one (.integer 1)), .constraint "b" .equal (.one (.integer 2)),
        .constraint "c" .equal (.one (.integer 3))]) := by
  have ha : classify "a".toList = .identifier := by decide
  have hb : classify "b".toList = .identifier := by decide
  have hc : classify "c".toList = .identifier := by decide
  let first := Operand.ofConstraint ha (Argument.suits_equal 1)
  let second := Operand.ofConstraint hb (Argument.suits_equal 2)
  let third := Operand.ofConstraint hc (Argument.suits_equal 3)
  let b : Bracketing :=
    .joined (.operand first) (.wrapped (.joined (.operand second) (.operand third)))
  have hoperands : b.operands = [first, second, third] := rfl
  have htext : b.text .and = "a==1;(b==2;c==3)" := by
    have hfirst : first.query = "a==1" := by
      change (Filter.constraint _ _ _).queryText = _
      decide
    have hsecond : second.query = "b==2" := by
      change (Filter.constraint _ _ _).queryText = _
      decide
    have hthird : third.query = "c==3" := by
      change (Filter.constraint _ _ _).queryText = _
      decide
    change first.query ++ ";" ++ ("(" ++ (second.query ++ ";" ++ third.query) ++ ")") = _
    rw [hfirst, hsecond, hthird]
    decide
  have hnesting : groupNesting (tokenize (b.text .and)) ≤ maxNesting := by
    have hleft : Written Connective.and.chainLayer _ _ _ :=
      (written_constraint ha (Argument.suits_equal 1)).operand
    have hinner : Written Connective.and.chainLayer _ _ _ :=
      (written_constraint hb (Argument.suits_equal 2)).operand
    have hright := (hinner.join (written_constraint hc (Argument.suits_equal 3))).disjunction.group
    have hwritten : Written Connective.and.chainLayer "a==1;(b==2;c==3)".toList _ _ :=
      hleft.join hright
    rw [htext, hwritten.groupNesting_tokenize]
    decide
  have hread := (parse_bracketing hoperands hnesting).2 (List.cons_ne_nil _ _)
    (by simp [hoperands, first, second, third, Operand.ofConstraint])
  rw [htext, hoperands] at hread
  exact ⟨b, first, [second, third], htext, hoperands, hnesting, hread⟩

end FilterQuery
