import FilterQuery.Proofs.FirstErrors
import FilterQuery.Proofs.ReadingPlaces

/-!
# Evidence of errors

What an error tells can be found in the query.  The token that it carries is the one at which the
query is refused; a malformed operator there is always reported as such; the field that it names
stands where the last operand begins; and the group that it calls unclosed is opened by the last
parenthesis that has no match.
-/

namespace FilterQuery

open ReadingState

/-! ## Operands -/

/-- Whether an operand comes behind a token at a place: behind a semicolon, behind a parenthesis
that opens a group, and behind a comma that does not stand in a list. -/
def Enclosure.OpensOperand (place : Enclosure) (token : Token) : Prop :=
  match token.kind with
  | .opening => place.afterComparison = false
  | .connective .and => True
  | .connective .or => place.brackets.head? ≠ some .list
  | _ => False

/-- Whether an operand comes behind some tokens of a query. -/
def OperandComes (tokens : List Token) : Prop :=
  tokens = [] ∨ ∃ front token, tokens = front ++ [token] ∧
    (Enclosure.outermost.after front).OpensOperand token

/-- The token with which the last operand among some tokens begins. -/
def BeginsLastOperand (first : Token) (tokens : List Token) : Prop :=
  ∃ front back, tokens = front ++ first :: back ∧ OperandComes front ∧
    ∀ inner, inner <+: back → ¬ OperandComes (front ++ first :: inner)

section Operands

variable {tokens front : List Token} {token first : Token}

theorem operandComes_concat :
    OperandComes (tokens ++ [token]) ↔ (Enclosure.outermost.after tokens).OpensOperand token := by
  constructor
  · rintro (hnil | ⟨front, last, heq, hopens⟩)
    · simp at hnil
    · obtain ⟨rfl, hlast⟩ := List.append_inj' heq rfl
      cases hlast
      exact hopens
  · intro hopens
    exact .inr ⟨tokens, token, rfl, hopens⟩

theorem OperandComes.begins (h : OperandComes tokens)
    (hinside : ¬ OperandComes (tokens ++ [token])) :
    BeginsLastOperand token (tokens ++ [token]) := by
  refine ⟨tokens, [], rfl, h, fun inner hinner => ?_⟩
  rw [List.prefix_nil.mp hinner]
  exact hinside

/-- The last operand is still the last one as long as no other one comes. -/
theorem BeginsLastOperand.concat (h : BeginsLastOperand first tokens)
    (hinside : ¬ OperandComes (tokens ++ [token])) :
    BeginsLastOperand first (tokens ++ [token]) := by
  obtain ⟨front, back, rfl, hcomes, hlast⟩ := h
  refine ⟨front, back ++ [token], by simp, hcomes, fun inner hinner => ?_⟩
  rcases List.prefix_concat_iff.mp hinner with rfl | hinner
  · simpa using hinside
  · exact hlast inner hinner

end Operands

/-! ## Unclosed parentheses -/

/-- Tokens whose parentheses match each other. -/
inductive Matched : List Token → Prop where
  | nil : Matched []
  | other {token : Token} {rest : List Token} (opening : token.kind ≠ .opening)
      (closing : token.kind ≠ .closing) (rest_matched : Matched rest) : Matched (token :: rest)
  | pair {opening closing : Token} {inside rest : List Token} (opens : opening.kind = .opening)
      (closes : closing.kind = .closing) (inside_matched : Matched inside)
      (rest_matched : Matched rest) : Matched (opening :: (inside ++ closing :: rest))

/-- The last parenthesis among some tokens that is not closed by them. -/
def IsLastUnclosed (opening : Token) (tokens : List Token) : Prop :=
  ∃ front back, tokens = front ++ opening :: back ∧ opening.kind = .opening ∧ Matched back

section Unclosed

variable {xs ys : List Token}

theorem Matched.append (h : Matched xs) (h' : Matched ys) : Matched (xs ++ ys) := by
  induction h with
  | nil => exact h'
  | other hopening hclosing _ ih => exact .other hopening hclosing ih
  | pair hopens hcloses hinside _ _ ih =>
    rw [List.cons_append, List.append_assoc, List.cons_append]
    exact .pair hopens hcloses hinside ih

theorem Matched.concat {token : Token} (h : Matched xs) (hopening : token.kind ≠ .opening)
    (hclosing : token.kind ≠ .closing) : Matched (xs ++ [token]) :=
  h.append (.other hopening hclosing .nil)

theorem Matched.parenthesized {opening closing : Token} (h : Matched xs)
    (hopens : opening.kind = .opening) (hcloses : closing.kind = .closing) :
    Matched (opening :: (xs ++ [closing])) :=
  .pair hopens hcloses h .nil

private theorem matched_literals (literals : LiteralList) : Matched literals.tokens := by
  induction literals with
  | single literal => exact .other nofun nofun .nil
  | more front comma literal ih => exact ih.append (.other nofun nofun (.other nofun nofun .nil))

private theorem matched_argument {op : Comparison} (argument : DerivedArgument op) :
    Matched argument.tokens := by
  cases argument with
  | any | ordered => exact .other nofun nofun .nil
  | list _ opening literals _ closing => exact (matched_literals literals).parenthesized rfl rfl

theorem matched_derivation {layer : Layer} (d : Derivation layer) : Matched d.tokens := by
  induction d with
  | constraint field op sign argument =>
    exact .other nofun nofun (.other nofun nofun (matched_argument argument))
  | group opening inner closing ih => exact ih.parenthesized rfl rfl
  | operand inner ih => exact ih
  | and left semicolon right ihleft ihright => exact ihleft.append (.other nofun nofun ihright)
  | conjunction inner ih => exact ih
  | or left comma right ihleft ihright => exact ihleft.append (.other nofun nofun ihright)

private theorem Derives.matched {layer : Layer} {budget : Nat} {filter : Filter}
    (h : Derives layer budget xs filter) : Matched xs := by
  obtain ⟨d, rfl, -, -⟩ := h
  exact matched_derivation d

private theorem SpelledLeft.matched {layer : Layer} {op : Connective} {budget : Nat}
    {left : Option Filter} (h : SpelledLeft layer op budget xs left) : Matched xs := by
  cases h with
  | nothing => exact .nil
  | before hderives joint => exact hderives.matched.concat nofun nofun

private theorem SpelledPending.matched {budget : Nat} {pending : Pending}
    (h : SpelledPending budget xs pending) : Matched xs := by
  cases h with
  | mk hdisjunction hconjunction => exact hdisjunction.matched.append hconjunction.matched

end Unclosed

namespace ReadingState

variable {limit : Nat} {state next : ReadingState} {token : Token} {tokens : List Token}
  {e : ParseError}

/-- Behind an operand, the group that is open is that of the last parenthesis without a match. -/
theorem exists_lastUnclosed {opening : Nat} {outside : Pending} {outer : List (Nat × Pending)}
    {filter : Filter} (h : Spelled limit tokens state)
    (hgroups : state.groups = (opening, outside) :: outer)
    (hexpected : state.expected = .joint filter) :
    ∃ parenthesis, IsLastUnclosed parenthesis tokens ∧ parenthesis.offset = opening := by
  obtain ⟨⟨outerTokens, inner, latest, rfl, houter, hinner, hlatest⟩, -⟩ := h
  rw [hgroups] at houter
  rw [hexpected] at hlatest
  cases houter with
  | @inside outermost pending _ _ _ _ _ parenthesis =>
    cases hlatest with
    | joint hderives =>
      refine ⟨parenthesis.token .opening, ⟨outermost ++ pending, inner ++ latest, by simp, rfl, ?_⟩,
        rfl⟩
      exact hinner.matched.append hderives.matched

end ReadingState

/-! ## Fields -/

/-- Whether a field is named where the last operand among some tokens begins. -/
def NamesField (field : String) (tokens : List Token) : Prop :=
  ∃ name, BeginsLastOperand name tokens ∧ name.kind = .literal .identifier ∧ name.literal = field

theorem NamesField.concat {field : String} {tokens : List Token} {token : Token}
    (h : NamesField field tokens) (hinside : ¬ OperandComes (tokens ++ [token])) :
    NamesField field (tokens ++ [token]) := by
  obtain ⟨name, hbegins, hname⟩ := h
  exact ⟨name, hbegins.concat hinside, hname⟩

namespace ReadingState

variable {limit : Nat} {state next : ReadingState} {token : Token} {tokens : List Token}
  {e : ParseError}

/-- Whether some tokens tell where the operand begins that is being read, or that it comes next. -/
def KnowsOperand (tokens : List Token) : Expectation → Prop
  | .operand => OperandComes tokens
  | .comparison field | .argument field _ | .firstValue field _ | .nextValue field _ _
  | .separator field _ _ => NamesField field tokens
  | .joint _ => True

theorem Takes.knowsOperand (h : Takes limit state token next)
    (hplace : state.place = Enclosure.outermost.after tokens)
    (hknows : KnowsOperand tokens state.expected) :
    KnowsOperand (tokens ++ [token]) next.expected := by
  -- the place tells a list from a group, and a comma inside of a list from one behind an operand
  cases h with
  | opening hkind =>
    refine operandComes_concat.mpr ?_
    simp [← hplace, Enclosure.OpensOperand, hkind, ReadingState.place,
      Expectation.isArgument]
  | field hkind =>
    have hinside : ¬ OperandComes (tokens ++ [token]) := by
      simp [operandComes_concat, Enclosure.OpensOperand, hkind]
    exact ⟨token, OperandComes.begins hknows hinside, hkind, rfl⟩
  | comparison hkind | firstValue hkind | nextValue hkind =>
    refine NamesField.concat hknows ?_
    simp [operandComes_concat, Enclosure.OpensOperand, hkind]
  | listOpening hkind =>
    refine NamesField.concat hknows ?_
    simp [operandComes_concat, ← hplace, Enclosure.OpensOperand, hkind,
      ReadingState.place, Expectation.isArgument]
  | separator hkind =>
    refine NamesField.concat hknows ?_
    simp [operandComes_concat, ← hplace, Enclosure.OpensOperand, hkind,
      ReadingState.place, Expectation.brackets]
  | and hkind =>
    refine operandComes_concat.mpr ?_
    simp [Enclosure.OpensOperand, hkind]
  | or hkind =>
    refine operandComes_concat.mpr ?_
    simp [← hplace, Enclosure.OpensOperand, hkind, ReadingState.place,
      Expectation.brackets, List.head?_replicate]
  | value | listClosing | closing | endOfInput => trivial

theorem knowsOperand_after (h : start.after limit tokens = .ok state) :
    KnowsOperand tokens state.expected := by
  suffices hall : state.place = Enclosure.outermost.after tokens ∧
      KnowsOperand tokens state.expected from hall.2
  refine after_induction h ⟨rfl, .inl rfl⟩ ?_
  rintro tokens middle token next ⟨hplace, hknows⟩ htakes
  refine ⟨?_, htakes.knowsOperand hplace hknows⟩
  rw [htakes.place, hplace, Enclosure.after_append, Enclosure.after_cons, Enclosure.after_nil]

theorem namesField_of_after (h : start.after limit tokens = .ok state) {field : String}
    (hfield : state.expected.field? = some field) : NamesField field tokens := by
  have hknows := knowsOperand_after h
  generalize state.expected = expected at hfield hknows
  cases expected with
  | operand | joint => cases hfield
  | _ =>
    cases hfield
    exact hknows

end ReadingState

/-! ## Errors -/

/-- What an error tells agrees with the token at which a query is refused and with those before
it. -/
structure ParseError.EvidencedBy (e : ParseError) (before : List Token) (token : Token) : Prop where
  carried : ∀ carried, e.token? = some carried → carried = token
  malformed : token.kind = .malformed ↔ e = .malformedOperator token
  field : ∀ field, e.field? = some field → NamesField field before
  unclosed : ∀ opening carried, e = .unclosedGroup opening carried →
    ∃ parenthesis, IsLastUnclosed parenthesis before ∧ parenthesis.offset = opening

section Refusals

variable {limit : Nat} {state : ReadingState} {token : Token} {tokens : List Token}
  {e : ParseError}

theorem malformed_iff_of_refused (h : state.step limit token = .error e) :
    token.kind = .malformed ↔ e = .malformedOperator token := by
  cases refuses_of_step h with
  | misplaced =>
    generalize hrefusal : state.refusal token = e
    cases misplaces_of_refusal hrefusal <;> simp [*]
  | tooDeep hkind | emptyList hkind | unordered hkind => simp [hkind]
  | unreadable hkind _ hfault =>
    obtain ⟨fault, rfl⟩ | rfl | rfl := literalValue_eq_error hfault <;> simp [hkind]

theorem field?_of_refused (h : state.step limit token = .error e) {field : String}
    (hfield : e.field? = some field) : state.expected.field? = some field := by
  cases refuses_of_step h with
  | misplaced =>
    generalize hrefusal : state.refusal token = e at hfield
    cases misplaces_of_refusal hrefusal with
    | malformed | operand | trailing | unclosed => cases hfield
    | comparison _ hexpected | argument _ hexpected | list _ hexpected | separator _ hexpected =>
      cases hfield
      exact hexpected
  | tooDeep => cases hfield
  | emptyList _ hexpected =>
    cases hfield
    rw [hexpected, Expectation.field?]
  | unreadable _ hexpected hfault =>
    rw [Expectation.field?_of_value? hexpected, ← hfield]
    obtain ⟨fault, rfl⟩ | rfl | rfl := literalValue_eq_error hfault <;> rfl
  | unordered _ hexpected =>
    cases hfield
    exact Expectation.field?_of_value? hexpected

theorem unclosedGroup_of_refused {opening : Nat} {carried : Token}
    (h : state.step limit token = .error (.unclosedGroup opening carried)) :
    ∃ outside outer filter, state.groups = (opening, outside) :: outer ∧
      state.expected = .joint filter := by
  have hrefuses := refuses_of_step h
  generalize he : ParseError.unclosedGroup opening carried = e at hrefuses
  cases hrefuses with
  | misplaced =>
    cases misplaces_of_refusal he.symm with
    | unclosed _ hgroups hexpected => exact ⟨_, _, _, hgroups, hexpected⟩
  | tooDeep | emptyList | unordered => cases he
  | unreadable _ _ hfault =>
    obtain ⟨fault, rfl⟩ | rfl | rfl := literalValue_eq_error hfault <;> cases he

/-- An error is evidenced by the token that a reading refuses with it. -/
theorem evidencedBy_of_refused (hafter : start.after limit tokens = .ok state)
    (hspelled : Spelled limit tokens state) (hrefused : state.step limit token = .error e) :
    e.EvidencedBy tokens token where
  carried := (blames_of_refused hspelled hrefused).carried
  malformed := malformed_iff_of_refused hrefused
  field := by
    intro field hfield
    exact namesField_of_after hafter (field?_of_refused hrefused hfield)
  unclosed := by
    rintro opening carried rfl
    obtain ⟨outside, outer, filter, hgroups, hexpected⟩ := unclosedGroup_of_refused hrefused
    exact exists_lastUnclosed hspelled hgroups hexpected

end Refusals

/-- What the error of a refused query tells can be found in the query, at the token with which no
query is read, while without it some query is, and among the tokens before it. -/
theorem exists_evidence {query : String} {e : ParseError} (h : parse query = .error e) :
    ∃ i, ∃ hi : i < (tokenize query).length,
      (∀ query', (tokenize query').take (i + 1) = (tokenize query).take (i + 1) →
        parse query' = .error e) ∧
      (∃ query' filter, (tokenize query').take i = (tokenize query).take i ∧
        parse query' = .ok filter) ∧
      e.EvidencedBy ((tokenize query).take i) (tokenize query)[i] := by
  obtain ⟨i, hi, state, hafter, hrefused, hspelled, hsettled, hviable⟩ := exists_refusal h
  exact ⟨i, hi, hsettled, hviable, evidencedBy_of_refused hafter hspelled hrefused⟩

theorem exists_evidence_of_three_mistakes :
    (parse "(a==1;b" = .error (.missingComparison "b" ⟨.endOfInput, "", 7⟩) ∧
      ∃ i, ∃ hi : i < (tokenize "(a==1;b").length,
        (∀ query', (tokenize query').take (i + 1) = (tokenize "(a==1;b").take (i + 1) →
          parse query' = .error (.missingComparison "b" ⟨.endOfInput, "", 7⟩)) ∧
        (∃ query' filter, (tokenize query').take i = (tokenize "(a==1;b").take i ∧
          parse query' = .ok filter) ∧
        (ParseError.missingComparison "b" ⟨.endOfInput, "", 7⟩).EvidencedBy
          ((tokenize "(a==1;b").take i) (tokenize "(a==1;b")[i]) ∧
    (parse "(a==1;(b==2);(a==1" = .error (.unclosedGroup 13 ⟨.endOfInput, "", 18⟩) ∧
      ∃ i, ∃ hi : i < (tokenize "(a==1;(b==2);(a==1").length,
        (ParseError.unclosedGroup 13 ⟨.endOfInput, "", 18⟩).EvidencedBy
          ((tokenize "(a==1;(b==2);(a==1").take i) (tokenize "(a==1;(b==2);(a==1")[i]) ∧
    parse "a==1,b=no=2" = .error (.malformedOperator ⟨.malformed, "=no", 6⟩) ∧
      ∃ i, ∃ hi : i < (tokenize "a==1,b=no=2").length,
        (ParseError.malformedOperator ⟨.malformed, "=no", 6⟩).EvidencedBy
          ((tokenize "a==1,b=no=2").take i) (tokenize "a==1,b=no=2")[i] := by
  have hb : classify "b".toList = .identifier := by decide
  have hone : IsBareRun "1".toList := isBareRun_integer 1
  have htwo : IsBareRun "2".toList := isBareRun_integer 2
  have hfirst (offset : Nat) :=
    scansAs_equality (show classify "a".toList = .identifier by decide) hone offset
  have hsecond (offset : Nat) := scansAs_equality hb htwo offset
  have hmissing : parse "(a==1;b" = .error (.missingComparison "b" ⟨.endOfInput, "", 7⟩) := by
    have hfield := (scansAs_mark .semicolon 5).append (scansAs_field hb 6) fun _ _ => trivial
    have hinner := (hfirst 1).append hfield fun _ _ => ends_cons rfl _
    have hscans := (scansAs_opening 0).append hinner (fun _ _ => trivial) [] (by simp [Ends])
    have htokens : tokenize "(a==1;b" = _ := Scans.tokenize_eq hscans
    rw [parse_eq_error_iff, htokens]
    rfl
  have hunclosed :
      parse "(a==1;(b==2);(a==1" = .error (.unclosedGroup 13 ⟨.endOfInput, "", 18⟩) := by
    have hopen := (scansAs_opening 13).append (hfirst 14) fun _ _ => trivial
    have hbehind := (scansAs_mark .semicolon 12).append hopen fun _ _ => trivial
    have hclosing := (scansAs_closing 11).append hbehind fun _ _ => trivial
    have hinside := (hsecond 7).append hclosing fun _ _ => ends_cons rfl _
    have hgroup := (scansAs_opening 6).append hinside fun _ _ => trivial
    have hmore := (scansAs_mark .semicolon 5).append hgroup fun _ _ => trivial
    have hinner := (hfirst 1).append hmore fun _ _ => ends_cons rfl _
    have hscans := (scansAs_opening 0).append hinner (fun _ _ => trivial) [] (by simp [Ends])
    have htokens : tokenize "(a==1;(b==2);(a==1" = _ := Scans.tokenize_eq hscans
    rw [parse_eq_error_iff, htokens]
    rfl
  have hmalformed :
      parse "a==1,b=no=2" = .error (.malformedOperator ⟨.malformed, "=no", 6⟩) := by
    have hfield := (scansAs_mark .comma 4).append (scansAs_field hb 5) fun _ _ => trivial
    have hfront := (hfirst 0).append hfield fun _ _ => ends_cons rfl _
    have hscans := hfront "=no=2".toList (ends_cons rfl _)
    have hword : IsMalformed "=no".toList "=2".toList :=
      .equals (forall_mem_of_all (by decide)) (by simp [isAlphabetic_equals]) (by decide)
        fun op => by cases op <;> decide
    have hstops : Stops 6 "=no=2".toList ⟨.malformed, "=no", 6⟩ :=
      .malformed (show ∀ c ∈ [], isBlank c = true by simp) hword
    have htokens : tokenize "a==1,b=no=2" = _ :=
      hscans.toList_scanFrom.trans (congrArg _ hstops.toList_scanFrom)
    rw [parse_eq_error_iff, htokens]
    rfl
  obtain ⟨i, hi, -, -, hgroup⟩ := exists_evidence hunclosed
  obtain ⟨j, hj, -, -, hword⟩ := exists_evidence hmalformed
  exact ⟨⟨hmissing, exists_evidence hmissing⟩, ⟨hunclosed, i, hi, hgroup⟩, hmalformed, j, hj, hword⟩

end FilterQuery
