import FilterQuery.Proofs.ReadingsFollowSteps
import FilterQuery.Proofs.SpelledStates

/-!
# Reading by the grammar

A query is read as a filter exactly if its tokens up to the end of input are derived as that
filter, with groups nested no deeper than allowed.  A stepwise reading of the tokens of a derivation
ends with its filter whatever the limit is, so the tokens decide the filter.
-/

namespace FilterQuery

namespace ValuedLiteral

variable {limit : Nat} {groups : List (Nat × Pending)} {pending : Pending} {field : String}
  {op : Comparison} {literal : ValuedLiteral}

theorem literalValue_token (literal : ValuedLiteral) (field : String) :
    literalValue field literal.cls literal.token = .ok literal.value :=
  literalValue_eq_ok_iff.mpr literal.valued

theorem orderedValue_token (hordered : literal.cls.isOrdered = true) (field : String)
    (op : Comparison) :
    orderedValue field op literal.cls literal.token = .ok literal.value := by
  have horderable : literal.value.isOrderable = true := by
    rw [literal.valued.isOrderable]
    exact hordered
  simp [orderedValue, literal.literalValue_token field, horderable]

@[simp] theorem kind_token (literal : ValuedLiteral) :
    literal.token.kind = .literal literal.cls := rfl

end ValuedLiteral

@[simp] theorem Spelling.kind_token (spelling : Spelling) (kind : TokenKind) :
    (spelling.token kind).kind = kind := rfl

@[simp] theorem Spelling.literal_token (spelling : Spelling) (kind : TokenKind) :
    (spelling.token kind).literal = spelling.literal := rfl

@[simp] theorem Spelling.offset_token (spelling : Spelling) (kind : TokenKind) :
    (spelling.token kind).offset = spelling.offset := rfl

section Completeness

open ReadingState

variable {limit : Nat} {groups : List (Nat × Pending)} {pending : Pending} {field : String}
  {op : Comparison}

private theorem after_literals (literals : LiteralList) (hordered : literals.isOrdered = true) :
    after limit ⟨groups, pending, .firstValue field op⟩ literals.tokens =
      .ok ⟨groups, pending, .separator field op literals.values⟩ := by
  induction literals with
  | single literal =>
    rw [LiteralList.tokens, after_singleton, step_first_value literal.kind_token,
      literal.orderedValue_token hordered]
    rfl
  | more front comma literal ih =>
    simp only [LiteralList.isOrdered, Bool.and_eq_true] at hordered
    rw [LiteralList.tokens, after_append (ih hordered.1), after_cons (step_separator rfl),
      after_singleton, step_next_value literal.kind_token,
      literal.orderedValue_token hordered.2]
    rfl

private theorem after_argument (argument : DerivedArgument op) :
    after limit ⟨groups, pending, .argument field op⟩ argument.tokens =
      .ok (complete groups pending (.constraint field op argument.argument)) := by
  cases argument with
  | any hequal literal =>
    have hop := Comparison.mem_equality_iff.mp hequal
    rw [DerivedArgument.tokens, after_singleton,
      step_any_value literal.kind_token hop.1 hop.2, literal.literalValue_token]
    rfl
  | ordered hordering literal hordered =>
    have hop := Comparison.mem_ordering_iff.mp hordering
    rw [DerivedArgument.tokens, after_singleton,
      step_ordered_value literal.kind_token hop.1 hop.2, literal.orderedValue_token hordered]
    rfl
  | list hmember opening literals hordered closing =>
    have hop := Comparison.mem_membership_iff.mp hmember
    rw [DerivedArgument.tokens, after_cons (step_list_opening rfl hop),
      after_append (after_literals literals hordered), after_singleton, step_list_closing rfl]
    rfl

/-- How the tokens of a layer take a reading on. -/
private def ReadsAs (limit : Nat) (groups : List (Nat × Pending)) (layer : Layer)
    (tokens : List Token) (filter : Filter) : Prop :=
  match layer with
  | .operand => ∀ pending, after limit ⟨groups, pending, .operand⟩ tokens =
      .ok (complete groups pending filter)
  | .conjunction => ∀ disjunction, after limit ⟨groups, ⟨disjunction, none⟩, .operand⟩ tokens =
      .ok ⟨groups, ⟨disjunction, none⟩, .joint filter⟩
  | .disjunction => ∃ disjunction last, after limit ⟨groups, .none, .operand⟩ tokens =
      .ok ⟨groups, ⟨disjunction, none⟩, .joint last⟩ ∧
        Pending.disjoin ⟨disjunction, none⟩ last = filter

private theorem readsAs_derivation {layer : Layer} (d : Derivation layer)
    (hnesting : groups.length + d.nesting ≤ limit) :
    ReadsAs limit groups layer d.tokens d.filter := by
  induction d generalizing groups with
  | constraint field op sign argument =>
    intro pending
    rw [Derivation.tokens, after_cons (step_field rfl), after_cons (step_comparison rfl),
      after_argument]
    rfl
  | group opening inner closing ih =>
    intro pending
    simp only [Derivation.nesting] at hnesting
    have hopening : step limit ⟨groups, pending, .operand⟩ (opening.token .opening) =
        .ok ⟨(opening.offset, pending) :: groups, .none, .operand⟩ := by
      rw [step_opening rfl, if_neg (by omega)]
      rfl
    have hinner : ReadsAs limit ((opening.offset, pending) :: groups) .disjunction inner.tokens
        inner.filter := by
      apply ih
      rw [List.length_cons]
      omega
    obtain ⟨disjunction, last, hafter, hfilter⟩ := hinner
    rw [Derivation.tokens, after_cons hopening, after_append hafter, after_singleton,
      step_closing rfl, hfilter]
    rfl
  | operand inner ih =>
    intro disjunction
    exact ih hnesting ⟨disjunction, none⟩
  | and left semicolon right ihleft ihright =>
    intro disjunction
    simp only [Derivation.nesting] at hnesting
    have hleft : after limit ⟨groups, ⟨disjunction, none⟩, .operand⟩ left.tokens =
        .ok ⟨groups, ⟨disjunction, none⟩, .joint left.filter⟩ := ihleft (by omega) disjunction
    have hright : after limit ⟨groups, ⟨disjunction, some left.filter⟩, .operand⟩ right.tokens =
        .ok (complete groups ⟨disjunction, some left.filter⟩ right.filter) :=
      ihright (by omega) _
    rw [Derivation.tokens, after_append hleft, after_cons (step_and rfl), hright,
      Derivation.filter_and]
    rfl
  | conjunction inner ih => exact ⟨none, inner.filter, ih hnesting none, rfl⟩
  | or left comma right ihleft ihright =>
    simp only [Derivation.nesting] at hnesting
    obtain ⟨disjunction, last, hleft, hfilter⟩ :
        ∃ disjunction last, after limit ⟨groups, .none, .operand⟩ left.tokens =
          .ok ⟨groups, ⟨disjunction, none⟩, .joint last⟩ ∧
            Pending.disjoin ⟨disjunction, none⟩ last = left.filter := ihleft (by omega)
    have hcomma : step limit ⟨groups, ⟨disjunction, none⟩, .joint last⟩
        (comma.token (.connective .or)) =
          .ok ⟨groups, ⟨some left.filter, none⟩, .operand⟩ := by
      rw [step_or rfl, hfilter]
    have hright : after limit ⟨groups, ⟨some left.filter, none⟩, .operand⟩ right.tokens =
        .ok ⟨groups, ⟨some left.filter, none⟩, .joint right.filter⟩ := ihright (by omega) _
    refine ⟨some left.filter, right.filter, ?_, (Derivation.filter_or ..).symm⟩
    rw [Derivation.tokens, after_append hleft, after_cons hcomma, hright]

/-- The tokens of a derivation are read as its filter. -/
theorem after_derivation (d : Derivation .disjunction) (hnesting : d.nesting ≤ limit) :
    ∃ state, start.after limit d.tokens = .ok state ∧ state.Finishes d.filter := by
  have hreads : ReadsAs limit [] .disjunction d.tokens d.filter :=
    readsAs_derivation d (by simpa using hnesting)
  obtain ⟨disjunction, last, hafter, hfilter⟩ := hreads
  exact ⟨_, hafter, rfl, last, rfl, hfilter⟩

/-- Where a layer may begin: a conjunction with no other to the left of it, a disjunction with
nothing to the left of it. -/
private def Layer.Begins : Layer → Pending → Prop
  | .operand, _ => True
  | .conjunction, pending => pending.conjunction = none
  | .disjunction, pending => pending = .none

private theorem refuses_derivation {layer : Layer} (d : Derivation layer)
    (hfree : groups.length ≤ limit) (hdeep : limit < groups.length + d.nesting)
    (hbegins : layer.Begins pending) :
    ∃ token ∈ d.tokens, token.kind = .opening ∧
      after limit ⟨groups, pending, .operand⟩ d.tokens = .error (.nestingTooDeep token) := by
  induction d generalizing groups pending with
  | constraint =>
    simp only [Derivation.nesting] at hdeep
    omega
  | group opening inner closing ih =>
    simp only [Derivation.nesting] at hdeep
    by_cases hfull : limit ≤ groups.length
    · have hopening : step limit ⟨groups, pending, .operand⟩ (opening.token .opening) =
          .error (.nestingTooDeep (opening.token .opening)) := by
        rw [step_opening rfl, if_pos hfull]
      exact ⟨opening.token .opening, by simp [Derivation.tokens], rfl,
        after_cons_of_error hopening _⟩
    · have hopening : step limit ⟨groups, pending, .operand⟩ (opening.token .opening) =
          .ok ⟨(opening.offset, pending) :: groups, .none, .operand⟩ := by
        rw [step_opening rfl, if_neg hfull]
        rfl
      have hlength : ((opening.offset, pending) :: groups).length = groups.length + 1 := rfl
      obtain ⟨token, hmem, hkind, hafter⟩ : ∃ token ∈ inner.tokens, token.kind = .opening ∧
          after limit ⟨(opening.offset, pending) :: groups, .none, .operand⟩ inner.tokens =
            .error (.nestingTooDeep token) := ih (by omega) (by omega) rfl
      refine ⟨token, by simp [Derivation.tokens, hmem], hkind, ?_⟩
      rw [Derivation.tokens, after_cons hopening]
      exact after_append_of_error hafter _
  | operand inner ih => exact ih hfree hdeep trivial
  | and left semicolon right ihleft ihright =>
    simp only [Derivation.nesting] at hdeep
    obtain ⟨disjunction, conjunction⟩ := pending
    obtain rfl : conjunction = none := hbegins
    by_cases hleft : limit < groups.length + left.nesting
    · obtain ⟨token, hmem, hkind, hafter⟩ : ∃ token ∈ left.tokens, token.kind = .opening ∧
          after limit ⟨groups, ⟨disjunction, none⟩, .operand⟩ left.tokens =
            .error (.nestingTooDeep token) := ihleft hfree hleft rfl
      exact ⟨token, by simp [Derivation.tokens, hmem], hkind, after_append_of_error hafter _⟩
    · have hreads : after limit ⟨groups, ⟨disjunction, none⟩, .operand⟩ left.tokens =
          .ok ⟨groups, ⟨disjunction, none⟩, .joint left.filter⟩ :=
        readsAs_derivation left (by omega) disjunction
      obtain ⟨token, hmem, hkind, hafter⟩ : ∃ token ∈ right.tokens, token.kind = .opening ∧
          after limit ⟨groups, ⟨disjunction, some left.filter⟩, .operand⟩ right.tokens =
            .error (.nestingTooDeep token) := ihright hfree (by omega) trivial
      refine ⟨token, by simp [Derivation.tokens, hmem], hkind, ?_⟩
      rw [Derivation.tokens, after_append hreads, after_cons (step_and rfl)]
      exact hafter
  | conjunction inner ih =>
    obtain rfl : pending = .none := hbegins
    exact ih hfree hdeep rfl
  | or left comma right ihleft ihright =>
    simp only [Derivation.nesting] at hdeep
    obtain rfl : pending = .none := hbegins
    by_cases hleft : limit < groups.length + left.nesting
    · obtain ⟨token, hmem, hkind, hafter⟩ := ihleft hfree hleft rfl
      exact ⟨token, by simp [Derivation.tokens, hmem], hkind, after_append_of_error hafter _⟩
    · obtain ⟨disjunction, last, hreads, hfilter⟩ :
          ∃ disjunction last, after limit ⟨groups, .none, .operand⟩ left.tokens =
            .ok ⟨groups, ⟨disjunction, none⟩, .joint last⟩ ∧
              Pending.disjoin ⟨disjunction, none⟩ last = left.filter :=
        readsAs_derivation left (by omega)
      obtain ⟨token, hmem, hkind, hafter⟩ : ∃ token ∈ right.tokens, token.kind = .opening ∧
          after limit ⟨groups, ⟨some left.filter, none⟩, .operand⟩ right.tokens =
            .error (.nestingTooDeep token) := ihright hfree (by omega) rfl
      refine ⟨token, by simp [Derivation.tokens, hmem], hkind, ?_⟩
      rw [Derivation.tokens, after_append hreads, after_cons (step_or rfl), hfilter]
      exact hafter

/-- Tokens of a derivation that is nested too deep are refused at a parenthesis that opens a
group. -/
theorem after_derivation_of_deep (d : Derivation .disjunction) (hdeep : limit < d.nesting) :
    ∃ token ∈ d.tokens, token.kind = .opening ∧
      start.after limit d.tokens = .error (.nestingTooDeep token) :=
  refuses_derivation d (Nat.zero_le _) (by simpa using hdeep) rfl

end Completeness

/-- Derivations of the same tokens stand for the same filter. -/
theorem filter_eq_of_tokens_eq {d d' : Derivation .disjunction} (h : d.tokens = d'.tokens) :
    d.filter = d'.filter := by
  have hd : d.nesting ≤ max d.nesting d'.nesting := Nat.le_max_left _ _
  have hd' : d'.nesting ≤ max d.nesting d'.nesting := Nat.le_max_right _ _
  obtain ⟨state, hafter, hfinish⟩ := after_derivation d hd
  obtain ⟨state', hafter', hfinish'⟩ := after_derivation d' hd'
  rw [h, hafter'] at hafter
  cases hafter
  exact hfinish.unique hfinish'

variable {s : TokenStream} {query : String} {filter : Filter}

/-- A stream is read as a filter exactly if its tokens are derived as that filter and then end. -/
theorem readQuery_eq_ok_iff_derives :
    (readQuery s).result = .ok filter ↔
      Derives .disjunction maxNesting s.ahead filter ∧ s.last.kind = .endOfInput := by
  rw [readQuery_eq_ok_iff]
  constructor
  · rintro ⟨state, hafter, hfinish⟩
    obtain ⟨middle, hahead, hlast⟩ := ReadingState.exists_after_of_append hafter
    rw [ReadingState.after_singleton] at hlast
    obtain ⟨hend, rfl⟩ := (ReadingState.takes_of_step hlast).of_isTerminal s.last_terminal
    have hspelled := Spelled.start.after hahead s.ahead_open
    exact ⟨hspelled.derives hfinish, hend⟩
  · rintro ⟨⟨d, htokens, hnesting, rfl⟩, hend⟩
    obtain ⟨state, hafter, hfinish⟩ := after_derivation d hnesting
    refine ⟨state, ?_, hfinish⟩
    rw [TokenStream.toList, ← htokens, ReadingState.after_concat hafter]
    exact hfinish.step_end hend maxNesting

theorem parse_eq_ok_iff_derives :
    parse query = .ok filter ↔ ∃ tokens last, tokenize query = tokens ++ [last] ∧
      last.kind = .endOfInput ∧ Derives .disjunction maxNesting tokens filter := by
  rw [parse, readQuery_eq_ok_iff_derives]
  constructor
  · rintro ⟨hderives, hend⟩
    exact ⟨(scan query).ahead, (scan query).last, rfl, hend, hderives⟩
  · rintro ⟨tokens, last, htokens, hend, hderives⟩
    obtain ⟨hahead, hlast⟩ := List.append_inj' htokens rfl
    cases hlast
    rw [hahead]
    exact ⟨hderives, hend⟩

/-- The queries that are read are those of the grammar, and what they are read as is its meaning,
of which there is one for the tokens. -/
theorem parse_eq_ok_iff_derivation :
    (∀ (query : String) (filter : Filter), parse query = .ok filter ↔
      ∃ (d : Derivation .disjunction) (last : Token), tokenize query = d.tokens ++ [last] ∧
        last.kind = .endOfInput ∧ d.nesting ≤ maxNesting ∧ d.tree.flatten = filter) ∧
    ∀ d d' : Derivation .disjunction, d.tokens = d'.tokens → d.tree.flatten = d'.tree.flatten := by
  refine ⟨fun query filter => ?_, fun d d' h => filter_eq_of_tokens_eq h⟩
  rw [parse_eq_ok_iff_derives]
  constructor
  · rintro ⟨tokens, last, htokens, hend, d, rfl, hnesting, hfilter⟩
    exact ⟨d, last, htokens, hend, hnesting, hfilter⟩
  · rintro ⟨d, last, htokens, hend, hnesting, hfilter⟩
    exact ⟨d.tokens, last, htokens, hend, d, rfl, hnesting, hfilter⟩

end FilterQuery
