import FilterQuery.Proofs.ExtendedTexts
import FilterQuery.Proofs.GrammarReading

/-!
# Relabeled tokens

What a query is read as does not depend on where its tokens stand, nor on the text of a malformed
operator; the error with which it is refused depends on them only in that it tells them.  A step
of a reading goes along with any such change of the tokens, and so does a whole reading.  An error
does not depend on what has been read before it either, only on what is expected and on the groups
that are open.
-/

namespace FilterQuery

/-- A change of tokens that keeps their kinds, and of tokens that are not terminal changes only
the offsets. -/
structure Relabeling where
  token : Token → Token
  offset : Nat → Nat
  kind_token : ∀ t, (token t).kind = t.kind
  token_of_open : ∀ t, t.isTerminal = false → token t = t.moved offset

namespace Relabeling

def moved (place : Nat → Nat) : Relabeling :=
  ⟨Token.moved place, place, fun _ => rfl, fun _ _ => rfl⟩

/-- The terminal token takes on the text and the offset of another token, and all others are
moved. -/
def ending (place : Nat → Nat) (last : Token) : Relabeling where
  token t := if t.isTerminal then { last with kind := t.kind } else t.moved place
  offset := place
  kind_token t := by split <;> rfl
  token_of_open t hopen := by rw [hopen]; rfl

theorem ending_of_terminal {place : Nat → Nat} {last t : Token} (hterminal : t.isTerminal = true) :
    (ending place last).token t = { last with kind := t.kind } := if_pos hterminal

end Relabeling

def ParseError.relabel (r : Relabeling) : ParseError → ParseError
  | malformedOperator token => malformedOperator (r.token token)
  | unexpectedToken token => unexpectedToken (r.token token)
  | missingComparison field token => missingComparison field (r.token token)
  | missingArgument field token => missingArgument field (r.token token)
  | missingList field token => missingList field (r.token token)
  | emptyList field => emptyList field
  | missingSeparator field token => missingSeparator field (r.token token)
  | unclosedGroup opening token => unclosedGroup (r.offset opening) (r.token token)
  | trailingInput token => trailingInput (r.token token)
  | nestingTooDeep token => nestingTooDeep (r.token token)
  | unorderedArgument field op value => unorderedArgument field op value
  | unreadableInteger field token fault => unreadableInteger field (r.token token) fault
  | unreadableFloat field token => unreadableFloat field (r.token token)
  | floatOutOfRange field token => floatOutOfRange field (r.token token)

@[simp] theorem ParseError.field?_relabel (r : Relabeling) (e : ParseError) :
    (e.relabel r).field? = e.field? := by cases e <;> rfl

/-! ## Derivations -/

/-- What a derivation takes from a token: its kind and, if it is a literal, its text. -/
def Token.sense (token : Token) : TokenKind × Option String :=
  match token.kind with
  | .literal cls => (.literal cls, some token.literal)
  | kind => (kind, none)

theorem Token.sense_eq_iff {token token' : Token} :
    token'.sense = token.sense ↔
      token'.kind = token.kind ∧ ∀ cls, token.kind = .literal cls → token'.literal = token.literal := by
  obtain ⟨kind, literal, offset⟩ := token
  obtain ⟨kind', literal', offset'⟩ := token'
  cases kind <;> cases kind' <;> simp [sense]

section Derivations

variable {tokens tokens' : List Token}

private theorem exists_spelling_of_sense {spelling : Spelling} {kind : TokenKind} {token : Token}
    (h : token.sense = (spelling.token kind).sense) :
    ∃ spelling' : Spelling, spelling'.token kind = token ∧
      ∀ cls, kind = .literal cls → spelling'.literal = spelling.literal := by
  obtain ⟨hkind, hliteral⟩ := Token.sense_eq_iff.mp h
  obtain ⟨spelling', rfl, hspelling, -⟩ := exists_spelling hkind
  exact ⟨spelling', rfl, hliteral⟩

private theorem exists_literal_of_sense {literal : ValuedLiteral} {token : Token}
    (h : token.sense = literal.token.sense) :
    ∃ literal' : ValuedLiteral, literal'.token = token ∧ literal'.cls = literal.cls ∧
      literal'.value = literal.value := by
  obtain ⟨cls, spelling, value, hvalued⟩ := literal
  obtain ⟨spelling', rfl, hliteral⟩ := exists_spelling_of_sense h
  rw [← hliteral cls rfl] at hvalued
  exact ⟨⟨cls, spelling', value, hvalued⟩, rfl, rfl, rfl⟩

private theorem exists_literals_of_senses {literals : LiteralList}
    (h : tokens.map Token.sense = literals.tokens.map Token.sense) :
    ∃ literals' : LiteralList, literals'.tokens = tokens ∧ literals'.values = literals.values ∧
      literals'.isOrdered = literals.isOrdered := by
  induction literals generalizing tokens with
  | single literal =>
    obtain ⟨token, rfl, hsense⟩ := List.map_eq_singleton_iff.mp h
    obtain ⟨literal', rfl, hcls, hvalue⟩ := exists_literal_of_sense hsense
    exact ⟨.single literal', rfl, by simp [LiteralList.values, hvalue],
      by simp [LiteralList.isOrdered, hcls]⟩
  | more front comma literal ih =>
    rw [LiteralList.tokens, List.map_append] at h
    obtain ⟨tokens, last, rfl, hfront, hlast⟩ := List.map_eq_append_iff.mp h
    obtain ⟨front', rfl, hvalues, hordered⟩ := ih hfront
    obtain ⟨token, rest, rfl, hcomma, hrest⟩ := List.map_eq_cons_iff.mp hlast
    obtain ⟨token', rfl, hliteral⟩ := List.map_eq_singleton_iff.mp hrest
    obtain ⟨comma', rfl, -⟩ := exists_spelling_of_sense hcomma
    obtain ⟨literal', rfl, hcls, hvalue⟩ := exists_literal_of_sense hliteral
    exact ⟨.more front' comma' literal', rfl, by simp [LiteralList.values, hvalues, hvalue],
      by simp [LiteralList.isOrdered, hordered, hcls]⟩

private theorem exists_argument_of_senses {op : Comparison} {argument : DerivedArgument op}
    (h : tokens.map Token.sense = argument.tokens.map Token.sense) :
    ∃ argument' : DerivedArgument op, argument'.tokens = tokens ∧
      argument'.argument = argument.argument := by
  cases argument with
  | any hequal literal =>
    obtain ⟨token, rfl, hsense⟩ := List.map_eq_singleton_iff.mp h
    obtain ⟨literal', rfl, -, hvalue⟩ := exists_literal_of_sense hsense
    exact ⟨.any hequal literal', rfl, by simp [DerivedArgument.argument, hvalue]⟩
  | ordered hordering literal hordered =>
    obtain ⟨token, rfl, hsense⟩ := List.map_eq_singleton_iff.mp h
    obtain ⟨literal', rfl, hcls, hvalue⟩ := exists_literal_of_sense hsense
    exact ⟨.ordered hordering literal' (hcls ▸ hordered), rfl,
      by simp [DerivedArgument.argument, hvalue]⟩
  | list hmember opening literals hordered closing =>
    rw [DerivedArgument.tokens, List.map_cons, List.map_append] at h
    obtain ⟨token, rest, rfl, hopening, hrest⟩ := List.map_eq_cons_iff.mp h
    obtain ⟨middle, last, rfl, hmiddle, hlast⟩ := List.map_eq_append_iff.mp hrest
    obtain ⟨token', rfl, hclosing⟩ := List.map_eq_singleton_iff.mp hlast
    obtain ⟨opening', rfl, -⟩ := exists_spelling_of_sense hopening
    obtain ⟨literals', rfl, hvalues, hordered'⟩ := exists_literals_of_senses hmiddle
    obtain ⟨closing', rfl, -⟩ := exists_spelling_of_sense hclosing
    exact ⟨.list hmember opening' literals' (hordered'.trans hordered) closing', rfl,
      by simp [DerivedArgument.argument, hvalues]⟩

theorem Derives.of_senses {layer : Layer} {budget : Nat} {filter : Filter}
    (h : Derives layer budget tokens filter)
    (hsenses : tokens'.map Token.sense = tokens.map Token.sense) :
    Derives layer budget tokens' filter := by
  obtain ⟨d, rfl, hnesting, rfl⟩ := h
  induction d generalizing budget tokens' with
  | constraint field op sign argument =>
    obtain ⟨token, rest, rfl, hfield, hrest⟩ := List.map_eq_cons_iff.mp hsenses
    obtain ⟨token', back, rfl, hsign, hback⟩ := List.map_eq_cons_iff.mp hrest
    obtain ⟨field', rfl, hliteral⟩ := exists_spelling_of_sense hfield
    obtain ⟨sign', rfl, -⟩ := exists_spelling_of_sense hsign
    obtain ⟨argument', rfl, hargument⟩ := exists_argument_of_senses hback
    rw [Derivation.filter_constraint, ← hliteral _ rfl, ← hargument]
    exact .constraint field' sign' argument'
  | group opening inner closing ih =>
    obtain ⟨less, rfl⟩ : ∃ less, budget = less + 1 := ⟨budget - 1, by
      simp only [Derivation.nesting] at hnesting
      omega⟩
    rw [Derivation.tokens, List.map_cons, List.map_append] at hsenses
    obtain ⟨token, rest, rfl, hopening, hrest⟩ := List.map_eq_cons_iff.mp hsenses
    obtain ⟨middle, last, rfl, hmiddle, hlast⟩ := List.map_eq_append_iff.mp hrest
    obtain ⟨token', rfl, hclosing⟩ := List.map_eq_singleton_iff.mp hlast
    obtain ⟨opening', rfl, -⟩ := exists_spelling_of_sense hopening
    obtain ⟨closing', rfl, -⟩ := exists_spelling_of_sense hclosing
    exact (ih hmiddle (Nat.le_of_succ_le_succ hnesting)).group opening' closing'
  | operand inner ih => exact (ih hsenses hnesting).operand
  | and left semicolon right ihleft ihright =>
    rw [Derivation.tokens, List.map_append] at hsenses
    obtain ⟨front, rest, rfl, hfront, hrest⟩ := List.map_eq_append_iff.mp hsenses
    obtain ⟨token, back, rfl, hsemicolon, hback⟩ := List.map_eq_cons_iff.mp hrest
    obtain ⟨semicolon', rfl, -⟩ := exists_spelling_of_sense hsemicolon
    have hleft := ihleft hfront (Nat.le_trans (Nat.le_max_left _ _) hnesting)
    have hright := ihright hback (Nat.le_trans (Nat.le_max_right _ _) hnesting)
    rw [Derivation.filter_and]
    exact hleft.and hright semicolon'
  | conjunction inner ih => exact (ih hsenses hnesting).conjunction
  | or left comma right ihleft ihright =>
    rw [Derivation.tokens, List.map_append] at hsenses
    obtain ⟨front, rest, rfl, hfront, hrest⟩ := List.map_eq_append_iff.mp hsenses
    obtain ⟨token, back, rfl, hcomma, hback⟩ := List.map_eq_cons_iff.mp hrest
    obtain ⟨comma', rfl, -⟩ := exists_spelling_of_sense hcomma
    have hleft := ihleft hfront (Nat.le_trans (Nat.le_max_left _ _) hnesting)
    have hright := ihright hback (Nat.le_trans (Nat.le_max_right _ _) hnesting)
    rw [Derivation.filter_or]
    exact hleft.or hright comma'

theorem Relabeling.sense_token (r : Relabeling) (token : Token) :
    (r.token token).sense = token.sense := by
  refine Token.sense_eq_iff.mpr ⟨r.kind_token token, fun cls hcls => ?_⟩
  rw [r.token_of_open token (Token.isTerminal_of_kind hcls rfl)]
  rfl

theorem Derives.relabel {layer : Layer} {budget : Nat} {filter : Filter} (r : Relabeling)
    (h : Derives layer budget tokens filter) : Derives layer budget (tokens.map r.token) filter := by
  apply h.of_senses
  rw [List.map_map]
  exact List.map_congr_left fun token _ => r.sense_token token

end Derivations

/-! ## Errors -/

/-- Expectations of the same; what has been read before a joint may differ. -/
inductive Expectation.Alike : Expectation → Expectation → Prop where
  | same (expected : Expectation) : Alike expected expected
  | joint (filter filter' : Filter) : Alike (.joint filter) (.joint filter')

namespace ReadingState

/-- States that expect the same inside of the same groups, of which the second may have been read
from changed tokens.  What stands to the left of the operand may differ. -/
structure Alike (r : Relabeling) (state state' : ReadingState) : Prop where
  groups : state'.groups.map Prod.fst = state.groups.map fun group => r.offset group.1
  expected : state.expected.Alike state'.expected

/-- Steps that come to states which are alike or to the same error. -/
inductive StepsAlike (r : Relabeling) :
    Except ParseError ReadingState → Except ParseError ReadingState → Prop where
  | ok {next next' : ReadingState} (alike : Alike r next next') :
      StepsAlike r (.ok next) (.ok next')
  | error (e : ParseError) : StepsAlike r (.error e) (.error (e.relabel r))

variable {r : Relabeling} {limit : Nat} {state state' : ReadingState} {field : String}
  {op : Comparison} {cls : LiteralClass} {token : Token}

private theorem literalValue_relabel (hkind : token.kind = .literal cls) :
    literalValue field cls (r.token token) =
      (literalValue field cls token).mapError (·.relabel r) := by
  have hliteral : (r.token token).literal = token.literal := by
    rw [r.token_of_open token (Token.isTerminal_of_kind hkind rfl)]
    rfl
  unfold literalValue
  rw [hliteral]
  cases cls with
  | integer => cases readInteger token.literal.toList <;> rfl
  | float =>
    dsimp only
    split <;> rfl
  | _ => rfl

private theorem orderedValue_relabel (hkind : token.kind = .literal cls) :
    orderedValue field op cls (r.token token) =
      (orderedValue field op cls token).mapError (·.relabel r) := by
  unfold orderedValue
  rw [literalValue_relabel hkind]
  cases literalValue field cls token with
  | error e => rfl
  | ok value =>
    simp only [Except.mapError]
    split <;> rfl

private theorem stepsAlike_map {x : Except ParseError Value} {f f' : Value → ReadingState}
    (hf : ∀ value, Alike r (f value) (f' value)) :
    StepsAlike r (x.map f) ((x.mapError (·.relabel r)).map f') := by
  cases x with
  | error e => exact .error e
  | ok value => exact .ok (hf value)

private theorem complaint_relabel (h : Alike r state state') (token : Token) :
    state'.complaint (r.token token) = (state.complaint token).relabel r := by
  obtain ⟨groups, pending, expected⟩ := state
  obtain ⟨groups', pending', expected'⟩ := state'
  obtain ⟨hgroups, hexpected⟩ := h
  have hjoint (filter filter' : Filter) :
      complaint ⟨groups', pending', .joint filter'⟩ (r.token token) =
        (complaint ⟨groups, pending, .joint filter⟩ token).relabel r := by
    cases groups with
    | nil =>
      obtain rfl : groups' = [] := List.map_eq_nil_iff.mp hgroups
      rfl
    | cons group groups =>
      cases groups' with
      | nil => cases hgroups
      | cons group' groups' =>
        have hopening : group'.1 = r.offset group.1 := (List.cons.inj hgroups).1
        simp only [complaint, ParseError.relabel, hopening]
  cases hexpected with
  | joint filter filter' => exact hjoint filter filter'
  | same =>
    cases expected with
    | joint filter => exact hjoint filter filter
    | argument field op =>
      simp only [complaint]
      split <;> rfl
    | _ => rfl

private theorem stepsAlike_refusal (h : Alike r state state') (token : Token) :
    StepsAlike r (.error (state.refusal token)) (.error (state'.refusal (r.token token))) := by
  have hrefusal : state'.refusal (r.token token) = (state.refusal token).relabel r := by
    unfold refusal
    rw [r.kind_token, complaint_relabel h]
    split <;> rfl
  rw [hrefusal]
  exact .error _

private theorem alike_complete {groups groups' : List (Nat × Pending)}
    (h : groups'.map Prod.fst = groups.map fun group => r.offset group.1)
    (pending pending' : Pending) (operand operand' : Filter) :
    Alike r (complete groups pending operand) (complete groups' pending' operand') :=
  ⟨h, .joint _ _⟩

section Steps

variable {groups groups' : List (Nat × Pending)} {pending pending' : Pending}
  {values : List Value} {filter filter' : Filter}

private theorem stepsAlike_operand
    (h : Alike r ⟨groups, pending, .operand⟩ ⟨groups', pending', .operand⟩) (token : Token) :
    StepsAlike r (step limit ⟨groups, pending, .operand⟩ token)
      (step limit ⟨groups', pending', .operand⟩ (r.token token)) := by
  have hkind := r.kind_token token
  by_cases hopening : token.kind = .opening
  · have hlength : groups'.length = groups.length := by simpa using congrArg List.length h.groups
    have hmoved := r.token_of_open token (Token.isTerminal_of_kind hopening rfl)
    have hoffset : (r.token token).offset = r.offset token.offset := by
      rw [hmoved]
      rfl
    rw [step_opening hopening, step_opening (hkind.trans hopening), hlength]
    split
    case isTrue => exact .error (.nestingTooDeep token)
    case isFalse => exact .ok ⟨by simpa [hoffset] using h.groups, .same _⟩
  by_cases hfield : token.kind = .literal .identifier
  · have hmoved := r.token_of_open token (Token.isTerminal_of_kind hfield rfl)
    have hliteral : (r.token token).literal = token.literal := by
      rw [hmoved]
      rfl
    rw [step_field hfield, step_field (hkind.trans hfield), hliteral]
    exact .ok ⟨h.groups, .same _⟩
  rw [step_operand_refusal hopening hfield,
    step_operand_refusal (hkind ▸ hopening) (hkind ▸ hfield)]
  exact stepsAlike_refusal h token

private theorem stepsAlike_comparison
    (h : Alike r ⟨groups, pending, .comparison field⟩ ⟨groups', pending', .comparison field⟩)
    (token : Token) :
    StepsAlike r (step limit ⟨groups, pending, .comparison field⟩ token)
      (step limit ⟨groups', pending', .comparison field⟩ (r.token token)) := by
  have hkind := r.kind_token token
  by_cases hsign : ∃ op, token.kind = .comparison op
  · obtain ⟨op, hop⟩ := hsign
    rw [step_comparison hop, step_comparison (hkind.trans hop)]
    exact .ok ⟨h.groups, .same _⟩
  · rw [step_comparison_refusal fun op hop => hsign ⟨op, hop⟩,
      step_comparison_refusal fun op hop => hsign ⟨op, hkind ▸ hop⟩]
    exact stepsAlike_refusal h token

private theorem stepsAlike_argument
    (h : Alike r ⟨groups, pending, .argument field op⟩ ⟨groups', pending', .argument field op⟩)
    (token : Token) :
    StepsAlike r (step limit ⟨groups, pending, .argument field op⟩ token)
      (step limit ⟨groups', pending', .argument field op⟩ (r.token token)) := by
  have hkind := r.kind_token token
  cases hmember : op.isMembership with
  | true =>
    by_cases hopening : token.kind = .opening
    · rw [step_list_opening hopening hmember, step_list_opening (hkind.trans hopening) hmember]
      exact .ok ⟨h.groups, .same _⟩
    · rw [step_argument_refusal (by simpa [hmember] using hopening),
        step_argument_refusal (by simpa [hmember, hkind] using hopening)]
      exact stepsAlike_refusal h token
  | false =>
    by_cases hliteral : ∃ cls, token.kind = .literal cls
    · obtain ⟨cls, hcls⟩ := hliteral
      cases hequal : op.isEquality with
      | true =>
        rw [step_any_value hcls hmember hequal, step_any_value (hkind.trans hcls) hmember hequal,
          literalValue_relabel hcls]
        exact stepsAlike_map fun value => alike_complete h.groups ..
      | false =>
        rw [step_ordered_value hcls hmember hequal,
          step_ordered_value (hkind.trans hcls) hmember hequal, orderedValue_relabel hcls]
        exact stepsAlike_map fun value => alike_complete h.groups ..
    · rw [step_argument_refusal (by simpa [hmember] using hliteral),
        step_argument_refusal (by simpa [hmember, hkind] using hliteral)]
      exact stepsAlike_refusal h token

private theorem stepsAlike_firstValue
    (h : Alike r ⟨groups, pending, .firstValue field op⟩ ⟨groups', pending', .firstValue field op⟩)
    (token : Token) :
    StepsAlike r (step limit ⟨groups, pending, .firstValue field op⟩ token)
      (step limit ⟨groups', pending', .firstValue field op⟩ (r.token token)) := by
  have hkind := r.kind_token token
  by_cases hclosing : token.kind = .closing
  · rw [step_empty_list hclosing, step_empty_list (hkind.trans hclosing)]
    exact .error (.emptyList field)
  by_cases hliteral : ∃ cls, token.kind = .literal cls
  · obtain ⟨cls, hcls⟩ := hliteral
    rw [step_first_value hcls, step_first_value (hkind.trans hcls), orderedValue_relabel hcls]
    exact stepsAlike_map fun value => ⟨h.groups, .same _⟩
  rw [step_first_refusal hclosing fun cls hcls => hliteral ⟨cls, hcls⟩,
    step_first_refusal (hkind ▸ hclosing) fun cls hcls => hliteral ⟨cls, hkind ▸ hcls⟩]
  exact stepsAlike_refusal h token

private theorem stepsAlike_nextValue
    (h : Alike r ⟨groups, pending, .nextValue field op values⟩
      ⟨groups', pending', .nextValue field op values⟩) (token : Token) :
    StepsAlike r (step limit ⟨groups, pending, .nextValue field op values⟩ token)
      (step limit ⟨groups', pending', .nextValue field op values⟩ (r.token token)) := by
  have hkind := r.kind_token token
  by_cases hliteral : ∃ cls, token.kind = .literal cls
  · obtain ⟨cls, hcls⟩ := hliteral
    rw [step_next_value hcls, step_next_value (hkind.trans hcls), orderedValue_relabel hcls]
    exact stepsAlike_map fun value => ⟨h.groups, .same _⟩
  · rw [step_next_refusal fun cls hcls => hliteral ⟨cls, hcls⟩,
      step_next_refusal fun cls hcls => hliteral ⟨cls, hkind ▸ hcls⟩]
    exact stepsAlike_refusal h token

private theorem stepsAlike_separator
    (h : Alike r ⟨groups, pending, .separator field op values⟩
      ⟨groups', pending', .separator field op values⟩) (token : Token) :
    StepsAlike r (step limit ⟨groups, pending, .separator field op values⟩ token)
      (step limit ⟨groups', pending', .separator field op values⟩ (r.token token)) := by
  have hkind := r.kind_token token
  by_cases hclosing : token.kind = .closing
  · rw [step_list_closing hclosing, step_list_closing (hkind.trans hclosing)]
    exact .ok (alike_complete h.groups ..)
  by_cases hcomma : token.kind = .connective .or
  · rw [step_separator hcomma, step_separator (hkind.trans hcomma)]
    exact .ok ⟨h.groups, .same _⟩
  rw [step_separator_refusal hclosing hcomma,
    step_separator_refusal (hkind ▸ hclosing) (hkind ▸ hcomma)]
  exact stepsAlike_refusal h token

private theorem stepsAlike_joint
    (h : Alike r ⟨groups, pending, .joint filter⟩ ⟨groups', pending', .joint filter'⟩)
    (token : Token) :
    StepsAlike r (step limit ⟨groups, pending, .joint filter⟩ token)
      (step limit ⟨groups', pending', .joint filter'⟩ (r.token token)) := by
  have hkind := r.kind_token token
  by_cases hjoint : ∃ op, token.kind = .connective op
  · obtain ⟨op, hop⟩ := hjoint
    cases op with
    | and =>
      rw [step_and hop, step_and (hkind.trans hop)]
      exact .ok ⟨h.groups, .same _⟩
    | or =>
      rw [step_or hop, step_or (hkind.trans hop)]
      exact .ok ⟨h.groups, .same _⟩
  have hother : ∀ op, token.kind ≠ .connective op := fun op hop => hjoint ⟨op, hop⟩
  cases groups with
  | nil =>
    obtain rfl : groups' = [] := List.map_eq_nil_iff.mp h.groups
    by_cases hend : token.kind = .endOfInput
    · rw [step_end hend, step_end (hkind.trans hend)]
      exact .ok h
    · rw [step_trailing_refusal hend hother, step_trailing_refusal (hkind ▸ hend) (hkind ▸ hother)]
      exact stepsAlike_refusal h token
  | cons group outer =>
    cases groups' with
    | nil => cases h.groups
    | cons group' outer' =>
      by_cases hclosing : token.kind = .closing
      · rw [step_closing hclosing, step_closing (hkind.trans hclosing)]
        exact .ok (alike_complete (List.cons.inj h.groups).2 ..)
      · rw [step_group_refusal hclosing hother,
          step_group_refusal (hkind ▸ hclosing) (hkind ▸ hother)]
        exact stepsAlike_refusal h token

end Steps

theorem Alike.step (h : Alike r state state') (limit : Nat) (token : Token) :
    StepsAlike r (state.step limit token) (state'.step limit (r.token token)) := by
  obtain ⟨groups, pending, expected⟩ := state
  obtain ⟨groups', pending', expected'⟩ := state'
  have hexpected := h.expected
  dsimp only at hexpected
  cases hexpected with
  | joint => exact stepsAlike_joint h token
  | same =>
    cases expected with
    | operand => exact stepsAlike_operand h token
    | comparison => exact stepsAlike_comparison h token
    | argument => exact stepsAlike_argument h token
    | firstValue => exact stepsAlike_firstValue h token
    | nextValue => exact stepsAlike_nextValue h token
    | separator => exact stepsAlike_separator h token
    | joint => exact stepsAlike_joint h token

/-- Readings from states that are alike come to the same error, if they come to one. -/
theorem Alike.after_eq_error (h : Alike r state state') {tokens : List Token} {e : ParseError}
    (herror : state.after limit tokens = .error e) :
    state'.after limit (tokens.map r.token) = .error (e.relabel r) := by
  -- the states stay alike up to the token that is refused, where the two errors are
  induction tokens generalizing state state' with
  | nil => cases herror
  | cons token tokens ih =>
    have hstep := h.step limit token
    rw [List.map_cons, after]
    rw [after] at herror
    generalize state.step limit token = outcome at hstep herror
    generalize state'.step limit (r.token token) = outcome' at hstep ⊢
    cases hstep with
    | ok halike => exact ih halike herror
    | error e' =>
      cases herror
      rfl

end ReadingState

/-! ## Queries -/

/-- A query whose tokens are changed is read as the same filter, or refused with the same error
about the changed tokens. -/
theorem parse_of_relabel {query query' : String} (r : Relabeling)
    (h : tokenize query' = (tokenize query).map r.token) :
    parse query' = (parse query).mapError (·.relabel r) := by
  cases hparse : parse query with
  | ok filter =>
    obtain ⟨tokens, last, htokens, hend, hderives⟩ := parse_eq_ok_iff_derives.mp hparse
    refine parse_eq_ok_iff_derives.mpr
      ⟨tokens.map r.token, r.token last, ?_, ?_, hderives.relabel r⟩
    · rw [h, htokens, List.map_append, List.map_singleton]
    · rw [r.kind_token, hend]
  | error e =>
    have halike : ReadingState.Alike r .start .start := ⟨rfl, .same _⟩
    refine parse_eq_error_iff.mpr ?_
    rw [h]
    exact halike.after_eq_error (parse_eq_error_iff.mp hparse)

end FilterQuery
