import FilterQuery.Proofs.Enclosures
import FilterQuery.Proofs.StepwiseReading

/-!
# Places of a reading

A stepwise reading remembers enough to tell where it is: the groups that it holds are those that
the tokens so far leave open, and what it expects next tells whether it is inside a list or right
behind a comparison.  One token takes the state and the place along together, so they agree after
any number of tokens.  A parenthesis is refused for its depth exactly where it is the first to open
one group more than are allowed.
-/

namespace FilterQuery

/-- The parenthesis of the list in which a token is expected, if it is one. -/
def Expectation.brackets : Expectation → List Bracket
  | firstValue .. | nextValue .. | separator .. => [.list]
  | operand | comparison _ | argument .. | joint _ => []

def Expectation.isArgument : Expectation → Bool
  | argument .. => true
  | operand | comparison _ | firstValue .. | nextValue .. | separator .. | joint _ => false

/-- A token that opens one group more than may be open, where no other one among the tokens before
it does. -/
def OpensTooDeep (limit : Nat) (tokens : List Token) (token : Token) : Prop :=
  ∃ front back, tokens = front ++ token :: back ∧ token.kind = .opening ∧
    groupNesting front ≤ limit ∧
    (Enclosure.outermost.after (front ++ [token])).groups = limit + 1

theorem OpensTooDeep.append {limit : Nat} {tokens : List Token} {token : Token}
    (h : OpensTooDeep limit tokens token) (rest : List Token) :
    OpensTooDeep limit (tokens ++ rest) token := by
  obtain ⟨front, back, rfl, hdeep⟩ := h
  exact ⟨front, back ++ rest, by simp, hdeep⟩

namespace ReadingState

/-- Where in a query a state is reached. -/
def place (state : ReadingState) : Enclosure where
  brackets := state.expected.brackets ++ List.replicate state.groups.length .group
  afterComparison := state.expected.isArgument

variable {limit : Nat} {state next : ReadingState} {token : Token} {tokens : List Token}

@[simp] theorem place_start : start.place = .outermost := rfl

@[simp] theorem groups_place (state : ReadingState) : state.place.groups = state.groups.length := by
  obtain ⟨groups, pending, expected⟩ := state
  cases expected <;> simp [place, Enclosure.groups, Expectation.brackets]

theorem Takes.place (h : Takes limit state token next) : next.place = state.place.next token := by
  cases h with
  | opening hkind | field hkind | comparison hkind | listOpening hkind | value hkind
  | firstValue hkind | nextValue hkind | separator hkind | listClosing hkind | and hkind
  | or hkind | closing hkind | endOfInput hkind =>
    simp [ReadingState.place, Enclosure.next, Expectation.brackets, Expectation.isArgument,
      TokenKind.comparison?, complete, listing, hkind, List.replicate_succ]

theorem Takes.length_groups_le (h : Takes limit state token next)
    (hle : state.groups.length ≤ limit) : next.groups.length ≤ limit := by
  cases h with
  | opening _ hfree => exact hfree
  | closing => exact Nat.le_of_succ_le hle
  | _ => exact hle

/-- A state is reached at the place behind the tokens that lead to it, and on the way nowhere are
more groups open than are allowed. -/
theorem place_after (h : start.after limit tokens = .ok state) :
    state.place = Enclosure.outermost.after tokens ∧ groupNesting tokens ≤ limit := by
  suffices hall : state.place = Enclosure.outermost.after tokens ∧ groupNesting tokens ≤ limit ∧
      state.groups.length ≤ limit from ⟨hall.1, hall.2.1⟩
  refine after_induction h ⟨rfl, Nat.zero_le _, Nat.zero_le _⟩ ?_
  rintro tokens middle token next ⟨hplace, hnesting, hle⟩ htakes
  have hnext := htakes.place
  have hlength := htakes.length_groups_le hle
  rw [hplace] at hnext
  refine ⟨by simpa using hnext, ?_, hlength⟩
  have hbehind : (middle.place.next token).groups = next.groups.length := by
    rw [← htakes.place, groups_place]
  rw [groupNesting] at hnesting ⊢
  rw [Enclosure.deepest_append, ← hplace, Enclosure.deepest, Enclosure.deepest, groups_place,
    hbehind]
  omega

/-- Only a parenthesis in front of an operand is refused for its depth, where no more groups may be
open. -/
theorem opening_of_nestingTooDeep {deep : Token}
    (h : state.step limit token = .error (.nestingTooDeep deep)) :
    deep = token ∧ token.kind = .opening ∧ state.expected = .operand ∧
      limit ≤ state.groups.length := by
  have hrefuses := refuses_of_step h
  generalize he : ParseError.nestingTooDeep deep = e at hrefuses
  cases hrefuses with
  | misplaced => cases misplaces_of_refusal he.symm
  | tooDeep hkind hexpected =>
    cases he
    obtain ⟨groups, pending, expected⟩ := state
    subst hexpected
    refine ⟨rfl, hkind, rfl, Nat.le_of_not_lt fun hfree => ?_⟩
    rw [step_opening hkind, if_neg (Nat.not_le_of_lt hfree)] at h
    cases h
  | emptyList => cases he
  | unreadable _ _ hfault =>
    subst he
    obtain ⟨fault, hfault⟩ | hfault | hfault := literalValue_eq_error hfault <;> cases hfault
  | unordered => cases he

/-- A reading that is refused for its depth is refused at the first parenthesis that goes too
deep. -/
theorem opensTooDeep_of_after (h : start.after limit tokens = .error (.nestingTooDeep token)) :
    OpensTooDeep limit tokens token := by
  obtain ⟨i, hi, before, hafter, hrefused⟩ := exists_refused_of_after_eq_error h
  obtain ⟨rfl, hkind, hexpected, hfull⟩ := opening_of_nestingTooDeep hrefused
  obtain ⟨hplace, hnesting⟩ := place_after hafter
  have hgroups : before.groups.length = limit := by
    have hle := Enclosure.outermost.groups_after_le (tokens.take i)
    rw [← hplace, groups_place] at hle
    exact Nat.le_antisymm (Nat.le_trans hle hnesting) hfull
  refine ⟨tokens.take i, tokens.drop (i + 1), ?_, hkind, hnesting, ?_⟩
  · rw [List.getElem_cons_drop, List.take_append_drop]
  · rw [Enclosure.after_append, ← hplace, Enclosure.after_cons, Enclosure.after_nil]
    simp [place, Enclosure.next, Enclosure.groups, Expectation.brackets, Expectation.isArgument,
      hexpected, hkind, hgroups]

end ReadingState

end FilterQuery
