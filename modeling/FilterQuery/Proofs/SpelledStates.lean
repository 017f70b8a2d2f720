import FilterQuery.Proofs.Derivations
import FilterQuery.Proofs.StepwiseReading

/-!
# Spelled states

Whatever a stepwise reading has taken in is the front of a derivation.  The tokens fall into those
of the open groups, those that stand to the left of the current operand, and those that belong to
what is expected next; each part spells out what the state remembers of it.  A step keeps this up.
-/

namespace FilterQuery

/-- Tokens that are derived in a layer as a filter, with groups nested at most `budget` deep. -/
def Derives (layer : Layer) (budget : Nat) (tokens : List Token) (filter : Filter) : Prop :=
  ∃ d : Derivation layer, d.tokens = tokens ∧ d.nesting ≤ budget ∧ d.filter = filter

namespace Derives

variable {budget : Nat} {tokens front back : List Token} {filter left right : Filter}

theorem mono {layer : Layer} {budget' : Nat} (h : Derives layer budget tokens filter)
    (hle : budget ≤ budget') : Derives layer budget' tokens filter := by
  obtain ⟨d, htokens, hnesting, hfilter⟩ := h
  exact ⟨d, htokens, Nat.le_trans hnesting hle, hfilter⟩

theorem operand (h : Derives .operand budget tokens filter) :
    Derives .conjunction budget tokens filter := by
  obtain ⟨d, htokens, hnesting, hfilter⟩ := h
  exact ⟨.operand d, htokens, hnesting, hfilter⟩

theorem conjunction (h : Derives .conjunction budget tokens filter) :
    Derives .disjunction budget tokens filter := by
  obtain ⟨d, htokens, hnesting, hfilter⟩ := h
  exact ⟨.conjunction d, htokens, hnesting, hfilter⟩

theorem group (h : Derives .disjunction budget tokens filter) (opening closing : Spelling) :
    Derives .operand (budget + 1)
      (opening.token .opening :: (tokens ++ [closing.token .closing])) filter := by
  obtain ⟨d, rfl, hnesting, rfl⟩ := h
  exact ⟨.group opening d closing, rfl, by simpa [Derivation.nesting] using hnesting, rfl⟩

theorem and (hleft : Derives .conjunction budget front left)
    (hright : Derives .operand budget back right) (semicolon : Spelling) :
    Derives .conjunction budget (front ++ semicolon.token (.connective .and) :: back)
      (left.combine .and right) := by
  obtain ⟨d, rfl, hd, rfl⟩ := hleft
  obtain ⟨d', rfl, hd', rfl⟩ := hright
  refine ⟨.and d semicolon d', rfl, ?_, Derivation.filter_and ..⟩
  simp only [Derivation.nesting]
  omega

theorem or (hleft : Derives .disjunction budget front left)
    (hright : Derives .conjunction budget back right) (comma : Spelling) :
    Derives .disjunction budget (front ++ comma.token (.connective .or) :: back)
      (left.combine .or right) := by
  obtain ⟨d, rfl, hd, rfl⟩ := hleft
  obtain ⟨d', rfl, hd', rfl⟩ := hright
  refine ⟨.or d comma d', rfl, ?_, Derivation.filter_or ..⟩
  simp only [Derivation.nesting]
  omega

theorem constraint (field sign : Spelling) {op : Comparison} (argument : DerivedArgument op) :
    Derives .operand budget
      (field.token (.literal .identifier) :: sign.token (.comparison op) :: argument.tokens)
      (.constraint field.literal op argument.argument) :=
  ⟨.constraint field op sign argument, rfl, Nat.zero_le _, rfl⟩

end Derives

/-- What stands before a connective that waits for its right operand, if there is one. -/
inductive SpelledLeft (layer : Layer) (op : Connective) (budget : Nat) :
    List Token → Option Filter → Prop where
  | nothing : SpelledLeft layer op budget [] none
  | before {tokens : List Token} {filter : Filter} (derives : Derives layer budget tokens filter)
      (joint : Spelling) :
      SpelledLeft layer op budget (tokens ++ [joint.token (.connective op)]) (some filter)

/-- What stands to the left of an operand: a disjunction and then a conjunction. -/
inductive SpelledPending (budget : Nat) : List Token → Pending → Prop where
  | mk {front back : List Token} {pending : Pending}
      (disjunction : SpelledLeft .disjunction .or budget front pending.disjunction)
      (conjunction : SpelledLeft .conjunction .and budget back pending.conjunction) :
      SpelledPending budget (front ++ back) pending

/-- The open groups, the innermost one first, of which at most `limit` may be open. -/
inductive SpelledGroups (limit : Nat) : List Token → List (Nat × Pending) → Prop where
  | outermost : SpelledGroups limit [] []
  | inside {outer tokens : List Token} {groups : List (Nat × Pending)} {pending : Pending}
      (groups_spelled : SpelledGroups limit outer groups)
      (pending_spelled : SpelledPending (limit - groups.length) tokens pending)
      (free : groups.length < limit) (opening : Spelling) :
      SpelledGroups limit (outer ++ tokens ++ [opening.token .opening])
        ((opening.offset, pending) :: groups)

/-- What has been read of the operand that is being read, or of the conjunction that may end. -/
inductive SpelledExpectation (budget : Nat) : List Token → Expectation → Prop where
  | operand : SpelledExpectation budget [] .operand
  | comparison (field : Spelling) :
      SpelledExpectation budget [field.token (.literal .identifier)] (.comparison field.literal)
  | argument (field sign : Spelling) (op : Comparison) :
      SpelledExpectation budget [field.token (.literal .identifier), sign.token (.comparison op)]
        (.argument field.literal op)
  | firstValue (field sign opening : Spelling) (op : Comparison)
      (membership : op.isMembership = true) :
      SpelledExpectation budget
        [field.token (.literal .identifier), sign.token (.comparison op), opening.token .opening]
        (.firstValue field.literal op)
  | nextValue (field sign opening comma : Spelling) (op : Comparison)
      (membership : op.isMembership = true) (literals : LiteralList)
      (ordered : literals.isOrdered = true) :
      SpelledExpectation budget
        (field.token (.literal .identifier) :: sign.token (.comparison op) ::
          opening.token .opening :: (literals.tokens ++ [comma.token (.connective .or)]))
        (.nextValue field.literal op literals.values)
  | separator (field sign opening : Spelling) (op : Comparison)
      (membership : op.isMembership = true) (literals : LiteralList)
      (ordered : literals.isOrdered = true) :
      SpelledExpectation budget
        (field.token (.literal .identifier) :: sign.token (.comparison op) ::
          opening.token .opening :: literals.tokens)
        (.separator field.literal op literals.values)
  | joint {tokens : List Token} {filter : Filter}
      (derives : Derives .conjunction budget tokens filter) :
      SpelledExpectation budget tokens (.joint filter)

/-- The tokens taken in spell out the state. -/
structure Spelled (limit : Nat) (tokens : List Token) (state : ReadingState) : Prop where
  parts : ∃ outer inner latest, tokens = outer ++ inner ++ latest ∧
    SpelledGroups limit outer state.groups ∧
    SpelledPending (limit - state.groups.length) inner state.pending ∧
    SpelledExpectation (limit - state.groups.length) latest state.expected
  alone : ∀ filter, state.expected = .joint filter → state.pending.conjunction = none

namespace SpelledPending

variable {budget : Nat} {inner tokens : List Token} {pending : Pending} {filter : Filter}

theorem nothing : SpelledPending budget [] .none := by
  have hnothing : SpelledPending budget ([] ++ []) .none := .mk .nothing .nothing
  exact hnothing

theorem conjoin (h : SpelledPending budget inner pending)
    (hoperand : Derives .operand budget tokens filter) :
    ∃ front back, inner ++ tokens = front ++ back ∧
      SpelledLeft .disjunction .or budget front pending.disjunction ∧
      Derives .conjunction budget back (pending.conjoin filter) := by
  obtain ⟨hdisjunction, hconjunction⟩ := h
  rename_i front back
  rw [Pending.conjoin]
  generalize pending.conjunction = left at hconjunction
  cases hconjunction with
  | nothing => exact ⟨front, tokens, by simp, hdisjunction, hoperand.operand⟩
  | before hleft joint =>
    exact ⟨front, _, by simp, hdisjunction, hleft.and hoperand joint⟩

theorem disjoin (h : SpelledPending budget inner pending) (halone : pending.conjunction = none)
    (hconjunction : Derives .conjunction budget tokens filter) :
    Derives .disjunction budget (inner ++ tokens) (pending.disjoin filter) := by
  obtain ⟨hdisjunction, hnone⟩ := h
  rw [halone] at hnone
  cases hnone
  rw [Pending.disjoin, List.append_nil]
  generalize pending.disjunction = left at hdisjunction
  cases hdisjunction with
  | nothing => exact hconjunction.conjunction
  | before hleft joint =>
    have hor := hleft.or hconjunction joint
    simpa using hor

end SpelledPending

private theorem exists_valuedLiteral {field : String} {cls : LiteralClass} {token : Token}
    {value : Value} (hkind : token.kind = .literal cls)
    (hvalue : literalValue field cls token = .ok value) :
    ∃ literal : ValuedLiteral, literal.token = token ∧ literal.value = value := by
  obtain ⟨spelling, hspelling, hliteral, -⟩ := exists_spelling hkind
  have hvalued := literalValue_eq_ok_iff.mp hvalue
  rw [← hliteral] at hvalued
  exact ⟨⟨cls, spelling, value, hvalued⟩, hspelling.symm, rfl⟩

private theorem isOrdered_of_isOrderable {literal : ValuedLiteral}
    (h : literal.value.isOrderable = true) : literal.cls.isOrdered = true := by
  rw [← literal.valued.isOrderable]
  exact h

private theorem exists_argument {op : Comparison} (literal : ValuedLiteral)
    (hmember : op.isMembership = false)
    (hordered : op.isEquality = true ∨ literal.value.isOrderable = true) :
    ∃ argument : DerivedArgument op, argument.tokens = [literal.token] ∧
      argument.argument = .one literal.value := by
  by_cases hequal : op.isEquality = true
  · exact ⟨.any (Comparison.mem_equality_iff.mpr ⟨hmember, hequal⟩) literal, rfl, rfl⟩
  · have hordering := Comparison.mem_ordering_iff.mpr ⟨hmember, by simpa using hequal⟩
    have hcls := isOrdered_of_isOrderable (hordered.resolve_left hequal)
    exact ⟨.ordered hordering literal hcls, rfl, rfl⟩

namespace SpelledExpectation

variable {budget : Nat} {latest : List Token} {field : String} {op : Comparison}
  {values : List Value} {literal : ValuedLiteral}

theorem value_of_argument (h : SpelledExpectation budget latest (.argument field op))
    (hmember : op.isMembership = false)
    (hordered : op.isEquality = true ∨ literal.value.isOrderable = true) :
    Derives .operand budget (latest ++ [literal.token])
      (.constraint field op (.one literal.value)) := by
  obtain ⟨argument, htokens, hargument⟩ := exists_argument literal hmember hordered
  cases h with
  | argument field sign =>
    rw [← hargument, List.cons_append, List.cons_append, List.nil_append, ← htokens]
    exact .constraint field sign argument

theorem separator_of_first (h : SpelledExpectation budget latest (.firstValue field op))
    (hordered : literal.value.isOrderable = true) :
    SpelledExpectation budget (latest ++ [literal.token])
      (.separator field op [literal.value]) := by
  have hcls := isOrdered_of_isOrderable hordered
  cases h with
  | firstValue field sign opening _ hmember =>
    exact .separator field sign opening _ hmember (.single literal) hcls

theorem separator_of_next (h : SpelledExpectation budget latest (.nextValue field op values))
    (hordered : literal.value.isOrderable = true) :
    SpelledExpectation budget (latest ++ [literal.token])
      (.separator field op (values ++ [literal.value])) := by
  have hcls := isOrdered_of_isOrderable hordered
  cases h with
  | nextValue field sign opening comma _ hmember literals hliterals =>
    have hmore : (literals.more comma literal).isOrdered = true := by
      simp [LiteralList.isOrdered, hliterals, hcls]
    have hlist : SpelledExpectation budget _ _ := .separator field sign opening op hmember _ hmore
    simpa [LiteralList.tokens, LiteralList.values] using hlist

theorem next_of_separator (h : SpelledExpectation budget latest (.separator field op values))
    (comma : Spelling) :
    SpelledExpectation budget (latest ++ [comma.token (.connective .or)])
      (.nextValue field op values) := by
  cases h with
  | separator field sign opening _ hmember literals hliterals =>
    exact .nextValue field sign opening comma _ hmember literals hliterals

theorem list_of_separator (h : SpelledExpectation budget latest (.separator field op values))
    (closing : Spelling) :
    Derives .operand budget (latest ++ [closing.token .closing])
      (.constraint field op (.list values)) := by
  cases h with
  | separator field sign opening _ hmember literals hliterals =>
    exact .constraint field sign
      (.list (Comparison.mem_membership_iff.mpr hmember) opening literals hliterals closing)

end SpelledExpectation

namespace Spelled

variable {limit : Nat} {tokens outer inner latest : List Token} {state next : ReadingState}
  {token : Token} {groups : List (Nat × Pending)} {pending : Pending} {filter : Filter}

theorem start : Spelled limit [] .start :=
  ⟨⟨[], [], [], rfl, .outermost, .nothing, .operand⟩, fun _ h => by cases h⟩

theorem complete (hgroups : SpelledGroups limit outer groups)
    (hpending : SpelledPending (limit - groups.length) inner pending)
    (hoperand : Derives .operand (limit - groups.length) latest filter) :
    Spelled limit (outer ++ inner ++ latest) (.complete groups pending filter) := by
  obtain ⟨front, back, htokens, hfront, hback⟩ := hpending.conjoin hoperand
  refine ⟨⟨outer, front, back, ?_, hgroups, ?_, .joint hback⟩, fun _ _ => rfl⟩
  · rw [List.append_assoc, htokens, List.append_assoc]
  · have hleft : SpelledPending (limit - groups.length) (front ++ [])
        ⟨pending.disjunction, none⟩ := .mk hfront .nothing
    rw [List.append_nil] at hleft
    exact hleft

/-- A token that only adds to what has been read of an operand. -/
private theorem of_latest {expected : Expectation} (hgroups : SpelledGroups limit outer groups)
    (hpending : SpelledPending (limit - groups.length) inner pending)
    (hlatest : SpelledExpectation (limit - groups.length) latest expected)
    (hjoint : ∀ filter, expected ≠ .joint filter) :
    Spelled limit (outer ++ inner ++ latest) ⟨groups, pending, expected⟩ :=
  ⟨⟨outer, inner, latest, rfl, hgroups, hpending, hlatest⟩, fun filter h => absurd h (hjoint filter)⟩

/-- What spells out a state, and a token that is taken in, spell out the next state. -/
theorem takes (h : Spelled limit tokens state) (htakes : state.Takes limit token next)
    (hopen : token.isTerminal = false) : Spelled limit (tokens ++ [token]) next := by
  obtain ⟨⟨outer, inner, latest, rfl, hgroups, hpending, hlatest⟩, halone⟩ := h
  cases htakes with
  | opening hkind hfree =>
    obtain ⟨opening, rfl, -, hoffset⟩ := exists_spelling hkind
    cases hlatest
    rw [List.append_nil, ← hoffset]
    refine ⟨⟨_, [], [], by simp, .inside hgroups hpending hfree opening, .nothing, .operand⟩, ?_⟩
    intro filter hjoint
    cases hjoint
  | field hkind =>
    obtain ⟨field, rfl, hliteral, -⟩ := exists_spelling hkind
    cases hlatest
    rw [List.append_nil, ← hliteral]
    exact .of_latest hgroups hpending (.comparison field) (by simp)
  | comparison hkind =>
    obtain ⟨sign, rfl, -, -⟩ := exists_spelling hkind
    cases hlatest
    rw [List.append_assoc]
    exact .of_latest hgroups hpending (.argument _ sign _) (by simp)
  | listOpening hkind hmember =>
    obtain ⟨opening, rfl, -, -⟩ := exists_spelling hkind
    cases hlatest
    rw [List.append_assoc]
    exact .of_latest hgroups hpending (.firstValue _ _ opening _ hmember) (by simp)
  | value hkind hmember hvalue hordered =>
    obtain ⟨literal, rfl, rfl⟩ := exists_valuedLiteral hkind hvalue
    rw [List.append_assoc]
    exact .complete hgroups hpending (hlatest.value_of_argument hmember hordered)
  | firstValue hkind hvalue hordered =>
    obtain ⟨literal, rfl, rfl⟩ := exists_valuedLiteral hkind hvalue
    rw [List.append_assoc]
    exact .of_latest hgroups hpending (hlatest.separator_of_first hordered) (by simp)
  | nextValue hkind hvalue hordered =>
    obtain ⟨literal, rfl, rfl⟩ := exists_valuedLiteral hkind hvalue
    rw [List.append_assoc]
    exact .of_latest hgroups hpending (hlatest.separator_of_next hordered) (by simp)
  | separator hkind =>
    obtain ⟨comma, rfl, -, -⟩ := exists_spelling hkind
    rw [List.append_assoc]
    exact .of_latest hgroups hpending (hlatest.next_of_separator comma) (by simp)
  | listClosing hkind =>
    obtain ⟨closing, rfl, -, -⟩ := exists_spelling hkind
    rw [List.append_assoc]
    exact .complete hgroups hpending (hlatest.list_of_separator closing)
  | and hkind =>
    obtain ⟨semicolon, rfl, -, -⟩ := exists_spelling hkind
    cases hlatest with
    | joint hconjunction =>
      obtain ⟨hdisjunction, hnone⟩ := hpending
      dsimp only at hnone halone
      rw [halone _ rfl] at hnone
      cases hnone
      refine ⟨⟨outer, _, [], ?_, hgroups, .mk hdisjunction (.before hconjunction semicolon),
        .operand⟩, by simp⟩
      simp
  | or hkind =>
    obtain ⟨comma, rfl, -, -⟩ := exists_spelling hkind
    cases hlatest with
    | joint hconjunction =>
      have hdisjunction := hpending.disjoin (halone _ rfl) hconjunction
      refine ⟨⟨outer, _, [], ?_, hgroups, .mk (.before hdisjunction comma) .nothing,
        .operand⟩, by simp⟩
      simp
  | closing hkind =>
    obtain ⟨closing, rfl, -, -⟩ := exists_spelling hkind
    cases hlatest with
    | joint hconjunction =>
      have hdisjunction := hpending.disjoin (halone _ rfl) hconjunction
      cases hgroups with
      | inside hgroups houtside hfree opening =>
        have hoperand := hdisjunction.group opening closing
        rw [List.length_cons, Nat.sub_add_eq, Nat.sub_add_cancel (by omega)] at hoperand
        have hcomplete := Spelled.complete hgroups houtside hoperand
        simpa using hcomplete
  | endOfInput hkind =>
    rw [Token.isTerminal, hkind] at hopen
    cases hopen

theorem after (h : Spelled limit tokens state) {more : List Token}
    (hafter : state.after limit more = .ok next)
    (hopen : ∀ token ∈ more, token.isTerminal = false) : Spelled limit (tokens ++ more) next := by
  induction more generalizing tokens state with
  | nil =>
    cases hafter
    simpa using h
  | cons token more ih =>
    rw [ReadingState.after] at hafter
    split at hafter
    case h_1 => cases hafter
    case h_2 middle hstep =>
      have hmiddle := h.takes (ReadingState.takes_of_step hstep) (hopen token (by simp))
      have hmore := ih hmiddle hafter fun token hmem => hopen token (by simp [hmem])
      simpa using hmore

theorem derives {filter : Filter} (h : Spelled limit tokens state)
    (hfinish : state.Finishes filter) : Derives .disjunction limit tokens filter := by
  obtain ⟨groups, pending, expected⟩ := state
  obtain ⟨rfl, last, rfl, rfl⟩ := hfinish
  obtain ⟨⟨outer, inner, latest, rfl, hgroups, hpending, hlatest⟩, halone⟩ := h
  cases hgroups
  cases hlatest with
  | joint hconjunction => exact hpending.disjoin (halone _ rfl) hconjunction

end Spelled

end FilterQuery
