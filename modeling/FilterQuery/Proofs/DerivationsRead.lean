import FilterQuery.Proofs.DerivedReadings

/-!
# Derivations are read

Whatever the grammar derives is read wherever it stands.  Where the tokens of a derivation are the
first of a stream, and what stands behind them does not go on with it, the reading in its layer
comes to its filter and passes these tokens alone, as long as its groups fit into the depth that is
left.  A chain is derived from its end and read from its front, so what is said of its parts leaves
open how the reading goes on behind them.
-/

namespace FilterQuery

namespace TokenStream

/-- Whether some tokens are the first of a stream, with another stream behind them. -/
structure Fronts (s : TokenStream) (tokens : List Token) (rest : TokenStream) : Prop where
  ahead : s.ahead = tokens ++ rest.ahead
  last : s.last = rest.last

namespace Fronts

variable {s rest : TokenStream} {token : Token} {tokens more : List Token}

theorem eq_of_nil (h : s.Fronts [] rest) : s = rest := by
  obtain ⟨ahead, last, hopen, hlast⟩ := s
  obtain ⟨ahead', last', hopen', hlast'⟩ := rest
  obtain ⟨rfl, rfl⟩ := h
  rfl

theorem current (h : s.Fronts (token :: tokens) rest) : s.current = token := by
  rw [TokenStream.current, h.ahead]
  rfl

theorem advance (h : s.Fronts (token :: tokens) rest) : s.advance.Fronts tokens rest where
  ahead := by
    change s.ahead.drop 1 = tokens ++ rest.ahead
    rw [h.ahead]
    rfl
  last := h.last

theorem split (h : s.Fronts (tokens ++ more) rest) :
    ∃ middle, s.Fronts tokens middle ∧ middle.Fronts more rest := by
  have hahead := h.ahead
  rw [List.append_assoc] at hahead
  have hdrop : (s.drop tokens.length).ahead = more ++ rest.ahead := by
    change s.ahead.drop tokens.length = _
    rw [hahead, List.drop_left]
  exact ⟨s.drop tokens.length, ⟨by rw [hdrop, hahead], rfl⟩, hdrop, h.last⟩

end Fronts

end TokenStream

/-- A reading that comes to a value and leaves a certain stream behind. -/
structure Comes {α : Type} (s : TokenStream) (r : Reading α) (a : α) (rest : TokenStream) :
    Prop where
  result : r.result = .ok a
  remaining : r.remaining s = rest

namespace Comes

variable {α β : Type} {s middle rest : TokenStream} {a : α} {b : β} {r first : Reading α}
  {next : α → Nat → Reading β}

theorem accept (a : α) (s : TokenStream) : Comes s (.accept a) a s := ⟨rfl, rfl⟩

theorem afterCurrent (h : Comes s.advance r a rest) : Comes s (.afterCurrent s r) a rest where
  result := h.result
  remaining := by
    rw [← h.remaining, Reading.remaining, Reading.remaining, TokenStream.advance,
      TokenStream.drop_drop, Nat.add_comm]
    rfl

theorem andThen (h : Comes s first a middle)
    (h' : ∀ n, s.drop n = middle → Comes middle (next a n) b rest) :
    Comes s (first.andThen next) b rest := by
  have hnext := h' first.passed h.remaining
  rw [Reading.andThen_of_ok h.result]
  refine ⟨hnext.result, ?_⟩
  rw [← hnext.remaining, ← h.remaining, Reading.remaining, Reading.remaining, Reading.remaining,
    TokenStream.drop_drop]

theorem map (f : α → β) (h : Comes s r a rest) : Comes s (r.map f) (f a) rest where
  result := by
    rw [Reading.map, h.result]
    rfl
  remaining := h.remaining

theorem noting (notes : List Note) (h : Comes s r a rest) : Comes s (r.noting notes) a rest :=
  ⟨h.result, h.remaining⟩

/-- What a reading passes is what stands in front of the stream that it leaves behind. -/
theorem passed_eq {tokens : List Token} (h : Comes s r a rest) (hpassed : r.passed ≤ s.length)
    (hfronts : s.Fronts tokens rest) : r.passed = tokens.length := by
  have hrest : rest.length = s.length - r.passed := by
    rw [← h.remaining]
    exact TokenStream.length_drop s r.passed
  have hahead := congrArg List.length hfronts.ahead
  rw [List.length_append] at hahead
  simp only [TokenStream.length] at hpassed hrest
  omega

end Comes

section Constraints

variable {s middle rest : TokenStream} {field : String} {op : Comparison} {value : Value}
  {values : List Value}

private theorem comes_value {literal : ValuedLiteral} (h : s.Fronts [literal.token] rest) :
    Comes s (readValue field s) literal.value rest := by
  have hkind : s.current.kind = .literal literal.cls := by rw [h.current]; rfl
  have hvalue : literalValue field literal.cls s.current = .ok literal.value := by
    rw [h.current]
    exact literal.literalValue_token field
  unfold readValue
  rw [hkind]
  dsimp only
  rw [hvalue, ← h.advance.eq_of_nil]
  exact (Comes.accept literal.value s.advance).afterCurrent

private theorem comes_orderable {literal : ValuedLiteral} (hordered : literal.cls.isOrdered = true)
    (h : s.Fronts [literal.token] rest) :
    Comes s (readOrderable field op s) literal.value rest := by
  have horderable : literal.value.isOrderable = true := by
    rw [literal.valued.isOrderable]
    exact hordered
  refine (comes_value h).andThen fun _ _ => ?_
  rw [if_pos horderable]
  exact .accept literal.value rest

private theorem comes_last (h : Comes s (readOrderable field op s) value middle)
    (hkind : middle.current.kind = .closing) :
    Comes s (readValues field op s) [value] middle.advance := by
  rw [readValues]
  refine h.andThen fun n hn => ?_
  subst hn
  dsimp only
  split
  case h_1 => exact (Comes.accept [value] _).afterCurrent
  case h_2 hcomma => rw [hkind] at hcomma; cases hcomma
  case h_3 hclosing _ => exact absurd hkind hclosing

private theorem comes_more (h : Comes s (readOrderable field op s) value middle)
    (hkind : middle.current.kind = .connective .or)
    (hmore : Comes middle.advance (readValues field op middle.advance) values rest) :
    Comes s (readValues field op s) (value :: values) rest := by
  rw [readValues]
  refine h.andThen fun n hn => ?_
  subst hn
  dsimp only
  split
  case h_1 hclosing => rw [hkind] at hclosing; cases hclosing
  case h_2 => exact (hmore.map (value :: ·)).afterCurrent
  case h_3 _ hcomma => exact absurd hkind hcomma

private theorem comes_literals {literals : LiteralList} (hordered : literals.isOrdered = true)
    (h : s.Fronts literals.tokens middle) :
    (middle.current.kind = .closing →
      Comes s (readValues field op s) literals.values middle.advance) ∧
    ∀ more rest, middle.current.kind = .connective .or →
      Comes middle.advance (readValues field op middle.advance) more rest →
        Comes s (readValues field op s) (literals.values ++ more) rest := by
  induction literals generalizing middle with
  | single literal =>
    have hone : Comes s (readOrderable field op s) literal.value middle :=
      comes_orderable hordered h
    exact ⟨comes_last hone, fun more rest => comes_more hone⟩
  | more front comma literal ih =>
    rw [LiteralList.isOrdered, Bool.and_eq_true] at hordered
    obtain ⟨between, hfront, hback⟩ := h.split
    have hcomma : between.current.kind = .connective .or := by rw [hback.current]; rfl
    have hone : Comes between.advance (readOrderable field op between.advance) literal.value
        middle := comes_orderable hordered.2 hback.advance
    have hgoOn := (ih hordered.1 hfront).2
    constructor
    · intro hclosing
      exact hgoOn _ _ hcomma (comes_last hone hclosing)
    · intro more rest hmore hrest
      have hall := hgoOn _ _ hcomma (comes_more hone hmore hrest)
      simpa [LiteralList.values] using hall

private theorem comes_list {literals : LiteralList} {opening closing : Spelling}
    (hordered : literals.isOrdered = true)
    (h : s.Fronts (opening.token .opening :: (literals.tokens ++ [closing.token .closing])) rest) :
    Comes s (readList field op s) literals.values rest := by
  have hkind : s.current.kind = .opening := by rw [h.current]; rfl
  obtain ⟨middle, hliterals, hclosing⟩ := h.advance.split
  have hend : middle.current.kind = .closing := by rw [hclosing.current]; rfl
  have hfirst : s.advance.current.kind ≠ .closing := by
    obtain ⟨first, more, hfirst⟩ := literals.exists_first
    rw [hfirst] at hliterals
    rw [hliterals.current]
    simp
  rw [readList, if_pos hkind, if_neg hfirst, ← hclosing.advance.eq_of_nil]
  exact ((comes_literals hordered hliterals).1 hend).afterCurrent

private theorem comes_argument {argument : DerivedArgument op} (h : s.Fronts argument.tokens rest) :
    Comes s (readArgument field op s) argument.argument rest := by
  cases argument with
  | any hequal literal =>
    have hop := Comparison.mem_equality_iff.mp hequal
    rw [readArgument, hop.1, hop.2]
    exact (comes_value h).map Argument.one
  | ordered hordering literal hordered =>
    have hop := Comparison.mem_ordering_iff.mp hordering
    rw [readArgument, hop.1, hop.2]
    exact (comes_orderable hordered h).map Argument.one
  | list hmember opening literals hordered closing =>
    have hop := Comparison.mem_membership_iff.mp hmember
    rw [readArgument, hop]
    exact (comes_list hordered h).map Argument.list

private theorem comes_constraint {name sign : Spelling} {argument : DerivedArgument op}
    (h : s.Fronts (name.token (.literal .identifier) :: sign.token (.comparison op) ::
      argument.tokens) rest) :
    Comes s (readConstraint s) (.constraint name.literal op argument.argument) rest := by
  have hsign : s.advance.current.kind = .comparison op := by rw [h.advance.current]; rfl
  unfold readConstraint readComparison
  rw [hsign, h.current]
  exact ((comes_argument h.advance.advance).map _).afterCurrent.afterCurrent

end Constraints

/-! ## Expressions -/

section Expressions

variable {depth : Nat} {floor : Precedence} {left filter : Filter} {s middle rest : TokenStream}

private theorem comes_stop (h : s.StopsAt floor) :
    Comes s (readOperands depth floor left s) left s := by
  unfold readOperands
  split
  case h_1 op hkind =>
    rw [if_neg (h op hkind)]
    exact .accept left s
  case h_2 => exact .accept left s

private theorem comes_connective {op : Connective} {right : Filter}
    (hkind : s.current.kind = .connective op) (hfloor : floor < op.precedence)
    (hright : Comes s.advance (readExpression depth op.precedence s.advance) right middle)
    (h : Comes middle (readOperands depth floor (left.combine op right) middle) filter rest) :
    Comes s (readOperands depth floor left s) filter rest := by
  unfold readOperands
  split
  case h_1 op' hkind' =>
    rw [hkind] at hkind'
    cases hkind'
    rw [if_pos hfloor]
    refine (hright.andThen fun n hn => ?_).afterCurrent
    subst hn
    exact h.noting _
  case h_2 hother => exact absurd hkind (hother op)

/-- How a derivation in a layer is read, inside a number of groups.  Of a chain only this is said:
the reading goes on behind it with what it stands for. -/
private def IsRead (depth : Nat) : {layer : Layer} → Derivation layer → Prop
  | .operand, d => ∀ s rest, s.Fronts d.tokens rest → Comes s (readOperand depth s) d.filter rest
  | .conjunction, d => ∀ floor s middle, floor < .and → s.Fronts d.tokens middle →
      ∀ filter rest, Comes middle (readOperands depth floor d.filter middle) filter rest →
        Comes s (readExpression depth floor s) filter rest
  | .disjunction, d => ∀ s middle, s.Fronts d.tokens middle → middle.StopsAt .or →
      ∀ filter rest, Comes middle (readOperands depth .lowest d.filter middle) filter rest →
        Comes s (readExpression depth .lowest s) filter rest

private theorem comes_first {operand : Filter}
    (hoperand : Comes s (readOperand depth s) operand middle)
    (h : Comes middle (readOperands depth floor operand middle) filter rest) :
    Comes s (readExpression depth floor s) filter rest := by
  rw [readExpression]
  refine hoperand.andThen fun n hn => ?_
  subst hn
  exact h

private theorem comes_group {opening closing : Spelling} {inner : Derivation .disjunction}
    (hdepth : depth < maxNesting) (hinner : IsRead (depth + 1) inner)
    (h : s.Fronts (opening.token .opening :: (inner.tokens ++ [closing.token .closing])) rest) :
    Comes s (readOperand depth s) inner.filter rest := by
  have hkind : s.current.kind = .opening := by rw [h.current]; rfl
  obtain ⟨middle, hfront, hback⟩ := h.advance.split
  have hclosing : middle.current.kind = .closing := by rw [hback.current]; rfl
  have hstops (floor : Precedence) : middle.StopsAt floor := by
    intro op hop
    rw [hclosing] at hop
    cases hop
  have hexpression : Comes s.advance (readExpression (depth + 1) .lowest s.advance) inner.filter
      middle := hinner _ _ hfront (hstops .or) _ _ (comes_stop (hstops .lowest))
  unfold readOperand
  split
  case h_1 =>
    rw [if_neg (Nat.not_le_of_lt hdepth)]
    refine (hexpression.andThen fun n hn => ?_).afterCurrent
    rw [hn, readClosing, if_pos hclosing, ← hback.advance.eq_of_nil]
    exact (Comes.accept inner.filter middle.advance).afterCurrent
  case h_2 hfield => rw [hkind] at hfield; cases hfield
  case h_3 hopening _ => exact absurd hkind hopening

private theorem isRead_derivation {layer : Layer} (d : Derivation layer) {depth : Nat}
    (hdepth : depth + d.nesting ≤ maxNesting) : IsRead depth d := by
  induction d generalizing depth with
  | constraint field op sign argument =>
    intro s rest h
    have hkind : s.current.kind = .literal .identifier := by rw [h.current]; rfl
    unfold readOperand
    split
    case h_1 hopening => rw [hkind] at hopening; cases hopening
    case h_2 => exact comes_constraint h
    case h_3 _ hfield => exact absurd hkind hfield
  | group opening inner closing ih =>
    intro s rest h
    simp only [Derivation.nesting] at hdepth
    exact comes_group (by omega) (ih (by omega)) h
  | operand inner ih =>
    intro floor s middle _ h filter rest hrest
    exact comes_first (ih hdepth s middle h) hrest
  | and left semicolon right ihleft ihright =>
    intro floor s middle hfloor h filter rest hrest
    simp only [Derivation.nesting] at hdepth
    obtain ⟨between, hfront, hback⟩ := h.split
    have hsemicolon : between.current.kind = .connective .and := by rw [hback.current]; rfl
    have hdeep : depth + right.nesting ≤ maxNesting := by omega
    have hoperand := ihright hdeep _ _ hback.advance
    have hright : Comes between.advance (readExpression depth .and between.advance) right.filter
        middle := comes_first hoperand (comes_stop fun op _ => op.not_and_lt_precedence)
    rw [Derivation.filter_and] at hrest
    exact ihleft (by omega) floor s between hfloor hfront filter rest
      (comes_connective hsemicolon hfloor hright hrest)
  | conjunction inner ih =>
    intro s middle h _ filter rest hrest
    exact ih hdepth .lowest s middle (by decide) h filter rest hrest
  | or left comma right ihleft ihright =>
    intro s middle h hstop filter rest hrest
    simp only [Derivation.nesting] at hdepth
    obtain ⟨between, hfront, hback⟩ := h.split
    have hcomma : between.current.kind = .connective .or := by rw [hback.current]; rfl
    have hleft : between.StopsAt .or := by
      intro op hop
      rw [hcomma] at hop
      cases hop
      decide
    -- the conjunction behind the comma is read to its end, so no semicolon may follow it
    have hright : Comes between.advance (readExpression depth .or between.advance) right.filter
        middle := ihright (by omega) .or _ middle (by decide) hback.advance _ _ (comes_stop hstop)
    rw [Derivation.filter_or] at hrest
    exact ihleft (by omega) s between hfront hleft filter rest
      (comes_connective hcomma (by decide) hright hrest)

/-- An expression is read to the end of the derivation that a stream begins with, if that cannot go
on there and its groups are not nested too deep. -/
theorem comes_readExpression (floor : Precedence) (d : Derivation floor.layer)
    (hdepth : depth + d.nesting ≤ maxNesting) (h : s.Fronts d.tokens rest)
    (hstop : rest.StopsAt floor) :
    Comes s (readExpression depth floor s) d.filter rest := by
  have hread := isRead_derivation d hdepth
  cases floor with
  | lowest =>
    have hor : rest.StopsAt .or := by
      intro op hop hlt
      exact hstop op hop (Nat.lt_of_le_of_lt (by decide) hlt)
    exact hread s rest h hor _ _ (comes_stop hstop)
  | or => exact hread .or s rest (by decide) h _ _ (comes_stop hstop)
  | and | comparison => exact comes_first (hread s rest h) (comes_stop hstop)

end Expressions

end FilterQuery
