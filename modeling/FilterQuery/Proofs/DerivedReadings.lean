import FilterQuery.Proofs.Enclosures
import FilterQuery.Proofs.GrammarReading
import FilterQuery.Proofs.PassedTokens

/-!
# Readings derive their tokens

The tokens that are passed for an expression are derived in the layer of its precedence as the
filter that it is read as, with no more groups inside each other than may still be opened.  They
are all that belongs to the expression: no derivation in that layer takes up more of the tokens.
-/

namespace FilterQuery

open ReadingState

/-- The layer of the expressions whose connectives bind tighter than a precedence. -/
def Precedence.layer : Precedence → Layer
  | lowest => .disjunction
  | or => .conjunction
  | and | comparison => .operand

variable {s : TokenStream} {depth budget : Nat} {floor : Precedence} {left filter : Filter}
  {front tokens : List Token}

/-! ## Constraints -/

theorem derives_of_field {layer : Layer} {token : Token} (d : Derivation layer)
    (hhead : d.tokens.head? = some token) (hkind : token.kind = .literal .identifier)
    (hconstraint : ∃ field op argument, d.filter = .constraint field op argument) :
    Derives .operand budget d.tokens d.filter := by
  induction d with
  | constraint field op sign argument => exact .constraint field sign argument
  | group opening inner closing =>
    cases hhead
    cases hkind
  | operand inner ih => exact ih hhead hconstraint
  | conjunction inner ih => exact ih hhead hconstraint
  | and left semicolon right =>
    obtain ⟨field, op, argument, hfilter⟩ := hconstraint
    rw [Derivation.filter_and] at hfilter
    cases hfilter
  | or left comma right =>
    obtain ⟨field, op, argument, hfilter⟩ := hconstraint
    rw [Derivation.filter_or] at hfilter
    cases hfilter

theorem derives_readConstraint (hkind : s.current.kind = .literal .identifier) :
    Yields s (readConstraint s) fun filter tokens _ => Derives .operand budget tokens filter := by
  have hconstraint : Yields s (readConstraint s) fun filter tokens _ =>
      tokens.head? = some s.current ∧
        ∃ field op argument, filter = .constraint field op argument := by
    unfold readConstraint readComparison
    refine .afterCurrent (Token.isTerminal_of_kind hkind rfl) ?_
    split
    case h_1 op hop =>
      refine .afterCurrent (Token.isTerminal_of_kind hop rfl) (.map ?_)
      exact fun argument _ => ⟨rfl, _, op, argument, rfl⟩
    case h_2 => exact .refuse _
  intro filter hresult
  have hfollows : Follows .start s _ (readConstraint s) := follows_readConstraint hkind
  obtain ⟨-, _, hafter, rfl⟩ := hfollows.ok filter hresult
  have hspelled := Spelled.start.after hafter fun token hmem =>
    s.ahead_open token (List.mem_of_mem_take hmem)
  obtain ⟨d, htokens, -, rfl⟩ := hspelled.derives ⟨rfl, filter, rfl, rfl⟩
  obtain ⟨hhead, hshape⟩ := hconstraint _ hresult
  rw [List.nil_append] at htokens
  rw [← htokens] at hhead ⊢
  exact derives_of_field d hhead hkind hshape

/-! ## Expressions -/

/-- What is derived of an expression when its next connective comes within sight.  A disjunction
that has parts already goes on with a comma only. -/
def Precedence.Derives (floor : Precedence) (budget : Nat) (tokens : List Token) (filter : Filter)
    (rest : TokenStream) : Prop :=
  match floor with
  | lowest => FilterQuery.Derives .conjunction budget tokens filter ∨
      FilterQuery.Derives .disjunction budget tokens filter ∧ rest.StopsAt .or
  | or => FilterQuery.Derives .conjunction budget tokens filter
  | and | comparison => FilterQuery.Derives .operand budget tokens filter

theorem Precedence.derives_of_operand (floor : Precedence)
    (h : FilterQuery.Derives .operand budget tokens filter) (rest : TokenStream) :
    floor.Derives budget tokens filter rest := by
  cases floor with
  | lowest => exact .inl h.operand
  | or => exact h.operand
  | and | comparison => exact h

theorem Precedence.Derives.layer (h : floor.Derives budget tokens filter s) :
    FilterQuery.Derives floor.layer budget tokens filter := by
  cases floor with
  | lowest => exact h.elim FilterQuery.Derives.conjunction And.left
  | or | and | comparison => exact h

theorem Precedence.Derives.goOn {op : Connective} {right : Filter} {rest : TokenStream}
    (h : floor.Derives budget front left s) (hkind : s.current.kind = .connective op)
    (hfloor : floor < op.precedence)
    (hright : FilterQuery.Derives op.precedence.layer budget tokens right)
    (hstops : rest.StopsAt op.precedence) :
    floor.Derives budget (front ++ s.current :: tokens) (left.combine op right) rest := by
  obtain ⟨joint, hjoint, -, -⟩ := exists_spelling hkind
  rw [hjoint]
  cases floor with
  | lowest =>
    cases op with
    | and =>
      have hleft := h.resolve_right fun hparts => hparts.2 .and hkind (by decide)
      exact .inl (hleft.and hright joint)
    | or => exact .inr ⟨h.layer.or hright joint, hstops⟩
  | or =>
    cases op with
    | and => exact h.and hright joint
    | or => exact absurd hfloor (by decide)
  | and => exact absurd hfloor op.not_and_lt_precedence
  | comparison => exact absurd hfloor op.not_comparison_lt_precedence

private theorem derivesAlong :
    HoldsAlong
      (fun depth s r => Yields s r fun filter tokens _ =>
        Derives .operand (maxNesting - depth) tokens filter)
      (fun depth floor left s r => ∀ front, floor.Derives (maxNesting - depth) front left s →
        Yields s r fun filter tokens rest =>
          floor.Derives (maxNesting - depth) (front ++ tokens) filter rest)
      (fun depth floor s r => Yields s r fun filter tokens rest =>
        floor.Derives (maxNesting - depth) tokens filter rest) where
  tooDeep _ _ := .refuse _
  group := by
    intro depth s hkind hdepth inner
    obtain ⟨opening, hopening, -, -⟩ := exists_spelling hkind
    refine .afterCurrent (Token.isTerminal_of_kind hkind rfl) ?_
    refine inner.andThen fun inside tokens _ hinside => ?_
    unfold readClosing
    split
    case isTrue hclosing =>
      obtain ⟨closing, hspelled, -, -⟩ := exists_spelling hclosing
      refine .afterCurrent (Token.isTerminal_of_kind hclosing rfl) (.accept ?_)
      have hgroup := hinside.layer.group opening closing
      rw [Nat.sub_add_eq, Nat.sub_add_cancel (by omega)] at hgroup
      rwa [hopening, hspelled]
    case isFalse => exact .refuse _
  field hkind := derives_readConstraint hkind
  misplaced _ _ := .refuse _
  goOn := by
    intro depth floor left s op hkind hfloor right rest front hleft
    refine .afterCurrent (Token.isTerminal_of_kind hkind rfl) ?_
    refine right.andThen fun operand tokens hresult hright => .noting ?_
    have hstops := stops_readExpression s.advance operand hresult
    have hmore := hleft.goOn hkind hfloor hright.layer hstops
    refine (rest operand _ _ hmore).imp fun filter more _ hall => ?_
    simpa using hall
  stop _ _ hleft := .accept (by rwa [List.append_nil])
  join := by
    intro depth floor s operand rest
    exact operand.andThen fun left tokens _ hleft => rest left _ tokens (floor.derives_of_operand hleft _)

theorem derives_readExpression (depth : Nat) (floor : Precedence) (s : TokenStream) :
    Yields s (readExpression depth floor s) fun filter tokens _ =>
      Derives floor.layer (maxNesting - depth) tokens filter :=
  (derivesAlong.readExpression depth floor s).imp fun _ _ _ h => h.layer

/-! ## Nothing longer is derived -/

theorem exists_disjunction {layer : Layer} (d : Derivation layer) :
    ∃ whole : Derivation .disjunction, whole.tokens = d.tokens ∧ whole.nesting = d.nesting := by
  cases layer with
  | operand => exact ⟨.conjunction (.operand d), rfl, rfl⟩
  | conjunction => exact ⟨.conjunction d, rfl, rfl⟩
  | disjunction => exact ⟨d, rfl, rfl⟩

theorem kind_of_step_finished {limit : Nat} {state next : ReadingState} {token : Token}
    (hfinish : state.Finishes filter) (hstep : state.step limit token = .ok next) :
    token.isTerminal = true ∨ ∃ op, token.kind = .connective op := by
  obtain ⟨groups, pending, expected⟩ := state
  obtain ⟨rfl, last, rfl, -⟩ := hfinish
  cases takes_of_step hstep with
  | and hkind | or hkind => exact .inr ⟨_, hkind⟩
  | endOfInput hkind => exact .inl (by rw [Token.isTerminal, hkind]; rfl)

/-- Tokens that are derived in a layer are derived together with more only if a connective of that
layer follows. -/
theorem exists_connective_of_longer {layer : Layer} {d longer : Derivation layer} {token : Token}
    {rest : List Token} (hlonger : longer.tokens = d.tokens ++ token :: rest) :
    ∃ op, token.kind = .connective op ∧ layer.Joins op := by
  have hafter : Enclosure.after .outermost d.tokens = .outermost := (balanced_derivation d).after []
  have hkeeps := (balanced_derivation longer).keeps []
  rw [hlonger] at hkeeps
  obtain ⟨hopen, hjoins⟩ := hkeeps.of_append
  obtain ⟨short, hshort, -⟩ := exists_disjunction d
  obtain ⟨whole, hwhole, -⟩ := exists_disjunction longer
  obtain ⟨state, hstate, hfinish⟩ := after_derivation short (Nat.le_max_left _ whole.nesting)
  obtain ⟨final, hfinal, -⟩ := after_derivation whole (Nat.le_max_right short.nesting _)
  rw [hwhole, hlonger, ← hshort, after_append hstate] at hfinal
  obtain ⟨next, hstep, -⟩ : ∃ next, state.step (max short.nesting whole.nesting) token = .ok next ∧
      next.after (max short.nesting whole.nesting) rest = .ok final := by
    rw [← List.singleton_append] at hfinal
    simpa using exists_after_of_append hfinal
  rcases kind_of_step_finished hfinish hstep with hterminal | ⟨op, hkind⟩
  · rw [hopen] at hterminal
    cases hterminal
  · refine ⟨op, hkind, hjoins op hkind ?_⟩
    have houtside : ((Enclosure.after .outermost d.tokens).next token).brackets = [] := by
      rw [hafter]
      simp [Enclosure.next, Enclosure.outermost, hkind]
    exact congrArg List.length houtside

theorem length_le_of_front {layer : Layer} {d longer : Derivation layer} {rest : TokenStream}
    (hrest : ∀ op, rest.current.kind = .connective op → ¬ layer.Joins op)
    (hfront : longer.tokens <+: d.tokens ++ rest.toList) :
    longer.tokens.length ≤ d.tokens.length := by
  refine Nat.le_of_not_lt fun hlength => ?_
  obtain ⟨more, hmore⟩ := rest.toList_eq_cons
  rw [hmore] at hfront
  have hcut : d.tokens ++ [rest.current] <+: longer.tokens := by
    refine List.prefix_of_prefix_length_le ⟨more, by simp⟩ hfront ?_
    rw [List.length_append, List.length_singleton]
    omega
  obtain ⟨tail, htail⟩ := hcut
  rw [List.append_assoc, List.singleton_append] at htail
  obtain ⟨op, hkind, hjoins⟩ := exists_connective_of_longer htail.symm
  exact hrest op hkind hjoins

theorem TokenStream.StopsAt.not_joins {rest : TokenStream} (h : rest.StopsAt floor)
    (op : Connective) (hkind : rest.current.kind = .connective op) : ¬ floor.layer.Joins op := by
  have hop := h op hkind
  cases floor with
  | lowest => cases op <;> exact absurd (by decide) hop
  | or =>
    rintro rfl
    exact hop (by decide)
  | and | comparison => exact id

/-- What is passed for an expression is derived in its layer, and nothing longer is. -/
theorem longest_readExpression (floor : Precedence) (s : TokenStream) :
    Yields s (readExpression 0 floor s) fun filter tokens rest =>
      Derives floor.layer maxNesting tokens filter ∧
        ∀ d : Derivation floor.layer, d.tokens <+: tokens ++ rest.toList →
          d.tokens.length ≤ tokens.length := by
  intro filter hresult
  have hderives := derives_readExpression 0 floor s filter hresult
  have hstops := stops_readExpression s filter hresult
  refine ⟨hderives, fun longer hfront => ?_⟩
  obtain ⟨d, htokens, -, -⟩ := hderives
  rw [← htokens] at hfront ⊢
  exact length_le_of_front hstops.not_joins hfront

end FilterQuery
