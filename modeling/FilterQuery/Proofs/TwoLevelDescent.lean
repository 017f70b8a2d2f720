import FilterQuery.Proofs.ParserReadings
import FilterQuery.Proofs.PassedTokens

/-!
# Descent on two levels

Reading by precedence is recursive descent on the two levels of the grammar: a conjunction is a
chain of operands with semicolons between them, and a disjunction is a chain of conjunctions with
commas between them.  One loop takes in the connectives of both levels, but behind a comma it is
never called on to go on with a semicolon, since the conjunction there has taken it already.
-/

namespace FilterQuery

namespace Parser

/-- Goes on after the first part of a chain: as long as the current token is the connective, passes
it, takes one more part and combines the two. -/
def chain (op : Connective) (part : Parsing Filter) (left : Filter) (parser : Parser) :
    Option (Outcome Filter) :=
  if parser.current.kind = .connective op then do
    let (result, parser) ← part parser.advance
    match result with
    | .error e => return (.error e, parser)
    | .ok right => parser |>.chain op part (left.combine op right)
  else return (.ok left, parser)
partial_fixpoint

def conjunction : Parsing Filter := do
  chain .and operand (← operand)

def disjunction : Parsing Filter := do
  chain .or conjunction (← conjunction)

/-- What descent takes where connectives have to bind tighter than the given precedence. -/
def descent : Precedence → Parsing Filter
  | .lowest => disjunction
  | .or => conjunction
  | .and | .comparison => operand

variable {p : Parser} {op : Connective} {floor : Precedence} {part : Parsing Filter}
  {left : Filter}

/-! ## One turn of a loop -/

private theorem bind_eq (first : Parsing Filter) (second : Filter → Parsing Filter) (p : Parser) :
    (first >>= second) p = (do
      let (result, parser) ← first p
      match result with
      | .error e => return (.error e, parser)
      | .ok a => second a parser) := by
  change Option.bind (first p) _ = _
  congr 1
  funext ⟨result, parser⟩
  cases result <;> rfl

theorem chain_of_connective (hkind : p.current.kind = .connective op) :
    chain op part left p =
      (do chain op part (left.combine op (← part)) : Parsing Filter) p.advance := by
  rw [chain, if_pos hkind]
  exact (bind_eq part (fun right => chain op part (left.combine op right)) p.advance).symm

theorem chain_of_other (hkind : p.current.kind ≠ .connective op) :
    chain op part left p = some (.ok left, p) := by
  rw [chain, if_neg hkind]
  rfl

theorem expression_eq_bind (floor : Precedence) :
    expression floor = (do operands floor (← operand) : Parsing Filter) := by
  funext p
  rw [expression]
  exact (bind_eq operand (operands floor) p).symm

theorem operands_of_connective (hkind : p.current.kind = .connective op)
    (hfloor : floor < op.precedence) :
    operands floor left p =
      (do operands floor (left.combine op (← expression op.precedence)) : Parsing Filter)
        p.advance := by
  rw [operands, hkind]
  dsimp only
  rw [if_pos hfloor]
  exact (bind_eq (expression op.precedence) (fun right => operands floor (left.combine op right))
    p.advance).symm

theorem operands_of_other
    (h : ∀ op, p.current.kind = .connective op → ¬ floor < op.precedence) :
    operands floor left p = some (.ok left, p) := by
  rw [operands]
  cases hkind : p.current.kind with
  | connective op =>
    dsimp only
    rw [if_neg (h op hkind)]
    rfl
  | _ => rfl

/-- A loop ends before a connective that binds tightly enough, and an act after it is done there. -/
theorem chain_bind_of_other {next : Filter → Parsing Filter}
    (hkind : p.current.kind ≠ .connective op) :
    (do next (← chain op part left) : Parsing Filter) p = next left p := by
  rw [bind_eq, chain_of_other hkind]
  rfl

theorem chain_bind_of_connective {next : Filter → Parsing Filter}
    (hkind : p.current.kind = .connective op) :
    (do next (← chain op part left) : Parsing Filter) p =
      (do next (← chain op part (left.combine op (← part))) : Parsing Filter) p.advance := by
  rw [← bind_assoc]
  change Option.bind (chain op part left p) _ = _
  rw [chain_of_connective hkind]
  rfl

/-! ## Each precedence -/

theorem expression_eq_operand (h : ∀ op : Connective, ¬ floor < op.precedence) :
    expression floor = operand := by
  have hoperands : operands floor = (pure : Filter → Parsing Filter) := by
    funext left p
    exact operands_of_other fun op _ => h op
  rw [expression_eq_bind, hoperands]
  exact bind_pure _

theorem expression_and : expression Connective.and.precedence = operand :=
  expression_eq_operand fun op => by cases op <;> decide

private theorem bind_congr {first : Parsing Filter} {r : Reading Filter}
    {next next' : Filter → Parsing Filter} (h : Reads p (first p) r)
    (hnext : ∀ a, r.result = .ok a → next a (p.after r.passed) = next' a (p.after r.passed)) :
    (first >>= next) p = (first >>= next') p := by
  rw [bind_eq, bind_eq, h.run]
  cases hresult : r.result with
  | error e => rfl
  | ok a => exact hnext a hresult

theorem operands_or (left : Filter) (p : Parser) :
    operands .or left p = chain .and operand left p := by
  induction hs : p.stream.length using Nat.strongRecOn generalizing p left with
  | ind n ih =>
    by_cases hkind : p.current.kind = .connective .and
    · have hopen := Token.isTerminal_of_kind hkind rfl
      rw [operands_of_connective hkind (by decide), chain_of_connective hkind]
      rw [expression_and]
      have hright := reads_operand p.advance
      refine bind_congr hright fun right _ => ih _ ?_ _ _ rfl
      exact hs ▸ Nat.lt_of_le_of_lt hright.length_after (length_advance_lt hopen)
    · have hother : ∀ op, p.current.kind = .connective op → ¬ Precedence.or < op.precedence := by
        intro op hop
        cases op with
        | and => exact absurd hop hkind
        | or => decide
      rw [operands_of_other hother, chain_of_other hkind]

theorem expression_or : expression Connective.or.precedence = conjunction := by
  have hoperands : operands .or = chain .and operand := by
    funext left p
    exact operands_or left p
  rw [expression_eq_bind, Connective.precedence, hoperands, conjunction]

/-- The one loop of the lowest precedence goes on with semicolons and then with commas. -/
theorem operands_lowest (left : Filter) (p : Parser) :
    operands .lowest left p =
      (do chain .or conjunction (← chain .and operand left) : Parsing Filter) p := by
  induction hs : p.stream.length using Nat.strongRecOn generalizing p left with
  | ind n ih =>
    cases hkind : p.current.kind with
    | connective op =>
      have hopen := Token.isTerminal_of_kind hkind rfl
      have hshorter := length_advance_lt hopen
      cases op with
      | and =>
        rw [operands_of_connective hkind (by decide), chain_bind_of_connective hkind]
        rw [expression_and]
        have hright := reads_operand p.advance
        refine bind_congr hright fun right _ => ih _ ?_ _ _ rfl
        exact hs ▸ Nat.lt_of_le_of_lt hright.length_after hshorter
      | or =>
        have hcomma : p.current.kind ≠ .connective .and := by simp [hkind]
        rw [operands_of_connective hkind (by decide), chain_bind_of_other hcomma,
          chain_of_connective hkind, ← expression_or]
        have hright := reads_expression .or p.advance
        refine bind_congr hright fun right hresult => ?_
        have hstops : TokenStream.StopsAt .or (p.advance.stream.drop _) :=
          stops_readExpression _ right hresult
        rw [← hright.stream_after, TokenStream.StopsAt, stream_current] at hstops
        -- No semicolon is left behind the conjunction, so the loop goes on with commas alone.
        rw [ih _ (hs ▸ Nat.lt_of_le_of_lt hright.length_after hshorter) _ _ rfl,
          chain_bind_of_other fun hand => hstops .and hand (by decide), expression_or]
    | _ =>
      have hother : ∀ op, p.current.kind ≠ .connective op := by simp [hkind]
      rw [operands_of_other fun op hop => absurd hop (hother op), chain_bind_of_other (hother .and),
        chain_of_other (hother .or)]

theorem expression_lowest : expression .lowest = disjunction := by
  have hoperands : operands .lowest =
      fun left => (do chain .or conjunction (← chain .and operand left) : Parsing Filter) := by
    funext left p
    exact operands_lowest left p
  rw [expression_eq_bind, hoperands, disjunction, conjunction, bind_assoc]

/-- A parser in any state takes an expression of any precedence as descent does: it comes to the
same filter or error, with the same tokens passed and in the same groups. -/
theorem expression_eq_descent (floor : Precedence) (p : Parser) :
    ∃ result passed, expression floor p = some (result, p.after passed) ∧
      descent floor p = some (result, p.after passed) := by
  have hread := (reads_expression floor p).run
  have hdescent : descent floor = expression floor := by
    cases floor with
    | lowest => exact expression_lowest.symm
    | or => exact expression_or.symm
    | and => exact expression_and.symm
    | comparison => exact (expression_eq_operand fun op => by cases op <;> decide).symm
  exact ⟨_, _, hread, hdescent ▸ hread⟩

end Parser

end FilterQuery
