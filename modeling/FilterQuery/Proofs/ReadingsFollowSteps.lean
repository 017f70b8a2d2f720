import FilterQuery.Proofs.LiteralValues
import FilterQuery.Proofs.StepwiseReading

/-!
# Readings follow steps

Reading a part of a query passes the tokens that the stepwise reading takes in, and fails where
that one refuses a token, with the same error.  Only a value without an order is passed before it
is refused.  The main statement, `readQuery_eq_ok_iff` with its companion for errors, says that a
query is read as the stepwise reading of all its tokens tells.
-/

namespace FilterQuery

/-- How many tokens are passed from the refused one on before an error is reported. -/
def ParseError.overrun : ParseError → Nat
  | unorderedArgument .. => 1
  | _ => 0

theorem ParseError.overrun_of_token? {token : Token} {e : ParseError} (h : e.token? = some token) :
    e.overrun = 0 := by
  cases e with
  | unorderedArgument => cases h
  | _ => rfl

/-- A reading that passes what the steps from a state take in.  Of a success the condition tells
about the value, the state reached and what is left of the stream. -/
structure Follows {α : Type} (state : ReadingState) (s : TokenStream)
    (result : α → ReadingState → TokenStream → Prop) (r : Reading α) : Prop where
  ok : ∀ a, r.result = .ok a → r.passed ≤ s.length ∧
    ∃ next, state.after maxNesting (s.ahead.take r.passed) = .ok next ∧
      result a next (s.drop r.passed)
  error : ∀ e, r.result = .error e → ∃ i before, i ≤ s.length ∧ r.passed = i + e.overrun ∧
    state.after maxNesting (s.ahead.take i) = .ok before ∧
      before.step maxNesting (s.drop i).current = .error e

namespace Follows

variable {α β : Type} {state next : ReadingState} {s : TokenStream}
  {result : α → ReadingState → TokenStream → Prop}
  {final : β → ReadingState → TokenStream → Prop}

theorem accept {a : α} (h : result a state s) : Follows state s result (.accept a) where
  ok := by
    rintro b hb
    cases hb
    exact ⟨Nat.zero_le _, state, rfl, h⟩
  error := by
    intro e he
    cases he

theorem refuse {e : ParseError} (h : state.step maxNesting s.current = .error e)
    (hpassed : e.overrun = 0) : Follows state s result (.refuse e) where
  ok := by
    intro a ha
    cases ha
  error := by
    intro e' he
    cases he
    exact ⟨0, state, Nat.zero_le _, by rw [hpassed]; rfl, rfl, h⟩

theorem afterCurrent {r : Reading α} (hopen : s.current.isTerminal = false)
    (hstep : state.step maxNesting s.current = .ok next)
    (h : Follows next s.advance result r) : Follows state s result (.afterCurrent s r) where
  ok := by
    intro a ha
    obtain ⟨hle, reached, hafter, hresult⟩ := h.ok a ha
    have hpos := TokenStream.length_pos_of_isTerminal hopen
    rw [TokenStream.length_advance] at hle
    refine ⟨by simp only [Reading.afterCurrent]; omega, reached, ?_, ?_⟩
    · rw [TokenStream.ahead_eq_cons hpos, Reading.afterCurrent, List.take_succ_cons,
        ReadingState.after_cons hstep, hafter]
    · rw [Reading.afterCurrent, Nat.add_comm, ← TokenStream.drop_drop]
      exact hresult
  error := by
    intro e he
    obtain ⟨i, before, hle, hpassed, hafter, hrefused⟩ := h.error e he
    have hpos := TokenStream.length_pos_of_isTerminal hopen
    rw [TokenStream.length_advance] at hle
    refine ⟨i + 1, before, by omega, by simp only [Reading.afterCurrent]; omega, ?_, ?_⟩
    · rw [TokenStream.ahead_eq_cons hpos, List.take_succ_cons, ReadingState.after_cons hstep,
        hafter]
    · rw [Nat.add_comm, ← TokenStream.drop_drop]
      exact hrefused

theorem andThen {first : Reading α} {second : α → Nat → Reading β}
    (h : Follows state s result first)
    (h' : ∀ a reached, result a reached (s.drop first.passed) →
      Follows reached (s.drop first.passed) final (second a first.passed)) :
    Follows state s final (first.andThen second) := by
  cases hfirst : first.result with
  | error e =>
    rw [Reading.andThen_of_error hfirst]
    refine ⟨fun b hb => ?_, fun e' he => ?_⟩
    · cases hb
    · cases he
      exact h.error e hfirst
  | ok a =>
    rw [Reading.andThen_of_ok hfirst]
    obtain ⟨hle, reached, hafter, hresult⟩ := h.ok a hfirst
    have hsecond := h' a reached hresult
    have htake (n : Nat) : s.ahead.take (first.passed + n) =
        s.ahead.take first.passed ++ (s.drop first.passed).ahead.take n := List.take_add
    refine ⟨fun b hb => ?_, fun e he => ?_⟩
    · obtain ⟨hle', reached', hafter', hresult'⟩ := hsecond.ok b hb
      rw [TokenStream.length_drop] at hle'
      refine ⟨by dsimp only; omega, reached', ?_, ?_⟩
      · rw [htake, ReadingState.after_append hafter, hafter']
      · rw [← TokenStream.drop_drop]
        exact hresult'
    · obtain ⟨i, before, hle', hpassed, hafter', hrefused⟩ := hsecond.error e he
      rw [TokenStream.length_drop] at hle'
      refine ⟨first.passed + i, before, by omega, by dsimp only; omega, ?_, ?_⟩
      · rw [htake, ReadingState.after_append hafter, hafter']
      · rw [← TokenStream.drop_drop]
        exact hrefused

theorem imp {r : Reading α} {result' : α → ReadingState → TokenStream → Prop}
    (h : Follows state s result r) (himp : ∀ a next rest, result a next rest → result' a next rest) :
    Follows state s result' r := by
  refine ⟨fun a ha => ?_, h.error⟩
  obtain ⟨hle, next, hafter, hresult⟩ := h.ok a ha
  exact ⟨hle, next, hafter, himp _ _ _ hresult⟩

theorem map {r : Reading α} {f : α → β} (h : Follows state s (fun a => final (f a)) r) :
    Follows state s final (r.map f) := by
  refine ⟨fun b hb => ?_, fun e he => ?_⟩
  · obtain ⟨a, ha, rfl⟩ : ∃ a, r.result = .ok a ∧ f a = b := by
      cases hr : r.result with
      | error e => simp [Reading.map, hr, Except.map] at hb
      | ok a =>
        simp only [Reading.map, hr, Except.map, Except.ok.injEq] at hb
        exact ⟨a, rfl, hb⟩
    exact h.ok a ha
  · refine h.error e ?_
    cases hr : r.result with
    | error e' => simpa [Reading.map, hr, Except.map] using he
    | ok a => simp [Reading.map, hr, Except.map] at he

theorem noting {r : Reading α} {notes : List Note} (h : Follows state s result r) :
    Follows state s result (r.noting notes) :=
  ⟨h.ok, h.error⟩

theorem after_toList {r : Reading α} {e : ParseError} (h : Follows state s result r)
    (hresult : r.result = .error e) : state.after maxNesting s.toList = .error e := by
  obtain ⟨i, before, -, -, hafter, hrefused⟩ := h.error e hresult
  obtain ⟨rest, hrest⟩ := (s.drop i).toList_eq_cons
  rw [s.toList_eq_take_append i, ReadingState.after_append hafter, hrest]
  exact ReadingState.after_cons_of_error hrefused rest

end Follows

/-! ## Constraints -/

section Constraints

variable {groups : List (Nat × Pending)} {pending : Pending} {field : String} {op : Comparison}
  {state : ReadingState} {s : TokenStream}

private theorem overrun_errorOr {e : ParseError} (h : e.overrun = 0) :
    (s.errorOr e).overrun = 0 := by
  unfold TokenStream.errorOr
  split
  · rfl
  · exact h

/-- A value is read by any state that steps on with it and has no place for other tokens. -/
private theorem follows_readValue {next : Value → ReadingState}
    (hliteral : ∀ cls, s.current.kind = .literal cls → state.step maxNesting s.current =
      (literalValue field cls s.current).map next)
    (hother : (∀ cls, s.current.kind ≠ .literal cls) → state.step maxNesting s.current =
      .error (s.errorOr (.missingArgument field s.current))) :
    Follows state s (fun value reached _ => reached = next value) (readValue field s) := by
  unfold readValue
  split
  case h_1 cls hkind =>
    have hstep := hliteral cls hkind
    split
    case h_1 value hvalue =>
      rw [hvalue] at hstep
      exact .afterCurrent (Token.isTerminal_of_kind hkind rfl) hstep (.accept rfl)
    case h_2 e he =>
      rw [he] at hstep
      exact .refuse hstep (ParseError.overrun_of_token? (token?_literalValue he))
  case h_2 hkind => exact .refuse (hother hkind) (overrun_errorOr rfl)

private theorem follows_readOrderable {next : Value → ReadingState}
    (hliteral : ∀ cls, s.current.kind = .literal cls → state.step maxNesting s.current =
      (orderedValue field op cls s.current).map next)
    (hother : (∀ cls, s.current.kind ≠ .literal cls) → state.step maxNesting s.current =
      .error (s.errorOr (.missingArgument field s.current))) :
    Follows state s (fun value reached _ => reached = next value) (readOrderable field op s) := by
  unfold readOrderable readValue
  split
  case h_1 cls hkind =>
    have hstep := hliteral cls hkind
    unfold orderedValue at hstep
    split
    case h_1 value hvalue =>
      simp only [hvalue] at hstep
      split at hstep
      case isTrue hordered =>
        have hread : Follows state s (fun value reached _ => reached = next value)
            (.afterCurrent s (.accept value)) :=
          .afterCurrent (Token.isTerminal_of_kind hkind rfl) hstep (.accept rfl)
        simpa [Reading.andThen, Reading.afterCurrent, Reading.accept, hordered] using hread
      case isFalse hordered =>
        -- The value has been passed, so the error comes one token late.
        refine ⟨fun a ha => ?_, fun e he => ?_⟩
        · simp [Reading.andThen, Reading.afterCurrent, Reading.accept, Reading.refuse,
            hordered] at ha
        · obtain rfl : e = .unorderedArgument field op value := by
            simpa [Reading.andThen, Reading.afterCurrent, Reading.accept, Reading.refuse,
              hordered, eq_comm] using he
          refine ⟨0, state, Nat.zero_le _, ?_, rfl, hstep⟩
          simp [Reading.andThen, Reading.afterCurrent, Reading.accept, Reading.refuse,
            hordered, ParseError.overrun]
    case h_2 e he =>
      simp only [he] at hstep
      exact .refuse hstep (ParseError.overrun_of_token? (token?_literalValue he))
  case h_2 hkind => exact .refuse (hother hkind) (overrun_errorOr rfl)

private theorem follows_readValues {values : List Value}
    (hliteral : ∀ cls, s.current.kind = .literal cls → state.step maxNesting s.current =
      (orderedValue field op cls s.current).map
        (ReadingState.listing groups pending field op values))
    (hother : (∀ cls, s.current.kind ≠ .literal cls) → state.step maxNesting s.current =
      .error (s.errorOr (.missingArgument field s.current))) :
    Follows state s
      (fun more reached _ => reached =
        .complete groups pending (.constraint field op (.list (values ++ more))))
      (readValues field op s) := by
  induction hlen : s.length using Nat.strongRecOn generalizing s state values with
  | ind n ih =>
    unfold readValues
    refine (follows_readOrderable hliteral hother).andThen ?_
    rintro value _ rfl
    dsimp only
    split
    case h_1 hkind =>
      exact .afterCurrent (Token.isTerminal_of_kind hkind rfl) (ReadingState.step_list_closing hkind)
        (.accept rfl)
    case h_2 hkind =>
      have hpos := TokenStream.length_pos_of_kind hkind rfl
      rw [TokenStream.length_drop] at hpos
      refine .afterCurrent (Token.isTerminal_of_kind hkind rfl) (ReadingState.step_separator hkind)
        (.map ?_)
      refine (ih _ ?_ (fun _ => ReadingState.step_next_value) ReadingState.step_next_refusal
        rfl).imp ?_
      · rw [TokenStream.length_advance, TokenStream.length_drop]
        omega
      · rintro more _ _ rfl
        simp
    case h_3 hclosing hcomma =>
      exact .refuse (ReadingState.step_separator_refusal hclosing hcomma) (overrun_errorOr rfl)

private theorem follows_readList (hop : op.isMembership = true) :
    Follows ⟨groups, pending, .argument field op⟩ s
      (fun values reached _ => reached =
        .complete groups pending (.constraint field op (.list values)))
      (readList field op s) := by
  unfold readList
  split
  case isTrue hkind =>
    refine .afterCurrent (Token.isTerminal_of_kind hkind rfl)
      (ReadingState.step_list_opening hkind hop) ?_
    split
    case isTrue hclosing => exact .refuse (ReadingState.step_empty_list hclosing) rfl
    case isFalse hclosing =>
      exact follows_readValues (fun _ => ReadingState.step_first_value)
        (ReadingState.step_first_refusal hclosing)
  case isFalse hkind =>
    have hstep : ReadingState.step maxNesting ⟨groups, pending, .argument field op⟩ s.current =
        .error (s.errorOr (.missingList field s.current)) := by
      rw [ReadingState.step_argument_refusal (by rw [if_pos hop]; exact hkind)]
      simp [ReadingState.refusal, ReadingState.complaint, TokenStream.errorOr, hop]
    exact .refuse hstep (overrun_errorOr rfl)

private theorem step_missing_argument (hop : op.isMembership = false)
    (h : ∀ cls, s.current.kind ≠ .literal cls) :
    ReadingState.step maxNesting ⟨groups, pending, .argument field op⟩ s.current =
      .error (s.errorOr (.missingArgument field s.current)) := by
  rw [ReadingState.step_argument_refusal (by rw [if_neg (by simp [hop])]; exact h)]
  simp [ReadingState.refusal, ReadingState.complaint, TokenStream.errorOr, hop]

private theorem follows_readArgument :
    Follows ⟨groups, pending, .argument field op⟩ s
      (fun argument reached _ => reached =
        .complete groups pending (.constraint field op argument))
      (readArgument field op s) := by
  unfold readArgument
  split
  case isTrue hmember => exact .map (follows_readList hmember)
  case isFalse hmember =>
    have hmember : op.isMembership = false := by simpa using hmember
    split
    case isTrue hequal =>
      exact .map (follows_readValue
        (fun _ hcls => ReadingState.step_any_value hcls hmember hequal)
        (step_missing_argument hmember))
    case isFalse hequal =>
      have hequal : op.isEquality = false := by simpa using hequal
      exact .map (follows_readOrderable
        (fun _ hcls => ReadingState.step_ordered_value hcls hmember hequal)
        (step_missing_argument hmember))

theorem follows_readConstraint (hkind : s.current.kind = .literal .identifier) :
    Follows ⟨groups, pending, .operand⟩ s
      (fun filter reached _ => reached = .complete groups pending filter) (readConstraint s) := by
  unfold readConstraint
  refine .afterCurrent (Token.isTerminal_of_kind hkind rfl) (ReadingState.step_field hkind) ?_
  unfold readComparison
  split
  case h_1 op hop =>
    exact .afterCurrent (Token.isTerminal_of_kind hop rfl) (ReadingState.step_comparison hop)
      (.map follows_readArgument)
  case h_2 hother =>
    exact .refuse (ReadingState.step_comparison_refusal hother) (overrun_errorOr rfl)

end Constraints

/-! ## Expressions -/

section Expressions

variable {groups : List (Nat × Pending)} {pending : Pending} {depth : Nat} {floor : Precedence}
  {left filter : Filter} {state : ReadingState} {s rest : TokenStream}

/-- Whether an expression may begin to the right of what is pending: nothing stands before one that
takes in all connectives, and no semicolon before one that takes in semicolons. -/
def Precedence.Begins (floor : Precedence) (pending : Pending) : Prop :=
  match floor with
  | lowest => pending = .none
  | or => pending.conjunction = none
  | and | comparison => True

/-- The state that an expression, begun to the right of what is pending, has come to with a filter.
A conjunction that ends a disjunction does not go on, so no semicolon follows it. -/
def Precedence.Reaches (floor : Precedence) (groups : List (Nat × Pending)) (pending : Pending)
    (filter : Filter) (state : ReadingState) (rest : TokenStream) : Prop :=
  match floor with
  | lowest => pending = .none ∧ ∃ disjunction last,
      state = ⟨groups, ⟨disjunction, none⟩, .joint last⟩ ∧
        Pending.disjoin ⟨disjunction, none⟩ last = filter ∧
          (disjunction = none ∨ rest.current.kind ≠ .connective .and)
  | or => pending.conjunction = none ∧ state = ⟨groups, ⟨pending.disjunction, none⟩, .joint filter⟩
  | and | comparison => state = .complete groups pending filter

theorem Precedence.Begins.reaches (h : floor.Begins pending) (groups : List (Nat × Pending))
    (operand : Filter) (rest : TokenStream) :
    floor.Reaches groups pending operand (.complete groups pending operand) rest := by
  cases floor with
  | lowest =>
    obtain rfl : pending = .none := h
    exact ⟨rfl, none, operand, rfl, rfl, .inl rfl⟩
  | or =>
    obtain ⟨disjunction, conjunction⟩ := pending
    obtain rfl : conjunction = none := h
    exact ⟨rfl, rfl⟩
  | and | comparison => exact rfl

theorem Precedence.Reaches.step {op : Connective} (h : floor.Reaches groups pending left state s)
    (hkind : s.current.kind = .connective op) (hfloor : floor < op.precedence) :
    ∃ inner, state.step maxNesting s.current = .ok ⟨groups, inner, .operand⟩ ∧
      op.precedence.Begins inner ∧
      ∀ right next rest, op.precedence.Reaches groups inner right next rest →
        rest.StopsAt op.precedence →
          floor.Reaches groups pending (left.combine op right) next rest := by
  cases floor with
  | lowest =>
    obtain ⟨hpending, disjunction, last, rfl, rfl, hleft⟩ := h
    cases op with
    | and =>
      obtain rfl : disjunction = none := hleft.resolve_right fun hne => hne hkind
      refine ⟨_, ReadingState.step_and hkind, trivial, ?_⟩
      rintro right _ rest rfl -
      exact ⟨hpending, none, _, rfl, rfl, .inl rfl⟩
    | or =>
      refine ⟨_, ReadingState.step_or hkind, rfl, ?_⟩
      rintro right _ rest ⟨-, rfl⟩ hstops
      exact ⟨hpending, _, right, rfl, rfl, .inr fun hand => hstops .and hand (by decide)⟩
  | or =>
    obtain ⟨hpending, rfl⟩ := h
    cases op with
    | and =>
      refine ⟨_, ReadingState.step_and hkind, trivial, ?_⟩
      rintro right _ rest rfl -
      exact ⟨hpending, rfl⟩
    | or => exact absurd hfloor (by decide)
  | and => exact absurd hfloor op.not_and_lt_precedence
  | comparison => exact absurd hfloor op.not_comparison_lt_precedence

/-- The state after a whole disjunction, up to a token that is no connective. -/
private def IsWhole (groups : List (Nat × Pending)) (filter : Filter) (state : ReadingState)
    (rest : TokenStream) : Prop :=
  (∃ disjunction last, state = ⟨groups, ⟨disjunction, none⟩, .joint last⟩ ∧
    Pending.disjoin ⟨disjunction, none⟩ last = filter) ∧
  ∀ op, rest.current.kind ≠ .connective op

private theorem isWhole_of_reaches (h : Precedence.Reaches .lowest groups pending filter state rest)
    (hstops : rest.StopsAt .lowest) : IsWhole groups filter state rest := by
  obtain ⟨-, disjunction, last, hstate, hfilter, -⟩ := h
  refine ⟨⟨disjunction, last, hstate, hfilter⟩, fun op hkind => hstops op hkind ?_⟩
  cases op <;> decide

private theorem follows_readClosing {outside : Pending} {opening : Nat}
    (h : IsWhole ((opening, outside) :: groups) filter state s) :
    Follows state s (fun filter reached _ => reached = .complete groups outside filter)
      (readClosing opening filter s) := by
  obtain ⟨⟨disjunction, last, rfl, rfl⟩, hother⟩ := h
  unfold readClosing
  split
  case isTrue hkind =>
    exact .afterCurrent (Token.isTerminal_of_kind hkind rfl) (ReadingState.step_closing hkind)
      (.accept rfl)
  case isFalse hkind =>
    exact .refuse (ReadingState.step_group_refusal hkind hother) (overrun_errorOr rfl)

private def OperandFollows (depth : Nat) (s : TokenStream) (r : Reading Filter) : Prop :=
  ∀ groups pending, groups.length = depth →
    Follows ⟨groups, pending, .operand⟩ s
      (fun filter reached _ => reached = .complete groups pending filter) r

private def OperandsFollow (depth : Nat) (floor : Precedence) (left : Filter) (s : TokenStream)
    (r : Reading Filter) : Prop :=
  ∀ groups pending state, groups.length = depth → floor.Reaches groups pending left state s →
    Follows state s
      (fun filter reached rest => floor.Reaches groups pending filter reached rest ∧
        rest.StopsAt floor) r

private def ExpressionFollows (depth : Nat) (floor : Precedence) (s : TokenStream)
    (r : Reading Filter) : Prop :=
  ∀ groups pending, groups.length = depth → floor.Begins pending →
    Follows ⟨groups, pending, .operand⟩ s
      (fun filter reached rest => floor.Reaches groups pending filter reached rest ∧
        rest.StopsAt floor) r

private theorem followsAlong :
    HoldsAlong OperandFollows OperandsFollow ExpressionFollows where
  tooDeep := by
    rintro _ s hkind hfull groups pending rfl
    have hstep : ReadingState.step maxNesting ⟨groups, pending, .operand⟩ s.current =
        .error (.nestingTooDeep s.current) := by
      rw [ReadingState.step_opening hkind, if_pos hfull]
    exact .refuse hstep rfl
  group := by
    rintro _ s hkind hdepth inner groups pending rfl
    have hstep : ReadingState.step maxNesting ⟨groups, pending, .operand⟩ s.current =
        .ok ⟨(s.current.offset, pending) :: groups, .none, .operand⟩ := by
      rw [ReadingState.step_opening hkind, if_neg (Nat.not_le_of_lt hdepth)]
    refine .afterCurrent (Token.isTerminal_of_kind hkind rfl) hstep ?_
    refine (inner ((s.current.offset, pending) :: groups) .none rfl rfl).andThen ?_
    rintro filter reached ⟨hreaches, hstops⟩
    exact follows_readClosing (isWhole_of_reaches hreaches hstops)
  field := fun hkind _ _ _ => follows_readConstraint hkind
  misplaced := fun hopening hfield _ _ _ =>
    .refuse (ReadingState.step_operand_refusal hopening hfield) (overrun_errorOr rfl)
  goOn := by
    intro depth floor left s op hkind hfloor right rest groups pending state hdepth hleft
    obtain ⟨inner, hstep, hbegins, hbelongs⟩ := hleft.step hkind hfloor
    refine .afterCurrent (Token.isTerminal_of_kind hkind rfl) hstep ?_
    refine (right groups inner hdepth hbegins).andThen ?_
    rintro filter reached ⟨hreaches, hstops⟩
    exact (rest filter _ groups pending reached hdepth (hbelongs _ _ _ hreaches hstops)).noting
  stop := fun hstops _ _ _ _ hleft => .accept ⟨hleft, hstops⟩
  join := by
    intro depth floor s operand rest groups pending hdepth hbegins
    refine (operand groups pending hdepth).andThen ?_
    rintro filter _ rfl
    exact rest filter _ groups pending _ hdepth (hbegins.reaches groups filter _)

end Expressions

/-- An expression of any precedence follows the steps from the start of a query. -/
theorem follows_readExpression (floor : Precedence) (s : TokenStream) :
    Follows .start s (fun _ _ _ => True) (readExpression 0 floor s) := by
  have hbegins : floor.Begins .none := by cases floor <;> trivial
  exact (followsAlong.readExpression 0 floor s [] .none rfl hbegins).imp fun _ _ _ _ => trivial

/-! ## Queries -/

theorem follows_readQuery (s : TokenStream) :
    Follows .start s
      (fun filter reached rest => reached.Finishes filter ∧ rest.current.kind = .endOfInput)
      (readQuery s) := by
  unfold readQuery
  refine (followsAlong.readExpression 0 .lowest s [] .none rfl rfl).andThen ?_
  rintro filter reached ⟨hreaches, hstops⟩
  obtain ⟨⟨disjunction, last, rfl, hfilter⟩, hother⟩ := isWhole_of_reaches hreaches hstops
  dsimp only
  split
  case isTrue hend => exact .accept ⟨⟨rfl, last, rfl, hfilter⟩, hend⟩
  case isFalse hend =>
    exact .refuse (ReadingState.step_trailing_refusal hend hother) (overrun_errorOr rfl)

variable {s : TokenStream} {filter : Filter} {e : ParseError}

theorem passed_readQuery_of_ok (h : (readQuery s).result = .ok filter) :
    (readQuery s).passed = s.length := by
  obtain ⟨hle, reached, -, -, hend⟩ := (follows_readQuery s).ok filter h
  have hterminal : (s.drop (readQuery s).passed).current.isTerminal = true := by
    rw [Token.isTerminal, hend]
    rfl
  have hzero := TokenStream.length_eq_zero_of_isTerminal hterminal
  rw [TokenStream.length_drop] at hzero
  omega

private theorem after_toList_of_readQuery_ok (h : (readQuery s).result = .ok filter) :
    ∃ state, ReadingState.start.after maxNesting s.toList = .ok state ∧ state.Finishes filter := by
  obtain ⟨-, reached, hafter, hfinish, hend⟩ := (follows_readQuery s).ok filter h
  rw [passed_readQuery_of_ok h] at hafter hend
  have hlast : (s.drop s.length).current = s.last := by
    refine TokenStream.current_eq_last ?_
    rw [TokenStream.length_drop, Nat.sub_self]
  have hall : s.ahead.take s.length = s.ahead := List.take_of_length_le (Nat.le_refl _)
  rw [hall] at hafter
  refine ⟨reached, ?_, hfinish⟩
  rw [TokenStream.toList, ReadingState.after_concat hafter, ← hlast]
  exact hfinish.step_end hend maxNesting

theorem readQuery_eq_error_iff :
    (readQuery s).result = .error e ↔ ReadingState.start.after maxNesting s.toList = .error e := by
  constructor
  · exact (follows_readQuery s).after_toList
  · intro h
    cases hread : (readQuery s).result with
    | error e' =>
      rw [(follows_readQuery s).after_toList hread] at h
      cases h
      rfl
    | ok filter =>
      obtain ⟨state, hafter, -⟩ := after_toList_of_readQuery_ok hread
      rw [hafter] at h
      cases h

theorem readQuery_eq_ok_iff :
    (readQuery s).result = .ok filter ↔
      ∃ state, ReadingState.start.after maxNesting s.toList = .ok state ∧
        state.Finishes filter := by
  constructor
  · exact after_toList_of_readQuery_ok
  · rintro ⟨state, hafter, hfinish⟩
    cases hread : (readQuery s).result with
    | error e =>
      rw [(follows_readQuery s).after_toList hread] at hafter
      cases hafter
    | ok filter' =>
      obtain ⟨state', hafter', hfinish'⟩ := after_toList_of_readQuery_ok hread
      rw [hafter] at hafter'
      cases hafter'
      rw [hfinish.unique hfinish']

/-- Nothing is taken in past the first refused token. -/
private theorem le_of_refused {i j : Nat} {before before' : ReadingState}
    (hafter : ReadingState.start.after maxNesting (s.ahead.take i) = .ok before)
    (hrefused : before.step maxNesting (s.drop i).current = .error e) (hj : j ≤ s.length)
    (hafter' : ReadingState.start.after maxNesting (s.ahead.take j) = .ok before') : j ≤ i := by
  refine Nat.le_of_not_lt fun hlt => ?_
  obtain ⟨n, rfl⟩ : ∃ n, j = i + (n + 1) := ⟨j - i - 1, by omega⟩
  have hpos : 0 < (s.drop i).length := by
    rw [TokenStream.length_drop]
    omega
  have hahead : s.ahead.drop i = (s.drop i).current :: (s.drop i).advance.ahead :=
    TokenStream.ahead_eq_cons hpos
  rw [List.take_add, hahead, List.take_succ_cons, ReadingState.after_append hafter,
    ReadingState.after_cons_of_error hrefused] at hafter'
  cases hafter'

theorem readQuery_of_refused {i : Nat} {before : ReadingState} (hi : i ≤ s.length)
    (hafter : ReadingState.start.after maxNesting (s.ahead.take i) = .ok before)
    (hrefused : before.step maxNesting (s.drop i).current = .error e) :
    (readQuery s).result = .error e ∧ (readQuery s).passed = i + e.overrun := by
  have herror : (readQuery s).result = .error e := by
    obtain ⟨rest, hrest⟩ := (s.drop i).toList_eq_cons
    rw [readQuery_eq_error_iff, s.toList_eq_take_append i, ReadingState.after_append hafter, hrest]
    exact ReadingState.after_cons_of_error hrefused rest
  obtain ⟨j, before', hj, hpassed, hafter', hrefused'⟩ := (follows_readQuery s).error e herror
  have hij := Nat.le_antisymm (le_of_refused hafter' hrefused' hi hafter)
    (le_of_refused hafter hrefused hj hafter')
  exact ⟨herror, hij ▸ hpassed⟩

variable {query : String}

theorem parse_eq_error_iff :
    parse query = .error e ↔ ReadingState.start.after maxNesting (tokenize query) = .error e :=
  readQuery_eq_error_iff

theorem parse_eq_ok_iff :
    parse query = .ok filter ↔
      ∃ state, ReadingState.start.after maxNesting (tokenize query) = .ok state ∧
        state.Finishes filter :=
  readQuery_eq_ok_iff

end FilterQuery
