import FilterQuery.QueryReading

/-!
# Stepwise reading

A query can also be read one token at a time.  The state of such a reading is a stack of open
groups, what stands to the left of the current operand inside the innermost group, and what is
expected next.  A step takes in one token or refuses it with an error, so the first refused token
decides the error.  The depth to which groups may be nested is a parameter.
-/

namespace FilterQuery

/-- What stands to the left of an operand inside the innermost group: what is before the last
comma, and what is between it and the last semicolon. -/
structure Pending where
  disjunction : Option Filter
  conjunction : Option Filter

namespace Pending

def none : Pending := ⟨.none, .none⟩

/-- The conjunction that ends with an operand. -/
def conjoin (pending : Pending) (operand : Filter) : Filter :=
  match pending.conjunction with
  | .none => operand
  | some left => left.combine .and operand

/-- The disjunction that ends with a conjunction. -/
def disjoin (pending : Pending) (right : Filter) : Filter :=
  match pending.disjunction with
  | .none => right
  | some left => left.combine .or right

end Pending

/-- What may come next. -/
inductive Expectation where
  /-- A group or a field. -/
  | operand
  | comparison (field : String)
  | argument (field : String) (op : Comparison)
  /-- The first value of a list, of which only the parenthesis has been read. -/
  | firstValue (field : String) (op : Comparison)
  | nextValue (field : String) (op : Comparison) (values : List Value)
  /-- A separator or the end of a list. -/
  | separator (field : String) (op : Comparison) (values : List Value)
  /-- A connective or the end of a group, after a conjunction. -/
  | joint (filter : Filter)

/-- What a value that may come next is for: a field and a comparison. -/
def Expectation.value? : Expectation → Option (String × Comparison)
  | argument field op => some (field, op)
  | firstValue field op => some (field, op)
  | nextValue field op _ => some (field, op)
  | operand | comparison _ | separator .. | joint _ => none

def Expectation.field? : Expectation → Option String
  | comparison field | argument field _ | firstValue field _ | nextValue field _ _
  | separator field _ _ => some field
  | operand | joint _ => none

theorem Expectation.field?_of_value? {expected : Expectation} {field : String} {op : Comparison}
    (h : expected.value? = some (field, op)) : expected.field? = some field := by
  cases expected <;> cases h <;> rfl

/-- The state of a stepwise reading.  The open groups are kept with the offsets of their
parentheses and with what stands to the left of them. -/
structure ReadingState where
  groups : List (Nat × Pending)
  pending : Pending
  expected : Expectation

namespace ReadingState

def start : ReadingState := ⟨[], .none, .operand⟩

def complete (groups : List (Nat × Pending)) (pending : Pending) (operand : Filter) :
    ReadingState :=
  ⟨groups, ⟨pending.disjunction, none⟩, .joint (pending.conjoin operand)⟩

/-- The error with which a token is refused that has no place in a state. -/
def complaint (state : ReadingState) (token : Token) : ParseError :=
  match state.expected with
  | .operand => .unexpectedToken token
  | .comparison field => .missingComparison field token
  | .argument field op => if op.isMembership then .missingList field token
    else .missingArgument field token
  | .firstValue field _ => .missingArgument field token
  | .nextValue field _ _ => .missingArgument field token
  | .separator field _ _ => .missingSeparator field token
  | .joint _ => match state.groups with
    | [] => .trailingInput token
    | (opening, _) :: _ => .unclosedGroup opening token

/-- The error with which a token is refused; a malformed operator is always reported as such. -/
def refusal (state : ReadingState) (token : Token) : ParseError :=
  if token.kind = .malformed then .malformedOperator token else state.complaint token

end ReadingState

def orderedValue (field : String) (op : Comparison) (cls : LiteralClass) (token : Token) :
    Except ParseError Value :=
  match literalValue field cls token with
  | .error e => .error e
  | .ok value => if value.isOrderable then .ok value else .error (.unorderedArgument field op value)

namespace ReadingState

def listing (groups : List (Nat × Pending)) (pending : Pending) (field : String)
    (op : Comparison) (values : List Value) (value : Value) : ReadingState :=
  ⟨groups, pending, .separator field op (values ++ [value])⟩

/-- Takes in one token, in a state in which at most `limit` groups may be open. -/
def step (limit : Nat) (state : ReadingState) (token : Token) : Except ParseError ReadingState :=
  let ⟨groups, pending, expected⟩ := state
  match expected, token.kind with
  | .operand, .opening =>
    if limit ≤ groups.length then .error (.nestingTooDeep token)
    else .ok ⟨(token.offset, pending) :: groups, .none, .operand⟩
  | .operand, .literal .identifier => .ok ⟨groups, pending, .comparison token.literal⟩
  | .comparison field, .comparison op => .ok ⟨groups, pending, .argument field op⟩
  | .argument field op, .opening =>
    if op.isMembership then .ok ⟨groups, pending, .firstValue field op⟩
    else .error (state.refusal token)
  | .argument field op, .literal cls =>
    if op.isMembership then .error (state.refusal token)
    else if op.isEquality then
      (literalValue field cls token).map fun value =>
        complete groups pending (.constraint field op (.one value))
    else
      (orderedValue field op cls token).map fun value =>
        complete groups pending (.constraint field op (.one value))
  | .firstValue field _, .closing => .error (.emptyList field)
  | .firstValue field op, .literal cls =>
    (orderedValue field op cls token).map (listing groups pending field op [])
  | .nextValue field op values, .literal cls =>
    (orderedValue field op cls token).map (listing groups pending field op values)
  | .separator field op values, .closing =>
    .ok (complete groups pending (.constraint field op (.list values)))
  | .separator field op values, .connective .or =>
    .ok ⟨groups, pending, .nextValue field op values⟩
  | .joint filter, .connective .and =>
    .ok ⟨groups, ⟨pending.disjunction, some filter⟩, .operand⟩
  | .joint filter, .connective .or => .ok ⟨groups, ⟨some (pending.disjoin filter), none⟩, .operand⟩
  | .joint filter, .closing =>
    match groups with
    | [] => .error (state.refusal token)
    | (_, outside) :: outer => .ok (complete outer outside (pending.disjoin filter))
  | .joint _, .endOfInput =>
    match groups with
    | [] => .ok state
    | _ :: _ => .error (state.refusal token)
  | _, _ => .error (state.refusal token)

/-- The state after a number of tokens, or the error at the first one that is refused. -/
def after (limit : Nat) (state : ReadingState) : List Token → Except ParseError ReadingState
  | [] => .ok state
  | token :: rest =>
    match state.step limit token with
    | .error e => .error e
    | .ok next => next.after limit rest

/-- Whether a state is that of a query which has been read as a filter. -/
structure Finishes (state : ReadingState) (filter : Filter) : Prop where
  closed : state.groups = []
  joined : ∃ last, state.expected = .joint last ∧ state.pending.disjoin last = filter

variable {limit : Nat} {state next : ReadingState} {token : Token} {tokens rest : List Token}
  {e : ParseError}

theorem after_cons (h : state.step limit token = .ok next) (rest : List Token) :
    state.after limit (token :: rest) = next.after limit rest := by
  simp [after, h]

theorem after_cons_of_error (h : state.step limit token = .error e) (rest : List Token) :
    state.after limit (token :: rest) = .error e := by
  simp [after, h]

theorem after_append (h : state.after limit tokens = .ok next) (rest : List Token) :
    state.after limit (tokens ++ rest) = next.after limit rest := by
  induction tokens generalizing state with
  | nil =>
    cases h
    rfl
  | cons token tokens ih =>
    rw [List.cons_append, after]
    rw [after] at h
    split at h
    case h_1 => cases h
    case h_2 hstep => simpa only [hstep] using ih h

theorem after_append_of_error (h : state.after limit tokens = .error e) (rest : List Token) :
    state.after limit (tokens ++ rest) = .error e := by
  induction tokens generalizing state with
  | nil => cases h
  | cons token tokens ih =>
    rw [List.cons_append, after]
    rw [after] at h
    split at h
    case h_1 hstep => simpa only [hstep] using h
    case h_2 hstep => simpa only [hstep] using ih h

@[simp] theorem after_singleton (state : ReadingState) (token : Token) :
    state.after limit [token] = state.step limit token := by
  rw [after]
  cases state.step limit token <;> rfl

theorem after_concat (h : state.after limit tokens = .ok next) (token : Token) :
    state.after limit (tokens ++ [token]) = next.step limit token := by
  rw [after_append h, after_singleton]

/-- A reading that fails does so at its first refused token. -/
theorem exists_refused_of_after_eq_error (h : state.after limit tokens = .error e) :
    ∃ i, ∃ hi : i < tokens.length, ∃ before, state.after limit (tokens.take i) = .ok before ∧
      before.step limit tokens[i] = .error e := by
  induction tokens generalizing state with
  | nil => cases h
  | cons token tokens ih =>
    rw [after] at h
    split at h
    case h_1 hstep =>
      cases h
      exact ⟨0, by simp, state, rfl, hstep⟩
    case h_2 next hstep =>
      obtain ⟨i, hi, before, hbefore, hrefused⟩ := ih h
      refine ⟨i + 1, by simpa using hi, before, ?_, hrefused⟩
      rw [List.take_succ_cons, after_cons hstep, hbefore]

end ReadingState

/-! ## The steps of each expectation -/

namespace ReadingState

section Steps

variable {limit : Nat} {groups : List (Nat × Pending)} {pending : Pending} {field : String}
  {op : Comparison} {cls : LiteralClass} {values : List Value} {filter : Filter} {token : Token}

theorem step_opening (h : token.kind = .opening) :
    step limit ⟨groups, pending, .operand⟩ token =
      if limit ≤ groups.length then .error (.nestingTooDeep token)
      else .ok ⟨(token.offset, pending) :: groups, .none, .operand⟩ := by
  obtain ⟨kind, literal, offset⟩ := token
  cases h
  rfl

theorem step_field (h : token.kind = .literal .identifier) :
    step limit ⟨groups, pending, .operand⟩ token =
      .ok ⟨groups, pending, .comparison token.literal⟩ := by
  obtain ⟨kind, literal, offset⟩ := token
  cases h
  rfl

theorem step_operand_refusal (hopening : token.kind ≠ .opening)
    (hfield : token.kind ≠ .literal .identifier) :
    step limit ⟨groups, pending, .operand⟩ token =
      .error (refusal ⟨groups, pending, .operand⟩ token) := by
  obtain ⟨kind, literal, offset⟩ := token
  cases kind with
  | opening => exact absurd rfl hopening
  | literal cls =>
    cases cls with
    | identifier => exact absurd rfl hfield
    | _ => rfl
  | _ => rfl

theorem step_comparison (h : token.kind = .comparison op) :
    step limit ⟨groups, pending, .comparison field⟩ token =
      .ok ⟨groups, pending, .argument field op⟩ := by
  obtain ⟨kind, literal, offset⟩ := token
  cases h
  rfl

theorem step_comparison_refusal (h : ∀ op, token.kind ≠ .comparison op) :
    step limit ⟨groups, pending, .comparison field⟩ token =
      .error (refusal ⟨groups, pending, .comparison field⟩ token) := by
  obtain ⟨kind, literal, offset⟩ := token
  cases kind with
  | comparison op => exact absurd rfl (h op)
  | _ => rfl

theorem step_list_opening (h : token.kind = .opening) (hop : op.isMembership = true) :
    step limit ⟨groups, pending, .argument field op⟩ token =
      .ok ⟨groups, pending, .firstValue field op⟩ := by
  obtain ⟨kind, literal, offset⟩ := token
  cases h
  exact if_pos hop

theorem step_any_value (h : token.kind = .literal cls) (hop : op.isMembership = false)
    (hequal : op.isEquality = true) :
    step limit ⟨groups, pending, .argument field op⟩ token =
      (literalValue field cls token).map fun value =>
        complete groups pending (.constraint field op (.one value)) := by
  obtain ⟨kind, literal, offset⟩ := token
  cases h
  exact (if_neg (by simp [hop])).trans (if_pos hequal)

theorem step_ordered_value (h : token.kind = .literal cls) (hop : op.isMembership = false)
    (hequal : op.isEquality = false) :
    step limit ⟨groups, pending, .argument field op⟩ token =
      (orderedValue field op cls token).map fun value =>
        complete groups pending (.constraint field op (.one value)) := by
  obtain ⟨kind, literal, offset⟩ := token
  cases h
  exact (if_neg (by simp [hop])).trans (if_neg (by simp [hequal]))

theorem step_argument_refusal
    (h : if op.isMembership then token.kind ≠ .opening else ∀ cls, token.kind ≠ .literal cls) :
    step limit ⟨groups, pending, .argument field op⟩ token =
      .error (refusal ⟨groups, pending, .argument field op⟩ token) := by
  obtain ⟨kind, literal, offset⟩ := token
  cases kind with
  | opening =>
    split at h
    case isTrue => exact absurd rfl h
    case isFalse hop => exact if_neg hop
  | literal cls =>
    split at h
    case isTrue hop => exact if_pos hop
    case isFalse => exact absurd rfl (h cls)
  | _ => rfl

theorem step_empty_list (h : token.kind = .closing) :
    step limit ⟨groups, pending, .firstValue field op⟩ token = .error (.emptyList field) := by
  obtain ⟨kind, literal, offset⟩ := token
  cases h
  rfl

theorem step_first_value (h : token.kind = .literal cls) :
    step limit ⟨groups, pending, .firstValue field op⟩ token =
      (orderedValue field op cls token).map (listing groups pending field op []) := by
  obtain ⟨kind, literal, offset⟩ := token
  cases h
  rfl

theorem step_first_refusal (hclosing : token.kind ≠ .closing)
    (h : ∀ cls, token.kind ≠ .literal cls) :
    step limit ⟨groups, pending, .firstValue field op⟩ token =
      .error (refusal ⟨groups, pending, .firstValue field op⟩ token) := by
  obtain ⟨kind, literal, offset⟩ := token
  cases kind with
  | closing => exact absurd rfl hclosing
  | literal cls => exact absurd rfl (h cls)
  | _ => rfl

theorem step_next_value (h : token.kind = .literal cls) :
    step limit ⟨groups, pending, .nextValue field op values⟩ token =
      (orderedValue field op cls token).map (listing groups pending field op values) := by
  obtain ⟨kind, literal, offset⟩ := token
  cases h
  rfl

theorem step_next_refusal (h : ∀ cls, token.kind ≠ .literal cls) :
    step limit ⟨groups, pending, .nextValue field op values⟩ token =
      .error (refusal ⟨groups, pending, .nextValue field op values⟩ token) := by
  obtain ⟨kind, literal, offset⟩ := token
  cases kind with
  | literal cls => exact absurd rfl (h cls)
  | _ => rfl

theorem step_list_closing (h : token.kind = .closing) :
    step limit ⟨groups, pending, .separator field op values⟩ token =
      .ok (complete groups pending (.constraint field op (.list values))) := by
  obtain ⟨kind, literal, offset⟩ := token
  cases h
  rfl

theorem step_separator (h : token.kind = .connective .or) :
    step limit ⟨groups, pending, .separator field op values⟩ token =
      .ok ⟨groups, pending, .nextValue field op values⟩ := by
  obtain ⟨kind, literal, offset⟩ := token
  cases h
  rfl

theorem step_separator_refusal (hclosing : token.kind ≠ .closing)
    (hcomma : token.kind ≠ .connective .or) :
    step limit ⟨groups, pending, .separator field op values⟩ token =
      .error (refusal ⟨groups, pending, .separator field op values⟩ token) := by
  obtain ⟨kind, literal, offset⟩ := token
  cases kind with
  | closing => exact absurd rfl hclosing
  | connective joint =>
    cases joint with
    | or => exact absurd rfl hcomma
    | and => rfl
  | _ => rfl

theorem step_and (h : token.kind = .connective .and) :
    step limit ⟨groups, pending, .joint filter⟩ token =
      .ok ⟨groups, ⟨pending.disjunction, some filter⟩, .operand⟩ := by
  obtain ⟨kind, literal, offset⟩ := token
  cases h
  rfl

theorem step_or (h : token.kind = .connective .or) :
    step limit ⟨groups, pending, .joint filter⟩ token =
      .ok ⟨groups, ⟨some (pending.disjoin filter), none⟩, .operand⟩ := by
  obtain ⟨kind, literal, offset⟩ := token
  cases h
  rfl

theorem step_closing {opening : Nat} {outside : Pending} (h : token.kind = .closing) :
    step limit ⟨(opening, outside) :: groups, pending, .joint filter⟩ token =
      .ok (complete groups outside (pending.disjoin filter)) := by
  obtain ⟨kind, literal, offset⟩ := token
  cases h
  rfl

theorem step_end (h : token.kind = .endOfInput) :
    step limit ⟨[], pending, .joint filter⟩ token = .ok ⟨[], pending, .joint filter⟩ := by
  obtain ⟨kind, literal, offset⟩ := token
  cases h
  rfl

theorem step_group_refusal {opening : Nat} {outside : Pending} (hclosing : token.kind ≠ .closing)
    (h : ∀ joint, token.kind ≠ .connective joint) :
    step limit ⟨(opening, outside) :: groups, pending, .joint filter⟩ token =
      .error (refusal ⟨(opening, outside) :: groups, pending, .joint filter⟩ token) := by
  obtain ⟨kind, literal, offset⟩ := token
  cases kind with
  | closing => exact absurd rfl hclosing
  | connective joint => exact absurd rfl (h joint)
  | _ => rfl

theorem step_trailing_refusal (hend : token.kind ≠ .endOfInput)
    (h : ∀ joint, token.kind ≠ .connective joint) :
    step limit ⟨[], pending, .joint filter⟩ token =
      .error (refusal ⟨[], pending, .joint filter⟩ token) := by
  obtain ⟨kind, literal, offset⟩ := token
  cases kind with
  | endOfInput => exact absurd rfl hend
  | connective joint => exact absurd rfl (h joint)
  | _ => rfl

theorem Finishes.step_end {state : ReadingState} (h : state.Finishes filter)
    (hend : token.kind = .endOfInput) (limit : Nat) : state.step limit token = .ok state := by
  obtain ⟨groups, pending, expected⟩ := state
  obtain ⟨rfl, last, rfl, -⟩ := h
  exact ReadingState.step_end hend

theorem Finishes.unique {state : ReadingState} {filter' : Filter} (h : state.Finishes filter)
    (h' : state.Finishes filter') : filter = filter' := by
  obtain ⟨-, last, hlast, rfl⟩ := h
  obtain ⟨-, last', hlast', rfl⟩ := h'
  rw [hlast] at hlast'
  cases hlast'
  rfl

end Steps

variable {limit : Nat} {state next : ReadingState} {token : Token} {tokens rest : List Token}

/-- The tokens that have a place in a state, and the states they lead to. -/
inductive Takes (limit : Nat) : ReadingState → Token → ReadingState → Prop where
  | opening {groups pending token} (kind : token.kind = .opening) (free : groups.length < limit) :
      Takes limit ⟨groups, pending, .operand⟩ token
        ⟨(token.offset, pending) :: groups, .none, .operand⟩
  | field {groups pending token} (kind : token.kind = .literal .identifier) :
      Takes limit ⟨groups, pending, .operand⟩ token ⟨groups, pending, .comparison token.literal⟩
  | comparison {groups pending field token op} (kind : token.kind = .comparison op) :
      Takes limit ⟨groups, pending, .comparison field⟩ token
        ⟨groups, pending, .argument field op⟩
  | listOpening {groups pending field op token} (kind : token.kind = .opening)
      (membership : op.isMembership = true) :
      Takes limit ⟨groups, pending, .argument field op⟩ token
        ⟨groups, pending, .firstValue field op⟩
  | value {groups pending field op token cls value} (kind : token.kind = .literal cls)
      (membership : op.isMembership = false)
      (valued : literalValue field cls token = .ok value)
      (ordered : op.isEquality = true ∨ value.isOrderable = true) :
      Takes limit ⟨groups, pending, .argument field op⟩ token
        (complete groups pending (.constraint field op (.one value)))
  | firstValue {groups pending field op token cls value} (kind : token.kind = .literal cls)
      (valued : literalValue field cls token = .ok value) (ordered : value.isOrderable = true) :
      Takes limit ⟨groups, pending, .firstValue field op⟩ token
        (listing groups pending field op [] value)
  | nextValue {groups pending field op values token cls value} (kind : token.kind = .literal cls)
      (valued : literalValue field cls token = .ok value) (ordered : value.isOrderable = true) :
      Takes limit ⟨groups, pending, .nextValue field op values⟩ token
        (listing groups pending field op values value)
  | separator {groups pending field op values token} (kind : token.kind = .connective .or) :
      Takes limit ⟨groups, pending, .separator field op values⟩ token
        ⟨groups, pending, .nextValue field op values⟩
  | listClosing {groups pending field op values token} (kind : token.kind = .closing) :
      Takes limit ⟨groups, pending, .separator field op values⟩ token
        (complete groups pending (.constraint field op (.list values)))
  | and {groups pending filter token} (kind : token.kind = .connective .and) :
      Takes limit ⟨groups, pending, .joint filter⟩ token
        ⟨groups, ⟨pending.disjunction, some filter⟩, .operand⟩
  | or {groups pending filter token} (kind : token.kind = .connective .or) :
      Takes limit ⟨groups, pending, .joint filter⟩ token
        ⟨groups, ⟨some (pending.disjoin filter), none⟩, .operand⟩
  | closing {opening outside outer pending filter token} (kind : token.kind = .closing) :
      Takes limit ⟨(opening, outside) :: outer, pending, .joint filter⟩ token
        (complete outer outside (pending.disjoin filter))
  | endOfInput {pending filter token} (kind : token.kind = .endOfInput) :
      Takes limit ⟨[], pending, .joint filter⟩ token ⟨[], pending, .joint filter⟩

private theorem orderedValue_eq_ok {field : String} {op : Comparison} {cls : LiteralClass}
    {value : Value} (h : orderedValue field op cls token = .ok value) :
    literalValue field cls token = .ok value ∧ value.isOrderable = true := by
  unfold orderedValue at h
  split at h
  case h_1 => cases h
  case h_2 hvalue =>
    split at h
    case isTrue hordered =>
      cases h
      exact ⟨hvalue, hordered⟩
    case isFalse => cases h

private theorem exists_of_map_eq_ok {α β : Type} {x : Except ParseError α} {f : α → β} {b : β}
    (h : x.map f = .ok b) : ∃ a, x = .ok a ∧ f a = b := by
  cases x with
  | error e => cases h
  | ok a =>
    cases h
    exact ⟨a, rfl, rfl⟩

theorem takes_of_step (h : state.step limit token = .ok next) : Takes limit state token next := by
  obtain ⟨groups, pending, expected⟩ := state
  unfold step at h
  dsimp only at h
  split at h
  case h_1 hkind =>
    split at h
    · cases h
    · cases h
      exact .opening hkind (by omega)
  case h_2 hkind => cases h; exact .field hkind
  case h_3 hkind => cases h; exact .comparison hkind
  case h_4 hkind =>
    split at h
    case isTrue hop => cases h; exact .listOpening hkind hop
    case isFalse => cases h
  case h_5 field op cls hkind =>
    split at h
    case isTrue => cases h
    case isFalse hop =>
      have hop : op.isMembership = false := by simpa using hop
      split at h
      case isTrue hequal =>
        obtain ⟨value, hvalue, rfl⟩ := exists_of_map_eq_ok h
        exact .value hkind hop hvalue (.inl hequal)
      case isFalse =>
        obtain ⟨value, hvalue, rfl⟩ := exists_of_map_eq_ok h
        obtain ⟨hvalue, hordered⟩ := orderedValue_eq_ok hvalue
        exact .value hkind hop hvalue (.inr hordered)
  case h_6 => cases h
  case h_7 hkind =>
    obtain ⟨value, hvalue, rfl⟩ := exists_of_map_eq_ok h
    obtain ⟨hvalue, hordered⟩ := orderedValue_eq_ok hvalue
    exact .firstValue hkind hvalue hordered
  case h_8 hkind =>
    obtain ⟨value, hvalue, rfl⟩ := exists_of_map_eq_ok h
    obtain ⟨hvalue, hordered⟩ := orderedValue_eq_ok hvalue
    exact .nextValue hkind hvalue hordered
  case h_9 hkind => cases h; exact .listClosing hkind
  case h_10 hkind => cases h; exact .separator hkind
  case h_11 hkind => cases h; exact .and hkind
  case h_12 hkind => cases h; exact .or hkind
  case h_13 hkind =>
    split at h
    · cases h
    · cases h
      exact .closing hkind
  case h_14 hkind =>
    split at h
    · cases h
      exact .endOfInput hkind
    · cases h
  case h_15 => cases h

/-- The errors with which a state refuses a token. -/
inductive Refuses (state : ReadingState) (token : Token) : ParseError → Prop where
  | misplaced : Refuses state token (state.refusal token)
  | tooDeep (kind : token.kind = .opening) (expected : state.expected = .operand) :
      Refuses state token (.nestingTooDeep token)
  | emptyList {field : String} {op : Comparison} (kind : token.kind = .closing)
      (expected : state.expected = .firstValue field op) :
      Refuses state token (.emptyList field)
  | unreadable {field : String} {op : Comparison} {cls : LiteralClass} {e : ParseError}
      (kind : token.kind = .literal cls) (expected : state.expected.value? = some (field, op))
      (fault : literalValue field cls token = .error e) : Refuses state token e
  | unordered {field : String} {op : Comparison} {cls : LiteralClass} {value : Value}
      (kind : token.kind = .literal cls) (expected : state.expected.value? = some (field, op))
      (valued : literalValue field cls token = .ok value)
      (unordered : value.isOrderable = false) :
      Refuses state token (.unorderedArgument field op value)

/-- The errors with which a token is refused that has no place in a state. -/
inductive Misplaces (state : ReadingState) (token : Token) : ParseError → Prop where
  | malformed (kind : token.kind = .malformed) : Misplaces state token (.malformedOperator token)
  | operand (kind : token.kind ≠ .malformed) : Misplaces state token (.unexpectedToken token)
  | comparison {field : String} (kind : token.kind ≠ .malformed)
      (expected : state.expected.field? = some field) :
      Misplaces state token (.missingComparison field token)
  | argument {field : String} (kind : token.kind ≠ .malformed)
      (expected : state.expected.field? = some field) :
      Misplaces state token (.missingArgument field token)
  | list {field : String} (kind : token.kind ≠ .malformed)
      (expected : state.expected.field? = some field) :
      Misplaces state token (.missingList field token)
  | separator {field : String} (kind : token.kind ≠ .malformed)
      (expected : state.expected.field? = some field) :
      Misplaces state token (.missingSeparator field token)
  | trailing (kind : token.kind ≠ .malformed) : Misplaces state token (.trailingInput token)
  | unclosed {opening : Nat} {outside : Pending} {outer : List (Nat × Pending)} {filter : Filter}
      (kind : token.kind ≠ .malformed) (groups : state.groups = (opening, outside) :: outer)
      (expected : state.expected = .joint filter) :
      Misplaces state token (.unclosedGroup opening token)

theorem misplaces_of_refusal {e : ParseError} (h : state.refusal token = e) :
    Misplaces state token e := by
  subst h
  obtain ⟨groups, pending, expected⟩ := state
  unfold refusal
  split
  case isTrue hkind => exact .malformed hkind
  case isFalse hkind =>
    unfold complaint
    cases expected with
    | operand => exact .operand hkind
    | comparison => exact .comparison hkind rfl
    | argument =>
      dsimp only
      split
      · exact .list hkind rfl
      · exact .argument hkind rfl
    | firstValue | nextValue => exact .argument hkind rfl
    | separator => exact .separator hkind rfl
    | joint =>
      cases groups with
      | nil => exact .trailing hkind
      | cons group outer => exact .unclosed hkind rfl rfl

private theorem error_of_map_eq_error {α β : Type} {x : Except ParseError α} {f : α → β}
    {e : ParseError} (h : x.map f = .error e) : x = .error e := by
  cases x with
  | error e' =>
    cases h
    rfl
  | ok a => cases h

private theorem refuses_of_orderedValue {field : String} {op : Comparison} {cls : LiteralClass}
    (hkind : token.kind = .literal cls) (hexpected : state.expected.value? = some (field, op))
    {e : ParseError} (h : orderedValue field op cls token = .error e) :
    Refuses state token e := by
  unfold orderedValue at h
  split at h
  case h_1 hfault =>
    cases h
    exact .unreadable hkind hexpected hfault
  case h_2 hvalue =>
    split at h
    case isTrue => cases h
    case isFalse hordered =>
      cases h
      exact .unordered hkind hexpected hvalue (by simpa using hordered)

theorem refuses_of_step {e : ParseError} (h : state.step limit token = .error e) :
    Refuses state token e := by
  obtain ⟨groups, pending, expected⟩ := state
  unfold step at h
  dsimp only at h
  split at h
  case h_1 hkind =>
    split at h
    · cases h
      exact .tooDeep hkind rfl
    · cases h
  case h_2 => cases h
  case h_3 => cases h
  case h_4 =>
    split at h
    · cases h
    · cases h
      exact .misplaced
  case h_5 hkind =>
    split at h
    · cases h
      exact .misplaced
    split at h
    · exact .unreadable hkind rfl (error_of_map_eq_error h)
    · exact refuses_of_orderedValue hkind rfl (error_of_map_eq_error h)
  case h_6 hkind =>
    cases h
    exact .emptyList hkind rfl
  case h_7 hkind => exact refuses_of_orderedValue hkind rfl (error_of_map_eq_error h)
  case h_8 hkind => exact refuses_of_orderedValue hkind rfl (error_of_map_eq_error h)
  case h_9 => cases h
  case h_10 => cases h
  case h_11 => cases h
  case h_12 => cases h
  case h_13 =>
    split at h
    · cases h
      exact .misplaced
    · cases h
  case h_14 =>
    split at h
    · cases h
    · cases h
      exact .misplaced
  case h_15 =>
    cases h
    exact .misplaced

theorem Takes.of_isTerminal (h : Takes limit state token next)
    (hterminal : token.isTerminal = true) : token.kind = .endOfInput ∧ next = state := by
  cases h with
  | endOfInput hkind => exact ⟨hkind, rfl⟩
  | opening hkind | field hkind | comparison hkind | listOpening hkind | value hkind
  | firstValue hkind | nextValue hkind | separator hkind | listClosing hkind | and hkind
  | or hkind | closing hkind =>
    rw [Token.isTerminal, hkind] at hterminal
    cases hterminal

theorem exists_after_of_append (h : state.after limit (tokens ++ rest) = .ok next) :
    ∃ middle, state.after limit tokens = .ok middle ∧ middle.after limit rest = .ok next := by
  cases hafter : state.after limit tokens with
  | error e =>
    rw [after_append_of_error hafter] at h
    cases h
  | ok middle =>
    rw [after_append hafter] at h
    exact ⟨middle, rfl, h⟩

/-- What holds before any token, and is kept up by each token that is taken in, holds in the end. -/
@[elab_as_elim]
theorem after_induction {motive : List Token → ReadingState → Prop}
    (h : state.after limit tokens = .ok next) (start : motive [] state)
    (step : ∀ {tokens middle token next}, motive tokens middle → Takes limit middle token next →
      motive (tokens ++ [token]) next) : motive tokens next := by
  have hall : ∀ {front : List Token} {middle : ReadingState}, motive front middle →
      middle.after limit tokens = .ok next → motive (front ++ tokens) next := by
    clear h
    induction tokens with
    | nil =>
      intro front middle hfront hafter
      cases hafter
      simpa using hfront
    | cons token tokens ih =>
      intro front middle hfront hafter
      rw [after] at hafter
      split at hafter
      case h_1 => cases hafter
      case h_2 next' hstep' =>
        have hmore := ih (step hfront (takes_of_step hstep')) hafter
        simpa using hmore
  exact hall start h

end ReadingState

end FilterQuery
