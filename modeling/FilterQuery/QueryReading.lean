import FilterQuery.ConstraintReading
import FilterQuery.TokenScanner

/-!
# Reading queries

An expression is read by precedence: after an operand, connectives are taken in as long as they
bind tighter than the connective to the left of the operand.  An operand is a constraint or a group
in parentheses, and groups are nested to a limited depth.  Every reading depends on the token
stream and the depth alone.

What is said of all readers is proved along what they read: `HoldsAlong` lists the ways in which
readings are put together, and whatever is kept by each of them holds of every reading.

A token stream can be asked for a whole query or for an expression, again and again.  Each request
goes on where the one before it stopped, whether that succeeded or not, and begins outside of all
groups.
-/

namespace FilterQuery

/-- The notes of a combination: one for each operand whose parts are taken over. -/
def flatteningNotes (op : Connective) (operands : List Filter) : List Note :=
  operands.filterMap fun
    | .combination inner parts => if inner = op then some (.flattened parts.length op) else none
    | .constraint .. => none

/-- Reads the parenthesis that closes the group opened at the given offset. -/
def readClosing (opening : Nat) (inner : Filter) (s : TokenStream) : Reading Filter :=
  if s.current.kind = .closing then .afterCurrent s (.accept inner)
  else .refuse (s.errorOr (.unclosedGroup opening s.current))

mutual

/-- Reads a group or a constraint, inside the given number of open groups. -/
def readOperand (depth : Nat) (s : TokenStream) : Reading Filter :=
  match _h : s.current.kind with
  | .opening =>
    if maxNesting ≤ depth then .refuse (.nestingTooDeep s.current)
    else
      .afterCurrent s
        ((readExpression (depth + 1) .lowest s.advance).andThen fun inner passed =>
          readClosing s.current.offset inner (s.advance.drop passed))
  | .literal .identifier => readConstraint s
  | _ => .refuse (s.errorOr (.unexpectedToken s.current))
termination_by 2 * s.length
decreasing_by
  have hpos := TokenStream.length_pos_of_kind _h rfl
  simp only [TokenStream.length_advance]
  omega

/-- Reads on after an operand, taking in the connectives that bind tighter than `floor`. -/
def readOperands (depth : Nat) (floor : Precedence) (left : Filter) (s : TokenStream) :
    Reading Filter :=
  match _h : s.current.kind with
  | .connective op =>
    if floor < op.precedence then
      .afterCurrent s
        ((readExpression depth op.precedence s.advance).andThen fun right passed =>
          (readOperands depth floor (left.combine op right) (s.advance.drop passed)).noting
            (flatteningNotes op [left, right]))
    else .accept left
  | _ => .accept left
termination_by 2 * s.length
decreasing_by
  all_goals
    have hpos := TokenStream.length_pos_of_kind _h rfl
    simp only [TokenStream.length_advance, TokenStream.length_drop]
    omega

/-- Reads operands joined by connectives that bind tighter than `floor`, inside the given number
of open groups. -/
def readExpression (depth : Nat) (floor : Precedence) (s : TokenStream) : Reading Filter :=
  (readOperand depth s).andThen fun operand passed =>
    readOperands depth floor operand (s.drop passed)
termination_by 2 * s.length + 1
decreasing_by
  all_goals
    try simp only [TokenStream.length_drop]
    omega

end

/-- Reads an expression that takes up the whole stream. -/
def readQuery (s : TokenStream) : Reading Filter :=
  (readExpression 0 .lowest s).andThen fun filter passed =>
    let rest := s.drop passed
    if rest.current.kind = .endOfInput then .accept filter
    else .refuse (rest.errorOr (.trailingInput rest.current))

/-- The filter that a query stands for. -/
def parse (query : String) : Except ParseError Filter := (readQuery (scan query)).result

theorem parse_eq_ok_of_toOption {query : String} {filter : Filter}
    (h : (parse query).toOption = some filter) : parse query = .ok filter := by
  cases hparse : parse query with
  | error e =>
    rw [hparse] at h
    cases h
  | ok other =>
    rw [hparse] at h
    exact congrArg Except.ok (Option.some.inj h)

/-! ## Induction along the readers -/

/-- Whether a stream goes on with no connective that binds tighter than `floor`. -/
def TokenStream.StopsAt (floor : Precedence) (s : TokenStream) : Prop :=
  ∀ op, s.current.kind = .connective op → ¬ floor < op.precedence

/-- Three statements, about operands, about what goes on after an operand, and about expressions,
that hold of a reading whenever they hold of the readings that it is put together from. -/
structure HoldsAlong (Operand : Nat → TokenStream → Reading Filter → Prop)
    (Operands : Nat → Precedence → Filter → TokenStream → Reading Filter → Prop)
    (Expression : Nat → Precedence → TokenStream → Reading Filter → Prop) : Prop where
  tooDeep {depth : Nat} {s : TokenStream} (hkind : s.current.kind = .opening)
    (hfull : maxNesting ≤ depth) : Operand depth s (.refuse (.nestingTooDeep s.current))
  group {depth : Nat} {s : TokenStream} (hkind : s.current.kind = .opening)
    (hdepth : depth < maxNesting)
    (inner : Expression (depth + 1) .lowest s.advance
      (readExpression (depth + 1) .lowest s.advance)) :
    Operand depth s (.afterCurrent s
      ((readExpression (depth + 1) .lowest s.advance).andThen fun inner passed =>
        readClosing s.current.offset inner (s.advance.drop passed)))
  field {depth : Nat} {s : TokenStream} (hkind : s.current.kind = .literal .identifier) :
    Operand depth s (readConstraint s)
  misplaced {depth : Nat} {s : TokenStream} (hopening : s.current.kind ≠ .opening)
    (hfield : s.current.kind ≠ .literal .identifier) :
    Operand depth s (.refuse (s.errorOr (.unexpectedToken s.current)))
  goOn {depth : Nat} {floor : Precedence} {left : Filter} {s : TokenStream} {op : Connective}
    (hkind : s.current.kind = .connective op) (hfloor : floor < op.precedence)
    (right : Expression depth op.precedence s.advance
      (readExpression depth op.precedence s.advance))
    (rest : ∀ right passed, Operands depth floor (left.combine op right) (s.advance.drop passed)
      (readOperands depth floor (left.combine op right) (s.advance.drop passed))) :
    Operands depth floor left s (.afterCurrent s
      ((readExpression depth op.precedence s.advance).andThen fun right passed =>
        (readOperands depth floor (left.combine op right) (s.advance.drop passed)).noting
          (flatteningNotes op [left, right])))
  stop {depth : Nat} {floor : Precedence} {left : Filter} {s : TokenStream}
    (hstops : s.StopsAt floor) : Operands depth floor left s (.accept left)
  join {depth : Nat} {floor : Precedence} {s : TokenStream}
    (operand : Operand depth s (readOperand depth s))
    (rest : ∀ operand passed, Operands depth floor operand (s.drop passed)
      (readOperands depth floor operand (s.drop passed))) :
    Expression depth floor s ((readOperand depth s).andThen fun operand passed =>
      readOperands depth floor operand (s.drop passed))

namespace HoldsAlong

variable {Operand : Nat → TokenStream → Reading Filter → Prop}
  {Operands : Nat → Precedence → Filter → TokenStream → Reading Filter → Prop}
  {Expression : Nat → Precedence → TokenStream → Reading Filter → Prop}

/-- What is kept by the ways in which readings are put together holds of all of them. -/
private theorem readers (h : HoldsAlong Operand Operands Expression) :
    (∀ depth s, Operand depth s (FilterQuery.readOperand depth s)) ∧
      (∀ depth floor s, Expression depth floor s (FilterQuery.readExpression depth floor s)) ∧
        ∀ depth floor left s,
          Operands depth floor left s (FilterQuery.readOperands depth floor left s) := by
  apply readOperand.mutual_induct
  case case1 =>
    intro depth s hkind hfull
    rw [FilterQuery.readOperand, hkind]
    dsimp only
    rw [if_pos hfull]
    exact h.tooDeep hkind hfull
  case case2 =>
    intro depth s hkind hdepth inner
    rw [FilterQuery.readOperand, hkind]
    dsimp only
    rw [if_neg hdepth]
    exact h.group hkind (Nat.lt_of_not_le hdepth) inner
  case case3 =>
    intro depth s hkind
    rw [FilterQuery.readOperand, hkind]
    exact h.field hkind
  case case4 =>
    intro depth s hopening hfield
    unfold FilterQuery.readOperand
    split
    case h_1 hkind => exact absurd hkind hopening
    case h_2 hkind => exact absurd hkind hfield
    case h_3 => exact h.misplaced hopening hfield
  case case5 =>
    intro depth floor s operand rest
    rw [FilterQuery.readExpression]
    exact h.join operand rest
  case case6 =>
    intro depth floor left s op hkind hfloor right rest
    rw [FilterQuery.readOperands, hkind]
    dsimp only
    rw [if_pos hfloor]
    exact h.goOn hkind hfloor right rest
  case case7 =>
    intro depth floor left s op hkind hfloor
    rw [FilterQuery.readOperands, hkind]
    dsimp only
    rw [if_neg hfloor]
    refine h.stop fun other hother => ?_
    rw [hkind] at hother
    cases hother
    exact hfloor
  case case8 =>
    intro depth floor left s hother
    unfold FilterQuery.readOperands
    split
    case h_1 op hkind => exact (hother op hkind).elim
    case h_2 => exact h.stop fun op hkind => (hother op hkind).elim

theorem readOperand (h : HoldsAlong Operand Operands Expression) (depth : Nat) (s : TokenStream) :
    Operand depth s (FilterQuery.readOperand depth s) :=
  h.readers.1 depth s

theorem readExpression (h : HoldsAlong Operand Operands Expression) (depth : Nat)
    (floor : Precedence) (s : TokenStream) :
    Expression depth floor s (FilterQuery.readExpression depth floor s) :=
  h.readers.2.1 depth floor s

end HoldsAlong

/-! ## Requests -/

/-- What a token stream is asked for. -/
inductive Request where
  | query
  | expression (floor : Precedence)
  deriving DecidableEq

def Request.read : Request → TokenStream → Reading Filter
  | query, s => readQuery s
  | expression floor, s => readExpression 0 floor s

/-- The readings that requests come to, one after the other, and what is left of the stream. -/
def serve (s : TokenStream) : List Request → List (Reading Filter) × TokenStream
  | [] => ([], s)
  | request :: rest =>
    let reading := request.read s
    let (readings, left) := serve (reading.remaining s) rest
    (reading :: readings, left)

end FilterQuery
