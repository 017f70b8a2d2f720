import FilterQuery.Readings

/-!
# Reading constraints

A constraint is a field, a comparison and an argument.  Membership takes a list of values between
parentheses, equality any value, and an ordering a value that has an order; so do the values of a
list.
-/

namespace FilterQuery

def literalValue (field : String) (cls : LiteralClass) (token : Token) :
    Except ParseError Value :=
  match cls with
  | .identifier | .text => .ok (.string token.literal)
  | .boolean b => .ok (.boolean b)
  | .null => .ok .null
  | .integer =>
    match readInteger token.literal.toList with
    | .ok n => .ok (.integer n)
    | .error fault => .error (.unreadableInteger field token fault)
  | .float =>
    match readFloat token.literal.toList with
    | .ok x => .ok (.float x)
    | .error .invalidDigit => .error (.unreadableFloat field token)
    | .error .outOfRange => .error (.floatOutOfRange field token)

/-- Reads one value.  A token that has no value is not passed. -/
def readValue (field : String) (s : TokenStream) : Reading Value :=
  match s.current.kind with
  | .literal cls =>
    match literalValue field cls s.current with
    | .ok value => .afterCurrent s (.accept value)
    | .error e => .refuse e
  | _ => .refuse (s.errorOr (.missingArgument field s.current))

/-- Reads one value that has an order.  A value without one is passed before it is refused. -/
def readOrderable (field : String) (op : Comparison) (s : TokenStream) : Reading Value :=
  (readValue field s).andThen fun value _ =>
    if value.isOrderable then .accept value else .refuse (.unorderedArgument field op value)

/-- Reads the values of a list and the parenthesis that closes it. -/
def readValues (field : String) (op : Comparison) (s : TokenStream) : Reading (List Value) :=
  (readOrderable field op s).andThen fun value passed =>
    let rest := s.drop passed
    match _h : rest.current.kind with
    | .closing => .afterCurrent rest (.accept [value])
    | .connective .or =>
      .afterCurrent rest ((readValues field op rest.advance).map (value :: ·))
    | _ => .refuse (rest.errorOr (.missingSeparator field rest.current))
termination_by s.length
decreasing_by
  have hpos : 0 < (s.drop passed).length := TokenStream.length_pos_of_kind _h rfl
  simp only [TokenStream.length_advance, TokenStream.length_drop] at hpos ⊢
  omega

def readList (field : String) (op : Comparison) (s : TokenStream) : Reading (List Value) :=
  if s.current.kind = .opening then
    .afterCurrent s
      (if s.advance.current.kind = .closing then .refuse (.emptyList field)
      else readValues field op s.advance)
  else .refuse (s.errorOr (.missingList field s.current))

def readArgument (field : String) (op : Comparison) (s : TokenStream) : Reading Argument :=
  if op.isMembership then (readList field op s).map .list
  else if op.isEquality then (readValue field s).map .one
  else (readOrderable field op s).map .one

def readComparison (field : String) (s : TokenStream) : Reading Filter :=
  match s.current.kind with
  | .comparison op =>
    .afterCurrent s ((readArgument field op s.advance).map (.constraint field op))
  | _ => .refuse (s.errorOr (.missingComparison field s.current))

/-- Reads a constraint, of which the current token is the field. -/
def readConstraint (s : TokenStream) : Reading Filter :=
  .afterCurrent s (readComparison s.current.literal s.advance)

end FilterQuery
