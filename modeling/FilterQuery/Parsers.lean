import FilterQuery.QueryReading
import FilterQuery.TokenCursors

/-!
# Parsers

A parser reads queries from a token cursor with two tokens in sight, and counts the groups that are
open.  It is the reading of a query as a machine: every act leaves the parser in a state, also one
that comes to an error, and the next act goes on from there.  An act that never ended would come to `none`.
Acts that go on with themselves are written as functions of the parser, and the others are put
together from them as in any monad of state and errors.
-/

namespace FilterQuery

/-- What a parser keeps: where its tokens come from, the two tokens in sight, and how many groups
are open. -/
structure Parser where
  cursor : TokenCursor
  current : Token
  upcoming : Token
  depth : Nat

namespace Parser

/-- A parser that begins where a cursor stands, outside of all groups. -/
def ofCursor (cursor : TokenCursor) : Parser :=
  ⟨cursor.pull.2.pull.2, cursor.pull.1, cursor.pull.2.pull.1, 0⟩

def advance (parser : Parser) : Parser :=
  { parser with
    cursor := parser.cursor.pull.2, current := parser.upcoming, upcoming := parser.cursor.pull.1 }

def enter (parser : Parser) : Parser := { parser with depth := parser.depth + 1 }

def leave (parser : Parser) : Parser := { parser with depth := parser.depth - 1 }

/-- The error at the current token: a malformed operator is always reported as such. -/
def errorOr (parser : Parser) (e : ParseError) : ParseError :=
  if parser.current.kind = .malformed then .malformedOperator parser.current else e

end Parser

/-- What an act of a parser comes to: a value or an error, and the parser that it leaves behind. -/
abbrev Outcome (α : Type) := Except ParseError α × Parser

/-- The acts of a parser, from which others are put together. -/
abbrev Parsing (α : Type) := ExceptT ParseError (StateT Parser Option) α

namespace Parser

def pass : Parsing Unit := modify Parser.advance

/-- Takes one value.  A token that has no value is not passed. -/
def value (field : String) : Parsing Value := do
  let parser ← get
  match parser.current.kind with
  | .literal cls =>
    match literalValue field cls parser.current with
    | .ok value =>
      pass
      return value
    | .error e => throw e
  | _ => throw (parser.errorOr (.missingArgument field parser.current))

/-- Takes one value that has an order.  A value without one is passed before it is refused. -/
def orderable (field : String) (op : Comparison) : Parsing Value := do
  let value ← value field
  if value.isOrderable then return value
  else throw (.unorderedArgument field op value)

def values (field : String) (op : Comparison) (parser : Parser) : Option (Outcome (List Value)) := do
  let (result, parser) ← orderable field op parser
  match result with
  | .error e => return (.error e, parser)
  | .ok value =>
    match parser.current.kind with
    | .closing => return (.ok [value], parser.advance)
    | .connective .or =>
      let (result, parser) ← parser.advance |>.values field op
      return (result.map (value :: ·), parser)
    | _ => return (.error (parser.errorOr (.missingSeparator field parser.current)), parser)
partial_fixpoint

def list (field : String) (op : Comparison) : Parsing (List Value) := do
  let parser ← get
  if parser.current.kind = .opening then
    pass
    let parser ← get
    if parser.current.kind = .closing then throw (.emptyList field)
    else values field op
  else throw (parser.errorOr (.missingList field parser.current))

def argument (field : String) (op : Comparison) : Parsing Argument := do
  if op.isMembership then return .list (← list field op)
  else if op.isEquality then return .one (← value field)
  else return .one (← orderable field op)

/-- Takes a constraint, of which the current token is the field. -/
def constraint : Parsing Filter := do
  let field := (← get).current.literal
  pass
  let parser ← get
  match parser.current.kind with
  | .comparison op =>
    pass
    return .constraint field op (← argument field op)
  | _ => throw (parser.errorOr (.missingComparison field parser.current))

def closing (opening : Nat) : Parsing Unit := do
  let parser ← get
  if parser.current.kind = .closing then pass
  else throw (parser.errorOr (.unclosedGroup opening parser.current))

mutual

def operand (parser : Parser) : Option (Outcome Filter) :=
  match parser.current.kind with
  | .opening =>
    if maxNesting ≤ parser.depth then return (.error (.nestingTooDeep parser.current), parser)
    else do
      let (result, inside) ← parser.advance.enter |>.expression .lowest
      -- The group is left whatever its inner expression has come to.
      let behind := inside.leave
      match result with
      | .error e => return (.error e, behind)
      | .ok inner =>
        let (result, behind) ← closing parser.current.offset behind
        return (result.map fun _ => inner, behind)
  | .literal .identifier => constraint parser
  | _ => return (.error (parser.errorOr (.unexpectedToken parser.current)), parser)
partial_fixpoint

/-- Goes on after an operand, taking in the connectives that bind tighter than `floor`. -/
def operands (floor : Precedence) (left : Filter) (parser : Parser) : Option (Outcome Filter) :=
  match parser.current.kind with
  | .connective op =>
    if floor < op.precedence then do
      let (result, parser) ← parser.advance |>.expression op.precedence
      match result with
      | .error e => return (.error e, parser)
      | .ok right => parser |>.operands floor (left.combine op right)
    else return (.ok left, parser)
  | _ => return (.ok left, parser)
partial_fixpoint

/-- Takes operands joined by connectives that bind tighter than `floor`. -/
def expression (floor : Precedence) (parser : Parser) : Option (Outcome Filter) := do
  let (result, parser) ← parser |>.operand
  match result with
  | .error e => return (.error e, parser)
  | .ok left => parser |>.operands floor left
partial_fixpoint

end

def query : Parsing Filter := do
  let filter ← expression .lowest
  let parser ← get
  if parser.current.kind = .endOfInput then return filter
  else throw (parser.errorOr (.trailingInput parser.current))

end Parser

def Request.act : Request → Parsing Filter
  | query => Parser.query
  | expression floor => Parser.expression floor

namespace Parser

/-- What a parser comes to when it is asked again and again, and what it is in the end. -/
def serve (parser : Parser) : List Request → Option (List (Except ParseError Filter) × Parser)
  | [] => some ([], parser)
  | request :: rest => do
    let (result, next) ← request.act parser
    let (results, final) ← next.serve rest
    return (result :: results, final)

end Parser

end FilterQuery
