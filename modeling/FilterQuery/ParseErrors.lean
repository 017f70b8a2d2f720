import FilterQuery.Filters
import FilterQuery.Literals
import FilterQuery.Tokens

/-!
# Parse errors

Reading a query stops at the first fault.  An error names its cause, and where there are any, the
field in question and the token at fault.
-/

namespace FilterQuery

/-- How deep groups may be nested. -/
def maxNesting : Nat := 128

/-- Why a query is not read. -/
inductive ParseError where
  | malformedOperator (token : Token)
  | unexpectedToken (token : Token)
  | missingComparison (field : String) (token : Token)
  | missingArgument (field : String) (token : Token)
  | missingList (field : String) (token : Token)
  | emptyList (field : String)
  | missingSeparator (field : String) (token : Token)
  | unclosedGroup (opening : Nat) (token : Token)
  | trailingInput (token : Token)
  | nestingTooDeep (token : Token)
  | unorderedArgument (field : String) (op : Comparison) (value : Value)
  | unreadableInteger (field : String) (token : Token) (fault : IntegerFault)
  | unreadableFloat (field : String) (token : Token)
  | floatOutOfRange (field : String) (token : Token)
  deriving DecidableEq

namespace ParseError

def field? : ParseError → Option String
  | missingComparison field _ | missingArgument field _ | missingList field _ | emptyList field
  | missingSeparator field _ | unorderedArgument field _ _ | unreadableInteger field _ _
  | unreadableFloat field _ | floatOutOfRange field _ => some field
  | malformedOperator _ | unexpectedToken _ | unclosedGroup _ _ | trailingInput _
  | nestingTooDeep _ => none

def token? : ParseError → Option Token
  | malformedOperator token | unexpectedToken token | missingComparison _ token
  | missingArgument _ token | missingList _ token | missingSeparator _ token
  | unclosedGroup _ token | trailingInput token | nestingTooDeep token
  | unreadableInteger _ token _ | unreadableFloat _ token | floatOutOfRange _ token => some token
  | emptyList _ | unorderedArgument _ _ _ => none

/-- What the reading of a number literal failed at. -/
def cause? : ParseError → Option String
  | unreadableInteger _ _ fault => some fault.message
  | unreadableFloat _ _ => some "invalid float literal"
  | _ => none

def located (token : Token) : String := token.display ++ " at offset " ++ token.offset.repr

def message : ParseError → String
  | malformedOperator token =>
    "invalid token " ++ quoted token.literal ++ " at offset " ++ token.offset.repr
  | unexpectedToken token => "unexpected token " ++ located token
  | missingComparison field token =>
    "expected comparison after field " ++ quoted field ++ ", got " ++ located token
  | missingArgument field token =>
    "expected argument after comparison for field " ++ quoted field ++ ", got " ++ located token
  | missingList field token =>
    "expected '(' after membership operator for field " ++ quoted field ++ ", got " ++
      located token
  | emptyList field => "empty list for membership operator on field " ++ quoted field
  | missingSeparator field token =>
    "expected ',' or ')' between membership values for field " ++ quoted field ++ ", got " ++
      located token
  | unclosedGroup opening token =>
    "expected ')' to close group opened at offset " ++ opening.repr ++ ", got " ++ located token
  | trailingInput token => "unexpected token after expression: " ++ located token
  | nestingTooDeep token =>
    "groups nested deeper than " ++ maxNesting.repr ++ " levels at offset " ++ token.offset.repr
  | unorderedArgument field op value =>
    "operator " ++ op.name ++ " on field " ++ quoted field ++ " does not accept a " ++
      value.typeName ++ " argument"
  | unreadableInteger field token fault =>
    "invalid integer " ++ quoted token.literal ++ " for field " ++ quoted field ++ ": " ++
      fault.message
  | unreadableFloat field token =>
    "invalid float " ++ quoted token.literal ++ " for field " ++ quoted field ++
      ": invalid float literal"
  | floatOutOfRange field token =>
    "float " ++ quoted token.literal ++ " for field " ++ quoted field ++ " is out of range"

end ParseError

end FilterQuery
