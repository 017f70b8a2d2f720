import FilterQuery.Literals
import FilterQuery.Operators
import FilterQuery.QuotedText

/-!
# Tokens

A token is a kind, the exact text that it covers, and the byte offset of that text in the query.
A malformed operator and the end of the input are terminal: nothing is read past them.
-/

namespace FilterQuery

/-- What a token is. -/
inductive TokenKind where
  | literal (cls : LiteralClass)
  | comparison (op : Comparison)
  | connective (op : Connective)
  | opening
  | closing
  | malformed
  | endOfInput
  deriving DecidableEq

namespace TokenKind

/-- All kinds of tokens, in the order in which they are numbered. -/
def all : List TokenKind :=
  [.literal .identifier, .literal .text, .literal .integer, .literal .float,
    .literal (.boolean false), .literal (.boolean true), .literal .null,
    .comparison .equal, .comparison .notEqual, .comparison .within, .comparison .outside,
    .comparison .less, .comparison .lessOrEqual, .comparison .greater,
    .comparison .greaterOrEqual,
    .connective .and, .connective .or, .opening, .closing, .malformed, .endOfInput]

def name : TokenKind → String
  | literal .identifier => "Ident"
  | literal .text => "String"
  | literal .integer => "Integer"
  | literal .float => "Float"
  | literal (.boolean false) => "False"
  | literal (.boolean true) => "True"
  | literal .null => "Null"
  | comparison op => op.name
  | connective op => op.name
  | opening => "LParen"
  | closing => "RParen"
  | malformed => "Invalid"
  | endOfInput => "Eof"

def comparison? : TokenKind → Option Comparison
  | comparison op => some op
  | _ => none

def connective? : TokenKind → Option Connective
  | connective op => some op
  | _ => none

/-- How tightly a token of this kind binds in operator position. -/
def precedence : TokenKind → Precedence
  | connective op => op.precedence
  | comparison _ => .comparison
  | _ => .lowest

def isTerminal : TokenKind → Bool
  | malformed | endOfInput => true
  | _ => false

theorem mem_all (kind : TokenKind) : kind ∈ all := by
  cases kind with
  | literal cls =>
    cases cls with
    | boolean b => cases b <;> decide
    | _ => decide
  | comparison op => cases op <;> decide
  | connective op => cases op <;> decide
  | _ => decide

end TokenKind

/-- A token of a query. -/
structure Token where
  kind : TokenKind
  literal : String
  offset : Nat
  deriving DecidableEq

namespace Token

def isTerminal (token : Token) : Bool := token.kind.isTerminal

theorem isTerminal_of_kind {token : Token} {kind : TokenKind} (h : token.kind = kind)
    (hopen : kind.isTerminal = false) : token.isTerminal = false := by
  rw [isTerminal, h, hopen]

/-- A token in listings and messages. -/
def display (token : Token) : String :=
  if token.kind = .endOfInput then "end of input"
  else token.kind.name ++ "(" ++ quoted token.literal ++ ")"

end Token

end FilterQuery
