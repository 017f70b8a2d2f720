/-!
# Guide

The texts that explain the query language: an overview, and one text for each topic.
-/

namespace FilterQuery

inductive GuideTopic where
  | queries
  | operators
  | literals
  | errors
  deriving DecidableEq

def textOfLines (lines : List String) : String := String.join (lines.map (· ++ "\n"))

def guideOverview : String :=
  textOfLines [
    "RSQL DOCUMENTATION",
    "",
    "RSQL is a compact filter language. A query is a set of constraints on named",
    "fields, combined with and (;) and or (,). The parser turns a query into a",
    "tree that other code can walk to build SQL WHERE clauses or in-memory filters.",
    "",
    "DOCUMENTATION CATEGORIES",
    "",
    "  syntax            Constraints, combinators, grouping and precedence",
    "  operators         Comparison operators and their FIQL spellings",
    "  literals          How bare values are classified into types",
    "  errors            What the parser rejects and how it reports it",
    "",
    "QUICK REFERENCE",
    "",
    "  name==John                  Equality",
    "  age=gt=21;age=lt=65         And",
    "  a==1,b==2                   Or",
    "  (a==1,b==2);c==3            Grouping",
    "  city=in=(NY,LA,SF)          Membership",
    "",
    "Run 'rsql doc <category>' for detailed documentation.",
    "Run 'rsql check <query>' to see how a query parses."]

namespace GuideTopic

/-- The topic of a name, in which case does not matter. -/
def ofName? (name : String) : Option GuideTopic :=
  let key := name.toLower
  if key ∈ ["syntax", "grammar"] then some queries
  else if key ∈ ["operators", "ops"] then some operators
  else if key ∈ ["literals", "literal", "values", "types"] then some literals
  else if key ∈ ["errors", "error"] then some errors
  else none

def queriesText : String :=
  textOfLines [
    "SYNTAX - Constraints and Combinators",
    "",
    "CONSTRAINT",
    "  field OPERATOR argument",
    "    Compares a field with a literal. The field must be an identifier:",
    "    a letter or underscore followed by letters, digits, '_', '.' or '-'.",
    "",
    "    Example:",
    "      name==John",
    "      user.address.city!=Paris",
    "",
    "AND",
    "  constraint;constraint",
    "    Both sides must hold.",
    "",
    "    Example:",
    "      age=gt=21;age=lt=65",
    "      => And [ age Gt 21, age Lt 65 ]",
    "",
    "OR",
    "  constraint,constraint",
    "    Either side must hold.",
    "",
    "    Example:",
    "      status==active,status==pending",
    "",
    "PRECEDENCE",
    "  ; binds tighter than ,",
    "",
    "    a==1,b==2;c==3",
    "    => Or [ a Eq 1, And [ b Eq 2, c Eq 3 ] ]",
    "",
    "GROUPING",
    "  ( expression )",
    "    Parentheses override precedence.",
    "",
    "    (a==1,b==2);c==3",
    "    => And [ Or [ a Eq 1, b Eq 2 ], c Eq 3 ]",
    "",
    "FLATTENING",
    "  Chains of the same operator become one node:",
    "",
    "    a==1;b==2;c==3",
    "    => And [ a Eq 1, b Eq 2, c Eq 3 ]",
    "",
    "WHITESPACE",
    "  Whitespace around tokens is ignored. Whitespace inside a bare value is",
    "  kept, so name==John Smith compares name with \"John Smith\"."]

def operatorsText : String :=
  textOfLines [
    "OPERATORS - Comparison",
    "",
    "EQUALITY",
    "  ==   =eq=      Equal",
    "  !=   =ne=      Not equal",
    "",
    "ORDERING",
    "  <    =lt=      Less than",
    "  <=   =le=      Less than or equal",
    "  >    =gt=      Greater than",
    "  >=   =ge=      Greater than or equal",
    "",
    "    Booleans and null cannot be ordered:",
    "      flag=lt=true          rejected",
    "",
    "MEMBERSHIP",
    "  =in=(a,b,...)     Value is one of the list",
    "  =out=(a,b,...)    Value is none of the list",
    "",
    "    The list must contain at least one value. Booleans and null are not",
    "    allowed in a list:",
    "      tag=in=(x,y,z)        accepted",
    "      tag=in=()             rejected",
    "      tag=in=(true,1)       rejected",
    "",
    "LOGICAL",
    "  ;    And",
    "  ,    Or (also separates list values)"]

def literalsText : String :=
  textOfLines [
    "LITERALS - Value Classification",
    "",
    "There is no quoting. A bare value runs until one of = < > ! ( ) ; , and is",
    "classified by trying each rule in order:",
    "",
    "  1. INTEGER    optional sign, then digits only",
    "                  42   -1   +7",
    "",
    "  2. FLOAT      optional sign, digits with a decimal point and/or exponent",
    "                  1.5   -1.0   1e10   .5   2.5E-3",
    "",
    "  3. IDENTIFIER letter or '_', then letters, digits, '_', '.', '-'",
    "                  John   abc-1   user.name",
    "                The exact words true, false and null become booleans",
    "                and null; matching is case-sensitive (True is a string).",
    "",
    "  4. STRING     anything else",
    "                  2024-01-01   *.txt   John Smith",
    "",
    "Integers are 64-bit signed. Floats are 64-bit."]

def errorsText : String :=
  textOfLines [
    "ERRORS - What Gets Rejected",
    "",
    "Parsing stops at the first error. Messages name the field involved and the",
    "offending token with its byte offset in the query.",
    "",
    "LEXICAL",
    "  =foo=          unknown FIQL operator",
    "  a=5            '=' not followed by '=' or an operator word",
    "  a!5            '!' not followed by '='",
    "",
    "SYNTAX",
    "  score==                       missing argument",
    "  name                          missing comparison",
    "  (a==1                         unbalanced parentheses",
    "  a==1)                         trailing input",
    "  tag=in=()                     empty list",
    "  tag=in=(a;b)                  bad list separator",
    "  ((((...a==1...))))            groups nested deeper than 128 levels",
    "",
    "VALIDATION",
    "  flag=lt=true                  ordering on a boolean",
    "  tag=in=(null)                 null in a membership list",
    "  n==99999999999999999999       integer out of range",
    "  x==1e400                      float out of range"]

def text : GuideTopic → String
  | queries => queriesText
  | operators => operatorsText
  | literals => literalsText
  | errors => errorsText

end GuideTopic

end FilterQuery
