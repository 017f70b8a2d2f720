import FilterQuery.ShortestDecimals
import FilterQuery.QuotedText

/-!
# Values

The values that fields are compared with.  Integers and floats are kept apart.  Booleans and null
have no order.
-/

namespace FilterQuery

/-- A value that a field is compared with. -/
inductive Value where
  | string (text : String)
  | integer (n : Int64)
  | float (x : Binary64)
  | boolean (b : Bool)
  | null
  deriving DecidableEq

def booleanText (b : Bool) : String := if b then "true" else "false"

namespace Value

def typeName : Value → String
  | string _ => "string"
  | integer _ => "integer"
  | float _ => "float"
  | boolean _ => "boolean"
  | null => "null"

/-- Whether a value can be ordered, and so stand in a list or beside an ordering comparison. -/
def isOrderable : Value → Bool
  | boolean _ | null => false
  | _ => true

def string? : Value → Option String
  | string text => some text
  | _ => none

def integer? : Value → Option Int64
  | integer n => some n
  | _ => none

/-- The number of a float, or the one nearest to an integer. -/
def float? : Value → Option Binary64
  | integer n => some (.ofInt n.toInt)
  | float x => some x
  | _ => none

def boolean? : Value → Option Bool
  | boolean b => some b
  | _ => none

/-- A value in trees and messages; strings are quoted. -/
def display : Value → String
  | string text => quoted text
  | integer n => n.toInt.repr
  | float x => x.text
  | boolean b => booleanText b
  | null => "null"

/-- Equality of values, under which floats are compared as numbers. -/
def same : Value → Value → Bool
  | float x, float y => x.equals y
  | v, w => v = w

end Value

end FilterQuery
