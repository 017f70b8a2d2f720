import FilterQuery.Binary64
import FilterQuery.Letters

/-!
# Literals

There is no quoting: the class of a bare run of text follows from its shape.  It is an integer, a
float, an identifier or one of three keywords, and anything else is a plain text.  A float has an
optional sign, digits with a decimal point or an exponent or both, and at least one digit before
the exponent.

The digits of a number may be those of any script, but only ASCII digits have a value.  Integers
have to fit into 64 bits with a sign and are read from left to right, so the first fault is the one
that is reported.  Floats are rounded to the nearest floating point number and have to stay finite.
-/

namespace FilterQuery

/-! ## The shape of floats -/

/-- Whether a text consists of decimal digits, at least one. -/
def isDigitRun (text : List Char) : Bool := !text.isEmpty && text.all isDecimalDigit

/-- Whether a number begins with a minus sign, and the number without its sign. -/
def splitSign : List Char → Bool × List Char
  | '+' :: rest => (false, rest)
  | '-' :: rest => (true, rest)
  | text => (false, text)

/-- The parts of a float literal.  The exponent has a sign and digits of its own. -/
structure FloatLiteral where
  negative : Bool
  whole : List Char
  fraction : List Char
  exponent : Option (Bool × List Char)
  deriving DecidableEq

namespace FloatLiteral

/-- The sign and the digits of an exponent that makes up the whole text. -/
def readExponent? : List Char → Option (Bool × List Char)
  | [] => none
  | mark :: rest =>
    let (negative, digits) := splitSign rest
    if (mark = 'e' ∨ mark = 'E') ∧ isDigitRun digits then some (negative, digits) else none

/-- The parts of a text that has the shape of a float literal from its start to its end. -/
def read? (text : List Char) : Option FloatLiteral :=
  let (negative, body) := splitSign text
  let whole := body.takeWhile isDecimalDigit
  match body.dropWhile isDecimalDigit with
  | '.' :: rest =>
    let fraction := rest.takeWhile isDecimalDigit
    if whole.isEmpty && fraction.isEmpty then none
    else
      match rest.dropWhile isDecimalDigit with
      | [] => some ⟨negative, whole, fraction, none⟩
      | tail => (readExponent? tail).map fun e => ⟨negative, whole, fraction, some e⟩
  | tail =>
    if whole.isEmpty then none
    else (readExponent? tail).map fun e => ⟨negative, whole, [], some e⟩

end FloatLiteral

/-! ## Classes -/

/-- What a bare run of text stands for. -/
inductive LiteralClass where
  | identifier
  | text
  | integer
  | float
  | boolean (value : Bool)
  | null
  deriving DecidableEq

/-- Whether a text has the shape of an integer: an optional sign and digits. -/
def isIntegerShaped (text : List Char) : Bool := isDigitRun (splitSign text).2

def isFloatShaped (text : List Char) : Bool := (FloatLiteral.read? text).isSome

def startsIdentifier (c : Char) : Bool := isLetter c || c == '_'

def continuesIdentifier (c : Char) : Bool :=
  isLetter c || isDecimalDigit c || c == '_' || c == '.' || c == '-'

def isIdentifierShaped : List Char → Bool
  | [] => false
  | c :: rest => startsIdentifier c && rest.all continuesIdentifier

/-- The class of a text shaped like an identifier; keywords are matched exactly. -/
def classifyWord (text : List Char) : LiteralClass :=
  if text = "true".toList then .boolean true
  else if text = "false".toList then .boolean false
  else if text = "null".toList then .null
  else .identifier

/-- The class of any text. -/
def classify (text : List Char) : LiteralClass :=
  if isIntegerShaped text then .integer
  else if isFloatShaped text then .float
  else if isIdentifierShaped text then classifyWord text
  else .text

/-! ## Values of numbers -/

inductive IntegerFault where
  | invalidDigit
  | tooLarge
  | tooSmall
  deriving DecidableEq

inductive FloatFault where
  | invalidDigit
  | outOfRange
  deriving DecidableEq

def IntegerFault.message : IntegerFault → String
  | invalidDigit => "invalid digit found in string"
  | tooLarge => "number too large to fit in target type"
  | tooSmall => "number too small to fit in target type"

def digitValue? (c : Char) : Option Nat :=
  if c.isDigit then some (c.toNat - '0'.toNat) else none

/-- The number that digits add to the digits read before them, up to a limit. -/
def readDigits (limit : Nat) (overflow : IntegerFault) (soFar : Nat) :
    List Char → Except IntegerFault Nat
  | [] => .ok soFar
  | c :: rest =>
    match digitValue? c with
    | none => .error .invalidDigit
    | some digit =>
      if limit < soFar * 10 + digit then .error overflow
      else readDigits limit overflow (soFar * 10 + digit) rest

def readInteger (text : List Char) : Except IntegerFault Int64 :=
  let (negative, digits) := splitSign text
  if negative then
    (readDigits 9223372036854775808 .tooSmall 0 digits).map fun (n : Nat) => Int64.ofInt (-n)
  else (readDigits 9223372036854775807 .tooLarge 0 digits).map fun (n : Nat) => Int64.ofInt n

def readNumber? (digits : List Char) : Option Nat :=
  if digits.all Char.isDigit then some (Nat.ofDigitChars 10 digits 0) else none

/-- The power of ten in the exponent of a float literal; without an exponent it is zero. -/
def readPower? : Option (Bool × List Char) → Option Int
  | none => some 0
  | some (negative, digits) =>
    (readNumber? digits).map fun (n : Nat) => if negative then -(n : Int) else n

namespace FloatLiteral

/-- The floating point number nearest to a literal, if its digits are all of ASCII. -/
def nearest? (literal : FloatLiteral) : Option Binary64 := do
  let digits ← readNumber? (literal.whole ++ literal.fraction)
  let power ← readPower? literal.exponent
  return .ofDecimal literal.negative digits (power - literal.fraction.length)

end FloatLiteral

def readFloat (text : List Char) : Except FloatFault Binary64 :=
  match (FloatLiteral.read? text).bind FloatLiteral.nearest? with
  | none => .error .invalidDigit
  | some x => if x.isFinite then .ok x else .error .outOfRange

end FilterQuery
