import FilterQuery.Binary64

/-!
# Shortest decimals

The shortest decimal of a floating point number has the fewest significant digits among the
decimals that are read back as that number, and among those with as few digits it is the nearest.
It is found by looking at the two decimals around the number with one digit, with two, and so on
up to seventeen, and reading them back; if none of them were read back, all digits of the number
would be given.

A floating point number is written with the digits of its shortest decimal.  A layout says between
which powers of ten they are written out with a decimal point, and otherwise how the exponent is
marked.  A number written out always shows a digit on both sides of the point.
-/

namespace FilterQuery

/-- The number `digits * 10 ^ power`. -/
structure Decimal where
  digits : Nat
  power : Int
  deriving DecidableEq

/-- Which of two decimals that are equally near to a number is taken. -/
inductive TieRule where
  | upper
  | even
  deriving DecidableEq

namespace Decimal

/-- A decimal without the zeros at the end of its digits. -/
def strip (d : Decimal) : Decimal :=
  if 0 < d.digits ∧ d.digits % 10 = 0 then strip ⟨d.digits / 10, d.power + 1⟩ else d
termination_by d.digits
decreasing_by omega

/-- The magnitude as which a decimal is read. -/
def magnitude (d : Decimal) : Nat := (Binary64.ofDecimal false d.digits d.power).magnitude

/-- The whole number of steps `10 ^ power` below a finite magnitude, how much remains, and the
size of a step, the last two in a common unit. -/
def stepsBelow (magnitude : Nat) (power : Int) : Nat × Nat × Nat :=
  let value := Binary64.multiple magnitude * Nat.pow 10 (-power).toNat
  let step := Nat.pow 10 power.toNat <<< 1074
  (value / step, value % step, step)

/-- The decimal with the given power that is read back as a finite magnitude and is nearest to
it, if there is one. -/
def onGrid? (tie : TieRule) (magnitude : Nat) (power : Int) : Option Decimal :=
  let (steps, remainder, step) := stepsBelow magnitude power
  let below := strip ⟨steps, power⟩
  let above := strip ⟨steps + 1, power⟩
  match below.magnitude == magnitude, above.magnitude == magnitude with
  | true, true =>
    if 2 * remainder < step ∨ 2 * remainder = step ∧ tie = .even ∧ steps % 2 = 0 then some below
    else some above
  | true, false => some below
  | false, true => some above
  | false, false => none

/-- The power of ten just above a positive finite magnitude. -/
def leadingPower (magnitude : Nat) : Int :=
  (Nat.toDigits 10 (stepsBelow magnitude (-400)).1).length - 400

/-- All digits of a finite magnitude. -/
def exact (magnitude : Nat) : Decimal := ⟨Binary64.multiple magnitude * Nat.pow 5 1074, -1074⟩

/-- The shortest decimal of a positive finite magnitude. -/
def shortest (tie : TieRule) (magnitude : Nat) : Decimal :=
  let top := leadingPower magnitude
  let found := (List.range 17).findSome? fun (n : Nat) => onGrid? tie magnitude (top - 1 - n)
  found.getD (exact magnitude)

end Decimal

/-! ## Layouts -/

/-- How floating point numbers are written. -/
structure DecimalLayout where
  /-- The least exponent of the first digit at which a number is written out. -/
  writtenOutFrom : Int
  /-- The exponent of the first digit from which on a number is no longer written out. -/
  writtenOutBelow : Int
  /-- Whether a positive exponent has a sign. -/
  plusSign : Bool
  /-- The choice between two equally near decimals. -/
  tie : TieRule

namespace DecimalLayout

/-- The layout of trees, queries and messages. -/
def plain : DecimalLayout := ⟨-4, 16, false, .upper⟩

def json : DecimalLayout := ⟨-5, 16, true, .even⟩

/-- Digits written out with a decimal point, the first digit having the given exponent.  Zeros fill
the places between the digits and the point. -/
def writtenOut (digits : List Char) (exponent : Int) : List Char :=
  if exponent < 0 then '0' :: '.' :: List.replicate (exponent.natAbs - 1) '0' ++ digits
  else
    let places := exponent.natAbs + 1
    let fraction := digits.drop places
    (digits ++ List.replicate (places - digits.length) '0').take places ++
      '.' :: if fraction.isEmpty then ['0'] else fraction

/-- Digits with a point behind the first one, if there are more, and an exponent. -/
def withExponent (plusSign : Bool) (digits : List Char) (exponent : Int) : List Char :=
  let sign := if exponent < 0 then ['-'] else if plusSign then ['+'] else []
  let fraction := digits.drop 1
  digits.take 1 ++ (if fraction.isEmpty then [] else '.' :: fraction) ++
    'e' :: sign ++ Nat.toDigits 10 exponent.natAbs

/-- The text of a finite magnitude. -/
def magnitudeText (layout : DecimalLayout) (magnitude : Nat) : List Char :=
  if magnitude = 0 then ['0', '.', '0']
  else
    let d := Decimal.shortest layout.tie magnitude
    let digits := Nat.toDigits 10 d.digits
    let exponent := d.power + digits.length - 1
    if layout.writtenOutFrom ≤ exponent ∧ exponent < layout.writtenOutBelow then
      writtenOut digits exponent
    else withExponent layout.plusSign digits exponent

/-- The text of a finite number. -/
def finiteText (layout : DecimalLayout) (x : Binary64) : String :=
  String.ofList ((if x.negative then ['-'] else []) ++ layout.magnitudeText x.magnitude)

end DecimalLayout

def Binary64.text (x : Binary64) : String :=
  if x.isFinite then DecimalLayout.plain.finiteText x
  else if x.isNaN then "NaN"
  else if x.negative then "-inf" else "inf"

end FilterQuery
