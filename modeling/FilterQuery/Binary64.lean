/-!
# Binary floating point numbers of 64 bits

A number is a sign and a magnitude of 63 bits.  Magnitudes are ordered like the numbers that they
stand for: zero, the subnormal and normal numbers, infinity, and above it the values that are not
numbers.  Equality of the structure is equality of all bits; `Binary64.equals` is equality of
numbers, under which the two zeros are equal and what is not a number equals nothing.

A quotient is rounded to the nearest of them, a tie to the one whose last bit is zero; from half a
step above the largest finite number on it becomes infinity.  All arithmetic is exact, on natural
numbers.
-/

namespace FilterQuery

/-- A floating point number, by its sign bit and its other bits. -/
structure Binary64 where
  negative : Bool
  magnitude : Nat
  magnitude_lt : magnitude < 0x8000000000000000
  deriving DecidableEq

namespace Binary64

/-- The magnitude of the two infinities. -/
def infinity : Nat := 0x7ff0000000000000

/-- The leading bit of a normal number, which its magnitude does not hold; also the weight of the
exponent in a magnitude. -/
def hiddenBit : Nat := 0x10000000000000

def isNaN (x : Binary64) : Bool := decide (infinity < x.magnitude)

def isFinite (x : Binary64) : Bool := decide (x.magnitude < infinity)

def equals (x y : Binary64) : Bool :=
  !x.isNaN && !y.isNaN && decide (x = y ∨ x.magnitude = 0 ∧ y.magnitude = 0)

def ofBits (bits : UInt64) : Binary64 :=
  ⟨decide (0x8000000000000000 ≤ bits.toNat), bits.toNat % 0x8000000000000000,
    Nat.mod_lt _ (by decide)⟩

def toBits (x : Binary64) : UInt64 :=
  UInt64.ofNat ((if x.negative then 0x8000000000000000 else 0) + x.magnitude)

/-- The absolute value of a finite number, as a multiple of the least positive one, `2 ^ (-1074)`.
The upper bits of the magnitude are an exponent; only subnormal numbers lack the hidden bit. -/
def multiple (magnitude : Nat) : Nat :=
  let exponent := magnitude / hiddenBit
  let fraction := magnitude % hiddenBit
  if exponent = 0 then fraction else (hiddenBit + fraction) <<< (exponent - 1)

@[simp] theorem ofBits_toBits (x : Binary64) : ofBits x.toBits = x := by
  obtain ⟨negative, magnitude, h⟩ := x
  cases negative
  · simp [ofBits, toBits, UInt64.toNat_ofNat']
    omega
  · simp [ofBits, toBits, UInt64.toNat_ofNat']
    omega

end Binary64

/-! ## Rounding to the nearest number -/

/-- A quotient rounded to the nearest natural number, a tie to the even one. -/
def roundHalfEven (a b : Nat) : Nat :=
  let q := a / b
  let r := a % b
  if b < 2 * r ∨ 2 * r = b ∧ q % 2 = 1 then q + 1 else q

namespace Binary64

/-- The magnitude nearest to the quotient `a / b`.  The quotient is measured in steps of
`2 ^ (-1074)`; of a large one 53 bits are kept, and each bit that is given up raises the exponent
by one.  A mantissa that is rounded up to 54 bits carries into the exponent by itself. -/
def nearestMagnitude (a b : Nat) : Nat :=
  let steps := a <<< 1074
  let shift := (steps / b).log2 - 52
  min infinity (shift * hiddenBit + roundHalfEven steps (b <<< shift))

theorem nearestMagnitude_le (a b : Nat) : nearestMagnitude a b ≤ infinity := Nat.min_le_left ..

/-- The number nearest to a quotient with the given sign. -/
def ofQuotient (negative : Bool) (a b : Nat) : Binary64 :=
  ⟨negative, nearestMagnitude a b,
    Nat.lt_of_le_of_lt (nearestMagnitude_le a b) (by decide)⟩

/-- The number nearest to an integer. -/
def ofInt (n : Int) : Binary64 := ofQuotient (decide (n < 0)) n.natAbs 1

/-- The number nearest to `digits * 10 ^ power`.  Powers beyond ten to the 400th are cut back:
they lie outside the range of the format on either side, whatever digits they come with. -/
def ofDecimal (negative : Bool) (digits : Nat) (power : Int) : Binary64 :=
  if power < 0 then ofQuotient negative digits (Nat.pow 10 (min power.natAbs (digits.log2 + 400)))
  else ofQuotient negative (digits * Nat.pow 10 (min power.natAbs 400)) 1

end Binary64

end FilterQuery
