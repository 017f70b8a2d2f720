import Mathlib.Algebra.Order.Field.Power
import Mathlib.Data.Nat.Dist
import Mathlib.Data.Rat.Cast.Order
import Mathlib.Tactic.Linarith
import Mathlib.Tactic.NormNum
import Mathlib.Tactic.Positivity
import FilterQuery.Binary64

/-!
# Nearest numbers

What it means to round a quotient correctly: no other number is nearer, and of two that are equally
near it is the one whose last bit is zero.  The number where the exponents end takes the place of
infinity.  The main statements say that the rounding of quotients and decimals is correct, that
there is only one correctly rounded number, and from which size on it is infinite.
-/

namespace FilterQuery

namespace Binary64

/-- The size of the numbers with a magnitude.  Infinity takes the place of the first power of two
beyond the largest finite number. -/
def size (magnitude : Nat) : ℚ := multiple magnitude / 2 ^ 1074

/-- Whether a number is the one that a size with a sign is rounded to. -/
structure IsNearest (negative : Bool) (q : ℚ) (x : Binary64) : Prop where
  sign : x.negative = negative
  le_infinity : x.magnitude ≤ infinity
  nearest : ∀ m ≤ infinity, |q - size x.magnitude| ≤ |q - size m|
  even : ∀ m ≤ infinity, m ≠ x.magnitude → |q - size x.magnitude| = |q - size m| →
    x.magnitude % 2 = 0

/-! ## The steps of a magnitude -/

private theorem multiple_of_exponent {magnitude e f : Nat} (hf : f < hiddenBit)
    (h : magnitude = e * hiddenBit + f) :
    multiple magnitude = if e = 0 then f else (hiddenBit + f) * 2 ^ (e - 1) := by
  have hdiv : magnitude / hiddenBit = e := by
    rw [hiddenBit] at *
    omega
  have hmod : magnitude % hiddenBit = f := by
    rw [hiddenBit] at *
    omega
  rw [multiple, hdiv, hmod, Nat.shiftLeft_eq]

/-- A magnitude that counts steps of `2 ^ k`: the hidden bit is counted with them, and a count that
has grown by one bit carries into the exponent. -/
theorem multiple_eq {k r : Nat} (hr : r ≤ 2 * hiddenBit) (hk : k = 0 ∨ hiddenBit ≤ r) :
    multiple (k * hiddenBit + r) = r * 2 ^ k := by
  have hpos : 0 < hiddenBit := by decide
  by_cases hsmall : r < hiddenBit
  · obtain rfl : k = 0 := by omega
    rw [multiple_of_exponent (e := 0) hsmall rfl, if_pos rfl, Nat.pow_zero, Nat.mul_one]
  by_cases hlarge : r < 2 * hiddenBit
  · have hsplit : k * hiddenBit + r = (k + 1) * hiddenBit + (r - hiddenBit) := by
      rw [Nat.succ_mul]
      omega
    have hcount : hiddenBit + (r - hiddenBit) = r := by omega
    rw [multiple_of_exponent (by omega) hsplit, if_neg (Nat.succ_ne_zero k), hcount,
      Nat.add_sub_cancel]
  · obtain rfl : r = 2 * hiddenBit := by omega
    have hsplit : k * hiddenBit + 2 * hiddenBit = (k + 2) * hiddenBit + 0 := by
      rw [Nat.add_mul, Nat.add_zero]
    have hpred : k + 2 - 1 = k + 1 := by omega
    rw [multiple_of_exponent hpos hsplit, if_neg (Nat.succ_ne_zero _), hpred, Nat.add_zero,
      Nat.pow_succ, Nat.mul_comm 2, Nat.mul_assoc, Nat.mul_comm 2]

theorem exists_steps (magnitude : Nat) :
    ∃ k r, magnitude = k * hiddenBit + r ∧ r < 2 * hiddenBit ∧ (k = 0 ∨ hiddenBit ≤ r) := by
  refine ⟨magnitude / hiddenBit - 1, magnitude - (magnitude / hiddenBit - 1) * hiddenBit, ?_⟩
  rw [hiddenBit]
  omega

theorem multiple_lt_succ (magnitude : Nat) : multiple magnitude < multiple (magnitude + 1) := by
  obtain ⟨k, r, rfl, hr, hk⟩ := exists_steps magnitude
  rw [Nat.add_assoc, multiple_eq (Nat.le_of_lt hr) hk, multiple_eq (by omega) (by omega)]
  exact Nat.mul_lt_mul_of_pos_right (Nat.lt_succ_self r) (Nat.two_pow_pos k)

theorem strictMono_multiple : StrictMono multiple := strictMono_nat_of_lt_succ multiple_lt_succ

/-- A number is a whole count of steps of `2 ^ k`, or else below the numbers that count them. -/
theorem exists_multiple_or_lt (magnitude k : Nat) :
    (∃ j, multiple magnitude = j * 2 ^ k) ∨
      0 < k ∧ multiple magnitude < hiddenBit * 2 ^ k := by
  obtain ⟨k', r, rfl, hr, hk⟩ := exists_steps magnitude
  rw [multiple_eq (Nat.le_of_lt hr) hk]
  by_cases hle : k ≤ k'
  · refine .inl ⟨r * 2 ^ (k' - k), ?_⟩
    rw [Nat.mul_assoc, ← Nat.pow_add, Nat.sub_add_cancel hle]
  · refine .inr ⟨by omega, ?_⟩
    calc r * 2 ^ k' < 2 * hiddenBit * 2 ^ k' := Nat.mul_lt_mul_of_pos_right hr (Nat.two_pow_pos k')
      _ = hiddenBit * 2 ^ (k' + 1) := by
          rw [Nat.pow_succ, Nat.mul_comm 2, Nat.mul_assoc, Nat.mul_comm 2]
      _ ≤ hiddenBit * 2 ^ k := Nat.mul_le_mul_left _ (Nat.pow_le_pow_right (by decide) (by omega))

/-! ## The nearest count of steps -/

private theorem roundHalfEven_cases (a b : Nat) :
    (roundHalfEven a b = a / b ∧ (2 * (a % b) < b ∨ 2 * (a % b) = b ∧ a / b % 2 = 0)) ∨
      (roundHalfEven a b = a / b + 1 ∧ (b < 2 * (a % b) ∨ 2 * (a % b) = b ∧ a / b % 2 = 1)) := by
  unfold roundHalfEven
  dsimp only
  split <;> omega

theorem dist_roundHalfEven_le (a : Nat) {b : Nat} (hb : 0 < b) (j : Nat) :
    a.dist (roundHalfEven a b * b) ≤ a.dist (j * b) ∧
      (j ≠ roundHalfEven a b → a.dist (roundHalfEven a b * b) = a.dist (j * b) →
        roundHalfEven a b % 2 = 0) := by
  have hsplit : a = a / b * b + a % b := (Nat.div_add_mod' a b).symm
  have hrest := Nat.mod_lt a hb
  have hsucc : (a / b + 1) * b = a / b * b + b := Nat.succ_mul _ _
  -- The count lies on one of the two sides of the quotient, and only two counts are next to it.
  have hside : j * b + b ≤ a / b * b ∨ j = a / b ∨ j = a / b + 1 ∨
      a / b * b + 2 * b ≤ j * b := by
    rcases Nat.lt_or_ge j (a / b) with hlt | hge
    · have hmul := Nat.mul_le_mul_right b hlt
      rw [Nat.succ_mul] at hmul
      exact .inl hmul
    rcases Nat.lt_or_ge (a / b + 1) j with hgt | hle
    · have hmul := Nat.mul_le_mul_right b hgt
      rw [Nat.succ_mul, hsucc] at hmul
      omega
    · omega
  unfold Nat.dist
  rcases roundHalfEven_cases a b with ⟨hround, hnear⟩ | ⟨hround, hnear⟩
  · rw [hround]
    rcases hside with hside | rfl | rfl | hside <;> omega
  · rw [hround, hsucc]
    rcases hside with hside | rfl | rfl | hside <;> omega

/-! ## The nearest magnitude -/

/-- What is kept of a quotient: at most 53 bits, and exactly as many if any bit is given up. -/
private theorem quotient_bounds {steps b shift : Nat}
    (hshift : shift = (steps / b).log2 - 52) :
    steps / (b <<< shift) < 2 * hiddenBit ∧
      (shift = 0 ∨ hiddenBit ≤ steps / (b <<< shift)) := by
  have hdiv : steps / (b <<< shift) = steps / b / 2 ^ shift := by
    rw [Nat.shiftLeft_eq, Nat.div_div_eq_div_mul]
  have htop : hiddenBit * 2 ^ shift = 2 ^ (52 + shift) := by
    rw [Nat.pow_add]
    rfl
  have hpow : 0 < 2 ^ shift := Nat.two_pow_pos shift
  rw [hdiv, Nat.div_lt_iff_lt_mul hpow, Nat.le_div_iff_mul_le hpow, htop, Nat.mul_assoc, htop,
    ← Nat.pow_succ']
  constructor
  · calc steps / b < 2 ^ ((steps / b).log2 + 1) := Nat.lt_log2_self
      _ ≤ 2 ^ (52 + shift + 1) := Nat.pow_le_pow_right (by decide) (by omega)
  · by_cases hzero : shift = 0
    · exact .inl hzero
    · have hne : steps / b ≠ 0 := by
        intro h
        rw [h, Nat.log2_zero] at hshift
        exact hzero hshift
      have hsum : 52 + shift = (steps / b).log2 := by omega
      rw [hsum]
      exact .inr (Nat.log2_self_le hne)

private theorem mul_two_pow_mul (n b shift : Nat) : n * 2 ^ shift * b = n * (b <<< shift) := by
  rw [Nat.shiftLeft_eq, Nat.mul_assoc, Nat.mul_comm b]

section Kept

variable {steps b shift : Nat} (hb : 0 < b) (hhigh : steps / (b <<< shift) < 2 * hiddenBit)
  (hlow : shift = 0 ∨ hiddenBit ≤ steps / (b <<< shift))

include hb hlow in
private theorem hiddenBit_mul_le (hpos : 0 < shift) : hiddenBit * (b <<< shift) ≤ steps :=
  (Nat.le_div_iff_mul_le (Nat.shiftLeft_pos_iff.mpr hb)).mp (hlow.resolve_left (Nat.ne_of_gt hpos))

include hhigh in
private theorem roundHalfEven_le : roundHalfEven steps (b <<< shift) ≤ 2 * hiddenBit := by
  have hcases := roundHalfEven_cases steps (b <<< shift)
  omega

include hb hhigh hlow in
/-- Among all numbers the nearest is found by rounding the count of steps that are kept: the others
are counts of the same steps, or too small to be nearer. -/
private theorem dist_kept_le (m : Nat) {rounded : Nat}
    (hrounded : rounded = shift * hiddenBit + roundHalfEven steps (b <<< shift)) :
    steps.dist (multiple rounded * b) ≤ steps.dist (multiple m * b) ∧
      (m ≠ rounded → steps.dist (multiple rounded * b) = steps.dist (multiple m * b) →
        rounded % 2 = 0) := by
  have hround := dist_roundHalfEven_le steps (Nat.shiftLeft_pos_iff.mpr hb : 0 < b <<< shift)
  have hcases := roundHalfEven_cases steps (b <<< shift)
  have hle := roundHalfEven_le hhigh
  generalize roundHalfEven steps (b <<< shift) = r at *
  have hcount : multiple rounded = r * 2 ^ shift := by
    rw [hrounded]
    exact multiple_eq hle (by omega)
  have hparity : rounded % 2 = r % 2 := by
    rw [hrounded, hiddenBit]
    omega
  rw [hparity, hcount, mul_two_pow_mul]
  rcases exists_multiple_or_lt m shift with ⟨j, hj⟩ | ⟨hpos, hlt⟩
  · rw [hj, mul_two_pow_mul]
    refine ⟨(hround j).1, fun hne heq => (hround j).2 ?_ heq⟩
    rintro rfl
    exact hne (strictMono_multiple.injective (hj.trans hcount.symm))
  · have hsteps := hiddenBit_mul_le hb hlow hpos
    have hbelow : multiple m * b < hiddenBit * (b <<< shift) := by
      rw [← mul_two_pow_mul]
      exact Nat.mul_lt_mul_of_pos_right hlt hb
    have hnear := (hround hiddenBit).1
    unfold Nat.dist at *
    constructor <;> omega

include hb hhigh hlow in
private theorem multiple_infinity_mul_le
    (hover : infinity < shift * hiddenBit + roundHalfEven steps (b <<< shift)) :
    multiple infinity * b ≤ steps := by
  have hshift : 2046 ≤ shift := by
    have hle := roundHalfEven_le hhigh
    rw [infinity] at hover
    rw [hiddenBit] at *
    omega
  -- The exponent goes by a name, so that its power is not computed.
  obtain ⟨top, htop, hinfinity⟩ : ∃ top, top = 2046 ∧ multiple infinity = hiddenBit * 2 ^ top := by
    have hcarry : infinity = 2046 * hiddenBit + hiddenBit := by decide
    rw [hcarry]
    exact ⟨2046, rfl, multiple_eq (by decide) (.inr (Nat.le_refl hiddenBit))⟩
  refine Nat.le_trans ?_ (hiddenBit_mul_le hb hlow (by omega))
  rw [hinfinity, ← mul_two_pow_mul]
  refine Nat.mul_le_mul_right b (Nat.mul_le_mul_left _ ?_)
  exact Nat.pow_le_pow_right (by decide) (htop ▸ hshift)

end Kept

theorem dist_nearestMagnitude_le (a : Nat) {b : Nat} (hb : 0 < b) {m : Nat} (hm : m ≤ infinity) :
    (a <<< 1074).dist (multiple (nearestMagnitude a b) * b) ≤ (a <<< 1074).dist (multiple m * b) ∧
      (m ≠ nearestMagnitude a b →
        (a <<< 1074).dist (multiple (nearestMagnitude a b) * b) =
          (a <<< 1074).dist (multiple m * b) → nearestMagnitude a b % 2 = 0) := by
  unfold nearestMagnitude
  dsimp only
  generalize a <<< 1074 = steps
  generalize hshift : (steps / b).log2 - 52 = shift
  obtain ⟨hhigh, hlow⟩ := quotient_bounds hshift.symm
  by_cases hover : infinity < shift * hiddenBit + roundHalfEven steps (b <<< shift)
  · have hbeyond := multiple_infinity_mul_le hb hhigh hlow hover
    have hle : multiple m * b ≤ multiple infinity * b :=
      Nat.mul_le_mul_right b (strictMono_multiple.monotone hm)
    rw [Nat.min_eq_left (Nat.le_of_lt hover)]
    unfold Nat.dist
    exact ⟨by omega, fun _ _ => by decide⟩
  · rw [Nat.min_eq_right (Nat.le_of_not_lt hover)]
    exact dist_kept_le hb hhigh hlow m rfl

/-! ## Correct rounding of quotients -/

private theorem abs_sub_natCast (m n : Nat) : |(m : ℚ) - n| = m.dist n := by
  rcases Nat.le_total m n with h | h
  · rw [Nat.dist_eq_sub_of_le h, Nat.cast_sub h, abs_sub_comm, abs_of_nonneg]
    exact sub_nonneg.mpr (Nat.cast_le.mpr h)
  · rw [Nat.dist_eq_sub_of_le_right h, Nat.cast_sub h, abs_of_nonneg]
    exact sub_nonneg.mpr (Nat.cast_le.mpr h)

private theorem cast_shiftLeft (a n : Nat) : ((a <<< n : Nat) : ℚ) = a * 2 ^ n := by
  rw [Nat.shiftLeft_eq]
  push_cast
  rfl

private theorem abs_sub_size (a : Nat) {b : Nat} (hb : 0 < b) (m : Nat) :
    |(a : ℚ) / b - size m| = ((a <<< 1074).dist (multiple m * b) : ℚ) / (b * 2 ^ 1074) := by
  have hb : (0 : ℚ) < b := Nat.cast_pos.mpr hb
  have hstep : (0 : ℚ) < 2 ^ 1074 := pow_pos two_pos 1074
  rw [size, div_sub_div _ _ hb.ne' hstep.ne', ← cast_shiftLeft, mul_comm (b : ℚ) (multiple m),
    ← Nat.cast_mul, abs_div, abs_sub_natCast, abs_of_pos (mul_pos hb hstep)]

theorem isNearest_ofQuotient (negative : Bool) (a : Nat) {b : Nat} (hb : 0 < b) :
    IsNearest negative (a / b) (ofQuotient negative a b) := by
  have hunit : (0 : ℚ) < b * 2 ^ 1074 := mul_pos (Nat.cast_pos.mpr hb) (pow_pos two_pos 1074)
  constructor
  · rfl
  · exact nearestMagnitude_le a b
  · intro m hm
    rw [abs_sub_size a hb, abs_sub_size a hb, div_le_div_iff_of_pos_right hunit, Nat.cast_le]
    exact (dist_nearestMagnitude_le a hb hm).1
  · intro m hm hne heq
    rw [abs_sub_size a hb, abs_sub_size a hb, div_left_inj' hunit.ne', Nat.cast_inj] at heq
    exact (dist_nearestMagnitude_le a hb hm).2 hne heq

/-! ## One nearest number -/

theorem size_lt_size {m n : Nat} : size m < size n ↔ m < n := by
  have hstep : (0 : ℚ) < 2 ^ 1074 := pow_pos two_pos 1074
  rw [size, size, div_lt_div_iff_of_pos_right hstep, Nat.cast_lt, strictMono_multiple.lt_iff_lt]

private theorem abs_sub_lt_of_between {q u v w : ℚ} (heq : |q - u| = |q - w|) (huv : u < v)
    (hvw : v < w) : |q - v| < |q - u| := by
  rcases abs_eq_abs.mp heq with h | h
  · linarith
  · rw [abs_of_nonneg (a := q - u) (by linarith), abs_lt]
    constructor <;> linarith

/-- Two numbers that are equally near are one number: between two even magnitudes there is another,
which would be nearer. -/
private theorem not_lt_of_isNearest {negative : Bool} {q : ℚ} {x y : Binary64}
    (hx : IsNearest negative q x) (hy : IsNearest negative q y) : ¬ x.magnitude < y.magnitude := by
  intro hlt
  have heq : |q - size x.magnitude| = |q - size y.magnitude| :=
    le_antisymm (hx.nearest _ hy.le_infinity) (hy.nearest _ hx.le_infinity)
  have hxeven := hx.even _ hy.le_infinity (Nat.ne_of_gt hlt) heq
  have hyeven := hy.even _ hx.le_infinity (Nat.ne_of_lt hlt) heq.symm
  have hbelow : size x.magnitude < size (x.magnitude + 1) := size_lt_size.mpr (Nat.lt_succ_self _)
  have habove : size (x.magnitude + 1) < size y.magnitude := size_lt_size.mpr (by omega)
  have hbetween := hx.nearest (x.magnitude + 1) (Nat.le_trans hlt hy.le_infinity)
  exact absurd hbetween (not_le.mpr (abs_sub_lt_of_between heq hbelow habove))

theorem IsNearest.unique {negative : Bool} {q : ℚ} {x y : Binary64} (hx : IsNearest negative q x)
    (hy : IsNearest negative q y) : x = y := by
  have hsign : x.negative = y.negative := hx.sign.trans hy.sign.symm
  have hmagnitude : x.magnitude = y.magnitude :=
    Nat.le_antisymm (Nat.le_of_not_lt (not_lt_of_isNearest hy hx))
      (Nat.le_of_not_lt (not_lt_of_isNearest hx hy))
  cases x
  cases y
  simp_all

/-! ## Correct rounding of decimals -/

theorem size_infinity : size infinity = 2 ^ 1024 := by
  have hmultiple : multiple infinity = 2 ^ (1024 + 1074) := by decide +kernel
  have hstep : (2 : ℚ) ^ 1074 ≠ 0 := (pow_pos two_pos 1074).ne'
  rw [size, hmultiple, Nat.cast_pow, Nat.cast_ofNat, pow_add, mul_div_cancel_right₀ _ hstep]

private theorem size_zero : size 0 = 0 := by
  have hmultiple : multiple 0 = 0 := by decide
  rw [size, hmultiple, Nat.cast_zero, zero_div]

private theorem size_one : size 1 = 1 / 2 ^ 1074 := by
  have hmultiple : multiple 1 = 1 := by decide
  rw [size, hmultiple, Nat.cast_one]

private theorem two_mul_one_div_pow (n : Nat) : 2 * ((1 : ℚ) / 2 ^ (n + 1)) = 1 / 2 ^ n := by
  rw [pow_succ', ← div_div, mul_div_assoc']
  norm_num

/-- What does not come to more than half of the least positive number is rounded to zero. -/
theorem isNearest_zero (negative : Bool) {q : ℚ} (hq : 0 ≤ q) (hsmall : q ≤ 1 / 2 ^ 1075) :
    IsNearest negative q ⟨negative, 0, by decide⟩ := by
  have hdouble : 2 * q ≤ size 1 := by
    rw [size_one, ← two_mul_one_div_pow]
    exact mul_le_mul_of_nonneg_left hsmall two_pos.le
  have hleast (m : Nat) (hm : m ≠ 0) : 2 * q ≤ size m := by
    refine hdouble.trans (le_of_not_gt fun hlt => ?_)
    have := size_lt_size.mp hlt
    omega
  constructor
  · rfl
  · exact Nat.zero_le _
  · intro m _
    rw [size_zero, sub_zero, abs_of_nonneg hq]
    by_cases hm : m = 0
    · rw [hm, size_zero, sub_zero, abs_of_nonneg hq]
    · have := hleast m hm
      rw [abs_sub_comm, abs_of_nonneg (by linarith)]
      linarith
  · intros
    rfl

theorem isNearest_infinity (negative : Bool) {q : ℚ} (hq : size infinity ≤ q) :
    IsNearest negative q ⟨negative, infinity, by decide⟩ := by
  have hle (m : Nat) (hm : m ≤ infinity) : size m ≤ size infinity :=
    le_of_not_gt fun hlt => absurd (size_lt_size.mp hlt) (Nat.not_lt.mpr hm)
  have heven : infinity % 2 = 0 := by decide
  constructor
  · rfl
  · exact Nat.le_refl _
  · intro m hm
    have := hle m hm
    rw [abs_of_nonneg (by linarith), abs_of_nonneg (by linarith)]
    linarith
  · exact fun _ _ _ _ => heven

private theorem div_pow_ten_le {digits cut n p : Nat} (hcut : 2 ^ (p + 1) ≤ 10 ^ cut)
    (h : digits.log2 + cut ≤ n) : (digits : ℚ) / 10 ^ n ≤ 1 / 2 ^ p := by
  have hnat : digits * 2 ^ p ≤ 10 ^ n :=
    calc digits * 2 ^ p ≤ 2 ^ (digits.log2 + 1) * 2 ^ p :=
          Nat.mul_le_mul_right _ (Nat.le_of_lt Nat.lt_log2_self)
      _ = 2 ^ digits.log2 * 2 ^ (p + 1) := by rw [Nat.pow_succ, Nat.mul_assoc, ← Nat.pow_succ']
      _ ≤ 10 ^ digits.log2 * 10 ^ cut :=
          Nat.mul_le_mul (Nat.pow_le_pow_left (by decide) _) hcut
      _ = 10 ^ (digits.log2 + cut) := (Nat.pow_add ..).symm
      _ ≤ 10 ^ n := Nat.pow_le_pow_right (by decide) h
  rw [div_le_div_iff₀ (pow_pos (by norm_num) n) (pow_pos two_pos p), one_mul]
  exact_mod_cast hnat

private theorem le_mul_pow_ten {digits cut n p : Nat} (hcut : 2 ^ p ≤ 10 ^ cut)
    (hdigits : digits ≠ 0) (h : cut ≤ n) : (2 : ℚ) ^ p ≤ digits * 10 ^ n := by
  have hnat : 2 ^ p ≤ digits * 10 ^ n :=
    calc 2 ^ p ≤ 10 ^ cut := hcut
      _ ≤ 10 ^ n := Nat.pow_le_pow_right (by decide) h
      _ ≤ digits * 10 ^ n := Nat.le_mul_of_pos_left _ (Nat.pos_of_ne_zero hdigits)
  exact_mod_cast hnat

private theorem cast_pow_ten (n : Nat) : ((Nat.pow 10 n : Nat) : ℚ) = 10 ^ n :=
  Nat.cast_pow 10 n

/-- Decimals are rounded correctly: a power that is cut back lies outside the range of the format,
and so does the one in its place. -/
theorem isNearest_ofDecimal (negative : Bool) (digits : Nat) (power : Int) :
    IsNearest negative (digits * 10 ^ power) (ofDecimal negative digits power) := by
  unfold ofDecimal
  split
  case isTrue hneg =>
    obtain ⟨n, rfl⟩ : ∃ n : Nat, power = -n := ⟨power.natAbs, by omega⟩
    have hquotient (m : Nat) :
        IsNearest negative (digits / 10 ^ m) (ofQuotient negative digits (Nat.pow 10 m)) := by
      rw [← cast_pow_ten]
      exact isNearest_ofQuotient negative digits (Nat.pow_pos (by decide))
    have htiny (m : Nat) (hm : digits.log2 + 400 ≤ m) :
        IsNearest negative (digits / 10 ^ m) ⟨negative, 0, by decide⟩ := by
      refine isNearest_zero negative (by positivity) (div_pow_ten_le ?_ hm)
      decide +kernel
    rw [Int.natAbs_neg, Int.natAbs_natCast, zpow_neg, zpow_natCast, ← div_eq_mul_inv]
    rcases Nat.le_total n (digits.log2 + 400) with hkept | hcut
    · rw [Nat.min_eq_left hkept]
      exact hquotient n
    · rw [Nat.min_eq_right hcut, (hquotient _).unique (htiny _ (Nat.le_refl _))]
      exact htiny n hcut
  case isFalse hpos =>
    obtain ⟨n, rfl⟩ : ∃ n : Nat, power = n := ⟨power.natAbs, by omega⟩
    have hproduct (m : Nat) :
        IsNearest negative (digits * 10 ^ m) (ofQuotient negative (digits * Nat.pow 10 m) 1) := by
      have hquotient := isNearest_ofQuotient negative (digits * Nat.pow 10 m) Nat.one_pos
      rwa [Nat.cast_mul, cast_pow_ten, Nat.cast_one, div_one] at hquotient
    have hhuge (m : Nat) (hdigits : digits ≠ 0) (hm : 400 ≤ m) :
        IsNearest negative (digits * 10 ^ m) ⟨negative, infinity, by decide⟩ := by
      refine isNearest_infinity negative (size_infinity.le.trans (le_mul_pow_ten ?_ hdigits hm))
      decide +kernel
    rw [Int.natAbs_natCast, zpow_natCast]
    rcases Nat.le_total n 400 with hkept | hcut
    · rw [Nat.min_eq_left hkept]
      exact hproduct n
    rw [Nat.min_eq_right hcut]
    by_cases hdigits : digits = 0
    · subst hdigits
      have hzero := hproduct 400
      rw [Nat.cast_zero, zero_mul] at hzero ⊢
      exact hzero
    · rw [(hproduct _).unique (hhuge _ hdigits (Nat.le_refl _))]
      exact hhuge n hdigits hcut

/-! ## Overflow -/

/-- Half a step above the greatest finite number. -/
def overflowThreshold : ℚ := 2 ^ 1024 - 2 ^ 970

private theorem size_pred_infinity : size (infinity - 1) = 2 ^ 1024 - 2 ^ 971 := by
  have hmultiple : multiple (infinity - 1) + 2 ^ (971 + 1074) = 2 ^ (1024 + 1074) := by
    decide +kernel
  have hcast := congrArg (Nat.cast (R := ℚ)) hmultiple
  have hstep : (2 : ℚ) ^ 1074 ≠ 0 := (pow_pos two_pos 1074).ne'
  rw [Nat.cast_add, Nat.cast_pow, Nat.cast_pow, Nat.cast_ofNat, pow_add, pow_add] at hcast
  rw [size, eq_sub_of_add_eq hcast, ← sub_mul, mul_div_cancel_right₀ _ hstep]

private theorem add_size_pred_infinity :
    size infinity + size (infinity - 1) = 2 * overflowThreshold := by
  rw [size_infinity, size_pred_infinity, overflowThreshold, pow_succ' 2 970]
  generalize (2 : ℚ) ^ 1024 = top
  generalize (2 : ℚ) ^ 970 = half
  linarith

/-- The nearest number is infinite from half a step above the greatest finite one on: there the tie
goes to infinity, as the greatest finite magnitude is odd. -/
theorem IsNearest.eq_infinity_iff {negative : Bool} {q : ℚ} {x : Binary64}
    (h : IsNearest negative q x) : x.magnitude = infinity ↔ overflowThreshold ≤ q := by
  have hodd : (infinity - 1) % 2 = 1 := by decide
  have hlt : size (infinity - 1) < size infinity := size_lt_size.mpr (by decide)
  have hmiddle := add_size_pred_infinity
  constructor
  · intro hx
    have hnear := h.nearest (infinity - 1) (Nat.sub_le _ _)
    rw [hx] at hnear
    have hbelow := neg_le_abs (q - size infinity)
    rcases abs_cases (q - size (infinity - 1)) with ⟨heq, -⟩ | ⟨heq, -⟩
    · linarith
    · linarith
  · intro hq
    by_contra hne
    have hle : x.magnitude ≤ infinity - 1 := by
      have := h.le_infinity
      omega
    have hsize : size x.magnitude ≤ size (infinity - 1) :=
      le_of_not_gt fun hgt => absurd (size_lt_size.mp hgt) (Nat.not_lt.mpr hle)
    have hnear := h.nearest infinity (Nat.le_refl _)
    have habove := le_abs_self (q - size x.magnitude)
    rcases abs_cases (q - size infinity) with ⟨heq, -⟩ | ⟨heq, -⟩
    · linarith
    · -- Only a tie between the greatest finite number and infinity is left.
      have hgreatest : size x.magnitude = size (infinity - 1) := by linarith
      have htie : |q - size x.magnitude| = |q - size infinity| := by linarith
      have hmagnitude : x.magnitude = infinity - 1 := by
        refine Nat.le_antisymm hle (Nat.le_of_not_lt fun hgt => ?_)
        exact absurd (size_lt_size.mpr hgt) hgreatest.not_lt
      have heven := h.even infinity (Nat.le_refl _) (Ne.symm hne) htie
      rw [hmagnitude, hodd] at heven
      cases heven

end Binary64

end FilterQuery
