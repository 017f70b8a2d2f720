import FilterQuery.ShortestDecimals

/-!
# Rounded decimals

Rounding depends on the value of a quotient alone, and the value of a finite magnitude is rounded
to that magnitude.  So the shortest decimal of a magnitude, and the one with all its digits, are
both read back as the magnitude.
-/

namespace FilterQuery

theorem roundHalfEven_mul_right (a b : Nat) {k : Nat} (hk : 0 < k) :
    roundHalfEven (a * k) (b * k) = roundHalfEven a b := by
  have hlt : b * k < 2 * (a % b * k) ↔ b < 2 * (a % b) := by
    rw [← Nat.mul_assoc]
    exact Nat.mul_lt_mul_right hk
  have heq : 2 * (a % b * k) = b * k ↔ 2 * (a % b) = b := by
    rw [← Nat.mul_assoc]
    exact Nat.mul_left_inj (Nat.ne_of_gt hk)
  unfold roundHalfEven
  rw [Nat.mul_div_mul_right a b hk, Nat.mul_mod_mul_right]
  simp only [hlt, heq]

theorem roundHalfEven_mul_self (n : Nat) {k : Nat} (hk : 0 < k) : roundHalfEven (n * k) k = n := by
  have h := roundHalfEven_mul_right n 1 hk
  rw [Nat.one_mul] at h
  rw [h]
  simp [roundHalfEven, Nat.mod_one]

private theorem mul_shiftLeft (a k n : Nat) : (a * k) <<< n = (a <<< n) * k := by
  rw [Nat.shiftLeft_eq, Nat.shiftLeft_eq, Nat.mul_right_comm]

private theorem eq_mul_one_shiftLeft (a n : Nat) : a <<< n = a * (1 <<< n) := by
  rw [Nat.shiftLeft_eq, Nat.shiftLeft_eq, Nat.one_mul]

private theorem log2_shiftLeft {n : Nat} (hn : n ≠ 0) (k : Nat) :
    (n <<< k).log2 = n.log2 + k := by
  induction k with
  | zero => rfl
  | succ k ih =>
    have hk : n <<< k ≠ 0 := by rwa [ne_eq, Nat.shiftLeft_eq_zero_iff]
    rw [Nat.shiftLeft_succ, Nat.log2_two_mul hk, ih, Nat.add_assoc]

namespace Binary64

/-- Rounding does not depend on how a quotient is written. -/
theorem nearestMagnitude_mul_right (a b : Nat) {k : Nat} (hk : 0 < k) :
    nearestMagnitude (a * k) (b * k) = nearestMagnitude a b := by
  unfold nearestMagnitude
  dsimp only
  rw [mul_shiftLeft a k, Nat.mul_div_mul_right _ _ hk, mul_shiftLeft b k,
    roundHalfEven_mul_right _ _ hk]

theorem multiple_pos {magnitude : Nat} (h : 0 < magnitude) : 0 < multiple magnitude := by
  unfold multiple
  dsimp only
  split
  case isTrue hzero =>
    have hsmall : magnitude < hiddenBit := Nat.lt_of_div_eq_zero (by decide) hzero
    rwa [Nat.mod_eq_of_lt hsmall]
  case isFalse =>
    refine Nat.shiftLeft_pos_iff.mpr (Nat.add_pos_left ?_ _)
    decide

private theorem log2_sub_of_lt {n : Nat} (h : n < hiddenBit) : n.log2 - 52 = 0 := by
  by_cases hn : n = 0
  · rw [hn, Nat.log2_zero]
  · have hlog : n.log2 < 52 := (Nat.log2_lt hn).mpr h
    omega

private theorem log2_of_normal {fraction : Nat} (h : fraction < hiddenBit) :
    (hiddenBit + fraction).log2 = 52 := by
  have hne : hiddenBit + fraction ≠ 0 := by
    rw [hiddenBit] at h ⊢
    omega
  rw [Nat.log2_eq_iff hne]
  rw [hiddenBit] at h ⊢
  omega

/-- The value of a finite magnitude, in steps of the least positive one, is rounded to it. -/
theorem nearestMagnitude_multiple {magnitude : Nat} (h : magnitude < infinity) :
    nearestMagnitude (multiple magnitude) (1 <<< 1074) = magnitude := by
  have hone : 0 < 1 <<< 1074 := by decide
  have hsteps (n : Nat) : n <<< 1074 / 1 <<< 1074 = n := by
    rw [eq_mul_one_shiftLeft n]
    exact Nat.mul_div_cancel n hone
  have hround (n k : Nat) :
      roundHalfEven ((n <<< k) <<< 1074) ((1 <<< 1074) <<< k) = n := by
    rw [eq_mul_one_shiftLeft _ 1074, ← mul_shiftLeft, eq_mul_one_shiftLeft _ k, Nat.mul_assoc,
      eq_mul_one_shiftLeft (1 <<< 1074) k]
    exact roundHalfEven_mul_self n (Nat.mul_pos hone (Nat.shiftLeft_pos_iff.mpr Nat.one_pos))
  have hle : magnitude ≤ infinity := Nat.le_of_lt h
  unfold nearestMagnitude multiple
  dsimp only
  split
  case isTrue hzero =>
    have hsmall : magnitude < hiddenBit := Nat.lt_of_div_eq_zero (by decide) hzero
    rw [Nat.mod_eq_of_lt hsmall, hsteps, log2_sub_of_lt hsmall, Nat.zero_mul, Nat.zero_add]
    have hself := hround magnitude 0
    rw [Nat.shiftLeft_zero] at hself
    rw [hself]
    exact Nat.min_eq_right hle
  case isFalse hpos =>
    have hfraction : magnitude % hiddenBit < hiddenBit := Nat.mod_lt _ (by decide)
    have hne : hiddenBit + magnitude % hiddenBit ≠ 0 := by
      rw [hiddenBit]
      omega
    have hshift : ((hiddenBit + magnitude % hiddenBit) <<< (magnitude / hiddenBit - 1)).log2 - 52 =
        magnitude / hiddenBit - 1 := by
      rw [log2_shiftLeft hne, log2_of_normal hfraction]
      omega
    have hsum : (magnitude / hiddenBit - 1) * hiddenBit +
        (hiddenBit + magnitude % hiddenBit) = magnitude := by
      have hdiv := Nat.div_add_mod magnitude hiddenBit
      rw [hiddenBit] at *
      omega
    rw [hsteps, hshift, hround, hsum]
    exact Nat.min_eq_right hle

end Binary64

namespace Decimal

open Binary64

private theorem log2_le_log2_mul {m n : Nat} (hm : 0 < m) (hn : 0 < n) :
    n.log2 ≤ (m * n).log2 := by
  rw [Nat.le_log2 (Nat.ne_of_gt (Nat.mul_pos hm hn))]
  exact Nat.le_trans (Nat.log2_self_le (Nat.ne_of_gt hn)) (Nat.le_mul_of_pos_left n hm)

theorem magnitude_exact {magnitude : Nat} (h : magnitude < infinity) (hpos : 0 < magnitude) :
    (exact magnitude).magnitude = magnitude := by
  have hmagnitude : (exact magnitude).magnitude =
      nearestMagnitude (multiple magnitude * Nat.pow 5 1074)
        (Nat.pow 10 (min 1074 ((multiple magnitude * Nat.pow 5 1074).log2 + 400))) := rfl
  have hfive : 0 < Nat.pow 5 1074 := by decide +kernel
  have hten : Nat.pow 10 1074 = (1 <<< 1074) * Nat.pow 5 1074 := by decide +kernel
  have hbig : 674 ≤ (Nat.pow 5 1074).log2 := by decide +kernel
  generalize Nat.pow 5 1074 = five at hmagnitude hfive hten hbig
  have hlog := log2_le_log2_mul (multiple_pos hpos) hfive
  have hcut : min 1074 ((multiple magnitude * five).log2 + 400) = 1074 := by omega
  rw [hmagnitude, hcut, hten, nearestMagnitude_mul_right _ _ hfive, nearestMagnitude_multiple h]

theorem magnitude_of_onGrid? {tie : TieRule} {magnitude : Nat} {power : Int} {d : Decimal}
    (h : onGrid? tie magnitude power = some d) : d.magnitude = magnitude := by
  unfold onGrid? at h
  dsimp only at h
  split at h
  case h_1 hbelow habove =>
    split at h
    · cases h
      exact eq_of_beq hbelow
    · cases h
      exact eq_of_beq habove
  case h_2 hbelow _ =>
    cases h
    exact eq_of_beq hbelow
  case h_3 _ habove =>
    cases h
    exact eq_of_beq habove
  case h_4 => cases h

/-- The shortest decimal of a magnitude is read back as it. -/
theorem magnitude_shortest (tie : TieRule) {magnitude : Nat} (h : magnitude < infinity)
    (hpos : 0 < magnitude) : (shortest tie magnitude).magnitude = magnitude := by
  unfold shortest
  dsimp only
  generalize hfound : List.findSome? _ _ = found
  cases found with
  | none => exact magnitude_exact h hpos
  | some d =>
    obtain ⟨n, -, hgrid⟩ := List.exists_of_findSome?_eq_some hfound
    exact magnitude_of_onGrid? hgrid

end Decimal

end FilterQuery
