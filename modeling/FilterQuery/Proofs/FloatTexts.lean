import FilterQuery.ShortestDecimals
import FilterQuery.Proofs.LiteralShapes
import FilterQuery.Proofs.RoundedDecimals

/-!
# Texts of floats

A finite floating point number is written with the digits of its shortest decimal, written out or
with an exponent, and a positive exponent with or without a sign.  Either way the text has the shape
of a float literal, and the literal stands for that decimal, or for the same number with more zeros;
so it is rounded back to the number.
-/

namespace FilterQuery

/-! ## The shape of a float text -/

def exponentSign (plusSign negative : Bool) : List Char :=
  if negative then ['-'] else if plusSign then ['+'] else []

def exponentText (plusSign : Bool) : Option (Bool × List Char) → List Char
  | none => []
  | some (negative, places) => 'e' :: (exponentSign plusSign negative ++ places)

/-- The texts of float literals whose digits are all of ASCII and none of them missing. -/
inductive IsFloatText : FloatLiteral → List Char → Prop where
  | point {literal : FloatLiteral} {plusSign : Bool} (ascii : literal.IsAscii)
      (whole : literal.whole ≠ []) (places : ∀ e ∈ literal.exponent, e.2 ≠ []) :
      IsFloatText literal (signText literal.negative ++ (literal.whole ++
        '.' :: (literal.fraction ++ exponentText plusSign literal.exponent)))
  | plain {literal : FloatLiteral} {plusSign : Bool} (ascii : literal.IsAscii)
      (whole : literal.whole ≠ []) (places : ∀ e ∈ literal.exponent, e.2 ≠ [])
      (fraction : literal.fraction = []) (exponent : literal.exponent ≠ none) :
      IsFloatText literal (signText literal.negative ++ (literal.whole ++
        exponentText plusSign literal.exponent))

private theorem isSign_exponentSign (plusSign negative : Bool) :
    IsSign negative (exponentSign plusSign negative) := by
  cases negative with
  | true => exact .minus
  | false =>
    cases plusSign with
    | true => exact .plus
    | false => exact .absent

private theorem isSign_signText (negative : Bool) : IsSign negative (signText negative) := by
  cases negative with
  | true => exact .minus
  | false => exact .absent

private theorem isNumeral_of_isDigit {digits : List Char} (hne : digits ≠ [])
    (h : ∀ c ∈ digits, c.isDigit = true) : IsNumeral digits :=
  ⟨hne, fun c hc => isDecimalDigit_of_isDigit (h c hc)⟩

private theorem isExponent_exponentText (plusSign : Bool) {e : Bool × List Char}
    (hne : e.2 ≠ []) (h : ∀ c ∈ e.2, c.isDigit = true) :
    IsExponent e (exponentText plusSign (some e)) := by
  obtain ⟨negative, places⟩ := e
  exact .marked (.inl rfl) (isSign_exponentSign plusSign negative) (isNumeral_of_isDigit hne h)

private theorem isOptionalExponent_exponentText (plusSign : Bool)
    {exponent : Option (Bool × List Char)} (hne : ∀ e ∈ exponent, e.2 ≠ [])
    (h : ∀ e ∈ exponent, ∀ c ∈ e.2, c.isDigit = true) :
    IsOptionalExponent exponent (exponentText plusSign exponent) := by
  cases exponent with
  | none => exact .absent
  | some e => exact .present (isExponent_exponentText plusSign (hne e rfl) (h e rfl))

private theorem isPlain_of_isDigit {c : Char} (h : c.isDigit = true) : isPlain c = true :=
  isPlain_of_continuesIdentifier (continuesIdentifier_of_isDigit h)

private theorem isPlain_exponentText (plusSign : Bool) {exponent : Option (Bool × List Char)}
    (h : ∀ e ∈ exponent, ∀ c ∈ e.2, c.isDigit = true) :
    ∀ c ∈ exponentText plusSign exponent, isPlain c = true := by
  have hsign (negative : Bool) : ∀ c ∈ exponentSign plusSign negative, isPlain c = true := by
    apply forall_mem_of_all
    cases plusSign <;> cases negative <;> decide
  intro c hc
  cases exponent with
  | none => cases hc
  | some e =>
    obtain ⟨negative, places⟩ := e
    rcases List.mem_cons.mp hc with rfl | hc
    · decide
    rcases List.mem_append.mp hc with hc | hc
    · exact hsign negative c hc
    · exact isPlain_of_isDigit (h _ rfl c hc)

namespace IsFloatText

variable {literal : FloatLiteral} {text : List Char} {plusSign : Bool}

theorem isAscii (h : IsFloatText literal text) : literal.IsAscii := by
  cases h with
  | point hascii => exact hascii
  | plain hascii => exact hascii

theorem isFloat (h : IsFloatText literal text) : IsFloat literal text := by
  cases h with
  | point hascii hne hplaces =>
    refine .signed (isSign_signText _) (.wholePoint (isNumeral_of_isDigit hne hascii.whole) ?_ ?_)
    · exact fun c hc => isDecimalDigit_of_isDigit (hascii.fraction c hc)
    · exact isOptionalExponent_exponentText _ hplaces hascii.exponent
  | plain hascii hne hplaces hfraction hexponent =>
    obtain ⟨negative, whole, fraction, exponent⟩ := literal
    obtain ⟨e, rfl⟩ := Option.ne_none_iff_exists'.mp hexponent
    obtain rfl : fraction = [] := hfraction
    refine .signed (isSign_signText _) (.scaled (isNumeral_of_isDigit hne hascii.whole) ?_)
    exact isExponent_exponentText _ (hplaces e rfl) (hascii.exponent e rfl)

theorem read? (h : IsFloatText literal text) : FloatLiteral.read? text = some literal :=
  read?_eq_some_iff.mpr h.isFloat

theorem classify (h : IsFloatText literal text) : classify text = .float :=
  classify_eq_float_iff.mpr ⟨literal, h.isFloat⟩

theorem isPlain (h : IsFloatText literal text) : ∀ c ∈ text, isPlain c = true := by
  have hsign : ∀ c ∈ signText literal.negative, FilterQuery.isPlain c = true :=
    fun c hc => isPlain_of_continuesIdentifier (continuesIdentifier_signText _ c hc)
  have hdigits : ∀ c ∈ literal.whole ++ literal.fraction, FilterQuery.isPlain c = true :=
    fun c hc => isPlain_of_isDigit (h.isAscii.mantissa c hc)
  obtain ⟨hwhole, hfraction⟩ := List.forall_mem_append.mp hdigits
  have hexponent (plusSign : Bool) := isPlain_exponentText plusSign h.isAscii.exponent
  cases h with
  | point =>
    refine List.forall_mem_append.mpr ⟨hsign, List.forall_mem_append.mpr ⟨hwhole, ?_⟩⟩
    refine List.forall_mem_cons.mpr ⟨by decide, ?_⟩
    exact List.forall_mem_append.mpr ⟨hfraction, hexponent _⟩
  | plain =>
    exact List.forall_mem_append.mpr ⟨hsign, List.forall_mem_append.mpr ⟨hwhole, hexponent _⟩⟩

theorem ne_nil (h : IsFloatText literal text) : text ≠ [] := by
  cases h with
  | point => simp
  | plain _ hwhole => simp [hwhole]

theorem isBareRun (h : IsFloatText literal text) : IsBareRun text :=
  isBareRun_of_isPlain h.ne_nil h.isPlain

end IsFloatText

/-! ## The number of a float text -/

namespace FloatLiteral

theorem rounded_eq {literal : FloatLiteral} {x : Binary64} (hsign : literal.negative = x.negative)
    (h : (⟨literal.mantissa, literal.scale - literal.fraction.length⟩ : Decimal).magnitude =
      x.magnitude) : literal.rounded = x := by
  obtain ⟨negative, magnitude, hlt⟩ := x
  dsimp only at hsign h
  subst hsign h
  unfold rounded Decimal.magnitude Binary64.ofDecimal
  dsimp only
  split <;> rfl

end FloatLiteral

/-- Zeros between the digits and the point, and one behind it, do not change a number. -/
theorem magnitude_padded (digits : Nat) {power : Nat} (h : power ≤ 400) :
    (⟨digits * Nat.pow 10 (power + 1), -1⟩ : Decimal).magnitude =
      (⟨digits, power⟩ : Decimal).magnitude := by
  have hcut : min 1 ((digits * Nat.pow 10 (power + 1)).log2 + 400) = 1 := by omega
  have hcut' : min power 400 = power := Nat.min_eq_left h
  have hpower : digits * Nat.pow 10 (power + 1) = digits * Nat.pow 10 power * 10 :=
    (Nat.mul_assoc ..).symm
  have hpadded : (⟨digits * Nat.pow 10 (power + 1), -1⟩ : Decimal).magnitude =
      Binary64.nearestMagnitude (digits * Nat.pow 10 (power + 1))
        (Nat.pow 10 (min 1 ((digits * Nat.pow 10 (power + 1)).log2 + 400))) := rfl
  have hplain : (⟨digits, power⟩ : Decimal).magnitude =
      Binary64.nearestMagnitude (digits * Nat.pow 10 (min power 400)) 1 := by
    unfold Decimal.magnitude Binary64.ofDecimal
    rw [if_neg (by simp)]
    rfl
  rw [hpadded, hplain, hcut, hcut', hpower]
  exact Binary64.nearestMagnitude_mul_right _ 1 (by decide)

/-! ## Layouts -/

private theorem isDigit_replicate (n : Nat) : ∀ c ∈ List.replicate n '0', c.isDigit = true := by
  intro c hc
  rw [List.eq_of_mem_replicate hc]
  rfl

/-- A text that stands for a decimal, behind any sign. -/
def SpellsDecimal (d : Decimal) (text : List Char) : Prop :=
  ∀ negative, ∃ literal : FloatLiteral, IsFloatText literal (signText negative ++ text) ∧
    literal.negative = negative ∧
    (⟨literal.mantissa, literal.scale - literal.fraction.length⟩ : Decimal).magnitude = d.magnitude

/-- The digits of a decimal, and the power of ten at which the first of them stands. -/
private structure IsDigits (d : Decimal) (digits : List Char) (exponent : Int) : Prop where
  isDigit : ∀ c ∈ digits, c.isDigit = true
  ne_nil : digits ≠ []
  value : Nat.ofDigitChars 10 digits 0 = d.digits
  exponent_eq : exponent = d.power + digits.length - 1

private theorem isDigits_toDigits (d : Decimal) :
    IsDigits d (Nat.toDigits 10 d.digits) (d.power + (Nat.toDigits 10 d.digits).length - 1) :=
  ⟨isDigit_toDigits _, Nat.toDigits_ne_nil, Nat.ofDigitChars_ten_toDigits, rfl⟩

namespace IsDigits

variable {d : Decimal} {digits : List Char} {exponent : Int}

/-- A number below one has as many zeros behind the point as its exponent asks for. -/
theorem below_one (h : IsDigits d digits exponent) (hneg : exponent < 0) :
    SpellsDecimal d (DecimalLayout.writtenOut digits exponent) := by
  intro negative
  let zeros := List.replicate (exponent.natAbs - 1) '0'
  let literal : FloatLiteral := ⟨negative, ['0'], zeros ++ digits, none⟩
  have hfraction : ∀ c ∈ zeros ++ digits, c.isDigit = true :=
    List.forall_mem_append.mpr ⟨isDigit_replicate _, h.isDigit⟩
  have hascii : literal.IsAscii :=
    ⟨List.forall_mem_append.mpr ⟨isDigit_replicate 1, hfraction⟩, by simp [literal]⟩
  have htext : DecimalLayout.writtenOut digits exponent =
      literal.whole ++ '.' :: (literal.fraction ++ exponentText false literal.exponent) := by
    simp [DecimalLayout.writtenOut, hneg, literal, zeros, exponentText]
  have hmantissa : literal.mantissa = d.digits := by
    have hzero : Nat.ofDigitChars 10 ['0'] 0 = 0 := rfl
    rw [FloatLiteral.mantissa, Nat.ofDigitChars_append, hzero, Nat.ofDigitChars_append,
      Nat.ofDigitChars_replicate_zero, Nat.mul_zero, h.value]
  have hpower : literal.scale - literal.fraction.length = d.power := by
    have hexponent := h.exponent_eq
    have hlength := List.length_pos_iff.mpr h.ne_nil
    simp only [FloatLiteral.scale, literal, zeros, List.length_append, List.length_replicate]
    omega
  refine ⟨literal, ?_, rfl, by rw [hmantissa, hpower]⟩
  rw [htext]
  exact .point hascii (by simp [literal]) (by simp [literal])

/-- Digits that end before the point are followed by zeros, and by one more behind the point. -/
theorem padded (h : IsDigits d digits exponent) (hlt : exponent < 16)
    (hwhole : digits.length ≤ exponent.natAbs + 1) (hpos : 0 ≤ exponent) :
    SpellsDecimal d (DecimalLayout.writtenOut digits exponent) := by
  intro negative
  let zeros := List.replicate (exponent.natAbs + 1 - digits.length) '0'
  let literal : FloatLiteral := ⟨negative, digits ++ zeros, ['0'], none⟩
  have hfront : ∀ c ∈ digits ++ zeros, c.isDigit = true :=
    List.forall_mem_append.mpr ⟨h.isDigit, isDigit_replicate _⟩
  have hascii : literal.IsAscii :=
    ⟨List.forall_mem_append.mpr ⟨hfront, isDigit_replicate 1⟩, by simp [literal]⟩
  have htext : DecimalLayout.writtenOut digits exponent =
      literal.whole ++ '.' :: (literal.fraction ++ exponentText false literal.exponent) := by
    have htake : (digits ++ zeros).take (exponent.natAbs + 1) = digits ++ zeros := by
      apply List.take_of_length_le
      simp only [zeros, List.length_append, List.length_replicate]
      omega
    have hdrop : digits.drop (exponent.natAbs + 1) = [] := List.drop_of_length_le hwhole
    simp only [DecimalLayout.writtenOut, if_neg (Int.not_lt.mpr hpos), hdrop, List.isEmpty_nil,
      if_true, exponentText, List.append_nil, literal]
    rw [htake]
  have hmantissa : literal.mantissa =
      d.digits * Nat.pow 10 (exponent.natAbs + 1 - digits.length + 1) := by
    have hlast (n : Nat) : Nat.ofDigitChars 10 ['0'] n = n * 10 := by
      simp [Nat.ofDigitChars_cons, Nat.mul_comm]
    rw [FloatLiteral.mantissa, Nat.ofDigitChars_append, Nat.ofDigitChars_append, h.value,
      Nat.ofDigitChars_replicate_zero, hlast, Nat.mul_comm _ d.digits, Nat.mul_assoc]
    rfl
  have hpower : literal.scale - literal.fraction.length = -1 := rfl
  have hexponent := h.exponent_eq
  have hlength := List.length_pos_iff.mpr h.ne_nil
  have hplaces : ((exponent.natAbs + 1 - digits.length : Nat) : Int) = d.power := by omega
  refine ⟨literal, ?_, rfl, ?_⟩
  · rw [htext]
    exact .point hascii (by simp [literal, h.ne_nil]) (by simp [literal])
  · rw [hmantissa, hpower, magnitude_padded _ (by omega), hplaces]

/-- Otherwise some digits stand behind the point. -/
theorem divided (h : IsDigits d digits exponent) (hwhole : ¬ digits.length ≤ exponent.natAbs + 1)
    (hpos : 0 ≤ exponent) : SpellsDecimal d (DecimalLayout.writtenOut digits exponent) := by
  intro negative
  let literal : FloatLiteral := ⟨negative, digits.take (exponent.natAbs + 1),
    digits.drop (exponent.natAbs + 1), none⟩
  have hascii : literal.IsAscii := by
    refine ⟨?_, by simp [literal]⟩
    rw [List.take_append_drop]
    exact h.isDigit
  have htext : DecimalLayout.writtenOut digits exponent =
      literal.whole ++ '.' :: (literal.fraction ++ exponentText false literal.exponent) := by
    have hzeros : exponent.natAbs + 1 - digits.length = 0 := by omega
    have hdrop : (digits.drop (exponent.natAbs + 1)).isEmpty = false := by
      rw [List.isEmpty_eq_false_iff, ne_eq, List.drop_eq_nil_iff]
      exact hwhole
    simp [DecimalLayout.writtenOut, Int.not_lt.mpr hpos, hzeros, hdrop, exponentText, literal]
  have hmantissa : literal.mantissa = d.digits := by
    rw [FloatLiteral.mantissa, List.take_append_drop, h.value]
  have hpower : literal.scale - literal.fraction.length = d.power := by
    have hexponent := h.exponent_eq
    simp only [FloatLiteral.scale, literal, List.length_drop]
    omega
  refine ⟨literal, ?_, rfl, by rw [hmantissa, hpower]⟩
  rw [htext]
  exact .point hascii (by simp [literal, h.ne_nil]) (by simp [literal])

theorem withExponent (h : IsDigits d digits exponent) (plusSign : Bool) :
    SpellsDecimal d (DecimalLayout.withExponent plusSign digits exponent) := by
  intro negative
  let e : Bool × List Char := (decide (exponent < 0), Nat.toDigits 10 exponent.natAbs)
  let literal : FloatLiteral := ⟨negative, digits.take 1, digits.drop 1, some e⟩
  have hascii : literal.IsAscii := by
    refine ⟨?_, ?_⟩
    · rw [List.take_append_drop]
      exact h.isDigit
    · intro e' he
      cases he
      exact isDigit_toDigits _
  have hplaces : ∀ e' ∈ literal.exponent, e'.2 ≠ [] := by
    intro e' he
    cases he
    exact Nat.toDigits_ne_nil
  have hwhole : literal.whole ≠ [] := by simp [literal, h.ne_nil]
  have hmantissa : literal.mantissa = d.digits := by
    rw [FloatLiteral.mantissa, List.take_append_drop, h.value]
  have hscale : literal.scale = exponent := by
    have hnat := Nat.ofDigitChars_ten_toDigits (n := exponent.natAbs)
    by_cases hneg : exponent < 0
    · simp only [FloatLiteral.scale, literal, e, hneg, decide_true, hnat]
      omega
    · simp only [FloatLiteral.scale, literal, e, hneg, decide_false, hnat]
      omega
  have hpower : literal.scale - literal.fraction.length = d.power := by
    have hexponent := h.exponent_eq
    have hlength := List.length_pos_iff.mpr h.ne_nil
    rw [hscale]
    simp only [literal, List.length_drop]
    omega
  have hmark : exponentText plusSign literal.exponent =
      'e' :: ((if exponent < 0 then ['-'] else if plusSign then ['+'] else []) ++
        Nat.toDigits 10 exponent.natAbs) := by
    simp [exponentText, exponentSign, literal, e]
  refine ⟨literal, ?_, rfl, by rw [hmantissa, hpower]⟩
  by_cases hfraction : digits.drop 1 = []
  · have htext : DecimalLayout.withExponent plusSign digits exponent =
        literal.whole ++ exponentText plusSign literal.exponent := by
      rw [hmark]
      simp [DecimalLayout.withExponent, hfraction, literal]
    rw [htext]
    exact .plain hascii hwhole hplaces hfraction (by simp [literal])
  · have htext : DecimalLayout.withExponent plusSign digits exponent =
        literal.whole ++ '.' :: (literal.fraction ++ exponentText plusSign literal.exponent) := by
      have htail : digits.tail ≠ [] := by simpa using hfraction
      rw [hmark]
      simp [DecimalLayout.withExponent, htail, literal]
    rw [htext]
    exact .point hascii hwhole hplaces

theorem writtenOut (h : IsDigits d digits exponent) (hlt : exponent < 16) :
    SpellsDecimal d (DecimalLayout.writtenOut digits exponent) := by
  by_cases hneg : exponent < 0
  · exact h.below_one hneg
  · by_cases hwhole : digits.length ≤ exponent.natAbs + 1
    · exact h.padded hlt hwhole (Int.not_lt.mp hneg)
    · exact h.divided hwhole (Int.not_lt.mp hneg)

end IsDigits

section Layouts

variable {layout : DecimalLayout} (hbelow : layout.writtenOutBelow ≤ 16)
include hbelow

private theorem spellsDecimal_magnitudeText {magnitude : Nat} (h : magnitude < Binary64.infinity) :
    ∃ d : Decimal, SpellsDecimal d (layout.magnitudeText magnitude) ∧
      d.magnitude = magnitude := by
  unfold DecimalLayout.magnitudeText
  by_cases hzero : magnitude = 0
  · rw [if_pos hzero, hzero]
    refine ⟨⟨0, -1⟩, fun negative => ?_, by decide⟩
    have hascii : FloatLiteral.IsAscii ⟨negative, ['0'], ['0'], none⟩ :=
      ⟨isDigit_replicate 2, by simp⟩
    have htext : IsFloatText ⟨negative, ['0'], ['0'], none⟩
        (signText negative ++ (['0'] ++ '.' :: (['0'] ++ exponentText false none))) :=
      .point hascii (by simp) (by simp)
    exact ⟨⟨negative, ['0'], ['0'], none⟩, htext, rfl, rfl⟩
  · rw [if_neg hzero]
    refine ⟨Decimal.shortest layout.tie magnitude, ?_,
      Decimal.magnitude_shortest _ h (Nat.pos_of_ne_zero hzero)⟩
    have hdigits := isDigits_toDigits (Decimal.shortest layout.tie magnitude)
    dsimp only
    split
    case isTrue hrange => exact hdigits.writtenOut (Int.lt_of_lt_of_le hrange.2 hbelow)
    case isFalse => exact hdigits.withExponent layout.plusSign

/-- The text of a finite number is that of a literal which is rounded to the number. -/
theorem DecimalLayout.exists_isFloatText {x : Binary64} (h : x.isFinite = true) :
    ∃ literal, IsFloatText literal (layout.finiteText x).toList ∧ literal.rounded = x := by
  obtain ⟨d, hspells, hmagnitude⟩ := spellsDecimal_magnitudeText hbelow (of_decide_eq_true h)
  obtain ⟨literal, htext, hsign, hliteral⟩ := hspells x.negative
  refine ⟨literal, ?_, literal.rounded_eq hsign (hliteral.trans hmagnitude)⟩
  rw [DecimalLayout.finiteText, String.toList_ofList]
  exact htext

end Layouts

theorem Binary64.exists_isFloatText {x : Binary64} (h : x.isFinite = true) :
    ∃ literal, IsFloatText literal x.text.toList ∧ literal.rounded = x := by
  rw [Binary64.text, if_pos h]
  exact DecimalLayout.exists_isFloatText (by decide) h

section Floats

variable {x : Binary64}

theorem classify_float (h : x.isFinite = true) : classify x.text.toList = .float := by
  obtain ⟨literal, htext, -⟩ := Binary64.exists_isFloatText h
  exact htext.classify

theorem isBareRun_float (h : x.isFinite = true) : IsBareRun x.text.toList := by
  obtain ⟨literal, htext, -⟩ := Binary64.exists_isFloatText h
  exact htext.isBareRun

theorem literalValue_float (h : x.isFinite = true) : LiteralValue x.text .float (.float x) := by
  obtain ⟨literal, htext, rfl⟩ := Binary64.exists_isFloatText h
  exact .float literal htext.read? htext.isAscii h

end Floats

end FilterQuery
