import FilterQuery.Proofs.BareTexts

/-!
# Shapes of literals

The grammars of integers, floats and words, said without the recognizers.  A number has an optional
sign; an integer is made of digits, and a float has digits with a decimal point, an exponent or
both.  A word begins with a letter or an underscore.  Each recognizer accepts its grammar and
nothing else, and no text has two of the shapes, so the class of a text does not depend on the order
in which the shapes are tried.
-/

namespace FilterQuery

/-! ## The grammars -/

/-- The signs that may stand in front of a number, and whether they make it negative. -/
inductive IsSign : Bool → List Char → Prop where
  | absent : IsSign false []
  | plus : IsSign false ['+']
  | minus : IsSign true ['-']

/-- One or more decimal digits of any script. -/
structure IsNumeral (text : List Char) : Prop where
  ne_nil : text ≠ []
  decimal : ∀ c ∈ text, isDecimalDigit c = true

/-- The texts of integers: an optional sign and digits. -/
inductive IsInteger : Bool → List Char → List Char → Prop where
  | signed {negative : Bool} {sign digits : List Char} (isSign : IsSign negative sign)
      (isNumeral : IsNumeral digits) : IsInteger negative digits (sign ++ digits)

/-- The texts of exponents: a mark, an optional sign and digits. -/
inductive IsExponent : Bool × List Char → List Char → Prop where
  | marked {mark : Char} {negative : Bool} {sign digits : List Char}
      (isMark : mark = 'e' ∨ mark = 'E') (isSign : IsSign negative sign)
      (isNumeral : IsNumeral digits) : IsExponent (negative, digits) (mark :: (sign ++ digits))

inductive IsOptionalExponent : Option (Bool × List Char) → List Char → Prop where
  | absent : IsOptionalExponent none []
  | present {exponent : Bool × List Char} {text : List Char} (h : IsExponent exponent text) :
      IsOptionalExponent (some exponent) text

/-- The texts of floats behind their sign: digits, a point and any digits, or a point and digits,
both with an optional exponent, or digits with an exponent. -/
inductive IsUnsignedFloat :
    List Char → List Char → Option (Bool × List Char) → List Char → Prop where
  | wholePoint {whole fraction tail : List Char} {exponent : Option (Bool × List Char)}
      (isNumeral : IsNumeral whole) (decimal : ∀ c ∈ fraction, isDecimalDigit c = true)
      (isExponent : IsOptionalExponent exponent tail) :
      IsUnsignedFloat whole fraction exponent (whole ++ '.' :: (fraction ++ tail))
  | point {fraction tail : List Char} {exponent : Option (Bool × List Char)}
      (isNumeral : IsNumeral fraction) (isExponent : IsOptionalExponent exponent tail) :
      IsUnsignedFloat [] fraction exponent ('.' :: (fraction ++ tail))
  | scaled {whole tail : List Char} {exponent : Bool × List Char}
      (isNumeral : IsNumeral whole) (isExponent : IsExponent exponent tail) :
      IsUnsignedFloat whole [] (some exponent) (whole ++ tail)

/-- The texts of floats and their parts: an optional sign and an unsigned float. -/
inductive IsFloat : FloatLiteral → List Char → Prop where
  | signed {negative : Bool} {sign whole fraction text : List Char}
      {exponent : Option (Bool × List Char)} (isSign : IsSign negative sign)
      (h : IsUnsignedFloat whole fraction exponent text) :
      IsFloat ⟨negative, whole, fraction, exponent⟩ (sign ++ text)

/-- The texts of words: a letter or an underscore, and then letters, digits, underscores, points
and hyphens. -/
inductive IsWord : List Char → Prop where
  | begun {c : Char} {rest : List Char} (head : isLetter c = true ∨ c = '_')
      (tail : ∀ d ∈ rest,
        isLetter d = true ∨ isDecimalDigit d = true ∨ d = '_' ∨ d = '.' ∨ d = '-') :
      IsWord (c :: rest)

/-- The shapes that a bare run of text is tried for. -/
inductive LiteralShape where
  | integer
  | float
  | word
  deriving DecidableEq

namespace LiteralShape

/-- Whether a text has a shape, by the grammars. -/
def Fits (text : List Char) : LiteralShape → Prop
  | integer => ∃ negative digits, IsInteger negative digits text
  | float => ∃ literal, IsFloat literal text
  | word => IsWord text

def accepts (text : List Char) : LiteralShape → Bool
  | integer => isIntegerShaped text
  | float => isFloatShaped text
  | word => isIdentifierShaped text

def classOf (text : List Char) : LiteralShape → LiteralClass
  | integer => .integer
  | float => .float
  | word => classifyWord text

end LiteralShape

/-- The class of a text by the first of some shapes that it has. -/
def classifyInOrder (order : List LiteralShape) (text : List Char) : LiteralClass :=
  match order.find? (·.accepts text) with
  | some shape => shape.classOf text
  | none => .text

/-! ## Digits and signs -/

theorem isDigitRun_iff {text : List Char} : isDigitRun text = true ↔ IsNumeral text := by
  rw [isDigitRun, Bool.and_eq_true, List.all_eq_true]
  exact ⟨fun h => ⟨by simpa using h.1, h.2⟩, fun h => ⟨by simpa using h.ne_nil, h.decimal⟩⟩

theorem isNumeral_takeWhile {text : List Char}
    (h : (text.takeWhile isDecimalDigit).isEmpty = false) :
    IsNumeral (text.takeWhile isDecimalDigit) :=
  ⟨by simpa using h, forall_mem_takeWhile isDecimalDigit text⟩

theorem IsNumeral.isEmpty {text : List Char} (h : IsNumeral text) : text.isEmpty = false := by
  simpa using h.ne_nil

theorem exists_isSign_splitSign (text : List Char) :
    ∃ sign, IsSign (splitSign text).1 sign ∧ text = sign ++ (splitSign text).2 := by
  unfold splitSign
  split
  · exact ⟨['+'], .plus, rfl⟩
  · exact ⟨['-'], .minus, rfl⟩
  · exact ⟨[], .absent, rfl⟩

theorem IsSign.splitSign {negative : Bool} {sign text : List Char} (h : IsSign negative sign)
    (htext : ∀ c ∈ text.head?, c ≠ '+' ∧ c ≠ '-') : splitSign (sign ++ text) = (negative, text) := by
  cases h with
  | plus => rfl
  | minus => rfl
  | absent =>
    rw [List.nil_append]
    unfold FilterQuery.splitSign
    split
    · exact absurd rfl (htext '+' rfl).1
    · exact absurd rfl (htext '-' rfl).2
    · rfl

theorem isDecimalDigit_signs {c : Char} (h : isDecimalDigit c = true) : c ≠ '+' ∧ c ≠ '-' := by
  constructor <;> rintro rfl <;> exact absurd h (by decide)

theorem IsNumeral.head?_append {digits : List Char} (h : IsNumeral digits) (tail : List Char) :
    ∃ c, (digits ++ tail).head? = some c ∧ isDecimalDigit c = true := by
  obtain ⟨c, rest, rfl⟩ := List.exists_cons_of_ne_nil h.ne_nil
  exact ⟨c, rfl, h.decimal c List.mem_cons_self⟩

theorem IsNumeral.head?_signs {digits : List Char} (h : IsNumeral digits) (tail : List Char) :
    ∀ c ∈ (digits ++ tail).head?, c ≠ '+' ∧ c ≠ '-' := by
  obtain ⟨d, hhead, hd⟩ := h.head?_append tail
  rw [hhead]
  rintro c ⟨⟩
  exact isDecimalDigit_signs hd

theorem IsSign.splitSign_numeral {negative : Bool} {sign digits : List Char}
    (h : IsSign negative sign) (hdigits : IsNumeral digits) :
    FilterQuery.splitSign (sign ++ digits) = (negative, digits) := by
  have hhead := hdigits.head?_signs []
  rw [List.append_nil] at hhead
  exact h.splitSign hhead

/-! ## Integers -/

theorem IsInteger.splitSign {negative : Bool} {digits text : List Char}
    (h : IsInteger negative digits text) : splitSign text = (negative, digits) := by
  cases h with
  | signed hsign hdigits => exact hsign.splitSign_numeral hdigits

theorem IsInteger.isNumeral {negative : Bool} {digits text : List Char}
    (h : IsInteger negative digits text) : IsNumeral digits := by
  cases h
  assumption

theorem isIntegerShaped_iff {text : List Char} :
    isIntegerShaped text = true ↔ ∃ negative digits, IsInteger negative digits text := by
  constructor
  · intro h
    obtain ⟨sign, hsign, htext⟩ := exists_isSign_splitSign text
    refine ⟨(splitSign text).1, (splitSign text).2, ?_⟩
    have hinteger := IsInteger.signed hsign (isDigitRun_iff.mp h)
    rwa [← htext] at hinteger
  · rintro ⟨negative, digits, h⟩
    rw [isIntegerShaped, h.splitSign]
    exact isDigitRun_iff.mpr h.isNumeral

/-! ## Floats -/

theorem isDecimalDigit_of_isExponent {exponent : Bool × List Char} {text : List Char}
    (h : IsExponent exponent text) : ∀ c ∈ text.head?, isDecimalDigit c = false := by
  cases h with
  | marked hmark =>
    rintro c ⟨⟩
    rcases hmark with rfl | rfl <;> decide

theorem isDecimalDigit_of_isOptionalExponent {exponent : Option (Bool × List Char)}
    {text : List Char} (h : IsOptionalExponent exponent text) :
    ∀ c ∈ text.head?, isDecimalDigit c = false := by
  cases h with
  | absent => simp
  | present h => exact isDecimalDigit_of_isExponent h

theorem readExponent?_eq_some_iff {exponent : Bool × List Char} {text : List Char} :
    FloatLiteral.readExponent? text = some exponent ↔ IsExponent exponent text := by
  constructor
  · intro h
    cases text with
    | nil => cases h
    | cons mark rest =>
      obtain ⟨sign, hsign, hrest⟩ := exists_isSign_splitSign rest
      simp only [FloatLiteral.readExponent?, Option.ite_none_right_eq_some, Option.some.injEq] at h
      obtain ⟨⟨hmark, hdigits⟩, rfl⟩ := h
      have hexponent := IsExponent.marked hmark hsign (isDigitRun_iff.mp hdigits)
      rwa [← hrest] at hexponent
  · rintro ⟨hmark, hsign, hdigits⟩
    simp only [FloatLiteral.readExponent?, hsign.splitSign_numeral hdigits,
      isDigitRun_iff.mpr hdigits, and_true, if_pos hmark]

private theorem head?_point (tail : List Char) :
    ∀ c ∈ ('.' :: tail).head?, isDecimalDigit c = false := by
  rintro c ⟨⟩
  decide

theorem IsUnsignedFloat.head?_signs {whole fraction text : List Char}
    {exponent : Option (Bool × List Char)} (h : IsUnsignedFloat whole fraction exponent text) :
    ∀ c ∈ text.head?, c ≠ '+' ∧ c ≠ '-' := by
  cases h with
  | wholePoint hdigits => exact hdigits.head?_signs _
  | scaled hdigits => exact hdigits.head?_signs _
  | point =>
    rintro c ⟨⟩
    decide

private theorem isFloat_of_read? {text : List Char} {literal : FloatLiteral}
    (h : FloatLiteral.read? text = some literal) : IsFloat literal text := by
  obtain ⟨sign, hsign, htext⟩ := exists_isSign_splitSign text
  rw [htext]
  unfold FloatLiteral.read? at h
  generalize splitSign text = parts at h hsign
  obtain ⟨negative, body⟩ := parts
  have hbody := List.takeWhile_append_dropWhile (p := isDecimalDigit) (l := body)
  dsimp only at h hsign ⊢
  rw [← hbody]
  split at h
  case h_1 rest hpoint =>
    have hrest := List.takeWhile_append_dropWhile (p := isDecimalDigit) (l := rest)
    have hfraction := forall_mem_takeWhile isDecimalDigit rest
    rw [hpoint, ← hrest]
    simp only [Option.ite_none_left_eq_some, Bool.and_eq_true, not_and] at h
    obtain ⟨hdigits, h⟩ := h
    -- The exponent is the same whether there are digits before the point or only behind it.
    suffices hunsigned : ∀ exponent, IsOptionalExponent exponent (rest.dropWhile isDecimalDigit) →
        IsFloat ⟨negative, body.takeWhile isDecimalDigit, rest.takeWhile isDecimalDigit, exponent⟩
          (sign ++ (body.takeWhile isDecimalDigit ++ '.' :: (rest.takeWhile isDecimalDigit ++
            rest.dropWhile isDecimalDigit))) by
      split at h
      case h_1 hnil =>
        cases h
        exact hunsigned none (hnil ▸ .absent)
      case h_2 =>
        obtain ⟨e, he, rfl⟩ := Option.map_eq_some_iff.mp h
        exact hunsigned (some e) (.present (readExponent?_eq_some_iff.mp he))
    intro exponent hexponent
    cases hwhole : (body.takeWhile isDecimalDigit).isEmpty with
    | false => exact .signed hsign (.wholePoint (isNumeral_takeWhile hwhole) hfraction hexponent)
    | true =>
      have hsome := isNumeral_takeWhile (Bool.eq_false_iff.mpr (hdigits hwhole))
      rw [List.isEmpty_iff.mp hwhole, List.nil_append]
      exact .signed hsign (.point hsome hexponent)
  case h_2 =>
    simp only [Option.ite_none_left_eq_some, Bool.not_eq_true] at h
    obtain ⟨hwhole, h⟩ := h
    obtain ⟨e, he, rfl⟩ := Option.map_eq_some_iff.mp h
    exact .signed hsign (.scaled (isNumeral_takeWhile hwhole) (readExponent?_eq_some_iff.mp he))

/-- A point is read with the digits around it, of which there may be none on one side. -/
private theorem read?_point {negative : Bool} {sign whole fraction tail : List Char}
    {exponent : Option (Bool × List Char)} (hsign : IsSign negative sign)
    (hunsigned : IsUnsignedFloat whole fraction exponent (whole ++ '.' :: (fraction ++ tail)))
    (hwhole : ∀ c ∈ whole, isDecimalDigit c = true)
    (hfraction : ∀ c ∈ fraction, isDecimalDigit c = true)
    (hsome : (whole.isEmpty && fraction.isEmpty) = false)
    (hexponent : IsOptionalExponent exponent tail) :
    FloatLiteral.read? (sign ++ (whole ++ '.' :: (fraction ++ tail))) =
      some ⟨negative, whole, fraction, exponent⟩ := by
  have hstop := isDecimalDigit_of_isOptionalExponent hexponent
  unfold FloatLiteral.read?
  rw [hsign.splitSign hunsigned.head?_signs]
  dsimp only
  rw [takeWhile_append_stop hwhole (head?_point _), dropWhile_append_stop hwhole (head?_point _)]
  split
  case h_2 hother => exact absurd rfl (hother _)
  case h_1 rest hrest =>
    cases hrest
    rw [takeWhile_append_stop hfraction hstop, dropWhile_append_stop hfraction hstop, hsome,
      if_neg (by simp)]
    cases hexponent with
    | absent => rfl
    | present h =>
      split
      case h_1 => cases h
      case h_2 => rw [readExponent?_eq_some_iff.mpr h, Option.map_some]

private theorem read?_scaled {negative : Bool} {sign whole tail : List Char}
    {exponent : Bool × List Char} (hsign : IsSign negative sign) (hwhole : IsNumeral whole)
    (hexponent : IsExponent exponent tail) :
    FloatLiteral.read? (sign ++ (whole ++ tail)) = some ⟨negative, whole, [], some exponent⟩ := by
  have hstop := isDecimalDigit_of_isExponent hexponent
  unfold FloatLiteral.read?
  rw [hsign.splitSign (hwhole.head?_signs tail)]
  dsimp only
  rw [takeWhile_append_stop hwhole.decimal hstop, dropWhile_append_stop hwhole.decimal hstop,
    hwhole.isEmpty]
  split
  case h_1 =>
    cases hexponent with
    | marked hmark => simp at hmark
  case h_2 =>
    rw [readExponent?_eq_some_iff.mpr hexponent]
    rfl

theorem read?_eq_some_iff {text : List Char} {literal : FloatLiteral} :
    FloatLiteral.read? text = some literal ↔ IsFloat literal text := by
  constructor
  · exact isFloat_of_read?
  · rintro ⟨hsign, hunsigned⟩
    cases hunsigned with
    | wholePoint hwhole hfraction hexponent =>
      refine read?_point hsign (.wholePoint hwhole hfraction hexponent) hwhole.decimal hfraction ?_
        hexponent
      rw [hwhole.isEmpty, Bool.false_and]
    | point hfraction hexponent =>
      refine read?_point hsign (.point hfraction hexponent) (by simp) hfraction.decimal ?_ hexponent
      rw [hfraction.isEmpty, Bool.and_false]
    | scaled hwhole hexponent => exact read?_scaled hsign hwhole hexponent

theorem IsFloat.splitSign {literal : FloatLiteral} {text : List Char} (h : IsFloat literal text) :
    ∃ body, FilterQuery.splitSign text = (literal.negative, body) ∧
      IsUnsignedFloat literal.whole literal.fraction literal.exponent body := by
  cases h with
  | signed hsign hunsigned => exact ⟨_, hsign.splitSign hunsigned.head?_signs, hunsigned⟩

theorem isFloatShaped_iff {text : List Char} :
    isFloatShaped text = true ↔ ∃ literal, IsFloat literal text := by
  rw [isFloatShaped, Option.isSome_iff_exists]
  simp only [read?_eq_some_iff]

/-! ## Words -/

theorem isIdentifierShaped_iff {text : List Char} :
    isIdentifierShaped text = true ↔ IsWord text := by
  constructor
  · intro h
    cases text with
    | nil => cases h
    | cons c rest =>
      simp only [isIdentifierShaped, startsIdentifier, Bool.and_eq_true, Bool.or_eq_true,
        beq_iff_eq, List.all_eq_true] at h
      refine .begun h.1 fun d hd => ?_
      simpa [continuesIdentifier, or_assoc] using h.2 d hd
  · rintro ⟨hhead, htail⟩
    simp only [isIdentifierShaped, startsIdentifier, Bool.and_eq_true, Bool.or_eq_true,
      beq_iff_eq, List.all_eq_true]
    refine ⟨hhead, fun d hd => ?_⟩
    simpa [continuesIdentifier, or_assoc] using htail d hd

theorem LiteralShape.accepts_iff {text : List Char} (shape : LiteralShape) :
    shape.accepts text = true ↔ shape.Fits text := by
  cases shape with
  | integer => exact isIntegerShaped_iff
  | float => exact isFloatShaped_iff
  | word => exact isIdentifierShaped_iff

/-! ## One shape at most -/

/-- Comparing bounds without evidence is faster where many ranges are compared. -/
private theorem apart_eq_all_blt (ranges others : CodePointRanges) :
    ranges.apart others =
      ranges.all fun r => others.all fun o => Nat.blt r.2 o.1 || Nat.blt o.2 r.1 := by
  have hblt (m n : Nat) : decide (m < n) = Nat.blt m n := by
    rw [Bool.eq_iff_iff, decide_eq_true_iff, Nat.blt_eq]
  simp only [CodePointRanges.apart, Bool.decide_or, hblt]

theorem isDecimalDigit_of_isLetter {c : Char} (h : isLetter c = true) :
    isDecimalDigit c = false := by
  refine CodePointRanges.covers_eq_false_of_apart letterRanges_ascends decimalDigitRanges_ascends
    ?_ h
  rw [apart_eq_all_blt]
  decide +kernel

theorem IsUnsignedFloat.exists_not_digit {whole fraction text : List Char}
    {exponent : Option (Bool × List Char)} (h : IsUnsignedFloat whole fraction exponent text) :
    ∃ c ∈ text, isDecimalDigit c = false := by
  cases h with
  | wholePoint => exact ⟨'.', by simp, by decide⟩
  | point => exact ⟨'.', by simp, by decide⟩
  | scaled _ hexponent =>
    cases hexponent with
    | @marked mark _ _ _ hmark =>
      refine ⟨mark, by simp, ?_⟩
      rcases hmark with rfl | rfl <;> decide

theorem not_isFloat_of_isInteger {negative : Bool} {digits text : List Char}
    {literal : FloatLiteral} (hinteger : IsInteger negative digits text) :
    ¬ IsFloat literal text := by
  intro hfloat
  obtain ⟨body, hsplit, hunsigned⟩ := hfloat.splitSign
  rw [hinteger.splitSign] at hsplit
  obtain ⟨c, hmem, hc⟩ := hunsigned.exists_not_digit
  cases hsplit
  rw [hinteger.isNumeral.decimal c hmem] at hc
  cases hc

def BeginsNumber (text : List Char) : Prop :=
  ∃ c ∈ text.head?, c = '+' ∨ c = '-' ∨ c = '.' ∨ isDecimalDigit c = true

theorem IsSign.beginsNumber {negative : Bool} {sign text : List Char} (h : IsSign negative sign)
    (htext : BeginsNumber text) : BeginsNumber (sign ++ text) := by
  cases h with
  | absent => exact htext
  | plus => exact ⟨'+', rfl, by simp⟩
  | minus => exact ⟨'-', rfl, by simp⟩

theorem IsNumeral.beginsNumber {digits : List Char} (h : IsNumeral digits) (tail : List Char) :
    BeginsNumber (digits ++ tail) := by
  obtain ⟨c, hhead, hc⟩ := h.head?_append tail
  exact ⟨c, hhead, by simp [hc]⟩

theorem not_isWord_of_beginsNumber {text : List Char} (h : BeginsNumber text) : ¬ IsWord text := by
  rintro (@⟨c, rest, hhead, -⟩)
  obtain ⟨_, ⟨⟩, hc⟩ := h
  have hdigit : isDecimalDigit c = false := by
    rcases hhead with hletter | rfl
    · exact isDecimalDigit_of_isLetter hletter
    · decide
  rw [hdigit] at hc
  rcases hc with rfl | rfl | rfl | hc
  · exact absurd hhead (by decide)
  · exact absurd hhead (by decide)
  · exact absurd hhead (by decide)
  · cases hc

theorem IsInteger.beginsNumber {negative : Bool} {digits text : List Char}
    (h : IsInteger negative digits text) : BeginsNumber text := by
  cases h with
  | signed hsign hdigits =>
    have hbegins := hdigits.beginsNumber []
    rw [List.append_nil] at hbegins
    exact hsign.beginsNumber hbegins

theorem IsFloat.beginsNumber {literal : FloatLiteral} {text : List Char}
    (h : IsFloat literal text) : BeginsNumber text := by
  cases h with
  | signed hsign hunsigned =>
    apply hsign.beginsNumber
    cases hunsigned with
    | wholePoint hwhole => exact hwhole.beginsNumber _
    | scaled hwhole => exact hwhole.beginsNumber _
    | point => exact ⟨'.', rfl, by simp⟩

/-- No text has two shapes. -/
theorem LiteralShape.eq_of_fits {text : List Char} {shape other : LiteralShape}
    (h : shape.Fits text) (h' : other.Fits text) : shape = other := by
  cases shape with
  | integer =>
    obtain ⟨negative, digits, hinteger⟩ := h
    cases other with
    | integer => rfl
    | float =>
      obtain ⟨literal, hfloat⟩ := h'
      exact absurd hfloat (not_isFloat_of_isInteger hinteger)
    | word => exact absurd h' (not_isWord_of_beginsNumber hinteger.beginsNumber)
  | float =>
    obtain ⟨literal, hfloat⟩ := h
    cases other with
    | integer =>
      obtain ⟨negative, digits, hinteger⟩ := h'
      exact absurd hfloat (not_isFloat_of_isInteger hinteger)
    | float => rfl
    | word => exact absurd h' (not_isWord_of_beginsNumber hfloat.beginsNumber)
  | word =>
    cases other with
    | integer =>
      obtain ⟨negative, digits, hinteger⟩ := h'
      exact absurd h (not_isWord_of_beginsNumber hinteger.beginsNumber)
    | float =>
      obtain ⟨literal, hfloat⟩ := h'
      exact absurd h (not_isWord_of_beginsNumber hfloat.beginsNumber)
    | word => rfl

/-! ## Classes -/

section Order

variable {text : List Char} {order : List LiteralShape}

/-- In any order of all shapes, the first shape that a text has is its only one. -/
theorem find?_eq_some_iff (hall : ∀ shape, shape ∈ order) {shape : LiteralShape} :
    order.find? (·.accepts text) = some shape ↔ shape.Fits text := by
  constructor
  · intro h
    exact shape.accepts_iff.mp (List.find?_some h)
  · intro h
    cases hfound : order.find? (·.accepts text) with
    | none =>
      have hno := List.find?_eq_none.mp hfound shape (hall shape)
      exact absurd (shape.accepts_iff.mpr h) hno
    | some other =>
      have hother := other.accepts_iff.mp (List.find?_some hfound)
      rw [LiteralShape.eq_of_fits hother h]

theorem classifyInOrder_of_fits (hall : ∀ shape, shape ∈ order) {shape : LiteralShape}
    (h : shape.Fits text) : classifyInOrder order text = shape.classOf text := by
  rw [classifyInOrder, (find?_eq_some_iff hall).mpr h]

theorem classifyInOrder_of_not_fits (hno : ∀ shape : LiteralShape, ¬ shape.Fits text) :
    classifyInOrder order text = .text := by
  have hnone : order.find? (·.accepts text) = none := by
    refine List.find?_eq_none.mpr fun shape _ haccepts => ?_
    exact hno shape (shape.accepts_iff.mp haccepts)
  rw [classifyInOrder, hnone]

theorem classify_eq_classifyInOrder (text : List Char) :
    classify text = classifyInOrder [.integer, .float, .word] text := by
  have hinteger : LiteralShape.integer.accepts text = isIntegerShaped text := rfl
  have hfloat : LiteralShape.float.accepts text = isFloatShaped text := rfl
  have hword : LiteralShape.word.accepts text = isIdentifierShaped text := rfl
  rw [classify, classifyInOrder, List.find?_cons, List.find?_cons, List.find?_cons, hinteger,
    hfloat, hword]
  cases isIntegerShaped text with
  | true => rfl
  | false =>
    cases isFloatShaped text with
    | true => rfl
    | false =>
      cases isIdentifierShaped text with
      | true =>
        simp only [Bool.false_eq_true, if_false, if_true]
        rfl
      | false => rfl

end Order

/-- The shape of the texts of a class; plain texts have none. -/
def LiteralClass.shape? : LiteralClass → Option LiteralShape
  | integer => some .integer
  | float => some .float
  | identifier | boolean _ | null => some .word
  | text => none

section Classes

variable {text : List Char}

theorem shape?_classifyWord (text : List Char) : (classifyWord text).shape? = some .word := by
  unfold classifyWord
  split
  · rfl
  split
  · rfl
  split <;> rfl

theorem LiteralShape.shape?_classOf (shape : LiteralShape) :
    (shape.classOf text).shape? = some shape := by
  cases shape with
  | integer => rfl
  | float => rfl
  | word => exact shape?_classifyWord text

theorem classify_of_fits {shape : LiteralShape} (h : shape.Fits text) :
    classify text = shape.classOf text := by
  rw [classify_eq_classifyInOrder]
  exact classifyInOrder_of_fits (by rintro (_ | _ | _) <;> simp) h

theorem classify_of_not_fits (hno : ∀ shape : LiteralShape, ¬ shape.Fits text) :
    classify text = .text := by
  rw [classify_eq_classifyInOrder]
  exact classifyInOrder_of_not_fits hno

theorem shape?_classify_iff {shape : LiteralShape} :
    (classify text).shape? = some shape ↔ shape.Fits text := by
  constructor
  · intro h
    by_cases hno : ∀ other : LiteralShape, ¬ other.Fits text
    · rw [classify_of_not_fits hno] at h
      cases h
    · obtain ⟨other, hother⟩ := Classical.not_forall_not.mp hno
      rw [classify_of_fits hother, LiteralShape.shape?_classOf] at h
      cases h
      exact hother
  · intro h
    rw [classify_of_fits h, LiteralShape.shape?_classOf]

theorem classify_eq_integer_iff :
    classify text = .integer ↔ ∃ negative digits, IsInteger negative digits text := by
  have hshape : classify text = .integer ↔ (classify text).shape? = some .integer := by
    cases classify text <;> simp [LiteralClass.shape?]
  exact hshape.trans shape?_classify_iff

theorem classify_eq_float_iff :
    classify text = .float ↔ ∃ literal, IsFloat literal text := by
  have hshape : classify text = .float ↔ (classify text).shape? = some .float := by
    cases classify text <;> simp [LiteralClass.shape?]
  exact hshape.trans shape?_classify_iff

theorem classify_eq_word_iff :
    classify text = .identifier ∨ classify text = .boolean true ∨ classify text = .boolean false ∨
      classify text = .null ↔ IsWord text := by
  have hshape : (classify text = .identifier ∨ classify text = .boolean true ∨
      classify text = .boolean false ∨ classify text = .null) ↔
      (classify text).shape? = some .word := by
    cases classify text <;> simp [LiteralClass.shape?]
  exact hshape.trans shape?_classify_iff

theorem classify_eq_text_iff :
    classify text = .text ↔ ∀ shape : LiteralShape, ¬ shape.Fits text := by
  constructor
  · intro h shape hfits
    have hshape := shape?_classify_iff.mpr hfits
    rw [h] at hshape
    cases hshape
  · exact classify_of_not_fits

private theorem classify_eq_keyword_iff {cls : LiteralClass} {keyword : List Char}
    (hkeyword : classify keyword = cls) (hshape : cls.shape? = some .word)
    (hexact : ∀ word, classifyWord word = cls → word = keyword) :
    classify text = cls ↔ text = keyword := by
  constructor
  · intro h
    have hword := shape?_classify_iff.mp ((congrArg LiteralClass.shape? h).trans hshape)
    rw [classify_of_fits hword] at h
    exact hexact text h
  · rintro rfl
    exact hkeyword

private theorem classifyWord_cases {word : List Char} {cls : LiteralClass}
    (h : classifyWord word = cls) (hne : cls ≠ .identifier) :
    (cls = .boolean true ∧ word = "true".toList) ∨
      (cls = .boolean false ∧ word = "false".toList) ∨ (cls = .null ∧ word = "null".toList) := by
  subst h
  by_cases htrue : word = "true".toList
  · rw [classifyWord, if_pos htrue]
    exact .inl ⟨rfl, htrue⟩
  by_cases hfalse : word = "false".toList
  · rw [classifyWord, if_neg htrue, if_pos hfalse]
    exact .inr (.inl ⟨rfl, hfalse⟩)
  by_cases hnull : word = "null".toList
  · rw [classifyWord, if_neg htrue, if_neg hfalse, if_pos hnull]
    exact .inr (.inr ⟨rfl, hnull⟩)
  · rw [classifyWord, if_neg htrue, if_neg hfalse, if_neg hnull] at hne
    exact absurd rfl hne

theorem classify_eq_true_iff : classify text = .boolean true ↔ text = "true".toList :=
  classify_eq_keyword_iff (by decide +kernel) rfl fun _ h => by
    simpa using classifyWord_cases h (by simp)

theorem classify_eq_false_iff : classify text = .boolean false ↔ text = "false".toList :=
  classify_eq_keyword_iff (by decide +kernel) rfl fun _ h => by
    simpa using classifyWord_cases h (by simp)

theorem classify_eq_null_iff : classify text = .null ↔ text = "null".toList :=
  classify_eq_keyword_iff (by decide +kernel) rfl fun _ h => by
    simpa using classifyWord_cases h (by simp)

end Classes

/-- The class of a text is that of its only shape, and keywords are matched exactly; the order in
which the shapes are tried makes no difference. -/
theorem classify_exact (text : List Char) :
    (classify text = .integer ↔ LiteralShape.integer.Fits text) ∧
    (classify text = .float ↔ LiteralShape.float.Fits text) ∧
    (classify text = .identifier ∨ classify text = .boolean true ∨
      classify text = .boolean false ∨ classify text = .null ↔ LiteralShape.word.Fits text) ∧
    (classify text = .boolean true ↔ text = "true".toList) ∧
    (classify text = .boolean false ↔ text = "false".toList) ∧
    (classify text = .null ↔ text = "null".toList) ∧
    (classify text = .text ↔ ∀ shape : LiteralShape, ¬ shape.Fits text) ∧
    (∀ shape other : LiteralShape, shape.Fits text → other.Fits text → shape = other) ∧
    ∀ order, (∀ shape, shape ∈ order) → classifyInOrder order text = classify text := by
  refine ⟨classify_eq_integer_iff, classify_eq_float_iff, classify_eq_word_iff,
    classify_eq_true_iff, classify_eq_false_iff, classify_eq_null_iff, classify_eq_text_iff,
    fun _ _ => LiteralShape.eq_of_fits, fun order hall => ?_⟩
  by_cases hno : ∀ shape : LiteralShape, ¬ shape.Fits text
  · rw [classifyInOrder_of_not_fits hno, classify_of_not_fits hno]
  · obtain ⟨shape, h⟩ := Classical.not_forall_not.mp hno
    rw [classifyInOrder_of_fits hall h, classify_of_fits h]

theorem classify_exact_backwards :
    (∀ shape, shape ∈ [LiteralShape.word, .float, .integer]) ∧
      classifyInOrder [.word, .float, .integer] "+1.e-5".toList = .float := by
  have hall : ∀ shape, shape ∈ [LiteralShape.word, .float, .integer] := by
    rintro (_ | _ | _) <;> simp
  obtain ⟨-, -, -, -, -, -, -, -, hany⟩ := classify_exact "+1.e-5".toList
  exact ⟨hall, (hany _ hall).trans (by decide +kernel)⟩

end FilterQuery
