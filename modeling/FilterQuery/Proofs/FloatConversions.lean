import FilterQuery.Proofs.DistinctJson
import FilterQuery.Proofs.DistinctOutlines
import FilterQuery.Proofs.IntegerLiterals
import FilterQuery.Proofs.NearestNumbers

/-!
# Conversion of floats

Which floating point number a text converts to, said apart from the shape of float literals: the
usual decimal notation with its powers of ten, of which the correctly rounded number is taken, and
words for infinity and for what is not a number.  The two grammars fit.  A float literal converts,
and to one number only, unless it has a digit that is not of ASCII; the words have no shape of a
number, so no query is read as a filter with a float that is not finite.
-/

namespace FilterQuery

/-! ## The notation -/

/-- The number that decimal digits around a point stand for, times a power of ten. -/
def decimalValue (whole fraction : List Char) (power : Int) : ℚ :=
  (Nat.ofDigitChars 10 whole 0 + Nat.ofDigitChars 10 fraction 0 / 10 ^ fraction.length) * 10 ^ power

/-- The notation of powers of ten: nothing, or a mark, an optional sign and digits. -/
inductive PowerNotation : Int → List Char → Prop where
  | absent : PowerNotation 0 []
  | marked {mark : Char} {negative : Bool} {sign digits : List Char}
      (isMark : mark = 'e' ∨ mark = 'E') (isSign : IsSign negative sign) (ne_nil : digits ≠ [])
      (ascii : ∀ c ∈ digits, c.isDigit = true) :
      PowerNotation (signedValue negative digits) (mark :: (sign ++ digits))

/-- The notation of numbers without a sign: digits with or without a point, which may stand before,
between or behind them, and a power of ten. -/
inductive NumberNotation : ℚ → List Char → Prop where
  | plain {power : Int} {digits tail : List Char} (ne_nil : digits ≠ [])
      (ascii : ∀ c ∈ digits, c.isDigit = true) (scaled : PowerNotation power tail) :
      NumberNotation (decimalValue digits [] power) (digits ++ tail)
  | pointed {power : Int} {whole fraction tail : List Char} (some : whole ≠ [] ∨ fraction ≠ [])
      (wholeAscii : ∀ c ∈ whole, c.isDigit = true)
      (fractionAscii : ∀ c ∈ fraction, c.isDigit = true) (scaled : PowerNotation power tail) :
      NumberNotation (decimalValue whole fraction power) (whole ++ '.' :: (fraction ++ tail))

def IsInfinityWord (word : List Char) : Prop :=
  word.map Char.toLower = "inf".toList ∨ word.map Char.toLower = "infinity".toList

def IsNaNWord (word : List Char) : Prop := word.map Char.toLower = "nan".toList

/-- What a text converts to: behind an optional sign, a number in decimal notation, which is rounded
to the nearest one, or a word. -/
inductive Converts : List Char → Binary64 → Prop where
  | number {negative : Bool} {sign text : List Char} {q : ℚ} {x : Binary64}
      (isSign : IsSign negative sign) (spelled : NumberNotation q text)
      (nearest : x.IsNearest negative q) : Converts (sign ++ text) x
  | infinity {negative : Bool} {sign word : List Char} (isSign : IsSign negative sign)
      (isWord : IsInfinityWord word) :
      Converts (sign ++ word) ⟨negative, Binary64.infinity, by decide⟩
  | notANumber {negative : Bool} {sign word : List Char} {x : Binary64}
      (isSign : IsSign negative sign) (isWord : IsNaNWord word) (isNaN : x.isNaN = true) :
      Converts (sign ++ word) x

/-! ## The value of a float literal -/

def exponentPower : Option (Bool × List Char) → Int
  | none => 0
  | some (negative, digits) => signedValue negative digits

theorem powerNotation_iff {power : Int} {text : List Char} :
    PowerNotation power text ↔ ∃ exponent, IsOptionalExponent exponent text ∧
      (∀ e ∈ exponent, ∀ c ∈ e.2, c.isDigit = true) ∧ exponentPower exponent = power := by
  constructor
  · rintro (_ | @⟨mark, negative, sign, digits, hmark, hsign, hne, hascii⟩)
    · exact ⟨none, .absent, by simp, rfl⟩
    · have hnumeral : IsNumeral digits := ⟨hne, fun c hc => isDecimalDigit_of_isDigit (hascii c hc)⟩
      exact ⟨_, .present (.marked hmark hsign hnumeral), by simpa using hascii, rfl⟩
  · rintro ⟨exponent, _ | ⟨⟨hmark, hsign, hnumeral⟩⟩, hascii, rfl⟩
    · exact .absent
    · exact .marked hmark hsign hnumeral.ne_nil (hascii _ rfl)

namespace FloatLiteral

def size (literal : FloatLiteral) : ℚ :=
  decimalValue literal.whole literal.fraction (exponentPower literal.exponent)

theorem scale_eq (literal : FloatLiteral) : literal.scale = exponentPower literal.exponent := by
  obtain ⟨negative, whole, fraction, exponent⟩ := literal
  match exponent with
  | none => rfl
  | some (true, digits) => rfl
  | some (false, digits) => rfl

theorem size_eq (literal : FloatLiteral) :
    literal.size = literal.mantissa * 10 ^ (literal.scale - literal.fraction.length) := by
  have hten : (10 : ℚ) ^ literal.fraction.length ≠ 0 := pow_ne_zero _ (by norm_num)
  have hmantissa : literal.mantissa =
      10 ^ literal.fraction.length * Nat.ofDigitChars 10 literal.whole 0 +
        Nat.ofDigitChars 10 literal.fraction 0 := by
    rw [mantissa, Nat.ofDigitChars_append, Nat.ofDigitChars_eq_ofDigitChars_zero]
  rw [size, decimalValue, ← scale_eq, hmantissa, zpow_sub₀ (by norm_num), zpow_natCast]
  rw [Nat.cast_add, Nat.cast_mul, Nat.cast_pow, Nat.cast_ofNat, mul_div_assoc',
    ← div_mul_eq_mul_div, add_div, mul_div_cancel_left₀ _ hten]

theorem isNearest_rounded (literal : FloatLiteral) :
    literal.rounded.IsNearest literal.negative literal.size := by
  rw [size_eq]
  exact Binary64.isNearest_ofDecimal _ _ _

end FloatLiteral

/-! ## Digits of other scripts -/

/-- Whether all decimal digits of a text are of ASCII. -/
def HasAsciiDigits (text : List Char) : Prop :=
  ∀ c ∈ text, isDecimalDigit c = true → c.isDigit = true

theorem hasAsciiDigits_append {xs ys : List Char} :
    HasAsciiDigits (xs ++ ys) ↔ HasAsciiDigits xs ∧ HasAsciiDigits ys :=
  List.forall_mem_append

theorem hasAsciiDigits_cons {c : Char} {text : List Char} (hc : isDecimalDigit c = false) :
    HasAsciiDigits (c :: text) ↔ HasAsciiDigits text := by
  simp [HasAsciiDigits, hc]

theorem hasAsciiDigits_iff_of_decimal {digits : List Char}
    (h : ∀ c ∈ digits, isDecimalDigit c = true) :
    HasAsciiDigits digits ↔ ∀ c ∈ digits, c.isDigit = true :=
  ⟨fun hascii c hc => hascii c hc (h c hc), fun hascii c hc _ => hascii c hc⟩

theorem IsSign.hasAsciiDigits_append {negative : Bool} {sign text : List Char}
    (h : IsSign negative sign) : HasAsciiDigits (sign ++ text) ↔ HasAsciiDigits text := by
  cases h with
  | absent => rfl
  | plus => exact hasAsciiDigits_cons (by decide)
  | minus => exact hasAsciiDigits_cons (by decide)

theorem IsOptionalExponent.hasAsciiDigits_iff {exponent : Option (Bool × List Char)}
    {text : List Char} (h : IsOptionalExponent exponent text) :
    HasAsciiDigits text ↔ ∀ e ∈ exponent, ∀ c ∈ e.2, c.isDigit = true := by
  cases h with
  | absent => simp [HasAsciiDigits]
  | present h =>
    cases h with
    | @marked mark negative sign digits hmark hsign hnumeral =>
      have hother : isDecimalDigit mark = false := by
        rcases hmark with rfl | rfl <;> decide
      rw [hasAsciiDigits_cons hother, hsign.hasAsciiDigits_append,
        hasAsciiDigits_iff_of_decimal hnumeral.decimal]
      simp

theorem isAscii_iff {literal : FloatLiteral} :
    literal.IsAscii ↔ (∀ c ∈ literal.whole, c.isDigit = true) ∧
      (∀ c ∈ literal.fraction, c.isDigit = true) ∧
      ∀ e ∈ literal.exponent, ∀ c ∈ e.2, c.isDigit = true :=
  ⟨fun h => ⟨h.whole, h.fraction, h.exponent⟩,
    fun h => ⟨List.forall_mem_append.mpr ⟨h.1, h.2.1⟩, h.2.2⟩⟩

theorem IsFloat.isAscii_iff_hasAsciiDigits {literal : FloatLiteral} {text : List Char}
    (h : IsFloat literal text) : literal.IsAscii ↔ HasAsciiDigits text := by
  have hpoint : isDecimalDigit '.' = false := by decide
  rw [isAscii_iff]
  cases h with
  | signed hsign hunsigned =>
    rw [hsign.hasAsciiDigits_append]
    cases hunsigned with
    | wholePoint hwhole hfraction hexponent =>
      rw [hasAsciiDigits_append, hasAsciiDigits_cons hpoint, hasAsciiDigits_append,
        hasAsciiDigits_iff_of_decimal hwhole.decimal, hasAsciiDigits_iff_of_decimal hfraction,
        hexponent.hasAsciiDigits_iff]
    | point hfraction hexponent =>
      rw [hasAsciiDigits_cons hpoint, hasAsciiDigits_append,
        hasAsciiDigits_iff_of_decimal hfraction.decimal, hexponent.hasAsciiDigits_iff]
      simp
    | scaled hwhole hexponent =>
      rw [hasAsciiDigits_append, hasAsciiDigits_iff_of_decimal hwhole.decimal,
        (IsOptionalExponent.present hexponent).hasAsciiDigits_iff]
      simp

/-! ## Words of letters -/

private theorem isAlpha_of_toLower {c : Char} (h : c.toLower.isAlpha = true) :
    c.isAlpha = true := by
  cases hupper : c.isUpper with
  | true => exact Bool.or_eq_true_iff.mpr (.inl hupper)
  | false =>
    have hsame : c.toLower = c := dif_neg (of_decide_eq_false hupper)
    rwa [hsame] at h

/-- A text whose lower case is a word of letters is a word. -/
theorem isWord_of_map_toLower {word lower : List Char} (h : word.map Char.toLower = lower)
    (hne : lower ≠ []) (halpha : lower.all Char.isAlpha = true) : IsWord word := by
  have hletter : ∀ c ∈ word, isLetter c = true := by
    intro c hc
    have hlower : c.toLower ∈ lower := h ▸ List.mem_map_of_mem hc
    exact isLetter_of_isAlpha (isAlpha_of_toLower (List.all_eq_true.mp halpha _ hlower))
  cases word with
  | nil => exact absurd h.symm hne
  | cons c rest =>
    exact .begun (.inl (hletter c List.mem_cons_self))
      fun d hd => .inl (hletter d (List.mem_cons_of_mem c hd))

theorem IsInfinityWord.isWord {word : List Char} (h : IsInfinityWord word) : IsWord word := by
  rcases h with h | h <;> exact isWord_of_map_toLower h (by decide) (by decide)

theorem IsNaNWord.isWord {word : List Char} (h : IsNaNWord word) : IsWord word :=
  isWord_of_map_toLower h (by decide) (by decide)

section Words

variable {negative : Bool} {sign word : List Char}

theorem IsSign.splitSign_word (hsign : IsSign negative sign) (hword : IsWord word) :
    FilterQuery.splitSign (sign ++ word) = (negative, word) := by
  refine hsign.splitSign fun c hc => ⟨?_, ?_⟩
  · rintro rfl
    exact not_isWord_of_beginsNumber ⟨'+', hc, .inl rfl⟩ hword
  · rintro rfl
    exact not_isWord_of_beginsNumber ⟨'-', hc, .inr (.inl rfl)⟩ hword

theorem not_isInteger_of_isWord (hsign : IsSign negative sign) (hword : IsWord word)
    {minus : Bool} {digits : List Char} : ¬ IsInteger minus digits (sign ++ word) := by
  intro hinteger
  have hsplit := hsign.splitSign_word hword
  rw [hinteger.splitSign] at hsplit
  cases hsplit
  exact not_isWord_of_beginsNumber (IsInteger.signed .absent hinteger.isNumeral).beginsNumber hword

theorem not_isFloat_of_isWord (hsign : IsSign negative sign) (hword : IsWord word)
    {literal : FloatLiteral} : ¬ IsFloat literal (sign ++ word) := by
  intro hfloat
  obtain ⟨body, hsplit, hunsigned⟩ := hfloat.splitSign
  rw [hsign.splitSign_word hword] at hsplit
  cases hsplit
  exact not_isWord_of_beginsNumber (IsFloat.signed .absent hunsigned).beginsNumber hword

private theorem not_keyword : ∀ sign ∈ [[], ['+'], ['-']],
    ∀ lower ∈ ["inf".toList, "infinity".toList, "nan".toList],
    ∀ keyword ∈ ["true".toList, "false".toList, "null".toList],
      sign.map Char.toLower ++ lower ≠ keyword.map Char.toLower := by
  decide

/-- The words for infinity and for what is not a number are plain texts or identifiers. -/
theorem classify_of_isInfinityWord_or_isNaNWord (hsign : IsSign negative sign)
    (hword : IsInfinityWord word ∨ IsNaNWord word) :
    classify (sign ++ word) = .identifier ∨ classify (sign ++ word) = .text := by
  have hisWord : IsWord word := hword.elim IsInfinityWord.isWord IsNaNWord.isWord
  have hlower : word.map Char.toLower ∈ ["inf".toList, "infinity".toList, "nan".toList] := by
    unfold IsInfinityWord IsNaNWord at hword
    rcases hword with (hword | hword) | hword <;> simp [hword]
  have hmem : sign ∈ [[], ['+'], ['-']] := by
    cases hsign <;> simp
  have hkeyword (keyword : List Char)
      (h : keyword ∈ ["true".toList, "false".toList, "null".toList]) : sign ++ word ≠ keyword := by
    rintro rfl
    exact not_keyword sign hmem _ hlower _ h List.map_append.symm
  cases hclass : classify (sign ++ word) with
  | identifier => exact .inl rfl
  | text => exact .inr rfl
  | integer =>
    obtain ⟨minus, digits, hinteger⟩ := classify_eq_integer_iff.mp hclass
    exact absurd hinteger (not_isInteger_of_isWord hsign hisWord)
  | float =>
    obtain ⟨literal, hfloat⟩ := classify_eq_float_iff.mp hclass
    exact absurd hfloat (not_isFloat_of_isWord hsign hisWord)
  | boolean value =>
    cases value with
    | true => exact absurd (classify_eq_true_iff.mp hclass) (hkeyword _ (by simp))
    | false => exact absurd (classify_eq_false_iff.mp hclass) (hkeyword _ (by simp))
  | null => exact absurd (classify_eq_null_iff.mp hclass) (hkeyword _ (by simp))

end Words

/-! ## Float literals convert -/

section Floats

variable {literal : FloatLiteral} {text : List Char}

/-- A float literal with digits of ASCII is in decimal notation. -/
theorem IsFloat.exists_numberNotation (h : IsFloat literal text) (hascii : literal.IsAscii) :
    ∃ sign body, text = sign ++ body ∧ IsSign literal.negative sign ∧
      NumberNotation literal.size body := by
  obtain ⟨hwhole, hfraction, hexponent⟩ := isAscii_iff.mp hascii
  cases h with
  | signed hsign hunsigned =>
    refine ⟨_, _, rfl, hsign, ?_⟩
    cases hunsigned with
    | wholePoint hnumeral _ hoptional =>
      exact .pointed (.inl hnumeral.ne_nil) hwhole hfraction
        (powerNotation_iff.mpr ⟨_, hoptional, hexponent, rfl⟩)
    | point hnumeral hoptional =>
      exact .pointed (.inr hnumeral.ne_nil) hwhole hfraction
        (powerNotation_iff.mpr ⟨_, hoptional, hexponent, rfl⟩)
    | scaled hnumeral hpresent =>
      exact .plain hnumeral.ne_nil hwhole
        (powerNotation_iff.mpr ⟨_, .present hpresent, hexponent, rfl⟩)

/-- What is in decimal notation has the shape of an integer or of a float with digits of ASCII. -/
theorem NumberNotation.isNumeral_or_isFloat {q : ℚ} {negative : Bool} {sign body : List Char}
    (h : NumberNotation q body) (hsign : IsSign negative sign) :
    IsNumeral body ∨ ∃ literal : FloatLiteral, IsFloat literal (sign ++ body) ∧
      literal.negative = negative ∧ literal.size = q ∧ literal.IsAscii := by
  have hdecimal {digits : List Char} (hascii : ∀ c ∈ digits, c.isDigit = true) :
      ∀ c ∈ digits, isDecimalDigit c = true :=
    fun c hc => isDecimalDigit_of_isDigit (hascii c hc)
  cases h with
  | plain hne hascii hpower =>
    obtain ⟨exponent, hoptional, hexponent, rfl⟩ := powerNotation_iff.mp hpower
    cases hoptional with
    | absent =>
      rw [List.append_nil]
      exact .inl ⟨hne, hdecimal hascii⟩
    | present hpresent =>
      exact .inr ⟨_, .signed hsign (.scaled ⟨hne, hdecimal hascii⟩ hpresent), rfl, rfl,
        isAscii_iff.mpr ⟨hascii, by simp, hexponent⟩⟩
  | @pointed power whole fraction tail hsome hwhole hfraction hpower =>
    obtain ⟨exponent, hoptional, hexponent, rfl⟩ := powerNotation_iff.mp hpower
    have hunsigned : IsUnsignedFloat whole fraction exponent
        (whole ++ '.' :: (fraction ++ tail)) := by
      by_cases hne : whole = []
      · subst hne
        exact .point ⟨hsome.resolve_left (by simp), hdecimal hfraction⟩ hoptional
      · exact .wholePoint ⟨hne, hdecimal hwhole⟩ (hdecimal hfraction) hoptional
    exact .inr ⟨_, .signed hsign hunsigned, rfl, rfl,
      isAscii_iff.mpr ⟨hwhole, hfraction, hexponent⟩⟩

/-- A float literal converts if its digits are of ASCII, and then to the number that it is rounded
to and to no other. -/
theorem IsFloat.converts_iff (h : IsFloat literal text) {x : Binary64} :
    Converts text x ↔ literal.IsAscii ∧ x = literal.rounded := by
  constructor
  · rintro (⟨hsign, hnumber, hnearest⟩ | ⟨hsign, hword⟩ | ⟨hsign, hword, -⟩)
    · rcases hnumber.isNumeral_or_isFloat hsign with
        hnumeral | ⟨other, hother, rfl, rfl, hascii⟩
      · exact absurd h (not_isFloat_of_isInteger (.signed hsign hnumeral))
      · have hread := read?_eq_some_iff.mpr h
        rw [read?_eq_some_iff.mpr hother] at hread
        cases hread
        exact ⟨hascii, hnearest.unique literal.isNearest_rounded⟩
    · exact absurd h (not_isFloat_of_isWord hsign hword.isWord)
    · exact absurd h (not_isFloat_of_isWord hsign hword.isWord)
  · rintro ⟨hascii, rfl⟩
    obtain ⟨sign, body, rfl, hsign, hnumber⟩ := h.exists_numberNotation hascii
    exact .number hsign hnumber literal.isNearest_rounded

theorem IsFloat.readFloat_of_not_isAscii (h : IsFloat literal text) (hascii : ¬ literal.IsAscii) :
    readFloat text = .error .invalidDigit := by
  have hnearest : literal.nearest? = none := by
    rw [Option.eq_none_iff_forall_ne_some]
    exact fun x hx => hascii (nearest?_eq_some_iff.mp hx).1
  rw [readFloat, read?_eq_some_iff.mpr h, Option.bind_some, hnearest]

theorem IsFloat.readFloat_of_isAscii (h : IsFloat literal text) (hascii : literal.IsAscii) :
    readFloat text =
      if literal.rounded.magnitude = Binary64.infinity then .error .outOfRange
      else .ok literal.rounded := by
  have hnearest := nearest?_eq_some_iff.mpr ⟨hascii, rfl⟩
  have hle := literal.isNearest_rounded.le_infinity
  rw [readFloat, read?_eq_some_iff.mpr h, Option.bind_some, hnearest]
  dsimp only
  split
  case isTrue hfinite =>
    rw [Binary64.isFinite, decide_eq_true_iff] at hfinite
    rw [if_neg (Nat.ne_of_lt hfinite)]
  case isFalse hinfinite =>
    rw [Binary64.isFinite, decide_eq_true_iff] at hinfinite
    rw [if_pos (Nat.le_antisymm hle (Nat.le_of_not_lt hinfinite))]

theorem IsFloat.literalValue_of_not_isAscii {token : Token}
    (h : IsFloat literal token.literal.toList) (hascii : ¬ literal.IsAscii) (field : String) :
    literalValue field .float token = .error (.unreadableFloat field token) := by
  rw [literalValue, h.readFloat_of_not_isAscii hascii]

theorem IsFloat.literalValue_of_isAscii {token : Token}
    (h : IsFloat literal token.literal.toList) (hascii : literal.IsAscii) (field : String) :
    literalValue field .float token =
      if literal.rounded.magnitude = Binary64.infinity then .error (.floatOutOfRange field token)
      else .ok (.float literal.rounded) := by
  rw [literalValue, h.readFloat_of_isAscii hascii]
  by_cases hinfinite : literal.rounded.magnitude = Binary64.infinity
  · rw [if_pos hinfinite, if_pos hinfinite]
  · rw [if_neg hinfinite, if_neg hinfinite]

end Floats

/-! ## What becomes of floats -/

theorem Filter.IsPrintable.isFinite {filter : Filter} (h : filter.IsPrintable) :
    filter.IsFinite := by
  induction h with
  | constraint _ hsuits => exact .constraint hsuits.isFinite
  | combination _ _ ih => exact .combination ih

/-- The shape of float literals fits the conversion of floats.  A float literal is refused as
unreadable exactly if it has a digit that is not of ASCII; otherwise it converts, to one number
only, which is its value unless it is infinite.  So all floats of filters that are read are finite,
and the words that convert to other floats are read as strings. -/
theorem readValue_float (field : String) :
    (∀ s : TokenStream, s.current.kind = .literal .float →
      classify s.current.literal.toList = .float →
      ((readValue field s).result = .error (.unreadableFloat field s.current) ↔
        ∃ c ∈ s.current.literal.toList, isDecimalDigit c = true ∧ c.isDigit = false) ∧
      ((¬ ∃ c ∈ s.current.literal.toList, isDecimalDigit c = true ∧ c.isDigit = false) →
        ∃ x : Binary64, (∀ y, Converts s.current.literal.toList y ↔ y = x) ∧ x.isNaN = false ∧
          (readValue field s).result =
            if x.magnitude = Binary64.infinity then .error (.floatOutOfRange field s.current)
            else .ok (.float x))) ∧
    (∀ query filter, parse query = .ok filter → filter.IsFinite) ∧
    ∀ (s : TokenStream) (negative : Bool) (sign word : List Char), IsSign negative sign →
      IsInfinityWord word ∨ IsNaNWord word → s.current.literal.toList = sign ++ word →
      s.current.kind = .literal (classify s.current.literal.toList) →
      (readValue field s).result = .ok (.string s.current.literal) := by
  refine ⟨fun s hkind hclass => ?_, fun query filter h => ?_,
    fun s negative sign word hsign hword htext hkind => ?_⟩
  · obtain ⟨literal, hfloat⟩ := classify_eq_float_iff.mp hclass
    have hother : (∃ c ∈ s.current.literal.toList, isDecimalDigit c = true ∧ c.isDigit = false) ↔
        ¬ literal.IsAscii := by
      rw [hfloat.isAscii_iff_hasAsciiDigits]
      simp [HasAsciiDigits]
    rw [hother, (readValue_of_literal hkind field).1]
    by_cases hascii : literal.IsAscii
    · have hnumber : literal.rounded.isNaN = false :=
        decide_eq_false (Nat.not_lt.mpr literal.isNearest_rounded.le_infinity)
      rw [hfloat.literalValue_of_isAscii hascii]
      refine ⟨?_, fun _ => ⟨literal.rounded, fun y => ?_, hnumber, rfl⟩⟩
      · split <;> simp [hascii]
      · rw [hfloat.converts_iff]
        exact and_iff_right hascii
    · rw [hfloat.literalValue_of_not_isAscii hascii]
      exact ⟨⟨fun _ => hascii, fun _ => rfl⟩, fun h => absurd hascii h⟩
  · exact (isCanonical_of_parse h).1.isPrintable.isFinite
  · rw [(readValue_of_literal hkind field).1, htext]
    rcases classify_of_isInfinityWord_or_isNaNWord hsign hword with hclass | hclass <;>
      rw [hclass, literalValue]

theorem readValue_float_at_the_edge :
    ((scan "1.٥e3").current = ⟨.literal .float, "1.٥e3", 0⟩ ∧
      (readValue "x" (scan "1.٥e3")).result =
        .error (.unreadableFloat "x" ⟨.literal .float, "1.٥e3", 0⟩)) ∧
    ((scan "-.5E+400").current = ⟨.literal .float, "-.5E+400", 0⟩ ∧
      ∃ x : Binary64, (∀ y, Converts "-.5E+400".toList y ↔ y = x) ∧ x.isNaN = false) ∧
    (∃ filter, parse "x=in=(1.,.5e-400)" = .ok filter ∧ filter.IsFinite) ∧
    (readValue "x" (scan "-Infinity")).result = .ok (.string "-Infinity") := by
  obtain ⟨hfloat, hparse, hword⟩ := readValue_float "x"
  refine ⟨?_, ?_, ?_, ?_⟩
  · have hcurrent : (scan "1.٥e3").current = ⟨.literal .float, "1.٥e3", 0⟩ := by decide +kernel
    have hread := (hfloat (scan "1.٥e3") (by rw [hcurrent]) (by rw [hcurrent]; decide +kernel)).1
    rw [hcurrent] at hread
    exact ⟨hcurrent, hread.mpr ⟨'٥', by decide, by decide +kernel, by decide⟩⟩
  · have hcurrent : (scan "-.5E+400").current = ⟨.literal .float, "-.5E+400", 0⟩ := by
      decide +kernel
    have hread :=
      (hfloat (scan "-.5E+400") (by rw [hcurrent]) (by rw [hcurrent]; decide +kernel)).2
    rw [hcurrent] at hread
    have hascii : "-.5E+400".toList.any (fun c => isDecimalDigit c && !c.isDigit) = false := by
      decide +kernel
    obtain ⟨x, hconverts, hnumber, -⟩ := hread (by simpa [List.any_eq_false] using hascii)
    exact ⟨hcurrent, x, hconverts, hnumber⟩
  · cases hread : parse "x=in=(1.,.5e-400)" with
    | error e =>
      have hsome : (parse "x=in=(1.,.5e-400)").toOption.isSome = true := by decide +kernel
      rw [hread] at hsome
      cases hsome
    | ok filter => exact ⟨filter, rfl, hparse _ filter hread⟩
  · have hcurrent : (scan "-Infinity").current = ⟨.literal .text, "-Infinity", 0⟩ := by
      decide +kernel
    have hread := hword (scan "-Infinity") true ['-'] "Infinity".toList .minus
      (.inl (.inr (by decide))) (by rw [hcurrent]; rfl) (by rw [hcurrent]; decide +kernel)
    rw [hread, hcurrent]

end FilterQuery
