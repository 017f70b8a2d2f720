import FilterQuery.Proofs.LiteralShapes

/-!
# Integer literals

What reading an integer literal comes to, whatever digits it has and however many.  The literal has
its value exactly when its digits are all of ASCII and the number fits into 64 bits with a sign.
Otherwise the literal is refused and stays where it is, and the fault is the first one from the
left: a digit of another script, unless the digits in front of it are already too many.
-/

namespace FilterQuery

/-- The number that ASCII digits behind a sign stand for. -/
def signedValue (negative : Bool) (digits : List Char) : Int :=
  if negative then -(Nat.ofDigitChars 10 digits 0 : Int) else Nat.ofDigitChars 10 digits 0

def FitsInt64 (n : Int) : Prop := -9223372036854775808 ≤ n ∧ n ≤ 9223372036854775807

instance (n : Int) : Decidable (FitsInt64 n) := inferInstanceAs (Decidable (_ ∧ _))

/-- The first fault of an integer literal that has no value. -/
def firstFault (negative : Bool) (digits : List Char) : IntegerFault :=
  if digits.all Char.isDigit = false ∧
      FitsInt64 (signedValue negative (digits.takeWhile Char.isDigit)) then .invalidDigit
  else if negative then .tooSmall else .tooLarge

def magnitudeLimit (negative : Bool) : Nat :=
  if negative then 9223372036854775808 else 9223372036854775807

theorem fitsInt64_signedValue_iff (negative : Bool) (digits : List Char) :
    FitsInt64 (signedValue negative digits) ↔
      Nat.ofDigitChars 10 digits 0 ≤ magnitudeLimit negative := by
  unfold FitsInt64 signedValue magnitudeLimit
  cases negative <;> simp only [Bool.false_eq_true, if_true, if_false] <;> omega

theorem readInteger_of_splitSign {negative : Bool} {digits text : List Char}
    (h : splitSign text = (negative, digits)) :
    readInteger text =
      (readDigits (magnitudeLimit negative) (if negative then .tooSmall else .tooLarge) 0 digits).map
        fun (n : Nat) => Int64.ofInt (if negative then -n else n) := by
  unfold readInteger magnitudeLimit
  rw [h]
  cases negative <;> rfl

/-- An integer literal has its value, if that fits, or its first fault. -/
theorem readInteger_of_isInteger {negative : Bool} {digits text : List Char}
    (h : IsInteger negative digits text) :
    readInteger text =
      if digits.all Char.isDigit = true ∧ FitsInt64 (signedValue negative digits) then
        .ok (.ofInt (signedValue negative digits))
      else .error (firstFault negative digits) := by
  rw [readInteger_of_splitSign h.splitSign, readDigits_eq (Nat.zero_le _)]
  have hfront := fitsInt64_signedValue_iff negative (digits.takeWhile Char.isDigit)
  by_cases hfits : FitsInt64 (signedValue negative (digits.takeWhile Char.isDigit))
  · rw [if_neg (Nat.not_lt.mpr (hfront.mp hfits))]
    by_cases hascii : digits.all Char.isDigit = true
    · rw [takeWhile_isDigit hascii] at hfits
      rw [if_pos hascii, if_pos ⟨hascii, hfits⟩]
      rfl
    · have hother : digits.all Char.isDigit = false := Bool.eq_false_iff.mpr hascii
      rw [if_neg hascii, if_neg (fun hall => hascii hall.1), firstFault, if_pos ⟨hother, hfits⟩]
      rfl
  · have hnot : ¬ (digits.all Char.isDigit = true ∧ FitsInt64 (signedValue negative digits)) := by
      rintro ⟨hascii, hall⟩
      rw [takeWhile_isDigit hascii] at hfits
      exact hfits hall
    have hfault : firstFault negative digits = if negative then .tooSmall else .tooLarge :=
      if_neg fun hother => hfits hother.2
    rw [if_pos (Nat.lt_of_not_le (mt hfront.mpr hfits)), if_neg hnot, hfault]
    rfl

/-- An integer literal is read as its value and passed, or refused with its first fault and not
passed. -/
theorem readValue_integer (field : String) {s : TokenStream}
    (hkind : s.current.kind = .literal .integer)
    (hclass : classify s.current.literal.toList = .integer) :
    ∃ negative digits, IsInteger negative digits s.current.literal.toList ∧
      if digits.all Char.isDigit = true ∧ FitsInt64 (signedValue negative digits) then
        ∃ n : Int64, n.toInt = signedValue negative digits ∧
          (readValue field s).result = .ok (.integer n) ∧ (readValue field s).passed = 1
      else
        (readValue field s).result =
            .error (.unreadableInteger field s.current (firstFault negative digits)) ∧
          (readValue field s).passed = 0 := by
  obtain ⟨negative, digits, hinteger⟩ := classify_eq_integer_iff.mp hclass
  obtain ⟨hresult, hpassed⟩ := readValue_of_literal hkind field
  refine ⟨negative, digits, hinteger, ?_⟩
  rw [hresult, hpassed, literalValue, readInteger_of_isInteger hinteger]
  split
  case isTrue hvalue =>
    obtain ⟨hlow, hhigh⟩ := hvalue.2
    exact ⟨.ofInt (signedValue negative digits),
      Int64.toInt_ofInt_of_le (by omega) (by omega), rfl, rfl⟩
  case isFalse => exact ⟨rfl, rfl⟩

theorem readValue_integer_crowded :
    (scan "-9223372036854775809٣").current.kind = .literal .integer ∧
      classify (scan "-9223372036854775809٣").current.literal.toList = .integer ∧
      (readValue "n" (scan "-9223372036854775809٣")).result =
        .error (.unreadableInteger "n" ⟨.literal .integer, "-9223372036854775809٣", 0⟩ .tooSmall) ∧
      (readValue "n" (scan "-9223372036854775809٣")).passed = 0 := by
  have hcurrent : (scan "-9223372036854775809٣").current =
      ⟨.literal .integer, "-9223372036854775809٣", 0⟩ := by decide +kernel
  have hkind : (scan "-9223372036854775809٣").current.kind = .literal .integer := by rw [hcurrent]
  have hclass : classify (scan "-9223372036854775809٣").current.literal.toList = .integer := by
    rw [hcurrent]
    decide +kernel
  obtain ⟨negative, digits, hinteger, hread⟩ := readValue_integer "n" hkind hclass
  have hparts : (negative, digits) = (true, "9223372036854775809٣".toList) := by
    rw [← hinteger.splitSign, hcurrent]
    rfl
  cases hparts
  rw [if_neg (by decide +kernel), hcurrent] at hread
  have hfault : firstFault true "9223372036854775809٣".toList = .tooSmall := by decide +kernel
  rw [hfault] at hread
  exact ⟨hkind, hclass, hread⟩

end FilterQuery
