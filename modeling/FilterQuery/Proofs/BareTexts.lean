import FilterQuery.Proofs.Lexemes
import FilterQuery.Proofs.LiteralValues

/-!
# Bare texts

The fields and values of constraints are written without quotes, so their texts have to stand as
bare runs and to be read back as the same values.  Identifiers, numbers, truth values and null are
made of characters that may stand in an identifier, and those are neither reserved nor blank.
-/

namespace FilterQuery

/-! ## Characters of identifiers -/

namespace CodePointRanges

/-- Whether no range of one list meets a range of another. -/
def apart (ranges others : CodePointRanges) : Bool :=
  ranges.all fun r => others.all fun o => decide (r.2 < o.1 ∨ o.2 < r.1)

theorem covers_eq_false_of_apart {ranges others : CodePointRanges} (hr : ranges.ascends = true)
    (ho : others.ascends = true) (h : ranges.apart others = true) {n : Nat}
    (hn : ranges.covers n = true) : others.covers n = false := by
  cases hother : others.covers n with
  | false => rfl
  | true =>
    obtain ⟨r, hmem, hfirst, hlast⟩ := (covers_eq_true_iff hr n).mp hn
    obtain ⟨o, hmem', hfirst', hlast'⟩ := (covers_eq_true_iff ho n).mp hother
    have hall := List.all_eq_true.mp (List.all_eq_true.mp h r hmem) o hmem'
    have hmeet := of_decide_eq_true hall
    omega

end CodePointRanges

private theorem isBlank_of_isLetter {c : Char} (h : isLetter c = true) : isBlank c = false :=
  CodePointRanges.covers_eq_false_of_apart letterRanges_ascends blankRanges_ascends
    (by decide +kernel) h

private theorem isBlank_of_isDecimalDigit {c : Char} (h : isDecimalDigit c = true) :
    isBlank c = false :=
  CodePointRanges.covers_eq_false_of_apart decimalDigitRanges_ascends blankRanges_ascends
    (by decide +kernel) h

private theorem continuesIdentifier_of_isReserved {c : Char} (h : isReserved c = true) :
    continuesIdentifier c = false :=
  eq_false_of_isReserved h (by decide)

theorem isReserved_of_continuesIdentifier {c : Char} (h : continuesIdentifier c = true) :
    isReserved c = false := by
  cases hc : isReserved c with
  | false => rfl
  | true =>
    rw [continuesIdentifier_of_isReserved hc] at h
    cases h

theorem isBlank_of_continuesIdentifier {c : Char} (h : continuesIdentifier c = true) :
    isBlank c = false := by
  simp only [continuesIdentifier, Bool.or_eq_true, beq_iff_eq] at h
  rcases h with (((h | h) | h) | h) | h
  · exact isBlank_of_isLetter h
  · exact isBlank_of_isDecimalDigit h
  all_goals
    subst h
    decide

/-- Whether a character may stand in a number, a word or an identifier. -/
def isPlain (c : Char) : Bool := continuesIdentifier c || c == '+'

theorem isPlain_of_continuesIdentifier {c : Char} (h : continuesIdentifier c = true) :
    isPlain c = true := by
  rw [isPlain, h, Bool.true_or]

theorem isBareRun_of_isPlain {text : List Char} (hne : text ≠ [])
    (h : ∀ c ∈ text, isPlain c = true) : IsBareRun text := by
  have hsolid : ∀ c ∈ text, isReserved c = false ∧ isBlank c = false := by
    intro c hc
    have hplain := h c hc
    simp only [isPlain, Bool.or_eq_true, beq_iff_eq] at hplain
    rcases hplain with hplain | rfl
    · exact ⟨isReserved_of_continuesIdentifier hplain, isBlank_of_continuesIdentifier hplain⟩
    · decide
  constructor
  · exact hne
  · exact fun c hc => (hsolid c hc).1
  · exact fun c hc => (hsolid c (List.mem_of_mem_head? hc)).2
  · exact fun c hc => (hsolid c (List.mem_of_mem_getLast? hc)).2

theorem isBareRun_of_continuesIdentifier {text : List Char} (hne : text ≠ [])
    (h : ∀ c ∈ text, continuesIdentifier c = true) : IsBareRun text :=
  isBareRun_of_isPlain hne fun c hc => isPlain_of_continuesIdentifier (h c hc)

theorem continuesIdentifier_of_isDigit {c : Char} (h : c.isDigit = true) :
    continuesIdentifier c = true := by
  simp [continuesIdentifier, isDecimalDigit_of_isDigit h]

private theorem continuesIdentifier_of_startsIdentifier {c : Char}
    (h : startsIdentifier c = true) : continuesIdentifier c = true := by
  simp only [startsIdentifier, Bool.or_eq_true] at h
  rcases h with h | h <;> simp [continuesIdentifier, h]

theorem characters_of_identifier {text : List Char} (h : classify text = .identifier) :
    text ≠ [] ∧ ∀ c ∈ text, continuesIdentifier c = true := by
  have hshape : isIdentifierShaped text = true := by
    unfold classify at h
    split at h
    · cases h
    split at h
    · cases h
    split at h
    · assumption
    · cases h
  cases text with
  | nil => cases hshape
  | cons c rest =>
    simp only [isIdentifierShaped, Bool.and_eq_true, List.all_eq_true] at hshape
    refine ⟨List.cons_ne_nil c rest, fun d hd => ?_⟩
    rcases List.mem_cons.mp hd with rfl | hd
    · exact continuesIdentifier_of_startsIdentifier hshape.1
    · exact hshape.2 d hd

theorem isBareRun_of_identifier {text : List Char} (h : classify text = .identifier) :
    IsBareRun text :=
  isBareRun_of_continuesIdentifier (characters_of_identifier h).1 (characters_of_identifier h).2

/-! ## Digits and signs -/

def signText (negative : Bool) : List Char := if negative then ['-'] else []

theorem splitSign_signText (negative : Bool) {digits : List Char} (hne : digits ≠ [])
    (h : ∀ c ∈ digits, c.isDigit = true) (tail : List Char) :
    splitSign (signText negative ++ (digits ++ tail)) = (negative, digits ++ tail) := by
  cases digits with
  | nil => exact absurd rfl hne
  | cons d digits =>
    have hd : d.isDigit = true := h d List.mem_cons_self
    cases negative with
    | true => rfl
    | false =>
      rw [signText, if_neg (by simp), List.nil_append, List.cons_append]
      unfold splitSign
      split
      · rename_i heq
        cases heq
        cases hd
      · rename_i heq
        cases heq
        cases hd
      · rfl

theorem isDigit_toDigits (n : Nat) : ∀ c ∈ Nat.toDigits 10 n, c.isDigit = true :=
  fun _ => Nat.isDigit_of_mem_toDigits (by decide) (by decide)

theorem isDigitRun_of_isDigit {digits : List Char} (hne : digits ≠ [])
    (h : ∀ c ∈ digits, c.isDigit = true) : isDigitRun digits = true := by
  rw [isDigitRun, Bool.and_eq_true, List.all_eq_true]
  exact ⟨by simpa using hne, fun c hc => isDecimalDigit_of_isDigit (h c hc)⟩

theorem continuesIdentifier_signText (negative : Bool) :
    ∀ c ∈ signText negative, continuesIdentifier c = true := by
  intro c hc
  cases negative with
  | false => cases hc
  | true =>
    obtain rfl : c = '-' := List.mem_singleton.mp hc
    simp [continuesIdentifier]

/-! ## Integers -/

theorem toList_repr_toInt (n : Int64) :
    n.toInt.repr.toList = signText (decide (n.toInt < 0)) ++ Nat.toDigits 10 n.toInt.natAbs := by
  rw [Int.repr_eq_if]
  by_cases hneg : n.toInt < 0
  · have habs : (-n.toInt).toNat = n.toInt.natAbs := by omega
    rw [if_neg (by omega), habs, String.toList_append, Nat.toList_repr]
    simp [signText, hneg]
  · have habs : n.toInt.toNat = n.toInt.natAbs := by omega
    rw [if_pos (by omega), habs, Nat.toList_repr]
    simp [signText, hneg]

private theorem splitSign_integer (n : Int64) :
    splitSign n.toInt.repr.toList = (decide (n.toInt < 0), Nat.toDigits 10 n.toInt.natAbs) := by
  have h := splitSign_signText (decide (n.toInt < 0)) Nat.toDigits_ne_nil
    (isDigit_toDigits n.toInt.natAbs) []
  rwa [List.append_nil, ← toList_repr_toInt] at h

theorem classify_integer (n : Int64) : classify n.toInt.repr.toList = .integer := by
  have hshape : isIntegerShaped n.toInt.repr.toList = true := by
    rw [isIntegerShaped, splitSign_integer]
    exact isDigitRun_of_isDigit Nat.toDigits_ne_nil (isDigit_toDigits _)
  rw [classify, if_pos hshape]

theorem literalValue_integer (n : Int64) :
    LiteralValue n.toInt.repr .integer (.integer n) := by
  refine .integer n ?_ ?_
  · rw [splitSign_integer]
    exact isDigit_toDigits _
  · rw [signedNumber, splitSign_integer, Nat.ofDigitChars_ten_toDigits]
    simp only [decide_eq_true_eq]
    omega

theorem continuesIdentifier_integer (n : Int64) :
    ∀ c ∈ n.toInt.repr.toList, continuesIdentifier c = true := by
  intro c hc
  rw [toList_repr_toInt] at hc
  rcases List.mem_append.mp hc with hc | hc
  · exact continuesIdentifier_signText _ c hc
  · exact continuesIdentifier_of_isDigit (isDigit_toDigits _ c hc)

theorem integer_ne_nil (n : Int64) : n.toInt.repr.toList ≠ [] := by
  rw [toList_repr_toInt]
  simp [Nat.toDigits_ne_nil]

theorem isBareRun_integer (n : Int64) : IsBareRun n.toInt.repr.toList :=
  isBareRun_of_continuesIdentifier (integer_ne_nil n) (continuesIdentifier_integer n)

end FilterQuery
