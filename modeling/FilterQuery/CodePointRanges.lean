/-!
# Ranges of code points

A property of characters is kept as a list of inclusive ranges of code points in ascending order.
A lookup walks the list and stops at the first range that does not end below the code point, so
the low code points, which are the common ones, are settled within a few steps.  The main
statement, `covers_eq_true_iff`, says that stopping early loses nothing in an ascending list.
-/

namespace FilterQuery

/-- Inclusive ranges of code points, each given by its first and its last member. -/
abbrev CodePointRanges := List (Nat × Nat)

namespace CodePointRanges

/-- Whether a code point lies in one of the ranges of an ascending list. -/
def covers : CodePointRanges → Nat → Bool
  | [], _ => false
  | (first, last) :: rest, n => if last < n then covers rest n else decide (first ≤ n)

/-- Whether no range is empty, each one ends below the next, and the first one begins at `floor`
or above. -/
def ascendsFrom (floor : Nat) : CodePointRanges → Bool
  | [] => true
  | (first, last) :: rest =>
    decide (floor ≤ first) && decide (first ≤ last) && ascendsFrom (last + 1) rest

def ascends (ranges : CodePointRanges) : Bool := ascendsFrom 0 ranges

theorem covers_cons (first last : Nat) (rest : CodePointRanges) (n : Nat) :
    covers ((first, last) :: rest) n =
      if last < n then covers rest n else decide (first ≤ n) := rfl

private theorem floor_le_of_mem {ranges : CodePointRanges} {floor : Nat}
    (h : ascendsFrom floor ranges = true) : ∀ r ∈ ranges, floor ≤ r.1 := by
  induction ranges generalizing floor with
  | nil => simp
  | cons r rest ih =>
    obtain ⟨first, last⟩ := r
    simp only [ascendsFrom, Bool.and_eq_true, decide_eq_true_eq] at h
    intro r hr
    cases hr with
    | head => exact h.1.1
    | tail _ hmem =>
      have := ih h.2 r hmem
      omega

private theorem covers_iff_of_ascendsFrom {ranges : CodePointRanges} {floor : Nat}
    (h : ascendsFrom floor ranges = true) (n : Nat) :
    ranges.covers n = true ↔ ∃ r ∈ ranges, r.1 ≤ n ∧ n ≤ r.2 := by
  induction ranges generalizing floor with
  | nil => simp [covers]
  | cons r rest ih =>
    obtain ⟨first, last⟩ := r
    simp only [ascendsFrom, Bool.and_eq_true, decide_eq_true_eq] at h
    rw [covers_cons]
    split
    next hlt =>
      have notFirst : ¬ (first ≤ n ∧ n ≤ last) := by omega
      simp [ih h.2, notFirst]
    next hle =>
      simp only [decide_eq_true_eq, List.mem_cons, exists_eq_or_imp]
      constructor
      · exact fun hn => Or.inl ⟨hn, by omega⟩
      · rintro (hn | ⟨r, hr, hn⟩)
        · exact hn.1
        · have := floor_le_of_mem h.2 r hr
          omega

/-- In an ascending list the early stop finds exactly the members of the ranges. -/
theorem covers_eq_true_iff {ranges : CodePointRanges} (h : ranges.ascends = true) (n : Nat) :
    ranges.covers n = true ↔ ∃ r ∈ ranges, r.1 ≤ n ∧ n ≤ r.2 :=
  covers_iff_of_ascendsFrom h n

end CodePointRanges

/-! ## Blanks -/

/-- The characters with the property White_Space, the same in all versions of Unicode since 6.3. -/
def blankRanges : CodePointRanges :=
  [ (0x0009, 0x000D), (0x0020, 0x0020), (0x0085, 0x0085), (0x00A0, 0x00A0), (0x1680, 0x1680),
    (0x2000, 0x200A), (0x2028, 0x2029), (0x202F, 0x202F), (0x205F, 0x205F), (0x3000, 0x3000) ]

def isBlank (c : Char) : Bool := blankRanges.covers c.toNat

theorem blankRanges_ascends : blankRanges.ascends = true := by decide +kernel

def trimBlanksEnd (text : List Char) : List Char := (text.reverse.dropWhile isBlank).reverse

/-- A text that holds more than blanks keeps some of its characters. -/
theorem trimBlanksEnd_ne_nil {text : List Char} {c : Char} (hmem : c ∈ text)
    (hc : isBlank c = false) : trimBlanksEnd text ≠ [] := by
  intro h
  have hnil : text.reverse.dropWhile isBlank = [] := List.reverse_eq_nil_iff.mp h
  have hall : text.reverse.takeWhile isBlank = text.reverse := by
    have happ := List.takeWhile_append_dropWhile (p := isBlank) (l := text.reverse)
    rwa [hnil, List.append_nil] at happ
  have hblank : text.reverse.all isBlank = true := hall ▸ List.all_takeWhile
  have := List.all_eq_true.mp hblank c (List.mem_reverse.mpr hmem)
  simp [hc] at this

def trimBlanks (text : List Char) : List Char := trimBlanksEnd (text.dropWhile isBlank)

end FilterQuery
