import Mathlib.Data.List.TakeWhile
import FilterQuery.Proofs.ScannedTexts

/-!
# Extended texts

How the tokens of a text change when something is put in front of it or behind it.  In front, it
moves the tokens by as many bytes as it takes.  Behind, a text that begins no longer run and no
longer comparison leaves the tokens that are not terminal as they are, and blanks extend at most
the terminal token.
-/

namespace FilterQuery

section Extended

variable {offset offset' : Nat} {text rest more blanks : List Char} {tokens : List Token}
  {last : Token}

/-! ## Texts behind -/

theorem Borders.append {kind : TokenKind} {literal tail : List Char}
    (h : Borders kind literal tail)
    (hmore : ∀ c ∈ (more.dropWhile isBlank).head?, isReserved c = true)
    (hequals : more.head? ≠ some '=') : Borders kind literal (tail ++ more) where
  run := by
    intro cls hkind
    have hrun := h.run cls hkind
    rw [List.dropWhile_append]
    split
    case isTrue => exact hmore
    case isFalse hne =>
      cases hdrop : tail.dropWhile isBlank with
      | nil => simp [hdrop] at hne
      | cons c cs =>
        rw [hdrop] at hrun
        exact hrun
  angle := by
    intro hangle
    cases tail with
    | nil => exact hequals
    | cons c cs => exact h.angle hangle

theorem Scans.append_text (h : Scans offset text tokens offset' rest)
    (hmore : ∀ c ∈ (more.dropWhile isBlank).head?, isReserved c = true)
    (hequals : more.head? ≠ some '=') :
    Scans offset (text ++ more) tokens offset' (rest ++ more) := by
  induction h with
  | done => exact .done
  | next hblanks hlex hborders _ ih =>
    rw [List.append_assoc, List.append_assoc]
    exact .next hblanks hlex (hborders.append hmore hequals) ih

theorem isAlphabetic_of_isBlank {c : Char} (h : isBlank c = true) : isAlphabetic c = false := by
  have hall : ∀ r ∈ blankRanges, ∀ n ∈ List.range' r.1 (r.2 + 1 - r.1),
      (letterRanges.covers n || otherAlphabeticRanges.covers n) = false := by decide +kernel
  obtain ⟨r, hr, hfirst, hlast⟩ :=
    (CodePointRanges.covers_eq_true_iff blankRanges_ascends c.toNat).mp h
  exact hall r hr c.toNat (List.mem_range'_1.mpr (by omega))

theorem ne_equals_of_isBlank {c : Char} (h : isBlank c = true) : c ≠ '=' := by
  rintro rfl
  exact absurd h (by decide)

theorem Scans.append_blanks (h : Scans offset text tokens offset' rest)
    (hblanks : ∀ c ∈ blanks, isBlank c = true) :
    Scans offset (text ++ blanks) tokens offset' (rest ++ blanks) := by
  refine h.append_text (by simp [List.dropWhile_eq_nil_iff.mpr hblanks]) fun hhead => ?_
  exact ne_equals_of_isBlank (hblanks _ (List.mem_of_head? hhead)) rfl

theorem Stops.isTerminal (h : Stops offset text last) : last.isTerminal = true := by
  cases h <;> rfl

/-- A malformed operator is one with blanks behind it, though it may take in the first of them. -/
private theorem IsMalformed.exists_append_blanks {literal tail : List Char}
    (h : IsMalformed literal tail) (hblanks : ∀ c ∈ blanks, isBlank c = true) :
    ∃ literal' tail', IsMalformed literal' tail' ∧
      literal' ++ tail' = literal ++ (tail ++ blanks) := by
  have hhead {xs : List Char} (h : xs.head? ≠ some '=') : (xs ++ blanks).head? ≠ some '=' := by
    cases xs with
    | nil =>
      intro hblank
      exact ne_equals_of_isBlank (hblanks _ (List.mem_of_head? hblank)) rfl
    | cons x xs => exact h
  cases h with
  | @exclamation rest h =>
    refine ⟨_, _, .exclamation (hhead h), ?_⟩
    rw [List.cons_append, List.take_append_drop, List.cons_append, ← List.append_assoc,
      List.take_append_drop]
  | @equals word tail alphabetic maximal single unknown =>
    have hmaximal : ∀ c ∈ (tail ++ blanks).head?, isAlphabetic c = false := by
      intro c hc
      cases tail with
      | nil => exact isAlphabetic_of_isBlank (hblanks c (List.mem_of_head? hc))
      | cons d tail => exact maximal c hc
    exact ⟨_, _, .equals alphabetic hmaximal (hhead <| single ·) (hhead <| unknown · ·), rfl⟩

/-- Blanks behind a text only extend its terminal token. -/
theorem Stops.exists_append_blanks (h : Stops offset text last)
    (hblanks : ∀ c ∈ blanks, isBlank c = true) :
    ∃ last', Stops offset (text ++ blanks) last' ∧ last'.kind = last.kind := by
  cases h with
  | ended hend =>
    exact ⟨_, .ended (List.forall_mem_append.mpr ⟨hend, hblanks⟩), rfl⟩
  | malformed hlead hbad =>
    obtain ⟨literal', tail', hbad', hsame⟩ := hbad.exists_append_blanks hblanks
    rw [List.append_assoc, List.append_assoc, ← hsame]
    exact ⟨_, .malformed hlead hbad', rfl⟩

/-! ## Texts in front -/

def Token.moved (place : Nat → Nat) (token : Token) : Token :=
  { token with offset := place token.offset }

/-- Texts that begin further behind have their tokens further behind. -/
theorem Scans.add (h : Scans offset text tokens offset' rest) (n : Nat) :
    Scans (offset + n) text (tokens.map (Token.moved (· + n))) (offset' + n) rest := by
  induction h with
  | done => exact .done
  | @next offset offset' blanks literal tail rest kind tokens hblanks hlex hborders _ ih =>
    have hstart : offset + byteLength blanks + n = offset + n + byteLength blanks :=
      Nat.add_right_comm ..
    rw [Nat.add_right_comm, hstart] at ih
    have hnext := Scans.next hblanks hlex hborders ih
    rw [← hstart] at hnext
    exact hnext

theorem Stops.add (h : Stops offset text last) (n : Nat) :
    Stops (offset + n) text (last.moved (· + n)) := by
  cases h with
  | ended hblanks =>
    have hstop : Stops (offset + n) text _ := .ended hblanks
    rw [Nat.add_right_comm] at hstop
    exact hstop
  | malformed hblanks hbad =>
    have hstop : Stops (offset + n) _ _ := .malformed hblanks hbad
    rw [Nat.add_right_comm] at hstop
    exact hstop

theorem toList_scanFrom_add (offset n : Nat) (text : List Char) :
    (scanFrom (offset + n) text).toList =
      (scanFrom offset text).toList.map (Token.moved (· + n)) := by
  obtain ⟨tokens, offset', rest, last, hscans, hstop, -, hlist⟩ := exists_scans offset text
  rw [hlist, (hscans.add n).toList_scanFrom, (hstop.add n).toList_scanFrom, List.map_append,
    List.map_singleton]

theorem toList_scanFrom_append_blanks (hblanks : ∀ c ∈ blanks, isBlank c = true)
    (offset : Nat) (text : List Char) :
    (scanFrom offset (blanks ++ text)).toList =
      (scanFrom (offset + byteLength blanks) text).toList := by
  have happend {more : List Char} (hmore : ∀ c ∈ more, isBlank c = true) :
      ∀ c ∈ blanks ++ more, isBlank c = true := List.forall_mem_append.mpr ⟨hblanks, hmore⟩
  obtain ⟨tokens, offset', rest, last, hscans, hstop, -, hlist⟩ :=
    exists_scans (offset + byteLength blanks) text
  cases hscans with
  | next hmore hlex hborders hscans =>
    rw [toList_scanFrom_lexeme hmore hlex hborders, ← List.append_assoc,
      toList_scanFrom_lexeme (happend hmore) hlex hborders]
    simp only [byteLength_append, Nat.add_assoc]
  | done =>
    rw [hstop.toList_scanFrom]
    cases hstop with
    | ended hmore =>
      rw [toList_scanFrom_blanks (happend hmore), byteLength_append, Nat.add_assoc]
    | malformed hmore hbad =>
      rw [← List.append_assoc, toList_scanFrom_malformed (happend hmore) hbad, byteLength_append,
        Nat.add_assoc]

end Extended

end FilterQuery
