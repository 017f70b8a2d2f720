import FilterQuery.FilterTexts
import FilterQuery.Proofs.CanonicalRoundTrip
import FilterQuery.Proofs.DelimitedTexts

/-!
# Distinct outlines

A filter that is read from a query can be told from its outline at any indentation, whatever its
strings hold.  A field and the name of an operator hold no blank, so each ends at the first one
behind it; what stands there then, a letter or a bracket, tells a constraint from a combination,
also where a field is called like a connective.  The strings are in quotes, and the parts of a
combination are the items of a list.
-/

namespace FilterQuery

/-! ## Hexadecimal digits -/

private theorem digitChar_inj :
    ∀ m < 16, ∀ n < 16, Nat.digitChar m = Nat.digitChar n → m = n := by
  decide

private theorem toDigits_eq (n : Nat) : Nat.toDigits 16 n =
    (if n < 16 then [] else Nat.toDigits 16 (n / 16)) ++ [Nat.digitChar (n % 16)] := by
  split
  case isTrue hn => rw [Nat.toDigits_of_lt_base hn, Nat.mod_eq_of_lt hn, List.nil_append]
  case isFalse hn => rw [Nat.toDigits_of_base_le (by decide) (Nat.not_lt.mp hn)]

theorem exists_digitChar_of_mem_toDigits (n : Nat) :
    ∀ c ∈ Nat.toDigits 16 n, ∃ digit < 16, c = Nat.digitChar digit := by
  induction n using Nat.strongRecOn with
  | ind n ih =>
    intro c hc
    rw [toDigits_eq, List.mem_append, List.mem_singleton] at hc
    rcases hc with hfront | hlast
    · split at hfront
      case isTrue => cases hfront
      case isFalse => exact ih _ (Nat.div_lt_self (by omega) (by decide)) c hfront
    · exact ⟨n % 16, Nat.mod_lt n (by decide), hlast⟩

theorem toDigits_sixteen_inj {m n : Nat} (h : Nat.toDigits 16 m = Nat.toDigits 16 n) : m = n := by
  induction m using Nat.strongRecOn generalizing n with
  | ind m ih =>
    rw [toDigits_eq m, toDigits_eq n] at h
    obtain ⟨hfront, hlast⟩ := List.append_inj' h rfl
    have hmod : m % 16 = n % 16 := digitChar_inj _ (Nat.mod_lt m (by decide)) _
      (Nat.mod_lt n (by decide)) (List.cons.inj hlast).1
    have hdiv : m / 16 = n / 16 := by
      split at hfront
      case isTrue hm =>
        split at hfront
        case isTrue hn => omega
        case isFalse => exact absurd hfront.symm Nat.toDigits_ne_nil
      case isFalse hm =>
        split at hfront
        case isTrue => exact absurd hfront Nat.toDigits_ne_nil
        case isFalse => exact ih _ (Nat.div_lt_self (by omega) (by decide)) hfront
    omega

/-! ## Strings -/

namespace QuotedText

/-- The characters that are escaped by a letter. -/
def lettered : List Char := ['\x00', '\t', '\n', '\r', '"', '\\']

theorem head?_lettered : ∀ c ∈ lettered, (quotedCharacter c).toList.head? = some '\\' :=
  forall_mem_of_all (by decide)

theorem lettered_prefixFree {c d : Char} (hc : c ∈ lettered) (hd : d ∈ lettered)
    (h : (quotedCharacter c).toList <+: (quotedCharacter d).toList) : c = d := by
  have hall : (lettered.all fun c => lettered.all fun d =>
      decide ((quotedCharacter c).toList <+: (quotedCharacter d).toList → c = d)) = true := by
    decide
  exact forall_mem_of_all (List.all_eq_true.mp hall c hc) d hd h

/-- An escape by a letter neither begins an escape by a number nor goes on like one. -/
theorem lettered_apart : ∀ c ∈ lettered, ¬ (quotedCharacter c).toList <+: ['\\', 'u'] ∧
    ¬ ['\\', 'u'] <+: (quotedCharacter c).toList :=
  forall_mem_of_all (by decide)

def numbered (c : Char) : List Char := '\x7b' :: (Nat.toDigits 16 c.toNat ++ ['\x7d'])

theorem toList_of_not_lettered {c : Char} (h : c ∉ lettered) :
    (quotedCharacter c).toList = ['\\', 'u'] ++ numbered c ∨ (quotedCharacter c).toList = [c] := by
  simp only [lettered, List.mem_cons, List.not_mem_nil, or_false, not_or] at h
  obtain ⟨hnul, htab, hline, hreturn, hquote, hslash⟩ := h
  rw [quotedCharacter, if_neg hnul, if_neg htab, if_neg hline, if_neg hreturn, if_neg hquote,
    if_neg hslash]
  split
  case isTrue => exact .inl (by simp [hexadecimal, numbered])
  case isFalse => exact .inr (String.toList_singleton c)

theorem numbered_prefixFree {c d : Char} (h : numbered c <+: numbered d) : c = d := by
  obtain ⟨tail, htail⟩ := h
  have hbrace (c : Char) : ∀ e ∈ Nat.toDigits 16 c.toNat, (e != '\x7d') = true := by
    intro e he
    obtain ⟨digit, -, rfl⟩ := exists_digitChar_of_mem_toDigits _ e he
    simp
  have hstop (tail : List Char) : ∀ e ∈ ('\x7d' :: tail).head?, (e != '\x7d') = false := by
    intro e he
    cases he
    rfl
  rw [numbered, numbered, List.cons_append, List.append_assoc] at htail
  obtain ⟨hdigits, -⟩ := append_inj_of_stop (hbrace c) (hbrace d) (hstop tail) (hstop [])
    (List.cons.inj htail).2
  exact Char.toNat_inj.mp (toDigits_sixteen_inj hdigits)

private theorem toList_of_escape {c : Char} (hc : c ∉ lettered)
    (h : (quotedCharacter c).toList.head? = some '\\') :
    (quotedCharacter c).toList = ['\\', 'u'] ++ numbered c := by
  rcases toList_of_not_lettered hc with hnumber | hplain
  · exact hnumber
  · rw [hplain] at h
    cases h
    exact absurd hc (by decide)

def code : CharacterCode where
  text c := (quotedCharacter c).toList
  escaped_or_plain c := by
    by_cases hc : c ∈ lettered
    · exact .inl (head?_lettered c hc)
    · rcases toList_of_not_lettered hc with hnumber | hplain
      · exact .inl (by rw [hnumber]; rfl)
      · refine .inr ⟨hplain, ?_, ?_⟩
        · rintro rfl
          exact hc (by decide)
        · rintro rfl
          exact hc (by decide)
  escape_prefixFree c d hslash hslash' h := by
    by_cases hc : c ∈ lettered
    · by_cases hd : d ∈ lettered
      · exact lettered_prefixFree hc hd h
      · rw [toList_of_escape hd hslash'] at h
        obtain ⟨hshort, hlong⟩ := lettered_apart c hc
        rcases List.prefix_or_prefix_of_prefix h (List.prefix_append _ _) with hpre | hpre
        · exact absurd hpre hshort
        · exact absurd hpre hlong
    · rw [toList_of_escape hc hslash] at h
      by_cases hd : d ∈ lettered
      · exact absurd ((List.prefix_append _ _).trans h) (lettered_apart d hd).2
      · rw [toList_of_escape hd hslash', List.prefix_append_right_inj] at h
        exact numbered_prefixFree h

theorem toList_quoted (text : String) : (quoted text).toList = code.quoted text.toList := by
  simp [quoted, CharacterCode.quoted, code, List.flatMap_def, Function.comp_def]

end QuotedText

/-! ## Arguments -/

namespace Outline

def writing : ValueWriting :=
  ⟨QuotedText.code, .plain, by decide,
    fun x => if x.isNaN then "NaN" else if x.negative then "-inf" else "inf"⟩

theorem toList_value (value : Value) : value.display.toList = writing.text value := by
  cases value with
  | string text => exact QuotedText.toList_quoted text
  | _ => rfl

def valueLayout : ListLayout := ⟨[], [' '], [], by simp, by simp⟩

def partLayout (indent : Nat) : ListLayout :=
  ⟨['\n'], ['\n'], '\n' :: (Filter.tabs indent).toList, by simp, by simp⟩

theorem toList_display (argument : Argument) :
    argument.display.toList = writing.argumentText valueLayout argument := by
  cases argument with
  | one value => exact toList_value value
  | list values =>
    cases values with
    | nil => rfl
    | cons first rest =>
      have hne : (first :: rest).map Value.display ≠ [] := by simp
      have htext := valueLayout.bracketed_toList hne (by rfl : ", ".toList = ',' :: [' '])
      rw [List.map_map] at htext
      rw [ValueWriting.argumentText, ← funext toList_value]
      refine Eq.trans ?_ htext.symm
      simp [Argument.display, valueLayout]

/-- The parts of a combination, if it has any, with what ends the last of them. -/
theorem toList_outlineParts (indent : Nat) (first : Filter) (rest : List Filter) :
    (Filter.outlineParts indent (first :: rest)).toList =
      (Filter.outline indent first).toList ++
        (rest.flatMap (fun part => ',' :: '\n' :: (Filter.outline indent part).toList) ++
          ['\n']) := by
  induction rest generalizing first with
  | nil => simp [Filter.outlineParts]
  | cons second rest ih =>
    rw [Filter.outlineParts, String.toList_append, ih second]
    simp

theorem toList_outline_combination (indent : Nat) (op : Connective) {parts : List Filter}
    (hne : parts ≠ []) :
    (Filter.outline indent (.combination op parts)).toList =
      (Filter.tabs indent).toList ++ (op.name.toList ++
        ' ' :: (partLayout indent).bracketed
          (parts.map fun part => (Filter.outline (indent + 1) part).toList)) := by
  obtain ⟨first, rest, rfl⟩ := List.exists_cons_of_ne_nil hne
  rw [Filter.outline]
  simp only [String.toList_append, toList_outlineParts]
  simp [ListLayout.bracketed, partLayout, List.flatMap_map]

theorem toList_outline_constraint (indent : Nat) (field : String) (op : Comparison)
    (argument : Argument) :
    (Filter.outline indent (.constraint field op argument)).toList =
      (Filter.tabs indent).toList ++ (field.toList ++ ' ' :: (op.name.toList ++
        ' ' :: writing.argumentText valueLayout argument)) := by
  rw [Filter.outline, ← toList_display]
  simp

end Outline

/-! ## Filters -/

section Words

variable {word word' rest rest' : List Char}

theorem word_inj (hword : ∀ c ∈ word, continuesIdentifier c = true)
    (hword' : ∀ c ∈ word', continuesIdentifier c = true)
    (h : word ++ ' ' :: rest = word' ++ ' ' :: rest') : word = word' ∧ rest = rest' := by
  have hstop (tail : List Char) : ∀ c ∈ (' ' :: tail).head?, continuesIdentifier c = false := by
    intro c hc
    cases hc
    decide
  obtain ⟨rfl, hrests⟩ := append_inj_of_stop hword hword' (hstop rest) (hstop rest') h
  exact ⟨rfl, (List.cons.inj hrests).2⟩

end Words

theorem Comparison.name_inj {op op' : Comparison} (h : op.name = op'.name) : op = op' := by
  revert h
  cases op <;> cases op' <;> decide

theorem Connective.name_inj {op op' : Connective} (h : op.name = op'.name) : op = op' := by
  revert h
  cases op <;> cases op' <;> decide

theorem Comparison.word_name (op : Comparison) :
    ∀ c ∈ op.name.toList, continuesIdentifier c = true :=
  forall_mem_of_all (by cases op <;> decide)

theorem Connective.word_name (op : Connective) :
    ∀ c ∈ op.name.toList, continuesIdentifier c = true :=
  forall_mem_of_all (by cases op <;> decide)

theorem Value.IsWritable.isFinite {value : Value} (h : value.IsWritable) : value.IsFinite := by
  cases value with
  | float x => exact h
  | _ => trivial

theorem Argument.Suits.isFinite {op : Comparison} {argument : Argument} (h : argument.Suits op) :
    argument.IsFinite := by
  cases h with
  | any _ hwritable => exact hwritable.isFinite
  | ordered _ _ hwritable => exact hwritable.isFinite
  | list _ _ _ hwritable => exact fun value hvalue => (hwritable value hvalue).isFinite

namespace Filter

open Outline

/-- Behind a field there is a word, and behind the name of a connective a bracket. -/
private theorem outline_constraint_ne {field : String} {parts : List Filter}
    (hfield : classify field.toList = .identifier) (hne : parts ≠ []) (indent : Nat)
    (op : Comparison) (argument : Argument) (op' : Connective) (rest rest' : List Char) :
    (outline indent (.constraint field op argument)).toList ++ rest ≠
      (outline indent (.combination op' parts)).toList ++ rest' := by
  intro h
  rw [toList_outline_constraint, toList_outline_combination indent op' hne] at h
  simp only [List.append_assoc, List.cons_append] at h
  obtain ⟨-, hbehind⟩ := word_inj (characters_of_identifier hfield).2 op'.word_name
    (List.append_cancel_left h)
  obtain ⟨first, others, rfl⟩ := List.exists_cons_of_ne_nil hne
  cases op <;> cases hbehind

/-- Every part of a combination is further in, so it begins with a tab. -/
private theorem exists_tab (indent : Nat) (filter : Filter) :
    ∃ c tail, (outline (indent + 1) filter).toList = c :: tail ∧ c ≠ ']' := by
  have htabs : (tabs (indent + 1)).toList = '\t' :: List.replicate indent '\t' := by
    rw [tabs, String.toList_ofList, List.replicate_succ]
  cases filter with
  | constraint =>
    rw [toList_outline_constraint, htabs]
    exact ⟨'\t', _, rfl, by decide⟩
  | combination =>
    simp only [outline, String.toList_append, htabs, List.cons_append]
    exact ⟨'\t', _, rfl, by decide⟩

/-- The outline of a filter tells the filter, in front of what closes it. -/
theorem IsPrintable.tells_outline {filter : Filter} (h : filter.IsPrintable) :
    ∀ indent, Tells IsPrintable (fun other => (outline indent other).toList) filter := by
  induction h with
  | @constraint field op argument hfield hsuits =>
    intro indent other rest rest' hother hrest hrest' htext
    cases hother with
    | combination hne => exact absurd htext (outline_constraint_ne hfield hne _ _ _ _ _ _)
    | @constraint field' op' argument' hfield' hsuits' =>
      dsimp only at htext
      rw [toList_outline_constraint, toList_outline_constraint] at htext
      simp only [List.append_assoc, List.cons_append] at htext
      obtain ⟨hname, hsecond⟩ := word_inj (characters_of_identifier hfield).2
        (characters_of_identifier hfield').2 (List.append_cancel_left htext)
      obtain rfl := String.toList_inj.mp hname
      obtain ⟨hop, hthird⟩ := word_inj op.word_name op'.word_name hsecond
      obtain rfl := Comparison.name_inj (String.toList_inj.mp hop)
      obtain ⟨rfl, hrests⟩ := writing.tells_argument valueLayout hsuits.isFinite argument' rest
        rest' hsuits'.isFinite hrest hrest' hthird
      exact ⟨rfl, hrests⟩
  | @combination op parts hne hprintable ih =>
    intro indent other rest rest' hother hrest hrest' htext
    cases hother with
    | constraint hfield =>
      exact absurd htext.symm (outline_constraint_ne hfield hne _ _ _ _ _ _)
    | @combination op' parts' hne' hprintable' =>
      dsimp only at htext
      rw [toList_outline_combination indent op hne,
        toList_outline_combination indent op' hne'] at htext
      simp only [List.append_assoc, List.cons_append] at htext
      obtain ⟨hname, hsecond⟩ := word_inj op.word_name op'.word_name
        (List.append_cancel_left htext)
      obtain rfl := Connective.name_inj (String.toList_inj.mp hname)
      obtain ⟨rfl, hrests⟩ := (partLayout indent).bracketed_inj
        (fun part _ => exists_tab indent part) hprintable hprintable'
        (fun part hmem => ih part hmem (indent + 1)) hsecond
      exact ⟨rfl, hrests⟩

end Filter

/-- Two queries that are read as filters with the same outline, at some indentation, are read as
the same filter, down to the bits of its floats. -/
theorem eq_of_outline_eq {query query' : String} {x y : Filter} (h : parse query = .ok x)
    (h' : parse query' = .ok y) {indent : Nat} (htext : x.outline indent = y.outline indent) :
    x = y := by
  have hx := (isCanonical_of_parse h).1.isPrintable
  have hy := (isCanonical_of_parse h').1.isPrintable
  have htext : (x.outline indent).toList ++ [] = (y.outline indent).toList ++ [] := by rw [htext]
  exact (hx.tells_outline indent y [] [] hy closes_nil closes_nil htext).1

theorem eq_of_outline_eq_respelled :
    ∃ filter filter', parse "And==\"]\\,b=in=(1,x]);c!=-0.0" = .ok filter ∧
      parse "And=eq= \"]\\ , (b=in=(1, x]) ; c!=-0e7)" = .ok filter' ∧
      filter.outline 2 = filter'.outline 2 ∧ filter = filter' := by
  let filter := Filter.combination .or [.constraint "And" .equal (.one (.string "\"]\\")),
    .combination .and [.constraint "b" .within (.list [.integer 1, .string "x]"]),
      .constraint "c" .notEqual (.one (.float ⟨true, 0, by decide⟩))]]
  have h : parse "And==\"]\\,b=in=(1,x]);c!=-0.0" = .ok filter :=
    parse_eq_ok_of_toOption (by decide +kernel)
  have h' : parse "And=eq= \"]\\ , (b=in=(1, x]) ; c!=-0e7)" = .ok filter :=
    parse_eq_ok_of_toOption (by decide +kernel)
  exact ⟨filter, filter, h, h', rfl, eq_of_outline_eq h h' (rfl : filter.outline 2 = _)⟩

end FilterQuery
