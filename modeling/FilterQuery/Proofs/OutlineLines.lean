import FilterQuery.Proofs.DistinctListings
import FilterQuery.Proofs.ParserRestarts

/-!
# Outline lines

An outline at an indentation has the lines of the outline at the margin, each behind as many tabs.
There is one line for each condition of the filter, and there are two for each of its combinations,
which may be empty.  Strings are in quotes and never hold a raw line break, so whatever they are,
only the fields of a filter can add a line; fields that are read from a query add none.
-/

namespace FilterQuery

/-! ## Lines of texts -/

def lines (text : String) : List String := (text.split '\n').toList.map (·.copy)

def lineBreaks (text : String) : Nat := text.toList.count '\n'

@[simp] theorem lineBreaks_append (x y : String) :
    lineBreaks (x ++ y) = lineBreaks x + lineBreaks y := by
  rw [lineBreaks, String.toList_append, List.count_append, lineBreaks, lineBreaks]

theorem lines_eq_splitOn (text : String) :
    lines text = (List.splitOn '\n' text.toList).map String.ofList :=
  String.toList_split_char

theorem lines_of_unbroken {text : String} (h : lineBreaks text = 0) : lines text = [text] := by
  rw [lines_eq_splitOn, List.splitOn_eq_singleton (List.count_eq_zero.mp h), List.map_singleton,
    String.ofList_toList]

theorem lines_append_break (x y : String) : lines (x ++ "\n" ++ y) = lines x ++ lines y := by
  have htext : (x ++ "\n" ++ y).toList = x.toList ++ '\n' :: y.toList := by simp
  simp only [lines_eq_splitOn, htext, List.splitOn_append_cons_self, List.map_append]

theorem length_lines (text : String) : (lines text).length = lineBreaks text + 1 := by
  rw [lines_eq_splitOn, List.length_map, lineBreaks]
  induction text.toList with
  | nil => rfl
  | cons c cs ih =>
    rw [List.splitOn_cons_eq_if_modifyHead]
    split
    case isTrue hbreak => rw [List.length_cons, ih, beq_iff_eq.mp hbreak, List.count_cons_self]
    case isFalse hplain => rw [List.length_modifyHead, ih, List.count_cons, if_neg hplain]

/-! ## Texts without line breaks -/

theorem lineBreaks_name_connective (op : Connective) : lineBreaks op.name = 0 := by
  cases op <;> decide

theorem lineBreaks_name_comparison (op : Comparison) : lineBreaks op.name = 0 := by
  cases op <;> decide

theorem lineBreaks_of_isPlain {text : String} (h : ∀ c ∈ text.toList, isPlain c = true) :
    lineBreaks text = 0 := by
  refine List.count_eq_zero.mpr fun hmem => ?_
  exact absurd (h '\n' hmem) (by decide)

theorem Binary64.lineBreaks_text (x : Binary64) : lineBreaks x.text = 0 := by
  unfold text
  split
  case isTrue hfinite => exact lineBreaks_of_isPlain (isPlainText_float (by decide) hfinite).plain
  case isFalse =>
    split
    case isTrue => decide
    case isFalse => split <;> decide

theorem Value.lineBreaks_display (value : Value) : lineBreaks value.display = 0 := by
  cases value with
  | string text => exact List.count_eq_zero.mpr (QuotedText.newline_not_mem_quoted text)
  | integer n => exact lineBreaks_of_isPlain (isPlainText_integer n).plain
  | float x => exact x.lineBreaks_text
  | boolean b => cases b <;> decide
  | null => decide

theorem Argument.lineBreaks_display (argument : Argument) : lineBreaks argument.display = 0 := by
  cases argument with
  | one value => exact value.lineBreaks_display
  | list values =>
    have hvalues : ((values.map Value.display).flatMap String.toList).count '\n' = 0 := by
      induction values with
      | nil => rfl
      | cons value values ih =>
        have hvalue := value.lineBreaks_display
        rw [lineBreaks] at hvalue
        rw [List.map_cons, List.flatMap_cons, List.count_append, hvalue, ih]
    rw [display, lineBreaks_append, lineBreaks_append, lineBreaks, lineBreaks, lineBreaks,
      count_intercalate (by decide), hvalues]
    decide

namespace Filter

theorem lineBreaks_tabs (indent : Nat) : lineBreaks (tabs indent) = 0 := by
  rw [lineBreaks, tabs, String.toList_ofList, List.count_replicate]
  rfl

theorem tabs_add (m n : Nat) : tabs (m + n) = tabs m ++ tabs n := by
  rw [tabs, tabs, tabs, ← String.ofList_append, List.replicate_append_replicate]

/-! ## Combinations and fields -/

mutual

def combinations : Filter → Nat
  | constraint .. => 0
  | combination _ parts => partCombinations parts + 1

def partCombinations : List Filter → Nat
  | [] => 0
  | part :: rest => part.combinations + partCombinations rest

end

/-- The number of line breaks in the fields of some conditions. -/
def fieldBreaks (conditions : List Condition) : Nat :=
  (conditions.flatMap fun condition => condition.field.toList).count '\n'

theorem fieldBreaks_singleton (field : String) (op : Comparison) (argument : Argument) :
    fieldBreaks [⟨field, op, argument⟩] = lineBreaks field := by
  rw [fieldBreaks, List.flatMap_singleton, lineBreaks]

theorem fieldBreaks_append (xs ys : List Condition) :
    fieldBreaks (xs ++ ys) = fieldBreaks xs + fieldBreaks ys := by
  rw [fieldBreaks, List.flatMap_append, List.count_append, fieldBreaks, fieldBreaks]

/-! ## Lines of outlines -/

section Lines

variable {ending : String}

theorem lineBreaks_constraint (indent : Nat) (field : String) (op : Comparison)
    (argument : Argument) :
    lineBreaks (outline indent (.constraint field op argument)) = lineBreaks field := by
  have hblank : lineBreaks " " = 0 := by decide
  simp only [outline, lineBreaks_append, lineBreaks_tabs, hblank, lineBreaks_name_comparison,
    argument.lineBreaks_display]
  omega

/-- What stands behind a part on its last line. -/
def commaBefore (rest : List Filter) : String := if rest.isEmpty then "" else ","

theorem lineBreaks_commaBefore (rest : List Filter) : lineBreaks (commaBefore rest) = 0 := by
  unfold commaBefore
  split <;> decide

theorem lines_tabs_append {text : String} (h : lineBreaks text = 0) (indent : Nat) :
    lines (tabs indent ++ text) = [tabs indent ++ text] := by
  refine lines_of_unbroken ?_
  rw [lineBreaks_append, lineBreaks_tabs, h]

theorem lines_outlineParts_cons (indent : Nat) (part : Filter) (rest : List Filter)
    (behind : String) :
    lines (outlineParts indent (part :: rest) ++ behind) =
      lines (outline indent part ++ commaBefore rest) ++
        lines (outlineParts indent rest ++ behind) := by
  have htext : outlineParts indent (part :: rest) ++ behind =
      (outline indent part ++ commaBefore rest) ++ "\n" ++ (outlineParts indent rest ++ behind) := by
    cases rest <;> simp [outlineParts, commaBefore, String.append_assoc]
  rw [htext, lines_append_break]

/-- A line opens a combination, the lines of its parts follow, and a line closes it. -/
theorem lines_outline_combination (indent : Nat) (op : Connective) (parts : List Filter)
    (ending : String) :
    lines (outline indent (.combination op parts) ++ ending) =
      (tabs indent ++ (op.name ++ " [")) ::
        lines (outlineParts (indent + 1) parts ++ (tabs indent ++ ("]" ++ ending))) := by
  have hopening : lineBreaks (op.name ++ " [") = 0 := by
    rw [lineBreaks_append, lineBreaks_name_connective]
    decide
  have htext : outline indent (.combination op parts) ++ ending =
      tabs indent ++ (op.name ++ " [") ++ "\n" ++
        (outlineParts (indent + 1) parts ++ (tabs indent ++ ("]" ++ ending))) := by
    have hbreak : " [\n" = " [" ++ "\n" := by decide
    simp only [outline, hbreak, String.append_assoc]
  rw [htext, lines_append_break, lines_tabs_append hopening, List.singleton_append]

theorem lineBreaks_closing (h : lineBreaks ending = 0) : lineBreaks ("]" ++ ending) = 0 := by
  rw [lineBreaks_append, h]
  decide

/-! ## Numbers of lines -/

private theorem length_lines_outlineParts {parts : List Filter}
    (h : ∀ part ∈ parts, ∀ indent ending, lineBreaks ending = 0 →
      (lines (outline indent part ++ ending)).length =
        part.conditions.length + 2 * part.combinations + fieldBreaks part.conditions)
    (indent : Nat) (behind : String) :
    (lines (outlineParts indent parts ++ behind)).length = (partConditions parts).length +
      2 * partCombinations parts + fieldBreaks (partConditions parts) + (lines behind).length := by
  induction parts with
  | nil =>
    have hnone : fieldBreaks [] = 0 := rfl
    simp [outlineParts, partConditions, partCombinations, hnone]
  | cons part rest ih =>
    have hpart := h part List.mem_cons_self indent _ (lineBreaks_commaBefore rest)
    have hrest := ih fun p hmem => h p (List.mem_cons_of_mem _ hmem)
    rw [lines_outlineParts_cons, List.length_append, hpart, hrest, partConditions,
      partCombinations, List.length_append, fieldBreaks_append]
    omega

/-- An outline has a line for each condition, two for each combination, and one more for each line
break in a field, with anything unbroken behind its last line. -/
theorem length_lines_outline (filter : Filter) (indent : Nat) (h : lineBreaks ending = 0) :
    (lines (outline indent filter ++ ending)).length =
      filter.conditions.length + 2 * filter.combinations + fieldBreaks filter.conditions := by
  induction filter using parts_induction generalizing indent ending with
  | constraint field op argument =>
    rw [length_lines, lineBreaks_append, lineBreaks_constraint, h, conditions, combinations,
      fieldBreaks_singleton, List.length_singleton]
    omega
  | combination op parts ih =>
    -- the last line of a part goes on with a comma, so the ending differs from part to part
    have hparts := length_lines_outlineParts (fun part hmem indent ending => ih part hmem indent)
      (indent + 1) (tabs indent ++ ("]" ++ ending))
    rw [lines_tabs_append (lineBreaks_closing h), List.length_singleton] at hparts
    rw [lines_outline_combination, List.length_cons, hparts, conditions, combinations]
    omega

/-! ## Indentation -/

private theorem lines_outlineParts_add {shift : Nat} {parts : List Filter} {behind behind' : String}
    (h : ∀ part ∈ parts, fieldBreaks part.conditions = 0 → ∀ indent ending,
      lineBreaks ending = 0 → lines (outline (shift + indent) part ++ ending) =
        (lines (outline indent part ++ ending)).map (tabs shift ++ ·))
    (hbreaks : fieldBreaks (partConditions parts) = 0)
    (hbehind : lines behind' = (lines behind).map (tabs shift ++ ·)) (indent : Nat) :
    lines (outlineParts (shift + indent) parts ++ behind') =
      (lines (outlineParts indent parts ++ behind)).map (tabs shift ++ ·) := by
  induction parts with
  | nil => simpa [outlineParts] using hbehind
  | cons part rest ih =>
    rw [partConditions, fieldBreaks_append, Nat.add_eq_zero_iff] at hbreaks
    have hpart := h part List.mem_cons_self hbreaks.1 indent _ (lineBreaks_commaBefore rest)
    have hrest := ih (fun p hmem => h p (List.mem_cons_of_mem _ hmem)) hbreaks.2
    rw [lines_outlineParts_cons, lines_outlineParts_cons, hpart, hrest, List.map_append]

/-- Further in, the lines are the same behind more tabs. -/
theorem lines_outline_add {filter : Filter} (hbreaks : fieldBreaks filter.conditions = 0)
    (shift indent : Nat) (h : lineBreaks ending = 0) :
    lines (outline (shift + indent) filter ++ ending) =
      (lines (outline indent filter ++ ending)).map (tabs shift ++ ·) := by
  induction filter using parts_induction generalizing indent ending with
  | constraint field op argument =>
    rw [conditions, fieldBreaks_singleton] at hbreaks
    have hline (n : Nat) :
        lineBreaks (outline n (.constraint field op argument) ++ ending) = 0 := by
      rw [lineBreaks_append, lineBreaks_constraint, hbreaks, h]
    rw [lines_of_unbroken (hline _), lines_of_unbroken (hline _), List.map_singleton]
    simp only [outline, tabs_add, String.append_assoc]
  | combination op parts ih =>
    have hclosing : lines (tabs (shift + indent) ++ ("]" ++ ending)) =
        (lines (tabs indent ++ ("]" ++ ending))).map (tabs shift ++ ·) := by
      rw [lines_tabs_append (lineBreaks_closing h), lines_tabs_append (lineBreaks_closing h),
        List.map_singleton, tabs_add, String.append_assoc]
    have hparts := lines_outlineParts_add
      (fun part hmem hbreaks indent ending h => ih part hmem hbreaks indent h) hbreaks hclosing
      (indent + 1)
    rw [lines_outline_combination, lines_outline_combination, List.map_cons, ← hparts, tabs_add,
      String.append_assoc, Nat.add_assoc]

end Lines

/-! ## Numbered parts -/

private theorem numberedParts_eq {parts : List Filter}
    (h : ∀ part ∈ parts, ∀ indent, numberedOutline indent part = some (outline indent part))
    (indent : Nat) {count number : Nat} (hcount : count = number + parts.length) :
    numberedParts indent count number parts = some (outlineParts indent parts) := by
  induction parts generalizing number with
  | nil => rfl
  | cons part rest ih =>
    have hpart := h part List.mem_cons_self indent
    have hrest := ih (fun p hmem => h p (List.mem_cons_of_mem _ hmem))
      (by rw [hcount, List.length_cons]; omega : count = number + 1 + rest.length)
    -- this part is among those that are counted, so there is a last one
    have hlast : lastNumber? count = some (number + rest.length) := by
      rw [hcount, List.length_cons, ← Nat.add_assoc, lastNumber?]
    have hcomma : (if number < number + rest.length then ",\n" else "\n") =
        if rest.isEmpty then "\n" else ",\n" := by
      cases rest <;> simp
    rw [numberedParts, hpart, hlast, hrest, outlineParts, ← hcomma]
    rfl

/-- An outline is put together by the numbers of parts without asking for a last part where there
are no parts, also if combinations are empty. -/
theorem numberedOutline_eq (filter : Filter) (indent : Nat) :
    numberedOutline indent filter = some (outline indent filter) := by
  induction filter using parts_induction generalizing indent with
  | constraint => rfl
  | combination op parts ih =>
    rw [numberedOutline, numberedParts_eq ih (indent + 1) (Nat.zero_add _).symm, outline]
    rfl

end Filter

/-! ## Outlines of queries -/

theorem Filter.IsCanonical.fieldBreaks_eq {filter : Filter} (h : filter.IsCanonical) :
    fieldBreaks filter.conditions = 0 := by
  have hwritable := (isCanonical_iff.mp h).2
  refine List.count_eq_zero.mpr fun hmem => ?_
  obtain ⟨condition, hcondition, hbreak⟩ := List.mem_flatMap.mp hmem
  have hplain := (characters_of_identifier (hwritable condition hcondition).identifier).2 _ hbreak
  exact absurd (isBlank_of_continuesIdentifier hplain) (by decide)

/-- At an indentation, each filter that a parser comes to has the lines that it has at the margin,
each behind as many tabs: one line for each condition and two for each combination.  Whatever the
strings of a filter hold, only line breaks in its fields can add to that, and however many parts its
combinations have, a last part is looked up only where there is one. -/
theorem outline_evenly_indented {query : String} {skipped : Nat} {requests : List Request}
    {results : List (Except ParseError Filter)} {final : Parser} {filter : Filter}
    (hserve : (Parser.begun query skipped).serve requests = some (results, final))
    (hmem : .ok filter ∈ results) (indent : Nat) (other : Filter) :
    lines (filter.outline indent) = (lines (filter.outline 0)).map (Filter.tabs indent ++ ·) ∧
    (lines (filter.outline indent)).length =
      filter.conditions.length + 2 * filter.combinations ∧
    (lines (other.outline indent)).length = other.conditions.length + 2 * other.combinations +
      Filter.fieldBreaks other.conditions ∧
    other.numberedOutline indent = some (other.outline indent) := by
  have hbreaks := (Parser.isCanonical_of_serve hserve hmem).fieldBreaks_eq
  have hempty : lineBreaks "" = 0 := rfl
  have hlines := Filter.lines_outline_add hbreaks indent 0 hempty
  have hlength := filter.length_lines_outline indent hempty
  have hlength' := other.length_lines_outline indent hempty
  rw [String.append_empty, String.append_empty] at hlines
  rw [String.append_empty] at hlength hlength'
  rw [hbreaks] at hlength
  exact ⟨hlines, hlength, hlength', other.numberedOutline_eq indent⟩

theorem outline_evenly_indented_broken_string :
    ∃ filter, parse "a==x\ny;(b==1,c=in=(p\"q,2))" = .ok filter ∧
      (∃ final, (Parser.begun "a==x\ny;(b==1,c=in=(p\"q,2))" 0).serve [.query] =
        some ([.ok filter], final)) ∧
      lines (filter.outline 2) = (lines (filter.outline 0)).map (Filter.tabs 2 ++ ·) ∧
      (lines (filter.outline 2)).length = 7 ∧
      (lines ((Filter.combination .or []).outline 2)).length = 2 ∧
      (Filter.combination .or []).numberedOutline 2 =
        some ((Filter.combination .or []).outline 2) := by
  let filter := Filter.combination .and [.constraint "a" .equal (.one (.string "x\ny")),
    .combination .or [.constraint "b" .equal (.one (.integer 1)),
      .constraint "c" .within (.list [.string "p\"q", .integer 2])]]
  have h : parse "a==x\ny;(b==1,c=in=(p\"q,2))" = .ok filter :=
    parse_eq_ok_of_toOption (by decide +kernel)
  obtain ⟨final, hserve⟩ := Parser.exists_serve_query "a==x\ny;(b==1,c=in=(p\"q,2))"
  rw [h] at hserve
  obtain ⟨hlines, hlength, hempty, hnumbered⟩ :=
    outline_evenly_indented hserve (List.mem_singleton.mpr rfl) 2 (.combination .or [])
  exact ⟨filter, h, ⟨final, hserve⟩, hlines, hlength, hempty, hnumbered⟩

end FilterQuery
