import FilterQuery.FilterTexts
import FilterQuery.Proofs.DelimitedTexts

/-!
# Distinct JSON texts

A filter can be told from its JSON text, as long as its floats are finite: whatever its fields and
strings hold, and also if its combinations have no parts.  The first member tells constraints and
combinations apart, and each member ends where its string, its value or its list does.
-/

namespace FilterQuery

namespace JsonText

/-! ## Strings -/

/-- The characters that are escaped. -/
def escapes : List Char := '"' :: '\\' :: (List.range 32).map Char.ofNat

theorem head?_character_of_mem : ∀ c ∈ escapes, (character c).toList.head? = some '\\' :=
  forall_mem_of_all (by decide +kernel)

theorem character_prefixFree {c d : Char} (hc : c ∈ escapes) (hd : d ∈ escapes)
    (h : (character c).toList <+: (character d).toList) : c = d := by
  have hall : (escapes.all fun c => escapes.all fun d =>
      decide ((character c).toList <+: (character d).toList → c = d)) = true := by
    decide +kernel
  exact forall_mem_of_all (List.all_eq_true.mp hall c hc) d hd h

theorem toList_character_of_not_mem {c : Char} (h : c ∉ escapes) : (character c).toList = [c] := by
  simp only [escapes, List.mem_cons, not_or] at h
  obtain ⟨hquote, hslash, hcontrol⟩ := h
  have hlarge : ¬ c.toNat < 32 := fun hlt =>
    hcontrol (List.mem_map.mpr ⟨c.toNat, List.mem_range.mpr hlt, Char.ofNat_toNat c⟩)
  have hne {d : Char} (hd : d.toNat < 32) : c ≠ d := by
    rintro rfl
    exact hlarge hd
  rw [character, if_neg hquote, if_neg hslash, if_neg (hne (by decide)), if_neg (hne (by decide)),
    if_neg (hne (by decide)), if_neg (hne (by decide)), if_neg (hne (by decide)),
    if_neg (by omega), if_neg hlarge, String.toList_singleton]

theorem mem_escapes {c : Char} (h : (character c).toList.head? = some '\\') : c ∈ escapes := by
  by_cases hc : c ∈ escapes
  · exact hc
  · rw [toList_character_of_not_mem hc] at h
    cases h
    decide +kernel

def code : CharacterCode where
  text c := (character c).toList
  escaped_or_plain c := by
    by_cases hc : c ∈ escapes
    · exact .inl (head?_character_of_mem c hc)
    · refine .inr ⟨toList_character_of_not_mem hc, ?_, ?_⟩
      · rintro rfl
        exact hc List.mem_cons_self
      · rintro rfl
        exact hc (List.mem_cons_of_mem _ List.mem_cons_self)
  escape_prefixFree c d hc hd := character_prefixFree (mem_escapes hc) (mem_escapes hd)

theorem toList_string (text : String) : (string text).toList = code.quoted text.toList := by
  simp [string, CharacterCode.quoted, code, List.flatMap_def, Function.comp_def]

/-! ## Values -/

def writing : ValueWriting := ⟨code, .json, by decide, fun _ => "null"⟩

theorem toList_value (value : Value) : value.jsonText.toList = writing.text value := by
  cases value with
  | string text => exact toList_string text
  | _ => rfl

/-! ## Arrays and objects -/

theorem lineBreak_head (pretty : Bool) (depth : Nat) :
    ∀ c ∈ (lineBreak pretty depth).toList.head?, c = '\n' := by
  intro c hc
  cases pretty with
  | true =>
    rw [lineBreak, if_pos rfl, String.toList_ofList] at hc
    cases hc
    rfl
  | false => cases hc

def layout (pretty : Bool) (depth : Nat) : ListLayout where
  lead := (lineBreak pretty (depth + 1)).toList
  gap := (lineBreak pretty (depth + 1)).toList
  trail := (lineBreak pretty depth).toList
  lead_break := lineBreak_head pretty (depth + 1)
  trail_break := lineBreak_head pretty depth

theorem toList_array (pretty : Bool) (depth : Nat) (items : List String) :
    (array pretty depth items).toList =
      (layout pretty depth).bracketed (items.map String.toList) := by
  cases items with
  | nil => simp [array, enclosed, ListLayout.bracketed]
  | cons first rest =>
    have hne : first :: rest ≠ [] := List.cons_ne_nil first rest
    have hseparator : ("," ++ lineBreak pretty (depth + 1)).toList =
        ',' :: (layout pretty depth).gap := by simp [layout]
    rw [ListLayout.bracketed_toList _ hne hseparator]
    simp [array, enclosed, layout]

/-- A member of an object with what stands in front of it. -/
def memberLine (pretty : Bool) (depth : Nat) (key value : String) : List Char :=
  (lineBreak pretty (depth + 1)).toList ++ (member pretty key value).toList

theorem toList_object (pretty : Bool) (depth : Nat) (first : String × String)
    (others : List (String × String)) :
    (object pretty depth (first :: others)).toList =
      '\x7b' :: (memberLine pretty depth first.1 first.2 ++
        (others.flatMap (fun m => ',' :: memberLine pretty depth m.1 m.2) ++
          ((lineBreak pretty depth).toList ++ ['\x7d']))) := by
  rw [object, enclosed, if_neg (by simp), List.map_cons, String.toList_append,
    String.toList_append, String.toList_append, String.toList_append, toList_intercalate_cons,
    List.flatMap_map]
  simp [memberLine]

variable {pretty : Bool} {depth : Nat} {key key' value value' : String} {rest rest' : List Char}

theorem string_inj (h : (string value).toList ++ rest = (string value').toList ++ rest') :
    value = value' ∧ rest = rest' := by
  rw [toList_string, toList_string] at h
  obtain ⟨hvalue, hrest⟩ := code.quoted_inj h
  exact ⟨String.toList_inj.mp hvalue, hrest⟩

private theorem memberLine_append (pretty : Bool) (depth : Nat) (key value : String)
    (rest : List Char) :
    memberLine pretty depth key value ++ rest =
      (lineBreak pretty (depth + 1)).toList ++ ((string key).toList ++
        ((if pretty then ": " else ":").toList ++ (value.toList ++ rest))) := by
  simp [memberLine, member]

theorem memberLine_inj
    (h : memberLine pretty depth key value ++ rest = memberLine pretty depth key' value' ++ rest') :
    key = key' ∧ value.toList ++ rest = value'.toList ++ rest' := by
  rw [memberLine_append, memberLine_append] at h
  obtain ⟨hkey, hrest⟩ := string_inj (List.append_cancel_left h)
  exact ⟨hkey, List.append_cancel_left hrest⟩

end JsonText

/-! ## Filters -/

theorem Argument.toList_jsonText (argument : Argument) (pretty : Bool) (depth : Nat) :
    (argument.jsonText pretty depth).toList =
      JsonText.writing.argumentText (JsonText.layout pretty depth) argument := by
  cases argument with
  | one value => exact JsonText.toList_value value
  | list values =>
    rw [Argument.jsonText, JsonText.toList_array, List.map_map, ValueWriting.argumentText,
      ← funext JsonText.toList_value]
    rfl

theorem Comparison.key_inj {op op' : Comparison} (h : op.key = op'.key) : op = op' := by
  have hkey := op.ofKey?_key
  rw [h, Comparison.ofKey?_key] at hkey
  exact (Option.some.inj hkey).symm

theorem Connective.key_inj {op op' : Connective} (h : op.key = op'.key) : op = op' := by
  revert h
  cases op <;> cases op' <;> decide

namespace Filter

open JsonText

inductive IsFinite : Filter → Prop where
  | constraint {field : String} {op : Comparison} {argument : Argument}
      (finite : argument.IsFinite) : IsFinite (.constraint field op argument)
  | combination {op : Connective} {parts : List Filter}
      (finite : ∀ part ∈ parts, IsFinite part) : IsFinite (.combination op parts)

theorem jsonTextsAt_eq_map (pretty : Bool) (depth : Nat) (parts : List Filter) :
    jsonTextsAt pretty depth parts = parts.map (jsonTextAt pretty depth) := by
  induction parts with
  | nil => rfl
  | cons part rest ih => rw [jsonTextsAt, ih, List.map_cons]

variable {pretty : Bool} {depth : Nat} {rest rest' : List Char}

private theorem toList_jsonText_constraint (field : String) (op : Comparison) (argument : Argument)
    (rest : List Char) :
    (jsonTextAt pretty depth (.constraint field op argument)).toList ++ rest =
      '\x7b' :: (memberLine pretty depth "field" (string field) ++
        ',' :: (memberLine pretty depth "operator" (string op.key) ++
          ',' :: (memberLine pretty depth "value" (argument.jsonText pretty (depth + 1)) ++
            ((lineBreak pretty depth).toList ++ '\x7d' :: rest)))) := by
  rw [jsonTextAt, toList_object]
  simp

private theorem toList_jsonText_combination (op : Connective) (parts : List Filter)
    (rest : List Char) :
    (jsonTextAt pretty depth (.combination op parts)).toList ++ rest =
      '\x7b' :: (memberLine pretty depth "nodes"
          (array pretty (depth + 1) (parts.map (jsonTextAt pretty (depth + 2)))) ++
        ',' :: (memberLine pretty depth "operator" (string op.key) ++
          ((lineBreak pretty depth).toList ++ '\x7d' :: rest))) := by
  rw [jsonTextAt, toList_object, jsonTextsAt_eq_map]
  simp

/-- The first member tells a constraint from a combination. -/
private theorem jsonText_constraint_ne (field : String) (op : Comparison) (argument : Argument)
    (op' : Connective) (parts : List Filter) (rest rest' : List Char) :
    (jsonTextAt pretty depth (.constraint field op argument)).toList ++ rest ≠
      (jsonTextAt pretty depth (.combination op' parts)).toList ++ rest' := by
  intro h
  rw [toList_jsonText_constraint, toList_jsonText_combination] at h
  obtain ⟨hkey, -⟩ := memberLine_inj (List.cons.inj h).2
  exact absurd hkey (by decide)

private theorem exists_brace (filter : Filter) :
    ∃ c tail, (jsonTextAt pretty depth filter).toList = c :: tail ∧ c ≠ ']' := by
  have happend := List.append_nil (jsonTextAt pretty depth filter).toList
  cases filter with
  | constraint field op argument =>
    rw [toList_jsonText_constraint] at happend
    exact ⟨'\x7b', _, happend.symm, by decide⟩
  | combination op parts =>
    rw [toList_jsonText_combination] at happend
    exact ⟨'\x7b', _, happend.symm, by decide⟩

/-- The JSON text of a filter at a depth tells the filter, whatever follows it. -/
theorem IsFinite.tells_jsonTextAt {filter : Filter} (h : filter.IsFinite) (pretty : Bool) :
    ∀ depth, Tells IsFinite (fun other => (jsonTextAt pretty depth other).toList) filter := by
  induction h with
  | @constraint field op argument hfinite =>
    intro depth other rest rest' hother _ _ htext
    cases hother with
    | combination => exact absurd htext (jsonText_constraint_ne _ _ _ _ _ _ _)
    | @constraint field' op' argument' hfinite' =>
      dsimp only at htext
      rw [toList_jsonText_constraint, toList_jsonText_constraint] at htext
      obtain ⟨-, hfield⟩ := memberLine_inj (List.cons.inj htext).2
      obtain ⟨rfl, hsecond⟩ := string_inj hfield
      obtain ⟨-, hop⟩ := memberLine_inj (List.cons.inj hsecond).2
      obtain ⟨hkey, hthird⟩ := string_inj hop
      obtain rfl := Comparison.key_inj hkey
      obtain ⟨-, hvalue⟩ := memberLine_inj (List.cons.inj hthird).2
      rw [Argument.toList_jsonText, Argument.toList_jsonText] at hvalue
      have hbreak := lineBreak_head pretty depth
      obtain ⟨rfl, hend⟩ := writing.tells_argument (layout pretty (depth + 1)) hfinite _ _ _
        hfinite' (closes_break hbreak (by decide) rest) (closes_break hbreak (by decide) rest') hvalue
      exact ⟨rfl, (List.cons.inj (List.append_cancel_left hend)).2⟩
  | @combination op parts hfinite ih =>
    intro depth other rest rest' hother _ _ htext
    cases hother with
    | constraint => exact absurd htext.symm (jsonText_constraint_ne _ _ _ _ _ _ _)
    | @combination op' parts' hfinite' =>
      dsimp only at htext
      rw [toList_jsonText_combination, toList_jsonText_combination] at htext
      obtain ⟨-, hnodes⟩ := memberLine_inj (List.cons.inj htext).2
      rw [toList_array, toList_array, List.map_map, List.map_map] at hnodes
      obtain ⟨rfl, hsecond⟩ := (layout pretty (depth + 1)).bracketed_inj
        (fun part _ => exists_brace part) hfinite hfinite'
        (fun part hmem => ih part hmem (depth + 2)) hnodes
      obtain ⟨-, hop⟩ := memberLine_inj (List.cons.inj hsecond).2
      obtain ⟨hkey, hend⟩ := string_inj hop
      obtain rfl := Connective.key_inj hkey
      exact ⟨rfl, (List.cons.inj (List.append_cancel_left hend)).2⟩

/-- Filters with finite floats that have the same JSON text, compact or spread over lines, are the
same, down to the bits of their floats. -/
theorem eq_of_jsonText_eq {x y : Filter} (hx : x.IsFinite) (hy : y.IsFinite) {pretty : Bool}
    (h : x.jsonText pretty = y.jsonText pretty) : x = y := by
  have htext : (jsonTextAt pretty 0 x).toList ++ [] = (jsonTextAt pretty 0 y).toList ++ [] :=
    congrArg (fun text => String.toList text ++ []) h
  exact (hx.tells_jsonTextAt pretty 0 y [] [] hy closes_nil closes_nil htext).1

theorem eq_of_jsonText_eq_chain :
    ∃ first second third : Filter,
      (first.combine .and (second.combine .and third)).IsFinite ∧
      (combination .and [first, second, third]).IsFinite ∧
      (first.combine .and (second.combine .and third)).jsonText true =
        (combination .and [first, second, third]).jsonText true ∧
      first.combine .and (second.combine .and third) = combination .and [first, second, third] := by
  let first := constraint "\x7d" .equal (.one (.string "\"\\\n\x01,"))
  let second := constraint "" .less (.list [.float ⟨true, 0, by decide⟩, .null, .boolean true])
  let third := combination .or []
  have hsecond : second.IsFinite := by
    apply IsFinite.constraint
    simp [Argument.IsFinite, Value.IsFinite, Binary64.isFinite, Binary64.infinity]
  have hparts : ∀ part ∈ [first, second, third], part.IsFinite := by
    have hthird : third.IsFinite := .combination (by simp)
    simp only [List.forall_mem_cons]
    exact ⟨.constraint trivial, hsecond, hthird, by simp⟩
  have hfinite : (combination .and [first, second, third]).IsFinite := .combination hparts
  have hfinite' : (first.combine .and (second.combine .and third)).IsFinite := .combination hparts
  have htext : (first.combine .and (second.combine .and third)).jsonText true =
      (combination .and [first, second, third]).jsonText true := rfl
  exact ⟨first, second, third, hfinite', hfinite, htext,
    eq_of_jsonText_eq hfinite' hfinite htext⟩

end Filter

end FilterQuery
