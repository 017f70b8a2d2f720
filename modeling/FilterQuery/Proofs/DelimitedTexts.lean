import FilterQuery.Proofs.WrittenFilters

/-!
# Delimited texts

How a text tells what it is the text of, and where it ends.  A quoted string ends at the first
quote that is not part of the text of a character.  A number or a word ends in front of the comma,
the bracket or the line break that follows it, and its literal has one value.  Items in brackets
end at the bracket that no comma stands in front of.  Values and arguments are put together from
these, whatever their strings hold.
-/

namespace FilterQuery

/-- What may follow a text: nothing, or a character that stands behind an item. -/
def Closes (rest : List Char) : Prop := ∀ c ∈ rest.head?, c ∈ [',', ']', '\x7d', '\n']

/-- Whether the text of something tells it from all others, and shows where it ends. -/
def Tells {α : Type} (among : α → Prop) (text : α → List Char) (x : α) : Prop :=
  ∀ y rest rest', among y → Closes rest → Closes rest' → text x ++ rest = text y ++ rest' →
    x = y ∧ rest = rest'

theorem append_inj_of_stop {α : Type} {p : α → Bool} {xs ys rest rest' : List α}
    (hxs : ∀ x ∈ xs, p x = true) (hys : ∀ y ∈ ys, p y = true)
    (hrest : ∀ x ∈ rest.head?, p x = false) (hrest' : ∀ y ∈ rest'.head?, p y = false)
    (h : xs ++ rest = ys ++ rest') : xs = ys ∧ rest = rest' := by
  have htaken := takeWhile_append_stop hxs hrest
  rw [h, takeWhile_append_stop hys hrest'] at htaken
  subst htaken
  exact ⟨rfl, List.append_cancel_left h⟩

theorem head?_break {text : List Char} (hbreak : ∀ c ∈ text.head?, c = '\n') (d : Char)
    (rest : List Char) : ∀ c ∈ (text ++ d :: rest).head?, c = '\n' ∨ c = d := by
  intro c hc
  cases text with
  | nil =>
    cases hc
    exact .inr rfl
  | cons e text =>
    cases hc
    exact .inl (hbreak c rfl)

theorem closes_break {text : List Char} (hbreak : ∀ c ∈ text.head?, c = '\n') {d : Char}
    (hd : d ∈ [',', ']', '\x7d', '\n']) (rest : List Char) : Closes (text ++ d :: rest) := by
  intro c hc
  rcases head?_break hbreak d rest c hc with rfl | rfl
  · decide
  · exact hd

theorem closes_nil : Closes [] := by simp [Closes]

theorem closes_cons {c : Char} (h : c ∈ [',', ']', '\x7d', '\n']) (rest : List Char) :
    Closes (c :: rest) := by
  intro d hd
  cases hd
  exact h

/-! ## Strings in quotes -/

/-- How the characters of a string are written between quotes: as they are, or as escapes, which
begin with a backslash. -/
structure CharacterCode where
  text : Char → List Char
  escaped_or_plain : ∀ c, (text c).head? = some '\\' ∨ text c = [c] ∧ c ≠ '"' ∧ c ≠ '\\'
  escape_prefixFree : ∀ c d, (text c).head? = some '\\' → (text d).head? = some '\\' →
    text c <+: text d → c = d

namespace CharacterCode

variable (code : CharacterCode)

def quoted (cs : List Char) : List Char := '"' :: (cs.flatMap code.text ++ ['"'])

private theorem head?_of_prefix {text text' : List Char} (h : text <+: text') {c : Char}
    (hc : text.head? = some c) : text'.head? = some c := by
  obtain ⟨tail, rfl⟩ := h
  rw [List.head?_append, hc, Option.some_or]

theorem prefixFree {c d : Char} (h : code.text c <+: code.text d) : c = d := by
  rcases code.escaped_or_plain c with hc | ⟨hc, -, hslash⟩
  · rcases code.escaped_or_plain d with hd | ⟨hd, -, hslash⟩
    · exact code.escape_prefixFree c d hc hd h
    · have hhead := head?_of_prefix h hc
      rw [hd] at hhead
      exact absurd (Option.some.inj hhead) hslash
  · have hhead : (code.text d).head? = some c := head?_of_prefix h (by rw [hc]; rfl)
    rcases code.escaped_or_plain d with hd | ⟨hd, -, -⟩
    · exact absurd (Option.some.inj (hhead.symm.trans hd)) hslash
    · rw [hd] at hhead
      exact (Option.some.inj hhead).symm

theorem text_inj {c d : Char} {rest rest' : List Char}
    (h : code.text c ++ rest = code.text d ++ rest') : c = d ∧ rest = rest' := by
  have hc : code.text c <+: code.text d ++ rest' := ⟨rest, h⟩
  have hcd : c = d := by
    rcases List.prefix_or_prefix_of_prefix hc (List.prefix_append _ rest') with hpre | hpre
    · exact code.prefixFree hpre
    · exact (code.prefixFree hpre).symm
  subst hcd
  exact ⟨rfl, List.append_cancel_left h⟩

/-- No character is written with a quote in front, so the closing quote is not taken for one. -/
private theorem text_append_ne (c : Char) (rest rest' : List Char) :
    code.text c ++ rest ≠ '"' :: rest' := by
  intro h
  rcases code.escaped_or_plain c with hc | ⟨hc, hquote, -⟩
  · have hhead := congrArg List.head? h
    rw [List.head?_append, hc] at hhead
    cases hhead
  · rw [hc] at h
    exact hquote (List.cons.inj h).1

theorem quoted_inj {cs ds rest rest' : List Char}
    (h : code.quoted cs ++ rest = code.quoted ds ++ rest') : cs = ds ∧ rest = rest' := by
  simp only [quoted, List.cons_append, List.append_assoc, List.cons.injEq, true_and,
    List.nil_append] at h
  induction cs generalizing ds with
  | nil =>
    cases ds with
    | nil => exact ⟨rfl, (List.cons.inj h).2⟩
    | cons d ds =>
      rw [List.flatMap_cons, List.append_assoc] at h
      exact absurd h.symm (code.text_append_ne d _ rest)
  | cons c cs ih =>
    cases ds with
    | nil =>
      rw [List.flatMap_cons, List.append_assoc] at h
      exact absurd h (code.text_append_ne c _ rest')
    | cons d ds =>
      rw [List.flatMap_cons, List.flatMap_cons, List.append_assoc, List.append_assoc] at h
      obtain ⟨rfl, htail⟩ := code.text_inj h
      obtain ⟨rfl, hrest⟩ := ih htail
      exact ⟨rfl, hrest⟩

end CharacterCode

/-! ## Numbers and words -/

/-- Whether a text stands for a value that is no string, as a literal of a query does. -/
structure IsPlainText (text : List Char) (value : Value) : Prop where
  ne_nil : text ≠ []
  plain : ∀ c ∈ text, isPlain c = true
  valued : LiteralValue (String.ofList text) (classify text) value

namespace IsPlainText

variable {text text' rest rest' : List Char} {value value' : Value}

theorem unique (h : IsPlainText text value) (h' : IsPlainText text value') : value = value' := by
  let token : Token := ⟨.literal (classify text), String.ofList text, 0⟩
  have hvalue : literalValue "" (classify text) token = .ok value :=
    literalValue_eq_ok_iff.mpr h.valued
  have hvalue' : literalValue "" (classify text) token = .ok value' :=
    literalValue_eq_ok_iff.mpr h'.valued
  exact Except.ok.inj (hvalue.symm.trans hvalue')

theorem isPlain_of_closes (h : Closes rest) : ∀ c ∈ rest.head?, isPlain c = false := by
  have hall : ∀ c ∈ [',', ']', '\x7d', '\n'], isPlain c = false := forall_mem_of_all (by decide)
  exact fun c hc => hall c (h c hc)

theorem inj (h : IsPlainText text value) (h' : IsPlainText text' value') (hrest : Closes rest)
    (hrest' : Closes rest') (heq : text ++ rest = text' ++ rest') :
    value = value' ∧ rest = rest' := by
  obtain ⟨rfl, hrests⟩ := append_inj_of_stop h.plain h'.plain (isPlain_of_closes hrest)
    (isPlain_of_closes hrest') heq
  exact ⟨h.unique h', hrests⟩

end IsPlainText

theorem isPlainText_integer (n : Int64) : IsPlainText n.toInt.repr.toList (.integer n) where
  ne_nil := integer_ne_nil n
  plain c hc := isPlain_of_continuesIdentifier (continuesIdentifier_integer n c hc)
  valued := by
    rw [classify_integer, String.ofList_toList]
    exact literalValue_integer n

theorem isPlainText_float {layout : DecimalLayout} (hbelow : layout.writtenOutBelow ≤ 16)
    {x : Binary64} (h : x.isFinite = true) :
    IsPlainText (layout.finiteText x).toList (.float x) := by
  obtain ⟨literal, htext, rfl⟩ := DecimalLayout.exists_isFloatText hbelow h
  refine ⟨htext.ne_nil, htext.isPlain, ?_⟩
  rw [htext.classify, String.ofList_toList]
  exact .float literal htext.read? htext.isAscii h

theorem isPlainText_boolean (b : Bool) : IsPlainText (booleanText b).toList (.boolean b) := by
  have hcls : classify (booleanText b).toList = .boolean b := by cases b <;> decide
  refine ⟨by cases b <;> decide, forall_mem_of_all (by cases b <;> decide), ?_⟩
  rw [hcls]
  exact .boolean b

theorem isPlainText_null : IsPlainText "null".toList .null := by
  have hcls : classify "null".toList = .null := by decide
  refine ⟨by decide, forall_mem_of_all (by decide), ?_⟩
  rw [hcls]
  exact .null

/-! ## Items in brackets -/

/-- What stands between the items of a list in brackets: in front of the first item, behind the
comma between two items, and behind the last item. -/
structure ListLayout where
  lead : List Char
  gap : List Char
  trail : List Char
  lead_break : ∀ c ∈ lead.head?, c = '\n'
  trail_break : ∀ c ∈ trail.head?, c = '\n'

namespace ListLayout

variable (layout : ListLayout)

def bracketed : List (List Char) → List Char
  | [] => ['[', ']']
  | first :: rest =>
    '[' :: (layout.lead ++ (first ++
      (rest.flatMap (fun item => ',' :: (layout.gap ++ item)) ++ (layout.trail ++ [']']))))

theorem bracketed_toList {items : List String} {separator : String} (hne : items ≠ [])
    (hseparator : separator.toList = ',' :: layout.gap) :
    layout.bracketed (items.map String.toList) =
      '[' :: (layout.lead ++
        ((String.intercalate separator items).toList ++ (layout.trail ++ [']']))) := by
  obtain ⟨first, rest, rfl⟩ := List.exists_cons_of_ne_nil hne
  rw [toList_intercalate_cons, hseparator, List.map_cons, bracketed, List.flatMap_map]
  simp

variable {α : Type} {among : α → Prop} {text : α → List Char} {xs ys : List α}
  {rest rest' : List Char}

/-- A list does not end where another one goes on with a comma. -/
private theorem trail_ne (rest rest' : List Char) : layout.trail ++ ']' :: rest ≠ ',' :: rest' := by
  intro h
  have hhead := head?_break layout.trail_break ']' rest ',' (by rw [h]; rfl)
  exact absurd hhead (by decide)

private theorem closes_items (items : List (List Char)) (rest : List Char) :
    Closes (items.flatMap (fun item => ',' :: (layout.gap ++ item)) ++
      (layout.trail ++ ']' :: rest)) := by
  cases items with
  | nil => exact closes_break layout.trail_break (by decide) rest
  | cons item items => exact closes_cons (by decide) _

private theorem items_inj (hxs : ∀ x ∈ xs, Tells among text x) (hys : ∀ y ∈ ys, among y)
    (h : (xs.map text).flatMap (fun item => ',' :: (layout.gap ++ item)) ++
        (layout.trail ++ ']' :: rest) =
      (ys.map text).flatMap (fun item => ',' :: (layout.gap ++ item)) ++
        (layout.trail ++ ']' :: rest')) : xs = ys ∧ rest = rest' := by
  induction xs generalizing ys with
  | nil =>
    cases ys with
    | nil => exact ⟨rfl, (List.cons.inj (List.append_cancel_left h)).2⟩
    | cons y ys => exact absurd h (layout.trail_ne _ _)
  | cons x xs ih =>
    cases ys with
    | nil => exact absurd h.symm (layout.trail_ne _ _)
    | cons y ys =>
      simp only [List.map_cons, List.flatMap_cons, List.cons_append, List.append_assoc,
        List.cons.injEq, true_and] at h
      obtain ⟨rfl, htail⟩ := hxs x List.mem_cons_self y _ _ (hys y List.mem_cons_self)
        (layout.closes_items _ _) (layout.closes_items _ _) (List.append_cancel_left h)
      obtain ⟨rfl, hrest⟩ := ih (fun x hx => hxs x (List.mem_cons_of_mem _ hx))
        (fun y hy => hys y (List.mem_cons_of_mem _ hy)) htail
      exact ⟨rfl, hrest⟩

private theorem first_ne {item : List Char} (h : ∃ c tail, item = c :: tail ∧ c ≠ ']')
    (tail rest : List Char) : layout.lead ++ (item ++ tail) ≠ ']' :: rest := by
  obtain ⟨c, front, rfl, hc⟩ := h
  intro heq
  rcases head?_break layout.lead_break c (front ++ tail) ']' (by rw [← List.cons_append, heq]; rfl)
    with hline | hitem
  · exact absurd hline (by decide)
  · exact hc hitem.symm

/-- A list in brackets tells its items, if each of them does. -/
theorem bracketed_inj (hbegins : ∀ x, among x → ∃ c tail, text x = c :: tail ∧ c ≠ ']')
    (hxs : ∀ x ∈ xs, among x) (hys : ∀ y ∈ ys, among y) (htells : ∀ x ∈ xs, Tells among text x)
    (h : layout.bracketed (xs.map text) ++ rest = layout.bracketed (ys.map text) ++ rest') :
    xs = ys ∧ rest = rest' := by
  cases xs with
  | nil =>
    cases ys with
    | nil => exact ⟨rfl, (List.cons.inj (List.cons.inj h).2).2⟩
    | cons y ys =>
      simp only [List.map_nil, List.map_cons, bracketed, List.cons_append,
        List.append_assoc, List.cons.injEq, true_and] at h
      exact absurd h.symm (layout.first_ne (hbegins y (hys y List.mem_cons_self)) _ _)
  | cons x xs =>
    cases ys with
    | nil =>
      simp only [List.map_nil, List.map_cons, bracketed, List.cons_append,
        List.append_assoc, List.cons.injEq, true_and] at h
      exact absurd h (layout.first_ne (hbegins x (hxs x List.mem_cons_self)) _ _)
    | cons y ys =>
      simp only [List.map_cons, bracketed, List.cons_append, List.append_assoc,
        List.cons.injEq, true_and, List.nil_append] at h
      obtain ⟨rfl, htail⟩ := htells x List.mem_cons_self y _ _ (hys y List.mem_cons_self)
        (layout.closes_items _ _) (layout.closes_items _ _) (List.append_cancel_left h)
      obtain ⟨rfl, hrest⟩ := layout.items_inj (fun x hx => htells x (List.mem_cons_of_mem _ hx))
        (fun y hy => hys y (List.mem_cons_of_mem _ hy)) htail
      exact ⟨rfl, hrest⟩

end ListLayout

/-! ## Values and arguments -/

/-- Whether a value is finite, if it is a float. -/
def Value.IsFinite : Value → Prop
  | .float x => x.isFinite = true
  | _ => True

def Argument.IsFinite : Argument → Prop
  | .one value => value.IsFinite
  | .list values => ∀ value ∈ values, value.IsFinite

/-- How values are written: the characters of strings, the layout of floats, and what stands for
floats that are not finite. -/
structure ValueWriting where
  code : CharacterCode
  floats : DecimalLayout
  floats_below : floats.writtenOutBelow ≤ 16
  special : Binary64 → String

namespace ValueWriting

variable (writing : ValueWriting) {value : Value}

def text : Value → List Char
  | .string text => writing.code.quoted text.toList
  | .integer n => n.toInt.repr.toList
  | .float x => (if x.isFinite then writing.floats.finiteText x else writing.special x).toList
  | .boolean b => (booleanText b).toList
  | .null => "null".toList

private theorem text_cases (h : value.IsFinite) :
    (∃ string, value = .string string ∧ writing.text value = writing.code.quoted string.toList) ∨
      IsPlainText (writing.text value) value := by
  cases value with
  | string string => exact .inl ⟨string, rfl, rfl⟩
  | integer n => exact .inr (isPlainText_integer n)
  | float x =>
    have hfinite : x.isFinite = true := h
    rw [text, if_pos hfinite]
    exact .inr (isPlainText_float writing.floats_below hfinite)
  | boolean b => exact .inr (isPlainText_boolean b)
  | null => exact .inr isPlainText_null

theorem exists_first (h : value.IsFinite) :
    ∃ c tail, writing.text value = c :: tail ∧ (c = '"' ∨ isPlain c = true) := by
  rcases writing.text_cases h with ⟨string, -, htext⟩ | hplain
  · exact ⟨'"', _, htext, .inl rfl⟩
  · obtain ⟨c, tail, htext⟩ := List.exists_cons_of_ne_nil hplain.ne_nil
    exact ⟨c, tail, htext, .inr (hplain.plain c (by simp [htext]))⟩

private theorem quoted_ne_plain {string : String} {text rest rest' : List Char}
    (h : IsPlainText text value) :
    writing.code.quoted string.toList ++ rest ≠ text ++ rest' := by
  obtain ⟨c, tail, rfl⟩ := List.exists_cons_of_ne_nil h.ne_nil
  have hc := h.plain c List.mem_cons_self
  intro heq
  obtain rfl : '"' = c := (List.cons.inj heq).1
  exact absurd hc (by decide)

theorem tells_value (h : value.IsFinite) : Tells Value.IsFinite writing.text value := by
  intro value' rest rest' h' hrest hrest' heq
  rcases writing.text_cases h with ⟨string, rfl, htext⟩ | hplain
  · rcases writing.text_cases h' with ⟨string', rfl, htext'⟩ | hplain'
    · rw [htext, htext'] at heq
      obtain ⟨hstring, hrests⟩ := writing.code.quoted_inj heq
      rw [String.toList_inj] at hstring
      exact ⟨congrArg Value.string hstring, hrests⟩
    · rw [htext] at heq
      exact absurd heq (writing.quoted_ne_plain hplain')
  · rcases writing.text_cases h' with ⟨string', rfl, htext'⟩ | hplain'
    · rw [htext'] at heq
      exact absurd heq.symm (writing.quoted_ne_plain hplain)
    · exact hplain.inj hplain' hrest hrest' heq

def argumentText (layout : ListLayout) : Argument → List Char
  | .one value => writing.text value
  | .list values => layout.bracketed (values.map writing.text)

private theorem text_ne_bracketed (h : value.IsFinite) (layout : ListLayout)
    (items : List (List Char)) (rest rest' : List Char) :
    writing.text value ++ rest ≠ layout.bracketed items ++ rest' := by
  obtain ⟨c, tail, htext, hc⟩ := writing.exists_first h
  intro heq
  rw [htext] at heq
  obtain rfl : c = '[' := by cases items <;> exact (List.cons.inj heq).1
  exact absurd hc (by decide)

theorem tells_argument (layout : ListLayout) {argument : Argument} (h : argument.IsFinite) :
    Tells Argument.IsFinite (writing.argumentText layout) argument := by
  have hbegins : ∀ value : Value, value.IsFinite →
      ∃ c tail, writing.text value = c :: tail ∧ c ≠ ']' := by
    intro value hvalue
    obtain ⟨c, tail, htext, hc⟩ := writing.exists_first hvalue
    refine ⟨c, tail, htext, ?_⟩
    rintro rfl
    exact absurd hc (by decide)
  intro argument' rest rest' h' hrest hrest' heq
  cases argument with
  | one value =>
    cases argument' with
    | one value' =>
      obtain ⟨rfl, hrests⟩ := writing.tells_value h value' rest rest' h' hrest hrest' heq
      exact ⟨rfl, hrests⟩
    | list values' => exact absurd heq (writing.text_ne_bracketed h layout _ rest rest')
  | list values =>
    cases argument' with
    | one value' => exact absurd heq.symm (writing.text_ne_bracketed h' layout _ rest' rest)
    | list values' =>
      obtain ⟨rfl, hrests⟩ := layout.bracketed_inj hbegins h h'
        (fun value hvalue => writing.tells_value (h value hvalue)) heq
      exact ⟨rfl, hrests⟩

end ValueWriting

end FilterQuery
