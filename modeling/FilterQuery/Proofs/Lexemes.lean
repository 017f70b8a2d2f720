import FilterQuery.TokenScanner

/-!
# Lexemes

The spellings of tokens, said without the scanner.  A lexeme is the spelling of a token that others
may follow; what follows it must not extend it.  A malformed operator is spelled by an exclamation
mark without an equals sign, or by an equals sign that begins no comparison.  The main statements
say that the scanner finds a lexeme exactly where there is one that its surroundings do not extend.
-/

namespace FilterQuery

/-- A text that stands in a query as one bare run. -/
structure IsBareRun (text : List Char) : Prop where
  ne_nil : text ≠ []
  unreserved : ∀ c ∈ text, isReserved c = false
  head_solid : ∀ c ∈ text.head?, isBlank c = false
  last_solid : ∀ c ∈ text.getLast?, isBlank c = false

/-- The spellings of the tokens that are not terminal. -/
inductive IsLexeme : TokenKind → List Char → Prop where
  | bare {text : List Char} (run : IsBareRun text) : IsLexeme (.literal (classify text)) text
  | doubled : IsLexeme (.comparison .equal) ['=', '=']
  | word (op : Comparison) : IsLexeme (.comparison op) ('=' :: op.key.toList ++ ['='])
  | notEqual : IsLexeme (.comparison .notEqual) ['!', '=']
  | less : IsLexeme (.comparison .less) ['<']
  | lessOrEqual : IsLexeme (.comparison .lessOrEqual) ['<', '=']
  | greater : IsLexeme (.comparison .greater) ['>']
  | greaterOrEqual : IsLexeme (.comparison .greaterOrEqual) ['>', '=']
  | connective (op : Connective) : IsLexeme (.connective op) op.symbol.toList
  | opening : IsLexeme .opening ['(']
  | closing : IsLexeme .closing [')']

/-- Whether a text can follow a lexeme without extending it: a bare run ends before a reserved
character or the end of the query, and a lone angle bracket takes in an equals sign. -/
structure Borders (kind : TokenKind) (literal tail : List Char) : Prop where
  run : ∀ cls, kind = .literal cls → ∀ c ∈ (tail.dropWhile isBlank).head?, isReserved c = true
  angle : literal = ['<'] ∨ literal = ['>'] → tail.head? ≠ some '='

/-- The spellings of malformed operators, with what follows them. -/
inductive IsMalformed : List Char → List Char → Prop where
  | exclamation {rest : List Char} (h : rest.head? ≠ some '=') :
      IsMalformed ('!' :: rest.take 1) (rest.drop 1)
  | equals {word tail : List Char} (alphabetic : ∀ c ∈ word, isAlphabetic c = true)
      (maximal : ∀ c ∈ tail.head?, isAlphabetic c = false)
      (single : word = [] → tail.head? ≠ some '=')
      (unknown : ∀ op : Comparison, word = op.key.toList → tail.head? ≠ some '=') :
      IsMalformed ('=' :: word) tail

/-! ## Runs of characters -/

section Runs

variable {α : Type} {p : α → Bool}

theorem takeWhile_append_stop {xs ys : List α} (hxs : ∀ x ∈ xs, p x = true)
    (hys : ∀ y ∈ ys.head?, p y = false) : (xs ++ ys).takeWhile p = xs := by
  rw [List.takeWhile_append_of_pos hxs]
  cases ys with
  | nil => simp
  | cons y ys => simp [hys y rfl]

theorem dropWhile_append_stop {xs ys : List α} (hxs : ∀ x ∈ xs, p x = true)
    (hys : ∀ y ∈ ys.head?, p y = false) : (xs ++ ys).dropWhile p = ys := by
  rw [List.dropWhile_append_of_pos hxs]
  cases ys with
  | nil => simp
  | cons y ys => simp [hys y rfl]

theorem head?_dropWhile_eq_false (p : α → Bool) (xs : List α) :
    ∀ x ∈ (xs.dropWhile p).head?, p x = false := by
  intro x hx
  have h := List.head?_dropWhile_not p xs
  rw [Option.mem_def.mp hx] at h
  simpa using h

theorem forall_mem_takeWhile (p : α → Bool) (xs : List α) :
    ∀ x ∈ xs.takeWhile p, p x = true := by
  have h : (xs.takeWhile p).all p = true := List.all_takeWhile
  exact List.all_eq_true.mp h

theorem forall_mem_of_all {p : α → Prop} [DecidablePred p] {xs : List α}
    (h : xs.all (fun x => decide (p x)) = true) : ∀ x ∈ xs, p x :=
  fun x hx => of_decide_eq_true (List.all_eq_true.mp h x hx)

end Runs

/-! ## Blanks at the end -/

theorem exists_trimBlanksEnd_append (text : List Char) :
    ∃ blanks, text = trimBlanksEnd text ++ blanks ∧ ∀ c ∈ blanks, isBlank c = true := by
  refine ⟨(text.reverse.takeWhile isBlank).reverse, ?_, ?_⟩
  · rw [trimBlanksEnd, ← List.reverse_append, List.takeWhile_append_dropWhile,
      List.reverse_reverse]
  · intro c hc
    exact forall_mem_takeWhile isBlank _ c (List.mem_reverse.mp hc)

theorem getLast?_trimBlanksEnd (text : List Char) :
    ∀ c ∈ (trimBlanksEnd text).getLast?, isBlank c = false := by
  intro c hc
  rw [trimBlanksEnd, List.getLast?_reverse] at hc
  exact head?_dropWhile_eq_false isBlank _ c hc

theorem trimBlanksEnd_append {text blanks : List Char} (hlast : ∀ c ∈ text.getLast?, isBlank c = false)
    (hblank : ∀ c ∈ blanks, isBlank c = true) : trimBlanksEnd (text ++ blanks) = text := by
  rw [trimBlanksEnd, List.reverse_append, dropWhile_append_stop, List.reverse_reverse]
  · intro c hc
    exact hblank c (List.mem_reverse.mp hc)
  · rwa [List.head?_reverse]

theorem byteLength_pos (c : Char) (cs : List Char) : 0 < byteLength (c :: cs) := by
  have hpos := c.utf8Size_pos
  rw [byteLength]
  omega

theorem byteLength_pos_of_ne_nil {text : List Char} (h : text ≠ []) : 0 < byteLength text := by
  obtain ⟨c, rest, rfl⟩ := List.exists_cons_of_ne_nil h
  exact byteLength_pos c rest

/-! ## Reserved characters and words -/

theorem eq_false_of_isReserved {p : Char → Bool} {c : Char} (h : isReserved c = true)
    (hall : ['=', '<', '>', '!', '(', ')', ';', ','].all (fun d => !p d) = true) :
    p c = false := by
  have hmem : c ∈ ['=', '<', '>', '!', '(', ')', ';', ','] := by
    simpa [isReserved, or_assoc] using h
  simpa using List.all_eq_true.mp hall c hmem

theorem isBlank_of_isReserved {c : Char} (h : isReserved c = true) : isBlank c = false :=
  eq_false_of_isReserved h (by decide)

theorem isReserved_of_isBlank {c : Char} (h : isBlank c = true) : isReserved c = false := by
  cases hc : isReserved c with
  | false => rfl
  | true => simp [isBlank_of_isReserved hc] at h

theorem alphabetic_key (op : Comparison) : ∀ c ∈ op.key.toList, isAlphabetic c = true := by
  apply forall_mem_of_all
  cases op <;> decide

theorem head?_key_ne (op : Comparison) (tail : List Char) :
    (op.key.toList ++ tail).head? ≠ some '=' := by
  cases op <;> simp [Comparison.key]

theorem isAlphabetic_equals : isAlphabetic '=' = false := by decide

/-- Only bare runs and lone angle brackets are choosy about what follows them. -/
theorem borders_of_ne {kind : TokenKind} {literal : List Char} (hrun : ∀ cls, kind ≠ .literal cls)
    (hless : literal ≠ ['<']) (hgreater : literal ≠ ['>']) (tail : List Char) :
    Borders kind literal tail :=
  ⟨fun cls hkind => absurd hkind (hrun cls), fun h => h.elim (absurd · hless) (absurd · hgreater)⟩

/-! ## What the scanner finds -/

section Found

variable {rest literal : List Char} {kind : TokenKind}

private theorem equalsLexeme_sound (h : equalsLexeme rest = (kind, literal)) :
    ∃ tail, '=' :: rest = literal ++ tail ∧
      ((IsLexeme kind literal ∧ Borders kind literal tail) ∨
        kind = .malformed ∧ IsMalformed literal tail) := by
  have hsplit : rest = rest.takeWhile isAlphabetic ++ rest.dropWhile isAlphabetic :=
    List.takeWhile_append_dropWhile.symm
  have halpha := forall_mem_takeWhile isAlphabetic rest
  have hstop := head?_dropWhile_eq_false isAlphabetic rest
  unfold equalsLexeme at h
  split at h
  case isTrue hhead =>
    obtain ⟨tail, rfl⟩ := List.head?_eq_some_iff.mp hhead
    cases h
    exact ⟨tail, rfl, .inl ⟨.doubled, borders_of_ne (by simp) (by simp) (by simp) tail⟩⟩
  case isFalse hhead =>
    have hsingle : rest.takeWhile isAlphabetic = [] →
        (rest.dropWhile isAlphabetic).head? ≠ some '=' := by
      intro hnil
      rw [hnil, List.nil_append] at hsplit
      rwa [← hsplit]
    dsimp only at h
    split at h
    case h_1 op hop =>
      rw [Comparison.ofKey?_eq_some_iff] at hop
      split at h
      case isTrue hclose =>
        obtain ⟨tail, htail⟩ := List.head?_eq_some_iff.mp hclose
        have hrest := hsplit
        rw [htail] at hrest
        cases h
        exact ⟨tail, congrArg ('=' :: ·) (hrest.trans (by simp)), .inl ⟨hop ▸ .word op,
          borders_of_ne (by simp) (by simp) (by simp) tail⟩⟩
      case isFalse hclose =>
        cases h
        refine ⟨_, by rw [List.cons_append, ← hsplit], .inr ⟨rfl, ?_⟩⟩
        exact .equals halpha hstop hsingle fun _ _ => hclose
    case h_2 hop =>
      cases h
      refine ⟨_, by rw [List.cons_append, ← hsplit], .inr ⟨rfl, ?_⟩⟩
      refine .equals halpha hstop hsingle fun op hword => ?_
      rw [hword, Comparison.ofKey?_key] at hop
      cases hop

private theorem exclamationLexeme_sound (h : exclamationLexeme rest = (kind, literal)) :
    ∃ tail, '!' :: rest = literal ++ tail ∧
      ((IsLexeme kind literal ∧ Borders kind literal tail) ∨
        kind = .malformed ∧ IsMalformed literal tail) := by
  unfold exclamationLexeme at h
  split at h
  case isTrue hhead =>
    obtain ⟨tail, rfl⟩ := List.head?_eq_some_iff.mp hhead
    cases h
    exact ⟨tail, rfl, .inl ⟨.notEqual, borders_of_ne (by simp) (by simp) (by simp) tail⟩⟩
  case isFalse hhead =>
    cases h
    refine ⟨rest.drop 1, ?_, .inr ⟨rfl, .exclamation hhead⟩⟩
    rw [List.cons_append, List.take_append_drop]

private theorem angleLexeme_sound {bracket : Char} {strict loose : Comparison}
    (hstrict : IsLexeme (.comparison strict) [bracket])
    (hloose : IsLexeme (.comparison loose) [bracket, '='])
    (h : angleLexeme bracket strict loose rest = (kind, literal)) :
    ∃ tail, bracket :: rest = literal ++ tail ∧ IsLexeme kind literal ∧
      Borders kind literal tail := by
  unfold angleLexeme at h
  split at h
  case isTrue hhead =>
    obtain ⟨tail, rfl⟩ := List.head?_eq_some_iff.mp hhead
    cases h
    exact ⟨tail, rfl, hloose, borders_of_ne (by simp) (by simp) (by simp) tail⟩
  case isFalse hhead =>
    cases h
    exact ⟨rest, rfl, hstrict, by simp, fun _ => hhead⟩

private theorem bareLexeme_sound {c : Char} (hblank : isBlank c = false)
    (hres : isReserved c = false) (h : bareLexeme (c :: rest) = (kind, literal)) :
    ∃ tail, c :: rest = literal ++ tail ∧ IsLexeme kind literal ∧ Borders kind literal tail := by
  let run := (c :: rest).takeWhile fun c => !isReserved c
  have hmem : c ∈ run := by simp [run, hres]
  obtain ⟨blanks, hrun, hblanks⟩ := exists_trimBlanksEnd_append run
  have hne : trimBlanksEnd run ≠ [] := trimBlanksEnd_ne_nil hmem hblank
  have hsplit : c :: rest = trimBlanksEnd run ++
      (blanks ++ (c :: rest).dropWhile fun c => !isReserved c) := by
    rw [← List.append_assoc, ← hrun]
    exact List.takeWhile_append_dropWhile.symm
  have hstop := head?_dropWhile_eq_false (fun c => !isReserved c) (c :: rest)
  cases h
  refine ⟨_, hsplit, .bare ⟨hne, ?_, ?_, getLast?_trimBlanksEnd run⟩, ?_, ?_⟩
  · intro d hd
    have hd : d ∈ run := hrun ▸ List.mem_append_left blanks hd
    simpa using forall_mem_takeWhile (fun c => !isReserved c) _ d hd
  · intro d hd
    have hhead : (c :: rest).head? = (trimBlanksEnd run).head? := by
      rw [hsplit, List.head?_append, Option.or_of_isSome (List.isSome_head?.mpr hne)]
    rw [← hhead] at hd
    cases hd
    exact hblank
  · intro _ _
    rw [dropWhile_append_stop hblanks]
    · simpa using hstop
    · intro d hd
      exact isBlank_of_isReserved (by simpa using hstop d hd)
  · rintro (hbad | hbad)
    all_goals
      have hfirst : ∃ d ∈ trimBlanksEnd run, isReserved d = true := by
        rw [show trimBlanksEnd run = _ from hbad]
        exact ⟨_, .head _, by decide⟩
      obtain ⟨d, hd, hdres⟩ := hfirst
      have hd : d ∈ run := hrun ▸ List.mem_append_left blanks hd
      have := forall_mem_takeWhile (fun c => !isReserved c) _ d hd
      simp [hdres] at this

/-- What the scanner finds is a lexeme with its surroundings, or a malformed operator. -/
theorem lexeme_sound {c : Char} (hblank : isBlank c = false)
    (h : lexeme c rest = (kind, literal)) :
    ∃ tail, c :: rest = literal ++ tail ∧
      ((IsLexeme kind literal ∧ Borders kind literal tail) ∨
        kind = .malformed ∧ IsMalformed literal tail) := by
  unfold lexeme at h
  split at h
  case isTrue hc =>
    subst hc
    exact equalsLexeme_sound h
  split at h
  case isTrue hc =>
    subst hc
    exact exclamationLexeme_sound h
  split at h
  case isTrue hc =>
    subst hc
    obtain ⟨tail, htail, hlex⟩ := angleLexeme_sound .less .lessOrEqual h
    exact ⟨tail, htail, .inl hlex⟩
  split at h
  case isTrue hc =>
    subst hc
    obtain ⟨tail, htail, hlex⟩ := angleLexeme_sound .greater .greaterOrEqual h
    exact ⟨tail, htail, .inl hlex⟩
  split at h
  case isTrue hc =>
    subst hc
    cases h
    exact ⟨rest, rfl, .inl ⟨.connective .and, borders_of_ne (by simp) (by simp) (by simp) rest⟩⟩
  split at h
  case isTrue hc =>
    subst hc
    cases h
    exact ⟨rest, rfl, .inl ⟨.connective .or, borders_of_ne (by simp) (by simp) (by simp) rest⟩⟩
  split at h
  case isTrue hc =>
    subst hc
    cases h
    exact ⟨rest, rfl, .inl ⟨.opening, borders_of_ne (by simp) (by simp) (by simp) rest⟩⟩
  split at h
  case isTrue hc =>
    subst hc
    cases h
    exact ⟨rest, rfl, .inl ⟨.closing, borders_of_ne (by simp) (by simp) (by simp) rest⟩⟩
  case isFalse =>
    obtain ⟨tail, htail, hlex⟩ := bareLexeme_sound hblank (by simp [isReserved, *]) h
    exact ⟨tail, htail, .inl hlex⟩

end Found

/-! ## Where the scanner finds a lexeme -/

theorem lexeme_of_unreserved {c : Char} (h : isReserved c = false) (rest : List Char) :
    lexeme c rest = bareLexeme (c :: rest) := by
  simp only [isReserved, Bool.or_eq_false_iff, beq_eq_false_iff_ne] at h
  simp [lexeme, h]

private theorem bareLexeme_append {text tail : List Char} (hrun : IsBareRun text)
    (htail : ∀ c ∈ (tail.dropWhile isBlank).head?, isReserved c = true) :
    bareLexeme (text ++ tail) = (.literal (classify text), text) := by
  have hblanks := forall_mem_takeWhile isBlank tail
  have hsplit : tail = tail.takeWhile isBlank ++ tail.dropWhile isBlank :=
    List.takeWhile_append_dropWhile.symm
  have htaken : (text ++ tail).takeWhile (fun c => !isReserved c) =
      text ++ tail.takeWhile isBlank := by
    rw [hsplit, ← List.append_assoc, takeWhile_append_stop, ← hsplit]
    · intro c hc
      rcases List.mem_append.mp hc with hc | hc
      · simp [hrun.unreserved c hc]
      · simp [isReserved_of_isBlank (hblanks c hc)]
    · intro c hc
      simp [htail c hc]
  simp [bareLexeme, htaken, trimBlanksEnd_append hrun.last_solid hblanks]

private theorem equalsLexeme_word (op : Comparison) (tail : List Char) :
    equalsLexeme (op.key.toList ++ '=' :: tail) =
      (.comparison op, '=' :: op.key.toList ++ ['=']) := by
  have htaken : (op.key.toList ++ '=' :: tail).takeWhile isAlphabetic = op.key.toList :=
    takeWhile_append_stop (alphabetic_key op) (by simp [isAlphabetic_equals])
  have hdropped : (op.key.toList ++ '=' :: tail).dropWhile isAlphabetic = '=' :: tail :=
    dropWhile_append_stop (alphabetic_key op) (by simp [isAlphabetic_equals])
  rw [equalsLexeme, if_neg (head?_key_ne op _)]
  simp [htaken, hdropped]

/-- The scanner finds a lexeme that its surroundings do not extend. -/
theorem lexeme_append {kind : TokenKind} {literal tail : List Char}
    (h : IsLexeme kind literal) (hborders : Borders kind literal tail) :
    ∃ c rest, literal = c :: rest ∧ isBlank c = false ∧
      lexeme c (rest ++ tail) = (kind, literal) := by
  cases h with
  | bare run =>
    obtain ⟨c, rest, rfl⟩ := List.exists_cons_of_ne_nil run.ne_nil
    refine ⟨c, rest, rfl, run.head_solid c rfl, ?_⟩
    rw [lexeme_of_unreserved (run.unreserved c (.head _)), ← List.cons_append]
    exact bareLexeme_append run (hborders.run _ rfl)
  | doubled => exact ⟨'=', ['='], rfl, by decide, rfl⟩
  | word op =>
    refine ⟨'=', op.key.toList ++ ['='], rfl, by decide, ?_⟩
    rw [List.append_assoc, lexeme, if_pos rfl]
    exact equalsLexeme_word op tail
  | notEqual => exact ⟨'!', ['='], rfl, by decide, rfl⟩
  | less =>
    have htail := hborders.angle (.inl rfl)
    exact ⟨'<', [], rfl, by decide, by simp [lexeme, angleLexeme, htail]⟩
  | lessOrEqual => exact ⟨'<', ['='], rfl, by decide, rfl⟩
  | greater =>
    have htail := hborders.angle (.inr rfl)
    exact ⟨'>', [], rfl, by decide, by simp [lexeme, angleLexeme, htail]⟩
  | greaterOrEqual => exact ⟨'>', ['='], rfl, by decide, rfl⟩
  | connective op =>
    cases op with
    | and => exact ⟨';', [], rfl, by decide, rfl⟩
    | or => exact ⟨',', [], rfl, by decide, rfl⟩
  | opening => exact ⟨'(', [], rfl, by decide, rfl⟩
  | closing => exact ⟨')', [], rfl, by decide, rfl⟩

theorem lexeme_malformed {literal tail : List Char} (h : IsMalformed literal tail) :
    ∃ c rest, literal = c :: rest ∧ isBlank c = false ∧
      lexeme c (rest ++ tail) = (.malformed, literal) := by
  cases h with
  | @exclamation rest h =>
    refine ⟨'!', rest.take 1, rfl, by decide, ?_⟩
    rw [List.take_append_drop]
    simp [lexeme, exclamationLexeme, h]
  | @equals word tail alphabetic maximal single unknown =>
    refine ⟨'=', word, rfl, by decide, ?_⟩
    have htaken := takeWhile_append_stop alphabetic maximal
    have hdropped := dropWhile_append_stop alphabetic maximal
    have hhead : (word ++ tail).head? ≠ some '=' := by
      cases word with
      | nil => exact single rfl
      | cons c word =>
        intro hc
        cases hc
        simp [isAlphabetic_equals] at alphabetic
    simp only [lexeme, equalsLexeme, if_true, if_neg hhead, htaken, hdropped]
    cases hop : Comparison.ofKey? word with
    | none => rfl
    | some op =>
      rw [Comparison.ofKey?_eq_some_iff] at hop
      simp [unknown op hop]

theorem IsLexeme.ne_nil {kind : TokenKind} {literal : List Char} (h : IsLexeme kind literal) :
    literal ≠ [] := by
  cases h with
  | bare run => exact run.ne_nil
  | connective op => cases op <;> simp [Connective.symbol]
  | _ => simp

theorem IsLexeme.not_terminal {kind : TokenKind} {literal : List Char}
    (h : IsLexeme kind literal) : kind.isTerminal = false := by
  cases h <;> rfl

/-! ## Marks -/

inductive IsMark : TokenKind → Char → Prop where
  | comma : IsMark (.connective .or) ','
  | semicolon : IsMark (.connective .and) ';'
  | opening : IsMark .opening '('
  | closing : IsMark .closing ')'

namespace IsMark

variable {kind : TokenKind} {c : Char}

theorem isLexeme (mark : IsMark kind c) : IsLexeme kind [c] := by
  cases mark with
  | comma => exact .connective .or
  | semicolon => exact .connective .and
  | opening => exact .opening
  | closing => exact .closing

theorem borders (mark : IsMark kind c) (tail : List Char) : Borders kind [c] tail := by
  cases mark <;> exact borders_of_ne (by simp) (by simp) (by simp) tail

theorem isReserved (mark : IsMark kind c) : isReserved c = true := by
  cases mark <;> decide

theorem ne_equals (mark : IsMark kind c) : c ≠ '=' := by
  cases mark <;> decide

theorem byteLength (mark : IsMark kind c) : byteLength [c] = 1 := by
  cases mark <;> decide

end IsMark

end FilterQuery
