import FilterQuery.CommandResponses
import FilterQuery.Proofs.RelabeledTokens

/-!
# Spaced queries

Blanks in front of the tokens of a query only move them.  A query with more blanks is read as the
same filter, or refused with the same error at the place to which its tokens have moved.  The
blanks at the ends of a query are no exception, but there a malformed operator may lose one of
them.
-/

namespace FilterQuery

/-! ## Spread texts -/

section Spread

variable {gaps : Nat → List Char} {offset : Nat} {text xs ys : List Char}

/-- A text that begins at a byte offset, with texts put in at byte offsets. -/
def spreadText (gaps : Nat → List Char) (offset : Nat) : List Char → List Char
  | [] => gaps offset
  | c :: rest => gaps offset ++ c :: spreadText gaps (offset + c.utf8Size) rest

def spreadBytes (gaps : Nat → List Char) : Nat → Nat
  | 0 => 0
  | offset + 1 => spreadBytes gaps offset + byteLength (gaps offset)

theorem spreadText_append
    (h : ∀ o, offset ≤ o → o < offset + byteLength xs → gaps o = []) :
    spreadText gaps offset (xs ++ ys) = xs ++ spreadText gaps (offset + byteLength xs) ys := by
  induction xs generalizing offset with
  | nil => rfl
  | cons c xs ih =>
    have hpos := c.utf8Size_pos
    have hhere : gaps offset = [] := h offset (Nat.le_refl _) (by simp only [byteLength]; omega)
    have hrest : spreadText gaps (offset + c.utf8Size) (xs ++ ys) = _ :=
      ih fun o hle hlt => h o (by omega) (by simp only [byteLength]; omega)
    rw [List.cons_append, spreadText, hhere, hrest, byteLength, Nat.add_assoc, List.nil_append,
      List.cons_append]

theorem spreadText_append_of_ne_nil (hne : xs ≠ [])
    (h : ∀ o, offset < o → o < offset + byteLength xs → gaps o = []) :
    spreadText gaps offset (xs ++ ys) =
      gaps offset ++ (xs ++ spreadText gaps (offset + byteLength xs) ys) := by
  obtain ⟨c, rest, rfl⟩ := List.exists_cons_of_ne_nil hne
  have hpos := c.utf8Size_pos
  have hrest : spreadText gaps (offset + c.utf8Size) (rest ++ ys) = _ :=
    spreadText_append fun o hle hlt => h o (by omega) (by simp only [byteLength]; omega)
  rw [List.cons_append, spreadText, hrest, byteLength, Nat.add_assoc, List.cons_append]

theorem spreadText_eq_self (h : ∀ o, offset ≤ o → gaps o = []) :
    spreadText gaps offset text = text := by
  have happend : spreadText gaps offset (text ++ []) = _ :=
    spreadText_append fun o hle _ => h o hle
  rw [spreadText, h _ (Nat.le_add_right _ _)] at happend
  simpa using happend

theorem spreadBytes_add {n : Nat} (h : ∀ o, offset ≤ o → o < offset + n → gaps o = []) :
    spreadBytes gaps (offset + n) = spreadBytes gaps offset := by
  induction n with
  | zero => rfl
  | succ n ih =>
    have hlast : gaps (offset + n) = [] := h _ (by omega) (by omega)
    rw [← Nat.add_assoc, spreadBytes, hlast, ih fun o hle hlt => h o hle (by omega)]
    rfl

/-- Blanks that are put in do not change what the text begins with behind its blanks. -/
theorem head?_dropWhile_spreadText (hblank : ∀ o, ∀ c ∈ gaps o, isBlank c = true) :
    ((spreadText gaps offset text).dropWhile isBlank).head? = (text.dropWhile isBlank).head? := by
  induction text generalizing offset with
  | nil =>
    rw [spreadText, List.dropWhile_eq_nil_iff.mpr (hblank offset), List.dropWhile_nil]
  | cons c rest ih =>
    rw [spreadText, List.dropWhile_append_of_pos (hblank offset)]
    cases hc : isBlank c with
    | true => simpa [hc] using ih
    | false => simp [hc]

theorem head?_spreadText_ne (hblank : ∀ o, ∀ c ∈ gaps o, isBlank c = true)
    (h : text.head? ≠ some '=') : (spreadText gaps offset text).head? ≠ some '=' := by
  cases hgap : gaps offset with
  | nil =>
    cases text with
    | nil => simp [spreadText, hgap]
    | cons c rest => simpa [spreadText, hgap] using h
  | cons d gap =>
    have hd : d ≠ '=' := ne_equals_of_isBlank (hblank offset d (hgap ▸ .head _))
    cases text <;> simpa [spreadText, hgap] using hd

theorem Borders.spreadText {kind : TokenKind} {literal tail : List Char}
    (h : Borders kind literal tail) (hblank : ∀ o, ∀ c ∈ gaps o, isBlank c = true) :
    Borders kind literal (spreadText gaps offset tail) where
  run cls hkind := by
    rw [head?_dropWhile_spreadText hblank]
    exact h.run cls hkind
  angle hangle := head?_spreadText_ne hblank (h.angle hangle)

/-! ### The tokens of a spread text -/

/-- Where the token that begins at a byte offset begins when the text is spread: behind what is
put in up to there. -/
def spreadOffset (gaps : Nat → List Char) (offset : Nat) : Nat :=
  offset + spreadBytes gaps (offset + 1)

variable {offset' : Nat} {rest : List Char} {tokens : List Token} {last : Token}

private theorem offset_add_blanks {blanks : List Char}
    (h : ∀ o, offset ≤ o → o < offset + byteLength blanks → gaps o = []) :
    offset + spreadBytes gaps offset +
        byteLength (blanks ++ gaps (offset + byteLength blanks)) =
      spreadOffset gaps (offset + byteLength blanks) := by
  rw [spreadOffset, spreadBytes, spreadBytes_add h, byteLength_append]
  omega

private theorem offset_add_literal {n : Nat} (hpos : 0 < n)
    (h : ∀ o, offset < o → o < offset + n → gaps o = []) :
    spreadOffset gaps offset + n = offset + n + spreadBytes gaps (offset + n) := by
  have hbytes : spreadBytes gaps (offset + 1 + (n - 1)) = spreadBytes gaps (offset + 1) :=
    spreadBytes_add fun o hle hlt => h o hle (by omega)
  have hsum : offset + 1 + (n - 1) = offset + n := by omega
  rw [hsum] at hbytes
  rw [spreadOffset, hbytes]
  omega

private theorem toList_scanFrom_spread_stops (h : Stops offset text last)
    (hblank : ∀ o, ∀ c ∈ gaps o, isBlank c = true)
    (hgaps : ∀ o, offset ≤ o → last.offset ≠ o → gaps o = []) :
    (scanFrom (offset + spreadBytes gaps offset) (spreadText gaps offset text)).toList =
      [last.moved (spreadOffset gaps)] := by
  cases h with
  | ended hblanks =>
    have hbefore : ∀ o, offset ≤ o → o < offset + byteLength text → gaps o = [] :=
      fun o hle hlt => hgaps o hle (Nat.ne_of_gt hlt)
    have hspread : spreadText gaps offset (text ++ []) = _ := spreadText_append hbefore
    rw [List.append_nil, spreadText] at hspread
    rw [hspread, toList_scanFrom_blanks, offset_add_blanks hbefore]
    · rfl
    · exact List.forall_mem_append.mpr ⟨hblanks, hblank _⟩
  | @malformed blanks literal tail hblanks hbad =>
    have hbefore : ∀ o, offset ≤ o → o < offset + byteLength blanks → gaps o = [] :=
      fun o hle hlt => hgaps o hle (Nat.ne_of_gt hlt)
    have hbehind : ∀ o, offset + byteLength blanks < o → gaps o = [] :=
      fun o hlt => hgaps o (by omega) (Nat.ne_of_lt hlt)
    have hne : literal ≠ [] := by cases hbad <;> simp
    have hliteral := byteLength_pos_of_ne_nil hne
    have htail : spreadText gaps (offset + byteLength blanks + byteLength literal) tail = tail :=
      spreadText_eq_self fun o hle => hbehind o (by omega)
    rw [spreadText_append hbefore,
      spreadText_append_of_ne_nil hne fun o hlt _ => hbehind o hlt, htail,
      ← List.append_assoc, toList_scanFrom_malformed _ hbad, offset_add_blanks hbefore]
    · rfl
    · exact List.forall_mem_append.mpr ⟨hblanks, hblank _⟩

private theorem toList_scanFrom_spread (h : Scans offset text tokens offset' rest)
    (hstop : Stops offset' rest last) (hblank : ∀ o, ∀ c ∈ gaps o, isBlank c = true)
    (hgaps : ∀ o, offset ≤ o → (∀ token ∈ tokens ++ [last], token.offset ≠ o) → gaps o = []) :
    (scanFrom (offset + spreadBytes gaps offset) (spreadText gaps offset text)).toList =
      (tokens ++ [last]).map (Token.moved (spreadOffset gaps)) := by
  -- what is put in before the text matters only to the offset at which the text begins
  induction h with
  | done => exact toList_scanFrom_spread_stops hstop hblank fun o hle hne => hgaps o hle (by simpa)
  | @next offset offset' blanks literal tail rest kind tokens hblanks hlex hborders hscans ih =>
    have hliteral := byteLength_pos_of_ne_nil hlex.ne_nil
    -- all other tokens stand behind this one
    have hlater := hscans.le_offset hstop
    have helse : ∀ o, offset ≤ o → offset + byteLength blanks ≠ o →
        (∀ token ∈ tokens ++ [last], token.offset ≠ o) → gaps o = [] := by
      intro o hle hne hrest
      apply hgaps o hle
      rw [List.cons_append]
      exact List.forall_mem_cons.mpr ⟨hne, hrest⟩
    have hbefore : ∀ o, offset ≤ o → o < offset + byteLength blanks → gaps o = [] := by
      intro o hle hlt
      refine helse o hle (Nat.ne_of_gt hlt) fun token hmem => ?_
      have := hlater token hmem
      omega
    have hinside : ∀ o, offset + byteLength blanks < o →
        o < offset + byteLength blanks + byteLength literal → gaps o = [] := by
      intro o hle hlt
      refine helse o (by omega) (by omega) fun token hmem => ?_
      have := hlater token hmem
      omega
    have hrest := ih hstop fun o hle hne => helse o (by omega) (by omega) hne
    rw [spreadText_append hbefore, spreadText_append_of_ne_nil hlex.ne_nil hinside,
      ← List.append_assoc, toList_scanFrom_lexeme _ hlex (hborders.spreadText hblank),
      offset_add_blanks hbefore, offset_add_literal hliteral hinside, hrest]
    · rfl
    · exact List.forall_mem_append.mpr ⟨hblanks, hblank _⟩

end Spread

/-! ## Blanks before tokens -/

/-- Blanks to be put in front of tokens of a query, each run of them at the byte offset of its
token. -/
structure Spacing (query : String) where
  blanks : Nat → List Char
  blank : ∀ offset, ∀ c ∈ blanks offset, isBlank c = true
  elsewhere : ∀ offset, (∀ token ∈ tokenize query, token.offset ≠ offset) → blanks offset = []

namespace Spacing

variable {query : String}

def text (spacing : Spacing query) : String :=
  String.ofList (spreadText spacing.blanks 0 query.toList)

def place (spacing : Spacing query) (offset : Nat) : Nat := spreadOffset spacing.blanks offset

theorem tokenize_text (spacing : Spacing query) :
    tokenize spacing.text = (tokenize query).map (Token.moved spacing.place) := by
  obtain ⟨tokens, offset, rest, last, hscans, hstop, -, hlist⟩ := exists_scans 0 query.toList
  have htokens : tokenize query = tokens ++ [last] := hlist
  have hspread := toList_scanFrom_spread hscans hstop spacing.blank fun o _ hne =>
    spacing.elsewhere o (htokens ▸ hne)
  rw [htokens, tokenize, scan, text, String.toList_ofList]
  exact hspread

theorem parse_text (spacing : Spacing query) :
    parse spacing.text = (parse query).mapError (·.relabel (.moved spacing.place)) :=
  parse_of_relabel (.moved spacing.place) spacing.tokenize_text

end Spacing

/-! ## Blanks at the ends -/

private theorem exists_trimBlanks_append (text : List Char) :
    ∃ lead trail, text = lead ++ (trimBlanks text ++ trail) ∧ (∀ c ∈ lead, isBlank c = true) ∧
      ∀ c ∈ trail, isBlank c = true := by
  obtain ⟨trail, htrail, hblank⟩ := exists_trimBlanksEnd_append (text.dropWhile isBlank)
  refine ⟨text.takeWhile isBlank, trail, ?_, forall_mem_takeWhile isBlank text, hblank⟩
  rw [trimBlanks, ← htrail, List.takeWhile_append_dropWhile]

/-- Losing the blanks at its ends moves the tokens of a query and may shorten the terminal one. -/
theorem exists_relabeling_trimBlanks (query : String) :
    ∃ r : Relabeling,
      tokenize query = (tokenize (String.ofList (trimBlanks query.toList))).map r.token := by
  obtain ⟨lead, trail, hquery, hlead, htrail⟩ := exists_trimBlanks_append query.toList
  generalize trimBlanks query.toList = trimmed at hquery ⊢
  obtain ⟨tokens, offset, rest, last, hscans, hstop, hopen, hlist⟩ := exists_scans 0 trimmed
  obtain ⟨last', hstop', hkind⟩ := hstop.exists_append_blanks htrail
  have hscans' : Scans 0 (trimmed ++ trail) tokens offset (rest ++ trail) :=
    hscans.append_blanks htrail
  have htokens : tokenize query = (tokens ++ [last']).map (Token.moved (· + byteLength lead)) := by
    rw [tokenize, scan, hquery, toList_scanFrom_append_blanks hlead, toList_scanFrom_add,
      hscans'.toList_scanFrom, hstop'.toList_scanFrom]
  let r := Relabeling.ending (· + byteLength lead) (last'.moved (· + byteLength lead))
  have hfront : tokens.map (Token.moved (· + byteLength lead)) = tokens.map r.token :=
    List.map_congr_left fun token hmem => (r.token_of_open token (hopen token hmem)).symm
  have hlast : last'.moved (· + byteLength lead) = r.token last := by
    rw [Relabeling.ending_of_terminal hstop.isTerminal, ← hkind]
    rfl
  refine ⟨r, ?_⟩
  rw [htokens, tokenize, scan, String.toList_ofList, hlist, List.map_append, List.map_append,
    List.map_singleton, List.map_singleton, hfront, hlast]

theorem exists_relabeling_parse_trimBlanks (query : String) :
    ∃ r : Relabeling, parse query =
      (parse (String.ofList (trimBlanks query.toList))).mapError (·.relabel r) := by
  obtain ⟨r, htokens⟩ := exists_relabeling_trimBlanks query
  exact ⟨r, parse_of_relabel r htokens⟩

theorem parse_trimBlanks_eq_ok_iff {query : String} {filter : Filter} :
    parse (String.ofList (trimBlanks query.toList)) = .ok filter ↔ parse query = .ok filter := by
  obtain ⟨r, hparse⟩ := exists_relabeling_parse_trimBlanks query
  rw [hparse]
  cases parse (String.ofList (trimBlanks query.toList)) <;> simp [Except.mapError]

theorem queryOfInput_toUTF8 (text : String) :
    queryOfInput (some text.toUTF8) = .ok (String.ofList (trimBlanks text.toList)) := by
  have hread : String.fromUTF8? text.toUTF8 = some text := dif_pos text.isValidUTF8
  simp only [queryOfInput, hread]

/-- Blanks in front of tokens only move the tokens, and the filter that the query stands for is the
same, or the error, but for the places that it tells.  A query that is read from the standard input
loses the blanks at its ends; it stands for the same filter as the query given as an operand, or
both are refused with the same kind of error about the same field. -/
theorem parse_eq_of_blanks (query : String) :
    (∀ spacing : Spacing query,
      tokenize spacing.text = (tokenize query).map (Token.moved spacing.place) ∧
      parse spacing.text = (parse query).mapError (·.relabel (.moved spacing.place))) ∧
    ∃ trimmed, trimmed = String.ofList (trimBlanks query.toList) ∧
      givenQuery (some query.toUTF8) none = .ok trimmed ∧
      (∀ filter, parse trimmed = .ok filter ↔ parse query = .ok filter) ∧
      ∀ e, parse trimmed = .error e →
        ∃ e', parse query = .error e' ∧ e'.ctorIdx = e.ctorIdx ∧ e'.field? = e.field? := by
  constructor
  · intro spacing
    exact ⟨spacing.tokenize_text, spacing.parse_text⟩
  · refine ⟨_, rfl, queryOfInput_toUTF8 query, fun filter => parse_trimBlanks_eq_ok_iff, ?_⟩
    intro e herror
    obtain ⟨r, hparse⟩ := exists_relabeling_parse_trimBlanks query
    rw [herror] at hparse
    exact ⟨e.relabel r, hparse, by cases e <;> rfl, ParseError.field?_relabel r e⟩

end FilterQuery
