import FilterQuery.TokenScanner
import FilterQuery.Proofs.DistinctOutlines

/-!
# Distinct listings

A listing has a line for each token, also where tokens hold line breaks: those are escaped, like the
quotes.  The offset in front of a line ends at the first blank behind its digits, however wide its
column is, and the name of a kind ends at the parenthesis behind it.  So a line tells its token, and
the listing of a query tells all of its tokens.
-/

namespace FilterQuery

/-! ## Lines -/

namespace QuotedText

theorem newline_not_mem_character (c : Char) : '\n' ∉ (quotedCharacter c).toList := by
  by_cases hc : c ∈ lettered
  · have hall : ∀ c ∈ lettered, '\n' ∉ (quotedCharacter c).toList := forall_mem_of_all (by decide)
    exact hall c hc
  · rcases toList_of_not_lettered hc with hnumber | hplain
    · have hdigits : '\n' ∉ Nat.toDigits 16 c.toNat := by
        intro hmem
        obtain ⟨digit, -, hdigit⟩ := exists_digitChar_of_mem_toDigits _ _ hmem
        simp at hdigit
      simp [hnumber, numbered, hdigits]
    · rw [hplain, List.mem_singleton]
      rintro rfl
      exact hc (by decide)

/-- A text between quotes holds no line break, whatever it is. -/
theorem newline_not_mem_quoted (text : String) : '\n' ∉ (quoted text).toList := by
  intro hmem
  rw [toList_quoted, CharacterCode.quoted, List.mem_cons, List.mem_append, List.mem_singleton,
    List.mem_flatMap] at hmem
  rcases hmem with hopening | ⟨c, -, hc⟩ | hclosing
  · cases hopening
  · exact newline_not_mem_character c hc
  · cases hclosing

end QuotedText

theorem TokenKind.plain_name (kind : TokenKind) :
    '\n' ∉ kind.name.toList ∧ '(' ∉ kind.name.toList := by
  have hall : ∀ kind ∈ all, '\n' ∉ kind.name.toList ∧ '(' ∉ kind.name.toList :=
    forall_mem_of_all (by decide)
  exact hall kind kind.mem_all

theorem newline_not_mem_flushRight (width n : Nat) : '\n' ∉ (flushRight width n).toList := by
  have hdigits : '\n' ∉ Nat.toDigits 10 n := by
    intro hmem
    have hdigit := isDigit_toDigits n _ hmem
    cases hdigit
  simp [flushRight, hdigits]

namespace Token

theorem newline_not_mem_display (token : Token) : '\n' ∉ token.display.toList := by
  unfold display
  split
  case isTrue => decide
  case isFalse =>
    have hname := token.kind.plain_name.1
    have hliteral := QuotedText.newline_not_mem_quoted token.literal
    simp [hname, hliteral]

theorem newline_not_mem_listingLine (token : Token) : '\n' ∉ token.listingLine.toList := by
  simp [listingLine, newline_not_mem_flushRight, newline_not_mem_display]

end Token

theorem split_tokenListing (query : String) :
    ((tokenListing query).split '\n').toList.map (·.copy) =
      (tokenize query).map Token.listingLine := by
  have hlines : ∀ line ∈ (tokenize query).map Token.listingLine, '\n' ∉ line.toList := by
    intro line hmem
    obtain ⟨token, -, rfl⟩ := List.mem_map.mp hmem
    exact token.newline_not_mem_listingLine
  have hne : (tokenize query).map Token.listingLine ≠ [] := by
    rw [tokenize, TokenStream.toList]
    simp
  have hsplit := String.toList_split_intercalate hlines
  rw [if_neg hne] at hsplit
  exact hsplit

/-! ## Tokens -/

theorem flushRight_inj {width m n : Nat} {rest rest' : List Char}
    (h : (flushRight width m).toList ++ ' ' :: rest = (flushRight width n).toList ++ ' ' :: rest') :
    m = n ∧ rest = rest' := by
  have hpadding (k : Nat) : ∀ c ∈ List.replicate k ' ', (c == ' ') = true := by
    intro c hc
    rw [List.eq_of_mem_replicate hc]
    rfl
  have hblank (tail : List Char) : ∀ c ∈ (' ' :: tail).head?, c.isDigit = false := by
    intro c hc
    cases hc
    rfl
  have hdigits (n : Nat) (tail : List Char) :
      ∀ c ∈ (Nat.toDigits 10 n ++ tail).head?, (c == ' ') = false := by
    intro c hc
    obtain ⟨digit, digits, hn⟩ := List.exists_cons_of_ne_nil (Nat.toDigits_ne_nil (n := n) (b := 10))
    rw [hn] at hc
    obtain rfl : digit = c := Option.some.inj hc
    have hdigit := isDigit_toDigits n digit (by simp [hn])
    rw [beq_eq_false_iff_ne]
    rintro rfl
    cases hdigit
  simp only [flushRight, String.toList_append, String.toList_ofList, Nat.toList_repr,
    List.append_assoc] at h
  -- the blanks in front end at the first digit, and the digits at the first blank behind them
  obtain ⟨-, htail⟩ := append_inj_of_stop (hpadding _) (hpadding _) (hdigits m _) (hdigits n _) h
  obtain ⟨hnumber, hrests⟩ := append_inj_of_stop (isDigit_toDigits m) (isDigit_toDigits n)
    (hblank rest) (hblank rest') htail
  refine ⟨?_, (List.cons.inj hrests).2⟩
  rw [← Nat.ofDigitChars_ten_toDigits (n := m), hnumber, Nat.ofDigitChars_ten_toDigits]

theorem TokenKind.name_inj {kind kind' : TokenKind} (h : kind.name = kind'.name) :
    kind = kind' := by
  have hall : (all.all fun kind => all.all fun kind' =>
      decide (kind.name = kind'.name → kind = kind')) = true := by
    decide
  exact forall_mem_of_all (List.all_eq_true.mp hall kind kind.mem_all) kind' kind'.mem_all h

/-- No name of a kind goes on like the text for the end of a query. -/
theorem TokenKind.name_append_ne (kind : TokenKind) (rest : List Char) :
    kind.name.toList ++ '(' :: rest ≠ "end of input".toList := by
  intro h
  have hmem : '(' ∈ "end of input".toList := by
    rw [← h]
    simp
  exact absurd hmem (by decide)

namespace Token

variable {token token' : Token}

theorem toList_display (h : token.kind ≠ .endOfInput) : token.display.toList =
    token.kind.name.toList ++ '(' :: ((quoted token.literal).toList ++ [')']) := by
  rw [display, if_neg h]
  simp

/-- What is shown of a token tells its kind and its text, if the end of a query has no text. -/
theorem display_inj (hend : token.kind = .endOfInput → token.literal = "")
    (hend' : token'.kind = .endOfInput → token'.literal = "")
    (h : token.display = token'.display) :
    token.kind = token'.kind ∧ token.literal = token'.literal := by
  by_cases hkind : token.kind = .endOfInput
  · by_cases hkind' : token'.kind = .endOfInput
    · exact ⟨hkind.trans hkind'.symm, (hend hkind).trans (hend' hkind').symm⟩
    · have hdisplay := toList_display hkind'
      rw [← h, display, if_pos hkind] at hdisplay
      exact absurd hdisplay.symm (token'.kind.name_append_ne _)
  · by_cases hkind' : token'.kind = .endOfInput
    · have hdisplay := toList_display hkind
      rw [h, display, if_pos hkind'] at hdisplay
      exact absurd hdisplay.symm (token.kind.name_append_ne _)
    · have hshown := toList_display hkind
      rw [h, toList_display hkind'] at hshown
      have hstop (tail : List Char) : ∀ c ∈ ('(' :: tail).head?, (c != '(') = false := by
        intro c hc
        cases hc
        rfl
      have hname (kind : TokenKind) : ∀ c ∈ kind.name.toList, (c != '(') = true := by
        intro c hc
        rw [bne_iff_ne]
        rintro rfl
        exact kind.plain_name.2 hc
      obtain ⟨hnames, htail⟩ :=
        append_inj_of_stop (hname _) (hname _) (hstop _) (hstop _) hshown
      have hquoted := (List.cons.inj htail).2
      rw [QuotedText.toList_quoted, QuotedText.toList_quoted] at hquoted
      obtain ⟨hliteral, -⟩ := QuotedText.code.quoted_inj hquoted
      exact ⟨(TokenKind.name_inj (String.toList_inj.mp hnames)).symm,
        (String.toList_inj.mp hliteral).symm⟩

theorem listingLine_inj (hend : token.kind = .endOfInput → token.literal = "")
    (hend' : token'.kind = .endOfInput → token'.literal = "")
    (h : token.listingLine = token'.listingLine) : token = token' := by
  have hlines := congrArg String.toList h
  simp only [listingLine, String.toList_append, List.append_assoc] at hlines
  obtain ⟨hoffset, hrest⟩ := flushRight_inj hlines
  have hdisplay := String.toList_inj.mp (List.cons.inj hrest).2
  obtain ⟨hkind, hliteral⟩ := display_inj hend hend' hdisplay
  cases token
  cases token'
  cases hkind
  cases hliteral
  cases hoffset
  rfl

theorem eq_of_map_listingLine_eq {xs ys : List Token}
    (hxs : ∀ token ∈ xs, token.kind = .endOfInput → token.literal = "")
    (hys : ∀ token ∈ ys, token.kind = .endOfInput → token.literal = "")
    (h : xs.map listingLine = ys.map listingLine) : xs = ys := by
  induction xs generalizing ys with
  | nil => exact (List.map_eq_nil_iff.mp h.symm).symm
  | cons x xs ih =>
    obtain ⟨y, ys, rfl, hline, hlines⟩ := List.map_eq_cons_iff.mp h.symm
    have hx := hxs x List.mem_cons_self
    have hy := hys y List.mem_cons_self
    obtain rfl := listingLine_inj hx hy hline.symm
    rw [ih (fun token hmem => hxs token (List.mem_cons_of_mem _ hmem))
      (fun token hmem => hys token (List.mem_cons_of_mem _ hmem)) hlines.symm]

end Token

theorem literal_of_endOfInput (query : String) :
    ∀ token ∈ tokenize query, token.kind = .endOfInput → token.literal = "" := by
  intro token hmem hkind
  obtain ⟨front, offset, rest, last, -, hstop, hopen, hlist⟩ := exists_scans 0 query.toList
  have htokens : tokenize query = front ++ [last] := hlist
  rw [htokens, List.mem_append, List.mem_singleton] at hmem
  rcases hmem with hfront | rfl
  · have hterminal := hopen token hfront
    rw [Token.isTerminal, hkind] at hterminal
    cases hterminal
  · cases hstop with
    | ended => rfl
    | malformed => cases hkind

/-- A listing has one line for each token of the query, the line of that token, and two queries have
the same listing only if they have the same tokens: the same kinds and texts at the same offsets. -/
theorem tokenListing_faithful (query query' : String) :
    ((tokenListing query).split '\n').toList.length = (tokenize query).length ∧
    ((tokenListing query).split '\n').toList.map (·.copy) =
      (tokenize query).map Token.listingLine ∧
    (tokenListing query = tokenListing query' ↔ tokenize query = tokenize query') := by
  have hlength := congrArg List.length (split_tokenListing query)
  rw [List.length_map, List.length_map] at hlength
  refine ⟨hlength, split_tokenListing query, fun h => ?_, fun h => ?_⟩
  · have hlines := split_tokenListing query
    rw [h, split_tokenListing query'] at hlines
    exact Token.eq_of_map_listingLine_eq (literal_of_endOfInput query)
      (literal_of_endOfInput query') hlines.symm
  · rw [tokenListing, h, tokenListing]

example : tokenListing "a==x\ny" =
    "   0  Ident(\"a\")\n   1  Eq(\"==\")\n   3  String(\"x\\ny\")\n   6  end of input" := by
  decide +kernel

end FilterQuery
