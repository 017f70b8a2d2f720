import FilterQuery.Proofs.Lexemes

/-!
# Scanned texts

A text is covered by lexemes from left to right, with blanks before each of them, until it ends or
a malformed operator stands in the way.  `Scans` says what is covered by a number of tokens and
what is left then, and `Stops` what the terminal token is.  Together they determine the token
stream of a text, and every stream comes about in this way.
-/

namespace FilterQuery

/-- The tokens at the beginning of a text, and what is left behind them.  Both texts come with the
byte offset at which they begin. -/
inductive Scans : Nat → List Char → List Token → Nat → List Char → Prop where
  | done {offset : Nat} {text : List Char} : Scans offset text [] offset text
  | next {offset offset' : Nat} {blanks literal tail rest : List Char} {kind : TokenKind}
      {tokens : List Token} (hblanks : ∀ c ∈ blanks, isBlank c = true)
      (lexeme : IsLexeme kind literal) (borders : Borders kind literal tail)
      (scans : Scans (offset + byteLength blanks + byteLength literal) tail tokens offset' rest) :
      Scans offset (blanks ++ (literal ++ tail))
        (⟨kind, String.ofList literal, offset + byteLength blanks⟩ :: tokens) offset' rest

/-- The terminal token of a text that holds no other token. -/
inductive Stops : Nat → List Char → Token → Prop where
  | ended {offset : Nat} {blanks : List Char} (hblanks : ∀ c ∈ blanks, isBlank c = true) :
      Stops offset blanks ⟨.endOfInput, "", offset + byteLength blanks⟩
  | malformed {offset : Nat} {blanks literal tail : List Char}
      (hblanks : ∀ c ∈ blanks, isBlank c = true) (h : IsMalformed literal tail) :
      Stops offset (blanks ++ (literal ++ tail))
        ⟨.malformed, String.ofList literal, offset + byteLength blanks⟩

theorem Scans.append {offset offset' offset'' : Nat} {text rest rest' : List Char}
    {xs ys : List Token} (h : Scans offset text xs offset' rest)
    (h' : Scans offset' rest ys offset'' rest') : Scans offset text (xs ++ ys) offset'' rest' := by
  induction h with
  | done => exact h'
  | next hblanks hlex hborders _ ih => exact .next hblanks hlex hborders (ih h')

theorem Scans.split {offset offset' : Nat} {text rest : List Char} {xs ys : List Token}
    (h : Scans offset text (xs ++ ys) offset' rest) :
    ∃ middle text', Scans offset text xs middle text' ∧ Scans middle text' ys offset' rest := by
  induction xs generalizing offset text with
  | nil => exact ⟨offset, text, .done, h⟩
  | cons x xs ih =>
    rw [List.cons_append] at h
    cases h with
    | next hblanks hlex hborders hscans =>
      obtain ⟨middle, text', hfront, hback⟩ := ih hscans
      exact ⟨middle, text', .next hblanks hlex hborders hfront, hback⟩

theorem Scans.isLexeme {offset offset' : Nat} {text rest : List Char} {tokens : List Token}
    (h : Scans offset text tokens offset' rest) :
    ∀ token ∈ tokens, IsLexeme token.kind token.literal.toList := by
  induction h with
  | done => simp
  | next _ hlex _ _ ih =>
    intro token hmem
    rcases List.mem_cons.mp hmem with rfl | hmem
    · rw [String.toList_ofList]
      exact hlex
    · exact ih token hmem

theorem Scans.le_offset {offset offset' : Nat} {text rest : List Char} {tokens : List Token}
    {last : Token} (h : Scans offset text tokens offset' rest) (hstop : Stops offset' rest last) :
    ∀ token ∈ tokens ++ [last], offset ≤ token.offset := by
  induction h with
  | done =>
    cases hstop <;> simp
  | next _ _ _ _ ih =>
    intro token hmem
    rcases List.mem_cons.mp hmem with rfl | hmem
    · exact Nat.le_add_right _ _
    · have := ih hstop token hmem
      omega

theorem IsLexeme.exists_solid {kind : TokenKind} {literal : List Char}
    (h : IsLexeme kind literal) : ∃ c rest, literal = c :: rest ∧ isBlank c = false := by
  cases h with
  | bare hrun =>
    cases literal with
    | nil => exact absurd rfl hrun.ne_nil
    | cons c rest => exact ⟨c, rest, rfl, hrun.head_solid c rfl⟩
  | connective op => cases op <;> exact ⟨_, _, rfl, by decide⟩
  | _ => exact ⟨_, _, rfl, by decide⟩

theorem IsLexeme.dropWhile_blanks {kind : TokenKind} {blanks literal : List Char}
    (h : IsLexeme kind literal) (hblanks : ∀ c ∈ blanks, isBlank c = true) (tail : List Char) :
    (blanks ++ (literal ++ tail)).dropWhile isBlank = literal ++ tail := by
  obtain ⟨c, rest, rfl, hc⟩ := h.exists_solid
  apply dropWhile_append_stop hblanks
  intro d hd
  cases hd
  exact hc

/-- Whether a text can follow is settled by the first lexeme in it. -/
private theorem Borders.congr {kind kind' : TokenKind} {blanks literal literal' tail tail' : List Char}
    (hblanks : ∀ c ∈ blanks, isBlank c = true) (hlex : IsLexeme kind' literal')
    (h : Borders kind literal (blanks ++ (literal' ++ tail))) :
    Borders kind literal (blanks ++ (literal' ++ tail')) := by
  have hdrop := hlex.dropWhile_blanks hblanks
  obtain ⟨c, rest, rfl, -⟩ := hlex.exists_solid
  refine ⟨fun cls hkind => ?_, fun hangle => ?_⟩
  · have hrun := h.run cls hkind
    rw [hdrop] at hrun ⊢
    exact hrun
  · have hne := h.angle hangle
    cases blanks with
    | nil => exact hne
    | cons d blanks => exact hne

/-- What has been covered can be cut off and put in front of another text that may follow it. -/
theorem Scans.exists_front {offset offset' : Nat} {text rest : List Char} {tokens : List Token}
    (h : Scans offset text tokens offset' rest) :
    ∃ front, ∀ tail,
      (∀ token ∈ tokens.getLast?, Borders token.kind token.literal.toList tail) →
        Scans offset (front ++ tail) tokens (offset + byteLength front) tail := by
  suffices hfront : ∃ front, (tokens = [] → front = []) ∧
      (tokens ≠ [] → ∀ kind literal tail, Borders kind literal text →
        Borders kind literal (front ++ tail)) ∧
      ∀ tail, (∀ token ∈ tokens.getLast?, Borders token.kind token.literal.toList tail) →
        Scans offset (front ++ tail) tokens (offset + byteLength front) tail by
    obtain ⟨front, -, -, hscans⟩ := hfront
    exact ⟨front, hscans⟩
  induction h with
  | done => exact ⟨[], fun _ => rfl, fun hne => absurd rfl hne, fun tail _ => .done⟩
  | @next offset offset' blanks literal tail rest kind tokens hblanks hlex hborders hscans ih =>
    obtain ⟨front, hnil, hcongr, hfront⟩ := ih
    refine ⟨blanks ++ (literal ++ front), by simp, ?_, ?_⟩
    · intro _ kind' literal' tail' h
      rw [List.append_assoc, List.append_assoc]
      exact h.congr hblanks hlex
    · intro tail' hlast
      have hborders' : Borders kind literal (front ++ tail') := by
        cases tokens with
        | nil =>
          rw [hnil rfl]
          have hborder := hlast ⟨kind, String.ofList literal, offset + byteLength blanks⟩ rfl
          rw [String.toList_ofList] at hborder
          exact hborder
        | cons token tokens => exact hcongr (by simp) _ _ _ hborders
      have hrest : ∀ token ∈ tokens.getLast?,
          Borders token.kind token.literal.toList tail' := by
        intro token hmem
        apply hlast
        rw [List.getLast?_cons, Option.mem_def.mp hmem]
        rfl
      have hnext := Scans.next hblanks hlex hborders' (hfront tail' hrest)
      rw [byteLength_append, byteLength_append, ← Nat.add_assoc, ← Nat.add_assoc]
      simpa using hnext

/-! ## Steps of the scanner -/

theorem toList_scanFrom_blanks {blanks : List Char} (hblanks : ∀ c ∈ blanks, isBlank c = true)
    (offset : Nat) :
    (scanFrom offset blanks).toList = [⟨.endOfInput, "", offset + byteLength blanks⟩] := by
  have hend : ∀ c ∈ ([] : List Char).head?, isBlank c = false := by simp
  have hdropped : blanks.dropWhile isBlank = [] := by
    simpa using dropWhile_append_stop hblanks hend
  have htaken : blanks.takeWhile isBlank = blanks := by
    simpa using takeWhile_append_stop hblanks hend
  unfold scanFrom
  split
  case h_1 => rw [htaken]; rfl
  case h_2 hcons => simp [hdropped] at hcons

private theorem toList_scanFrom_solid {blanks rest : List Char} {c : Char}
    (hblanks : ∀ c ∈ blanks, isBlank c = true) (hc : isBlank c = false) (offset : Nat) :
    (scanFrom offset (blanks ++ c :: rest)).toList =
      ⟨(lexeme c rest).1, String.ofList (lexeme c rest).2, offset + byteLength blanks⟩ ::
        if (lexeme c rest).1.isTerminal then []
        else
          (scanFrom (offset + byteLength blanks + byteLength (lexeme c rest).2)
            (rest.drop ((lexeme c rest).2.length - 1))).toList := by
  have hhead : ∀ d ∈ (c :: rest).head?, isBlank d = false := by
    intro d hd
    cases hd
    exact hc
  have htaken := takeWhile_append_stop hblanks hhead
  have hdropped := dropWhile_append_stop hblanks hhead
  conv => lhs; unfold scanFrom
  split
  case h_1 hnil => simp [hdropped] at hnil
  case h_2 d rest' hcons =>
    rw [hdropped] at hcons
    obtain ⟨rfl, rfl⟩ := List.cons.inj hcons
    simp only [htaken]
    split
    case isTrue hend => rw [if_pos (by simpa [Token.isTerminal] using hend)]; rfl
    case isFalse hend => rw [if_neg (by simpa [Token.isTerminal] using hend)]; rfl

theorem toList_scanFrom_lexeme {kind : TokenKind} {blanks literal tail : List Char}
    (hblanks : ∀ c ∈ blanks, isBlank c = true) (hlex : IsLexeme kind literal)
    (hborders : Borders kind literal tail) (offset : Nat) :
    (scanFrom offset (blanks ++ (literal ++ tail))).toList =
      ⟨kind, String.ofList literal, offset + byteLength blanks⟩ ::
        (scanFrom (offset + byteLength blanks + byteLength literal) tail).toList := by
  obtain ⟨c, rest, rfl, hc, hfound⟩ := lexeme_append hlex hborders
  rw [List.cons_append, toList_scanFrom_solid hblanks hc]
  simp [hfound, hlex.not_terminal]

theorem toList_scanFrom_malformed {blanks literal tail : List Char}
    (hblanks : ∀ c ∈ blanks, isBlank c = true) (h : IsMalformed literal tail) (offset : Nat) :
    (scanFrom offset (blanks ++ (literal ++ tail))).toList =
      [⟨.malformed, String.ofList literal, offset + byteLength blanks⟩] := by
  obtain ⟨c, rest, rfl, hc, hfound⟩ := lexeme_malformed h
  rw [List.cons_append, toList_scanFrom_solid hblanks hc]
  simp [hfound, TokenKind.isTerminal]

/-! ## The token stream of a text -/

theorem Scans.toList_scanFrom {offset offset' : Nat} {text rest : List Char} {tokens : List Token}
    (h : Scans offset text tokens offset' rest) :
    (scanFrom offset text).toList = tokens ++ (scanFrom offset' rest).toList := by
  induction h with
  | done => rfl
  | next hblanks hlex hborders _ ih =>
    rw [toList_scanFrom_lexeme hblanks hlex hborders, ih, List.cons_append]

theorem Stops.toList_scanFrom {offset : Nat} {text : List Char} {token : Token}
    (h : Stops offset text token) : (scanFrom offset text).toList = [token] := by
  cases h with
  | ended hblanks => exact toList_scanFrom_blanks hblanks offset
  | malformed hblanks h => exact toList_scanFrom_malformed hblanks h offset

theorem Scans.toList_scanFrom_end {offset offset' : Nat} {text : List Char} {tokens : List Token}
    (h : Scans offset text tokens offset' []) :
    (scanFrom offset text).toList = tokens ++ [⟨.endOfInput, "", offset'⟩] := by
  have hend : (scanFrom offset' []).toList = [⟨.endOfInput, "", offset'⟩] :=
    toList_scanFrom_blanks (by simp) offset'
  rw [h.toList_scanFrom, hend]

theorem Scans.tokenize_eq {query : String} {offset : Nat} {tokens : List Token}
    (h : Scans 0 query.toList tokens offset []) :
    tokenize query = tokens ++ [⟨.endOfInput, "", offset⟩] := h.toList_scanFrom_end

/-- Every text is covered by lexemes up to the place of its terminal token. -/
theorem exists_scans (offset : Nat) (text : List Char) :
    ∃ tokens offset' rest last, Scans offset text tokens offset' rest ∧
      Stops offset' rest last ∧ (∀ token ∈ tokens, token.isTerminal = false) ∧
      (scanFrom offset text).toList = tokens ++ [last] := by
  induction hlen : text.length using Nat.strongRecOn generalizing offset text with
  | ind n ih =>
    have hsplit : text = text.takeWhile isBlank ++ text.dropWhile isBlank :=
      List.takeWhile_append_dropWhile.symm
    have hblanks := forall_mem_takeWhile isBlank text
    cases hcons : text.dropWhile isBlank with
    | nil =>
      rw [hcons, List.append_nil] at hsplit
      rw [← hsplit] at hblanks
      have hstop : Stops offset text _ := .ended hblanks
      exact ⟨[], offset, text, _, .done, hstop, by simp, hstop.toList_scanFrom⟩
    | cons c rest =>
      have hc : isBlank c = false := head?_dropWhile_eq_false isBlank text c (by rw [hcons]; rfl)
      rw [hcons] at hsplit
      obtain ⟨kind, literal, hlexeme⟩ : ∃ kind literal, lexeme c rest = (kind, literal) :=
        ⟨_, _, rfl⟩
      obtain ⟨tail, htail, hfound⟩ := lexeme_sound hc hlexeme
      rw [htail] at hsplit
      rcases hfound with ⟨hlex, hborders⟩ | ⟨-, hbad⟩
      · have hlt : tail.length < n := by
          have hpos := List.length_pos_iff.mpr hlex.ne_nil
          rw [← hlen, hsplit]
          simp only [List.length_append]
          omega
        obtain ⟨tokens, offset', rest', last, hscans, hstop, hopen, hlist⟩ :=
          ih _ hlt (offset + byteLength (text.takeWhile isBlank) + byteLength literal) tail rfl
        have hnext := Scans.next hblanks hlex hborders hscans
        rw [← hsplit] at hnext
        refine ⟨_, offset', rest', last, hnext, hstop, ?_, ?_⟩
        · intro token htoken
          rcases List.mem_cons.mp htoken with rfl | htoken
          · exact hlex.not_terminal
          · exact hopen token htoken
        · rw [hnext.toList_scanFrom, hstop.toList_scanFrom]
      · have hstop : Stops offset _ _ := .malformed hblanks hbad
        rw [← hsplit] at hstop
        exact ⟨[], offset, text, _, .done, hstop, by simp, hstop.toList_scanFrom⟩

end FilterQuery
