import FilterQuery.Proofs.RelabeledTokens
import FilterQuery.Proofs.TokenTilings

/-!
# Respelled queries

Six of the comparisons have two spellings, a sign and a word between equals signs.  A query that is
read stands for the same filter when any of its comparisons are spelled in the other way, in the
places where they stand.  No spelling runs together with what is next to it.  Every spelling begins
with a reserved character, so a bare run still ends in front of it; a lone angle bracket would take
in an equals sign, but that begins a comparison, and a query with two comparisons in a row is
refused.
-/

namespace FilterQuery

/-! ## Spellings of comparisons -/

namespace Comparison

def sign? : Comparison → Option String
  | equal => some "=="
  | notEqual => some "!="
  | less => some "<"
  | lessOrEqual => some "<="
  | greater => some ">"
  | greaterOrEqual => some ">="
  | within | outside => none

/-- The word of a comparison between equals signs. -/
def wordSpelling (op : Comparison) : String := "=" ++ op.key ++ "="

/-- The other spelling of a comparison, if it has two. -/
def otherSpelling (op : Comparison) (spelling : String) : String :=
  match op.sign? with
  | some sign => if spelling = sign then op.wordSpelling else sign
  | none => spelling

theorem isLexeme_wordSpelling (op : Comparison) :
    IsLexeme (.comparison op) op.wordSpelling.toList := by
  have htext : op.wordSpelling.toList = '=' :: op.key.toList ++ ['='] := by simp [wordSpelling]
  rw [htext]
  exact .word op

theorem isLexeme_sign {op : Comparison} {sign : String} (h : op.sign? = some sign) :
    IsLexeme (.comparison op) sign.toList := by
  cases op with
  | equal => cases h; exact .doubled
  | notEqual => cases h; exact .notEqual
  | less => cases h; exact .less
  | lessOrEqual => cases h; exact .lessOrEqual
  | greater => cases h; exact .greater
  | greaterOrEqual => cases h; exact .greaterOrEqual
  | within | outside => cases h

theorem isLexeme_otherSpelling {op : Comparison} {spelling : String}
    (h : IsLexeme (.comparison op) spelling.toList) :
    IsLexeme (.comparison op) (op.otherSpelling spelling).toList := by
  unfold otherSpelling
  split
  case h_1 sign hsign =>
    split
    · exact isLexeme_wordSpelling op
    · exact isLexeme_sign hsign
  case h_2 => exact h

end Comparison

/-- The text of a token, in the other spelling if it is a comparison that has been chosen. -/
def Token.respelled (chosen : Token → Bool) (token : Token) : String :=
  match token.kind with
  | .comparison op => if chosen token then op.otherSpelling token.literal else token.literal
  | _ => token.literal

section Respelled

variable {chosen : Token → Bool} {token : Token}

theorem Token.respelled_of_ne (h : ∀ op, token.kind ≠ .comparison op) :
    token.respelled chosen = token.literal := by
  unfold respelled
  split
  case h_1 op hkind => exact absurd hkind (h op)
  case h_2 => rfl

theorem Token.isLexeme_respelled (chosen : Token → Bool)
    (h : IsLexeme token.kind token.literal.toList) :
    IsLexeme token.kind (token.respelled chosen).toList := by
  unfold respelled
  split
  case h_1 op hkind =>
    rw [hkind] at h ⊢
    split
    · exact Comparison.isLexeme_otherSpelling h
    · exact h
  case h_2 => exact h

end Respelled

/-! ## Respelled texts -/

/-- As much of a text as stands below a number of bytes. -/
def takeBytes : Nat → List Char → List Char
  | 0, _ | _, [] => []
  | n + 1, c :: rest => c :: takeBytes (n + 1 - c.utf8Size) rest

def dropBytes : Nat → List Char → List Char
  | 0, text => text
  | _, [] => []
  | n + 1, c :: rest => dropBytes (n + 1 - c.utf8Size) rest

/-- A text that begins at a byte offset, with the given tokens of it respelled. -/
def respellText (chosen : Token → Bool) : Nat → List Token → List Char → List Char
  | _, [], text => text
  | offset, token :: tokens, text =>
    takeBytes (token.offset - offset) text ++ (token.respelled chosen).toList ++
      respellText chosen token.stop tokens (dropBytes (token.stop - offset) text)

/-- A query in which the chosen comparisons are spelled in the other way. -/
def respell (chosen : Token → Bool) (query : String) : String :=
  String.ofList (respellText chosen 0 (tokenize query) query.toList)

theorem takeBytes_byteLength (xs ys : List Char) : takeBytes (byteLength xs) (xs ++ ys) = xs := by
  induction xs with
  | nil => cases ys <;> rfl
  | cons c xs ih =>
    obtain ⟨n, hn⟩ : ∃ n, byteLength (c :: xs) = n + 1 :=
      ⟨_, (Nat.sub_add_cancel (byteLength_pos c xs)).symm⟩
    have hrest : n + 1 - c.utf8Size = byteLength xs := by rw [← hn, byteLength]; omega
    rw [hn, List.cons_append, takeBytes, hrest, ih]

theorem dropBytes_byteLength (xs ys : List Char) : dropBytes (byteLength xs) (xs ++ ys) = ys := by
  induction xs with
  | nil => cases ys <;> rfl
  | cons c xs ih =>
    obtain ⟨n, hn⟩ : ∃ n, byteLength (c :: xs) = n + 1 :=
      ⟨_, (Nat.sub_add_cancel (byteLength_pos c xs)).symm⟩
    have hrest : n + 1 - c.utf8Size = byteLength xs := by rw [← hn, byteLength]; omega
    rw [hn, List.cons_append, dropBytes, hrest, ih]

section RespelledTexts

variable {chosen : Token → Bool} {offset offset' : Nat} {blanks literal tail text rest : List Char}
  {kind : TokenKind} {token last : Token} {tokens : List Token}

/-- The blanks in front of a token stay, the token is respelled, and so is what follows it. -/
theorem respellText_token (hliteral : token.literal = String.ofList literal)
    (hoffset : token.offset = offset + byteLength blanks) :
    respellText chosen offset (token :: tokens) (blanks ++ (literal ++ tail)) =
      blanks ++ ((token.respelled chosen).toList ++
        respellText chosen (offset + byteLength blanks + byteLength literal) tokens tail) := by
  have hstop : token.stop = offset + byteLength blanks + byteLength literal := by
    rw [Token.stop, hliteral, hoffset, ← byteLength_toList, String.toList_ofList]
  have hgap : token.offset - offset = byteLength blanks := by omega
  have hsize : token.stop - offset = byteLength (blanks ++ literal) := by
    rw [hstop, byteLength_append]
    omega
  rw [respellText, hgap, takeBytes_byteLength, hsize, ← List.append_assoc, dropBytes_byteLength,
    hstop, List.append_assoc]

theorem respellText_of_stops (hstop : Stops offset rest last) (hend : last.kind = .endOfInput) :
    respellText chosen offset [last] rest = rest := by
  cases hstop with
  | malformed => cases hend
  | ended hblanks =>
    have hnothing : respellText chosen offset [⟨.endOfInput, "", offset + byteLength rest⟩]
        (rest ++ ([] ++ [])) = _ := respellText_token rfl rfl
    simpa [respellText, Token.respelled] using hnothing

/-! ## What a respelled text begins with -/

theorem IsLexeme.isReserved_head {op : Comparison} (h : IsLexeme (.comparison op) literal)
    (tail : List Char) : ∀ c ∈ (literal ++ tail).head?, isReserved c = true := by
  intro c hc
  cases h <;> cases hc <;> decide

theorem IsLexeme.head?_ne_equals (h : IsLexeme kind literal) (hne : ∀ op, kind ≠ .comparison op) :
    literal.head? ≠ some '=' := by
  cases h with
  | bare hrun =>
    intro hhead
    have hreserved := hrun.unreserved '=' (List.mem_of_head? hhead)
    exact absurd hreserved (by decide)
  | connective op => cases op <;> decide
  | opening | closing => decide
  | _ => exact absurd rfl (hne _)

theorem IsLexeme.comparison_of_angle (h : IsLexeme kind literal)
    (hangle : literal = ['<'] ∨ literal = ['>']) : ∃ op, kind = .comparison op := by
  cases h with
  | bare hrun =>
    rcases hangle with rfl | rfl
    · exact absurd (hrun.unreserved '<' (.head _)) (by decide)
    · exact absurd (hrun.unreserved '>' (.head _)) (by decide)
  | connective op => cases op <;> simp [Connective.symbol] at hangle
  | opening | closing => simp at hangle
  | _ => exact ⟨_, rfl⟩

/-! ## The tokens of a respelled text -/

private theorem Scans.run_respellText (h : Scans offset text tokens offset' rest)
    (hstop : Stops offset' rest last) (hend : last.kind = .endOfInput)
    (hrun : ∀ c ∈ (text.dropWhile isBlank).head?, isReserved c = true) :
    ∀ c ∈ ((respellText chosen offset (tokens ++ [last]) text).dropWhile isBlank).head?,
      isReserved c = true := by
  cases h with
  | done => rwa [List.nil_append, respellText_of_stops hstop hend]
  | @next _ _ blanks literal tail _ kind tokens hblanks hlex _ _ =>
    let token : Token := ⟨kind, String.ofList literal, offset + byteLength blanks⟩
    have hlex' : IsLexeme kind token.literal.toList := by rwa [String.toList_ofList]
    have hrespelled := token.isLexeme_respelled chosen hlex'
    rw [List.cons_append, respellText_token rfl rfl, hrespelled.dropWhile_blanks hblanks]
    rw [hlex.dropWhile_blanks hblanks] at hrun
    by_cases hop : ∃ op, kind = .comparison op
    · obtain ⟨op, rfl⟩ := hop
      exact hrespelled.isReserved_head _
    · rw [token.respelled_of_ne fun op hkind => hop ⟨op, hkind⟩, String.toList_ofList]
      obtain ⟨c, rest, rfl, -⟩ := hlex.exists_solid
      exact hrun

/-- A respelled text begins with an equals sign only if it begins with a comparison. -/
private theorem Scans.equals_respellText (h : Scans offset text tokens offset' rest)
    (hstop : Stops offset' rest last) (hend : last.kind = .endOfInput)
    (hfirst : ∀ token ∈ tokens.head?, ∀ op, token.kind ≠ .comparison op) :
    (respellText chosen offset (tokens ++ [last]) text).head? ≠ some '=' := by
  have hblank {blanks : List Char} (hblanks : ∀ c ∈ blanks, isBlank c = true) :
      blanks.head? ≠ some '=' := fun hhead =>
    ne_equals_of_isBlank (hblanks '=' (List.mem_of_head? hhead)) rfl
  cases h with
  | done =>
    rw [List.nil_append, respellText_of_stops hstop hend]
    cases hstop with
    | malformed => cases hend
    | ended hblanks => exact hblank hblanks
  | @next _ _ blanks literal tail _ kind tokens hblanks hlex _ _ =>
    have hne := hfirst _ rfl
    rw [List.cons_append, respellText_token rfl rfl, Token.respelled_of_ne hne,
      String.toList_ofList]
    cases blanks with
    | cons c blanks => simpa using hblank hblanks
    | nil =>
      obtain ⟨c, rest, rfl, -⟩ := hlex.exists_solid
      simpa using hlex.head?_ne_equals hne

def ComparisonsApart (tokens : List Token) : Prop :=
  ∀ token token', [token, token'] <:+: tokens →
    ∀ op op', token.kind = .comparison op → token'.kind ≠ .comparison op'

theorem ComparisonsApart.of_cons (h : ComparisonsApart (token :: tokens)) :
    ComparisonsApart tokens :=
  fun first second hpair => h first second (List.infix_cons hpair)

theorem ComparisonsApart.head (h : ComparisonsApart (token :: tokens)) {op : Comparison}
    (hop : token.kind = .comparison op) :
    ∀ token' ∈ tokens.head?, ∀ op', token'.kind ≠ .comparison op' := by
  intro token' hmem op'
  obtain ⟨rest, rfl⟩ := List.head?_eq_some_iff.mp hmem
  exact h token token' ⟨[], rest, rfl⟩ op op' hop

private theorem Scans.exists_respelled (chosen : Token → Bool)
    (h : Scans offset text tokens offset' rest) (hstop : Stops offset' rest last)
    (hend : last.kind = .endOfInput) (hapart : ComparisonsApart tokens) (start : Nat) :
    ∃ tokens' stop,
      Scans start (respellText chosen offset (tokens ++ [last]) text) tokens' stop rest ∧
      tokens'.map (fun token => (token.kind, token.literal)) =
        tokens.map fun token => (token.kind, token.respelled chosen) := by
  induction h generalizing start with
  | done =>
    rw [List.nil_append, respellText_of_stops hstop hend]
    exact ⟨[], start, .done, rfl⟩
  | @next offset offset' blanks literal tail rest kind tokens hblanks hlex hborders hscans ih =>
    let token : Token := ⟨kind, String.ofList literal, offset + byteLength blanks⟩
    have hlex' : IsLexeme kind token.literal.toList := by rwa [String.toList_ofList]
    have hrespelled := token.isLexeme_respelled chosen hlex'
    have hborders' : Borders kind (token.respelled chosen).toList
        (respellText chosen (offset + byteLength blanks + byteLength literal)
          (tokens ++ [last]) tail) := by
      constructor
      · intro cls hcls
        exact hscans.run_respellText hstop hend (hborders.run cls hcls)
      · intro hangle
        obtain ⟨op, hop⟩ := hrespelled.comparison_of_angle hangle
        exact hscans.equals_respellText hstop hend (hapart.head hop)
    obtain ⟨tokens', stop, hscans', hspellings⟩ := ih hstop hapart.of_cons
      (start + byteLength blanks + byteLength (token.respelled chosen).toList)
    rw [List.cons_append, respellText_token rfl rfl]
    refine ⟨_, stop, .next hblanks hrespelled hborders' hscans', ?_⟩
    rw [List.map_cons, List.map_cons, hspellings, String.ofList_toList]

end RespelledTexts

/-! ## Queries that are read -/

section Queries

variable {query : String} {filter : Filter}

private theorem not_comparison_of_takes {limit : Nat} {before between behind : ReadingState}
    {token token' : Token} (htakes : before.Takes limit token between)
    {op : Comparison} (hop : token.kind = .comparison op)
    (htakes' : between.Takes limit token' behind) : ∀ op', token'.kind ≠ .comparison op' := by
  intro op' hop'
  cases htakes with
  | comparison =>
    cases htakes' with
    | listOpening hkind | value hkind => simp [hop'] at hkind
  | _ => simp_all

/-- In a query that is read, something else stands between any two comparisons. -/
theorem comparisonsApart_of_parse (h : parse query = .ok filter) :
    ComparisonsApart (tokenize query) := by
  obtain ⟨state, hafter, -⟩ := readQuery_eq_ok_iff.mp h
  intro token token' ⟨front, back, htokens⟩ op op' hop hop'
  have hsplit : (scan query).toList = front ++ ([token] ++ ([token'] ++ back)) := by
    rw [← tokenize, ← htokens]
    simp
  rw [hsplit] at hafter
  obtain ⟨before, -, hafter⟩ := ReadingState.exists_after_of_append hafter
  obtain ⟨between, hfirst, hafter⟩ := ReadingState.exists_after_of_append hafter
  obtain ⟨behind, hsecond, -⟩ := ReadingState.exists_after_of_append hafter
  rw [ReadingState.after_singleton] at hfirst hsecond
  exact not_comparison_of_takes (ReadingState.takes_of_step hfirst) hop
    (ReadingState.takes_of_step hsecond) op' hop'

/-- The tokens of a respelled query are the same but for their spellings and places. -/
theorem tokenize_respell (h : parse query = .ok filter) (chosen : Token → Bool) :
    (tokenize (respell chosen query)).map (fun token => (token.kind, token.literal)) =
      (tokenize query).map fun token => (token.kind, token.respelled chosen) := by
  have hapart := comparisonsApart_of_parse h
  obtain ⟨tokens, last, htokens, hend, -⟩ := parse_eq_ok_iff_derives.mp h
  obtain ⟨tokens', offset, rest, last', hscans, hstop, -, hlist⟩ := exists_scans 0 query.toList
  rw [← scan, ← tokenize, htokens] at hlist
  obtain ⟨rfl, hlast⟩ := List.append_inj' hlist rfl
  cases hlast
  rw [htokens] at hapart
  have hfront : ComparisonsApart tokens := fun token token' hpair =>
    hapart token token' (hpair.trans (List.prefix_append tokens [last]).isInfix)
  obtain ⟨tokens', stop, hscans', hspellings⟩ := hscans.exists_respelled chosen hstop hend hfront 0
  have hstop' : Stops stop rest ⟨.endOfInput, "", stop + byteLength rest⟩ := by
    cases hstop with
    | malformed => cases hend
    | ended hblanks => exact .ended hblanks
  have hlast : last.kind = .endOfInput ∧ last.literal = "" := by
    cases hstop with
    | malformed => cases hend
    | ended => exact ⟨rfl, rfl⟩
  rw [tokenize, scan, respell, String.toList_ofList, htokens, hscans'.toList_scanFrom,
    hstop'.toList_scanFrom, List.map_append, List.map_append, hspellings]
  simp [hlast, Token.respelled]

/-- A respelled token is taken in the same sense. -/
theorem Token.sense_respelled (chosen : Token → Bool) (token : Token) (offset : Nat) :
    Token.sense ⟨token.kind, token.respelled chosen, offset⟩ = token.sense := by
  refine Token.sense_eq_iff.mpr ⟨rfl, fun cls hkind => ?_⟩
  apply token.respelled_of_ne
  simp [hkind]

/-- A query that is read stands for the same filter with any of its comparisons spelled in the
other way. -/
theorem parse_respell (h : parse query = .ok filter) (chosen : Token → Bool) :
    parse (respell chosen query) = .ok filter := by
  have hspellings := tokenize_respell h chosen
  obtain ⟨tokens, last, htokens, hend, hderives⟩ := parse_eq_ok_iff_derives.mp h
  rw [htokens, List.map_append] at hspellings
  obtain ⟨tokens', rest, htokens', hfront, hback⟩ := List.map_eq_append_iff.mp hspellings
  obtain ⟨last', rfl, hlast⟩ := List.map_eq_singleton_iff.mp hback
  have hend' : last'.kind = last.kind := congrArg Prod.fst hlast
  have hsenses : tokens'.map Token.sense = tokens.map Token.sense := by
    have hmap := congrArg (List.map fun spelled => Token.sense ⟨spelled.1, spelled.2, 0⟩) hfront
    rw [List.map_map, List.map_map] at hmap
    calc
      tokens'.map Token.sense = _ := List.map_congr_left fun token _ => rfl
      _ = _ := hmap
      _ = tokens.map Token.sense :=
        List.map_congr_left fun token _ => token.sense_respelled chosen 0
  exact parse_eq_ok_iff_derives.mpr
    ⟨tokens', last', htokens', hend'.trans hend, hderives.of_senses hsenses⟩

theorem parse_respell_less :
    ∃ filter, parse "é<1,b =lt= 2;c<3" = .ok filter ∧
      respell (fun token => token.offset < 8) "é<1,b =lt= 2;c<3" = "é=lt=1,b < 2;c<3" ∧
      parse "é=lt=1,b < 2;c<3" = .ok filter := by
  let filter := Filter.combination .or [.constraint "é" .less (.one (.integer 1)),
    .combination .and [.constraint "b" .less (.one (.integer 2)),
      .constraint "c" .less (.one (.integer 3))]]
  have h : parse "é<1,b =lt= 2;c<3" = .ok filter := by decide +kernel
  have htext : respell (fun token => token.offset < 8) "é<1,b =lt= 2;c<3" = "é=lt=1,b < 2;c<3" := by
    decide +kernel
  have hread := parse_respell h fun token => token.offset < 8
  rw [htext] at hread
  exact ⟨filter, h, htext, hread⟩

end Queries

end FilterQuery
