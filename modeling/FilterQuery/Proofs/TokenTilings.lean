import FilterQuery.Proofs.ScannedTexts

/-!
# Token tilings

What the tokens of a query are, said of the query as a whole and of places in it.  Each token stands
at its byte offset; from the end of one token to the beginning of the next there are only blanks;
every token but the last is a lexeme that what follows it does not extend, and the last one is the
end of the query or a malformed operator.  Exactly one list of tokens is of this kind.
-/

namespace FilterQuery

/-- Whether a text stands in a query at a byte offset, in front of another text. -/
def StandsAt (query : String) (offset : Nat) (text tail : String) : Prop :=
  ∃ front, query = front ++ text ++ tail ∧ front.utf8ByteSize = offset

def BlankBetween (query : String) (start stop : Nat) : Prop :=
  ∃ blanks tail, StandsAt query start blanks tail ∧ start + blanks.utf8ByteSize = stop ∧
    ∀ c ∈ blanks.toList, isBlank c = true

namespace Token

def stop (token : Token) : Nat := token.offset + token.literal.utf8ByteSize

/-- Whether a token is a lexeme of a query that what follows it does not extend. -/
def IsTile (query : String) (token : Token) : Prop :=
  ∃ tail, StandsAt query token.offset token.literal tail ∧
    IsLexeme token.kind token.literal.toList ∧
    Borders token.kind token.literal.toList tail.toList

/-- Whether a token is the end of a query or a malformed operator in it. -/
def IsLastTile (query : String) (token : Token) : Prop :=
  token = ⟨.endOfInput, "", query.utf8ByteSize⟩ ∨
    token.kind = .malformed ∧ ∃ tail, StandsAt query token.offset token.literal tail ∧
      IsMalformed token.literal.toList tail.toList

end Token

/-- Whether there are only blanks before each of the tokens, from the token before it on or, before
the first one, from a byte offset on. -/
def Gaps (query : String) (start : Nat) (tokens : List Token) : Prop :=
  ∀ gap ∈ (start :: tokens.map Token.stop).zip (tokens.map Token.offset),
    BlankBetween query gap.1 gap.2

/-- Whether tokens cover a query. -/
structure IsTiling (query : String) (tokens : List Token) : Prop where
  gaps : Gaps query 0 tokens
  tiles : ∀ token ∈ tokens.dropLast, token.IsTile query
  last : ∃ last ∈ tokens.getLast?, last.IsLastTile query

/-! ## Places in a query -/

theorem byteLength_toList (text : String) : byteLength text.toList = text.utf8ByteSize := by
  suffices h : ∀ cs, byteLength cs = (String.ofList cs).utf8ByteSize by
    rw [h, String.ofList_toList]
  intro cs
  induction cs with
  | nil => rfl
  | cons c cs ih =>
    rw [byteLength, ih]
    simp

theorem append_inj_of_byteLength {xs xs' ys ys' : List Char} (h : xs ++ ys = xs' ++ ys')
    (hlength : byteLength xs = byteLength xs') : xs = xs' ∧ ys = ys' := by
  induction xs generalizing xs' with
  | nil =>
    cases xs' with
    | nil => exact ⟨rfl, h⟩
    | cons c xs' =>
      have hpos := byteLength_pos c xs'
      simp only [byteLength] at hlength hpos
      omega
  | cons c xs ih =>
    cases xs' with
    | nil =>
      have hpos := byteLength_pos c xs
      simp only [byteLength] at hlength hpos
      omega
    | cons c' xs' =>
      obtain ⟨rfl, htail⟩ := List.cons.inj h
      simp only [byteLength] at hlength
      obtain ⟨rfl, rfl⟩ := ih htail (by omega)
      exact ⟨rfl, rfl⟩

section Places

variable {query text tail : String} {front rest : List Char} {offset : Nat}

theorem standsAt_iff :
    StandsAt query offset text tail ↔ ∃ front, query.toList = front ++ (text.toList ++ tail.toList) ∧
      byteLength front = offset := by
  constructor
  · rintro ⟨front, rfl, rfl⟩
    exact ⟨front.toList, by simp, byteLength_toList front⟩
  · rintro ⟨front, hquery, rfl⟩
    refine ⟨String.ofList front, ?_, ?_⟩
    · rw [← String.toList_inj]
      simp [hquery]
    · rw [← byteLength_toList, String.toList_ofList]

theorem StandsAt.eq_append (h : StandsAt query offset text tail)
    (hquery : query.toList = front ++ rest) (hoffset : byteLength front = offset) :
    rest = text.toList ++ tail.toList := by
  obtain ⟨front', hquery', hoffset'⟩ := standsAt_iff.mp h
  rw [hquery] at hquery'
  exact (append_inj_of_byteLength hquery' (hoffset.trans hoffset'.symm)).2

theorem BlankBetween.eq_append {stop : Nat} (h : BlankBetween query offset stop)
    (hquery : query.toList = front ++ rest) (hoffset : byteLength front = offset) :
    ∃ blanks tail, rest = blanks ++ tail ∧ (∀ c ∈ blanks, isBlank c = true) ∧
      stop = offset + byteLength blanks := by
  obtain ⟨blanks, tail, hstands, rfl, hblanks⟩ := h
  refine ⟨blanks.toList, tail.toList, hstands.eq_append hquery hoffset, hblanks, ?_⟩
  rw [byteLength_toList]

theorem blankBetween_of_append {blanks : List Char} (hquery : query.toList = front ++ (blanks ++ rest))
    (hoffset : byteLength front = offset) (hblanks : ∀ c ∈ blanks, isBlank c = true) :
    BlankBetween query offset (offset + byteLength blanks) := by
  refine ⟨String.ofList blanks, String.ofList rest, standsAt_iff.mpr ⟨front, ?_, hoffset⟩, ?_, ?_⟩
  · simpa using hquery
  · rw [← byteLength_toList, String.toList_ofList]
  · simpa using hblanks

end Places

/-! ## One more token -/

section Gaps

variable {query : String} {start : Nat} {token : Token} {tokens : List Token}

theorem gaps_cons :
    Gaps query start (token :: tokens) ↔
      BlankBetween query start token.offset ∧ Gaps query token.stop tokens := by
  simp [Gaps]

theorem gaps_singleton : Gaps query start [token] ↔ BlankBetween query start token.offset := by
  simp [Gaps]

end Gaps

/-! ## The tokens of a query tile it -/

section Tiling

variable {query : String} {offset offset' : Nat} {text rest front : List Char}
  {tokens : List Token} {last : Token}

private theorem isLastTile_of_stops (h : Stops offset text last)
    (hquery : query.toList = front ++ text) (hoffset : byteLength front = offset) :
    BlankBetween query offset last.offset ∧ last.IsLastTile query := by
  cases h with
  | ended hblanks =>
    have hsize : query.utf8ByteSize = offset + byteLength text := by
      rw [← byteLength_toList, hquery, byteLength_append, hoffset]
    have hcut : query.toList = front ++ (text ++ []) := by simpa using hquery
    refine ⟨blankBetween_of_append hcut hoffset hblanks, .inl ?_⟩
    rw [hsize]
  | @malformed blanks literal tail hblanks hbad =>
    refine ⟨blankBetween_of_append hquery hoffset hblanks, .inr ⟨rfl, String.ofList tail, ?_, ?_⟩⟩
    · refine standsAt_iff.mpr ⟨front ++ blanks, ?_, ?_⟩
      · simp [hquery]
      · rw [byteLength_append, hoffset]
    · simpa using hbad

private theorem tiling_of_scans (h : Scans offset text tokens offset' rest)
    (hstop : Stops offset' rest last) (hquery : query.toList = front ++ text)
    (hoffset : byteLength front = offset) :
    Gaps query offset (tokens ++ [last]) ∧ (∀ token ∈ tokens, token.IsTile query) ∧
      last.IsLastTile query := by
  induction h generalizing front with
  | done =>
    obtain ⟨hgap, hlast⟩ := isLastTile_of_stops hstop hquery hoffset
    exact ⟨gaps_singleton.mpr hgap, by simp, hlast⟩
  | @next offset offset' blanks literal tail rest kind tokens hblanks hlex hborders _ ih =>
    have hgap := blankBetween_of_append hquery hoffset hblanks
    have hcut : query.toList = (front ++ blanks ++ literal) ++ tail := by simp [hquery]
    have hcutoffset : byteLength (front ++ blanks ++ literal) =
        offset + byteLength blanks + byteLength literal := by
      simp only [byteLength_append, hoffset]
    obtain ⟨hgaps, htiles, hlast⟩ := ih hstop hcut hcutoffset
    let token : Token := ⟨kind, String.ofList literal, offset + byteLength blanks⟩
    have hsize : token.stop = offset + byteLength blanks + byteLength literal := by
      rw [Token.stop, ← byteLength_toList, String.toList_ofList]
    have htile : token.IsTile query := by
      refine ⟨String.ofList tail, standsAt_iff.mpr ⟨front ++ blanks, ?_, ?_⟩, ?_, ?_⟩
      · simp [token, hquery]
      · rw [byteLength_append, hoffset]
      · simpa [token] using hlex
      · simpa [token] using hborders
    refine ⟨gaps_cons.mpr ⟨hgap, ?_⟩, ?_, hlast⟩
    · rw [hsize]
      exact hgaps
    · intro token' hmem
      rcases List.mem_cons.mp hmem with rfl | hmem
      · exact htile
      · exact htiles token' hmem

theorem isTiling_tokenize (query : String) : IsTiling query (tokenize query) := by
  obtain ⟨tokens, offset, rest, last, hscans, hstop, -, hlist⟩ := exists_scans 0 query.toList
  have htokens : tokenize query = tokens ++ [last] := hlist
  have hquery : query.toList = [] ++ query.toList := rfl
  obtain ⟨hgaps, htiles, hlast⟩ := tiling_of_scans hscans hstop hquery rfl
  rw [htokens]
  exact ⟨hgaps, by simpa using htiles, last, by simp, hlast⟩

/-! ## Nothing else tiles a query -/

private theorem toList_scanFrom_of_isLastTile (h : last.IsLastTile query)
    (hgap : BlankBetween query offset last.offset) (hquery : query.toList = front ++ text)
    (hoffset : byteLength front = offset) : (scanFrom offset text).toList = [last] := by
  obtain ⟨blanks, tail, rfl, hblanks, hstart⟩ := hgap.eq_append hquery hoffset
  have hcut : query.toList = (front ++ blanks) ++ tail := by simp [hquery]
  have hcutoffset : byteLength (front ++ blanks) = last.offset := by
    rw [byteLength_append, hoffset, hstart]
  rcases h with rfl | ⟨hkind, tail', hstands, hbad⟩
  · have hnil : tail = [] := by
      have hsize : query.utf8ByteSize = byteLength (front ++ blanks) + byteLength tail := by
        rw [← byteLength_toList, hcut, byteLength_append]
      cases tail with
      | nil => rfl
      | cons c tail =>
        have hpos := byteLength_pos c tail
        dsimp only at hcutoffset
        omega
    rw [hnil, List.append_nil, toList_scanFrom_blanks hblanks, ← hstart]
  · obtain rfl := hstands.eq_append hcut hcutoffset
    rw [toList_scanFrom_malformed hblanks hbad, String.ofList_toList, ← hstart, ← hkind]

private theorem toList_scanFrom_of_tiles (hgaps : Gaps query offset (tokens ++ [last]))
    (htiles : ∀ token ∈ tokens, token.IsTile query) (hlast : last.IsLastTile query)
    (hquery : query.toList = front ++ text) (hoffset : byteLength front = offset) :
    (scanFrom offset text).toList = tokens ++ [last] := by
  induction tokens generalizing offset text front with
  | nil => exact toList_scanFrom_of_isLastTile hlast (gaps_singleton.mp hgaps) hquery hoffset
  | cons token tokens ih =>
    obtain ⟨hgap, hrest⟩ := gaps_cons.mp hgaps
    obtain ⟨blanks, tail, rfl, hblanks, hstart⟩ := hgap.eq_append hquery hoffset
    have hcut : query.toList = (front ++ blanks) ++ tail := by simp [hquery]
    have hcutoffset : byteLength (front ++ blanks) = token.offset := by
      rw [byteLength_append, hoffset, hstart]
    obtain ⟨tail', hstands, hlex, hborders⟩ := htiles token List.mem_cons_self
    obtain rfl := hstands.eq_append hcut hcutoffset
    have hnext : query.toList = (front ++ blanks ++ token.literal.toList) ++ tail'.toList := by
      simp [hcut]
    have hnextoffset : byteLength (front ++ blanks ++ token.literal.toList) = token.stop := by
      rw [byteLength_append, hcutoffset, byteLength_toList, Token.stop]
    have hscan := ih hrest (fun t hmem => htiles t (List.mem_cons_of_mem _ hmem)) hnext hnextoffset
    rw [toList_scanFrom_lexeme hblanks hlex hborders, ← hstart, byteLength_toList, ← Token.stop,
      hscan, String.ofList_toList, List.cons_append]

end Tiling

/-- The tokens of a query are the only ones that tile it. -/
theorem isTiling_iff_eq_tokenize (query : String) (tokens : List Token) :
    IsTiling query tokens ↔ tokens = tokenize query := by
  constructor
  · rintro ⟨hgaps, htiles, last, hlast, hfinal⟩
    obtain ⟨front, rfl⟩ := List.getLast?_eq_some_iff.mp hlast
    rw [List.dropLast_concat] at htiles
    have hquery : query.toList = [] ++ query.toList := rfl
    exact (toList_scanFrom_of_tiles hgaps htiles hfinal hquery rfl).symm
  · rintro rfl
    exact isTiling_tokenize query

end FilterQuery
