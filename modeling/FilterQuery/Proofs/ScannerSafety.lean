import FilterQuery.QueryScanners
import FilterQuery.TokenCursors
import FilterQuery.Proofs.TokenTilings

/-!
# Safety of query scanners

A scanner that stands between two parts of a query sees the first character of the second part, and
keeps the byte offsets in front of that character and behind it.  Each step and each reading of a
token leads from such a place to another one, so no cut is ever refused, the scan ends, and the
tokens are those of the query.
-/

namespace FilterQuery

/-! ## Cuts -/

private theorem byteLength_eq_size (text : List Char) :
    byteLength text = (String.ofList text).toByteArray.size := by
  rw [String.size_toByteArray, ← byteLength_toList, String.toList_ofList]

theorem isValid_byteLength (front rest : List Char) :
    String.Pos.Raw.IsValid (.ofList (front ++ rest)) ⟨byteLength front⟩ := by
  refine String.Pos.Raw.isValid_iff_exists_append.mpr ⟨.ofList front, .ofList rest, ?_, ?_⟩
  · exact String.ofList_append
  · rw [byteLength_eq_size]
    rfl

/-- What stands between two parts of a query is cut out at their byte offsets. -/
theorem cut?_eq_some (front text tail : List Char) :
    cut? (.ofList (front ++ (text ++ tail))) (byteLength front) (byteLength (front ++ text)) =
      some (.ofList text) := by
  have hfirst := isValid_byteLength front (text ++ tail)
  have hlast := isValid_byteLength (front ++ text) tail
  rw [List.append_assoc] at hlast
  have hle : byteLength front ≤ byteLength (front ++ text) := by
    rw [byteLength_append]
    exact Nat.le_add_right _ _
  rw [cut?, dif_pos ⟨hfirst, hlast, hle⟩]
  refine congrArg some (String.toByteArray_inj.mp ?_)
  have hskip := ByteArray.extract_append_size_add' (i := 0) (j := byteLength text)
    (b := (String.ofList (text ++ tail)).toByteArray) (byteLength_eq_size front)
  rw [String.toByteArray_extract, String.offset_pos, String.offset_pos, String.ofList_append,
    String.toByteArray_append, byteLength_append]
  rw [Nat.add_zero] at hskip
  rw [hskip, String.ofList_append, String.toByteArray_append]
  exact ByteArray.extract_append_eq_left (byteLength_eq_size text)

namespace QueryScanner

/-! ## Steps -/

/-- The scanner of a query that stands between two parts of it. -/
def standing (front rest : List Char) : QueryScanner :=
  ⟨.ofList (front ++ rest), byteLength front, byteLength front + rest.head?.elim 0 Char.utf8Size,
    rest.head?, none⟩

@[simp] theorem sight_standing (front rest : List Char) :
    (standing front rest).sight = rest.head? := rfl

@[simp] theorem here_standing (front rest : List Char) :
    (standing front rest).here = byteLength front := rfl

@[simp] theorem query_standing (front rest : List Char) :
    (standing front rest).query = .ofList (front ++ rest) := rfl

theorem next_standing (front : List Char) (c : Char) (rest : List Char) :
    (standing front (c :: rest)).next = byteLength (front ++ [c]) := by
  simp [standing, byteLength]

theorem peek_standing (front : List Char) (c : Char) (rest : List Char) :
    (standing front (c :: rest)).peek = some rest.head? := by
  have hcut := cut?_eq_some (front ++ [c]) rest []
  rw [List.append_nil, List.append_assoc, List.singleton_append,
    byteLength_eq_size (front ++ c :: rest), String.size_toByteArray] at hcut
  rw [peek, next_standing, query_standing, hcut]
  simp

theorem step_standing (front : List Char) (c : Char) (rest : List Char) :
    (standing front (c :: rest)).step = some (standing (front ++ [c]) rest) := by
  rw [step, peek_standing, next_standing]
  simp [standing]

theorem ofQuery_eq (query : String) : ofQuery query = some (standing [] query.toList) := by
  have hcut := cut?_eq_some [] query.toList []
  rw [List.append_nil, List.nil_append, byteLength_toList, String.ofList_toList] at hcut
  simp [ofQuery, step, peek, standing, byteLength] at hcut ⊢
  rw [hcut]
  simp

theorem skipWhile_standing (p : Char → Bool) (front rest : List Char) :
    (standing front rest).skipWhile p =
      some (standing (front ++ rest.takeWhile p) (rest.dropWhile p)) := by
  induction rest generalizing front with
  | nil =>
    rw [skipWhile]
    simp
  | cons c rest ih =>
    rw [skipWhile, sight_standing]
    by_cases hc : p c = true
    · simp [hc, step_standing, ih]
    · simp [hc]

/-! ## Lexemes -/

theorem cut?_standing (front taken rest : List Char) :
    cut? (.ofList (front ++ taken ++ rest)) (byteLength front) (byteLength (front ++ taken)) =
      some (.ofList taken) := by
  rw [List.append_assoc]
  exact cut?_eq_some front taken rest

/-- What reading a token comes to behind a part of a query and in front of a text: the token and a
place behind it in the text.  Unless the token is terminal, only blanks are passed with it. -/
def Finds (front text : List Char) (found : TokenKind × List Char)
    (result : Option (Token × QueryScanner)) : Prop :=
  ∃ passed rest, text = passed ++ rest ∧
    result = some (⟨found.1, .ofList found.2, byteLength front⟩, standing (front ++ passed) rest) ∧
    (found.1.isTerminal = false →
      ∃ blanks, passed = found.2 ++ blanks ∧ ∀ c ∈ blanks, isBlank c = true)

theorem Finds.of_isTerminal {front literal : List Char} {kind : TokenKind}
    {result : Option (Token × QueryScanner)} (passed rest : List Char)
    (hkind : kind.isTerminal = true)
    (hresult : result =
      some (⟨kind, .ofList literal, byteLength front⟩, standing (front ++ passed) rest)) :
    Finds front (passed ++ rest) (kind, literal) result :=
  ⟨passed, rest, rfl, hresult, fun hopen => absurd hkind (Bool.eq_false_iff.mp hopen)⟩

section Lexemes

variable (front taken rest : List Char) (c : Char)

theorem finds_single (kind : TokenKind) :
    Finds front (taken ++ c :: rest) (kind, taken ++ [c])
      ((standing (front ++ taken) (c :: rest)).single kind (byteLength front)) := by
  refine ⟨taken ++ [c], rest, by simp, ?_, fun _ => ⟨[], by simp, by simp⟩⟩
  simp only [single, step_standing, Option.bind_eq_bind, Option.bind_some, query_standing,
    here_standing]
  rw [List.append_assoc front taken, cut?_standing]
  rfl

theorem finds_malformed :
    Finds front (taken ++ rest) (.malformed, taken)
      ((standing (front ++ taken) rest).malformed (byteLength front)) := by
  refine .of_isTerminal taken rest rfl ?_
  rw [malformed, query_standing, here_standing, cut?_standing]
  rfl

theorem finds_readWord (hrest : rest.head? ≠ some '=') :
    Finds front ('=' :: rest) (equalsLexeme rest)
      ((standing (front ++ ['=']) rest).readWord (byteLength front)) := by
  have hsplit := List.takeWhile_append_dropWhile (p := isAlphabetic) (l := rest)
  have hword := cut?_standing (front ++ ['=']) (rest.takeWhile isAlphabetic)
    (rest.dropWhile isAlphabetic)
  rw [equalsLexeme, if_neg hrest]
  simp only [readWord, skipWhile_standing, Option.bind_eq_bind, Option.bind_some, sight_standing,
    query_standing, here_standing, hword, String.toList_ofList]
  generalize rest.takeWhile isAlphabetic = word at *
  generalize rest.dropWhile isAlphabetic = tail at *
  subst hsplit
  rw [List.append_assoc, List.singleton_append]
  have hmalformed := finds_malformed front ('=' :: word) tail
  by_cases htail : tail.head? = some '='
  · obtain ⟨tail', rfl⟩ := List.head?_eq_some_iff.mp htail
    rw [if_pos htail]
    cases Comparison.ofKey? word with
    | some op => exact finds_single front ('=' :: word) tail' '=' (.comparison op)
    | none => exact hmalformed
  · simp only [if_neg htail]
    cases Comparison.ofKey? word with
    | some op => exact hmalformed
    | none => exact hmalformed

theorem finds_readEquals :
    Finds front ('=' :: rest) (equalsLexeme rest)
      ((standing front ('=' :: rest)).readEquals (byteLength front)) := by
  simp only [readEquals, peek_standing, step_standing, Option.bind_eq_bind, Option.bind_some]
  by_cases hrest : rest.head? = some '='
  · obtain ⟨rest', rfl⟩ := List.head?_eq_some_iff.mp hrest
    refine ⟨['=', '='], rest', rfl, ?_, fun _ => ⟨[], rfl, by simp⟩⟩
    rw [if_pos hrest, equalsLexeme, if_pos hrest, step_standing, List.append_assoc]
    rfl
  · rw [if_neg hrest]
    exact finds_readWord front rest hrest

theorem finds_readExclamation :
    Finds front ('!' :: rest) (exclamationLexeme rest)
      ((standing front ('!' :: rest)).readExclamation (byteLength front)) := by
  simp only [readExclamation, step_standing, Option.bind_eq_bind, Option.bind_some, sight_standing]
  cases rest with
  | nil => exact .of_isTerminal ['!'] [] rfl rfl
  | cons d rest =>
    by_cases hd : d = '='
    · subst hd
      exact finds_single front ['!'] rest '=' (.comparison .notEqual)
    · -- The character behind the mark is cut out with it, but stays in sight.
      have hcut := cut?_standing front ['!', d] rest
      have hquery : front ++ ['!', d] ++ rest = front ++ ['!'] ++ d :: rest := by simp
      have hend : byteLength (front ++ ['!', d]) = byteLength (front ++ ['!']) + d.utf8Size := by
        simp [byteLength, Nat.add_assoc]
      rw [hquery, hend] at hcut
      rw [exclamationLexeme, if_neg (by simpa using hd)]
      refine .of_isTerminal ['!'] (d :: rest) rfl ?_
      simp only [List.head?_cons, if_neg hd, query_standing, here_standing, hcut]
      rfl

theorem finds_readAngle (strict loose : Comparison) :
    Finds front (c :: rest) (angleLexeme c strict loose rest)
      ((standing front (c :: rest)).readAngle c strict loose (byteLength front)) := by
  simp only [readAngle, step_standing, Option.bind_eq_bind, Option.bind_some]
  by_cases hrest : rest.head? = some '='
  · obtain ⟨rest', rfl⟩ := List.head?_eq_some_iff.mp hrest
    exact finds_single front [c] rest' '=' (.comparison loose)
  · have hsight : (standing (front ++ [c]) rest).sight ≠ some '=' := hrest
    rw [if_neg hsight, angleLexeme, if_neg hrest]
    exact ⟨[c], rest, rfl, rfl, fun _ => ⟨[], rfl, by simp⟩⟩

theorem finds_readBare :
    Finds front rest (bareLexeme rest) ((standing front rest).readBare (byteLength front)) := by
  have hsplit := List.takeWhile_append_dropWhile (p := fun c => !isReserved c) (l := rest)
  have hcut := cut?_standing front (rest.takeWhile fun c => !isReserved c)
    (rest.dropWhile fun c => !isReserved c)
  simp only [readBare, skipWhile_standing, Option.bind_eq_bind, Option.bind_some, query_standing,
    here_standing, hcut, String.toList_ofList]
  refine ⟨_, _, hsplit.symm, rfl, fun _ => ?_⟩
  obtain ⟨blanks, htrim, hblanks⟩ :=
    exists_trimBlanksEnd_append (rest.takeWhile fun c => !isReserved c)
  exact ⟨blanks, htrim, hblanks⟩

end Lexemes

theorem finds_readLexeme (front : List Char) (c : Char) (rest : List Char) :
    Finds front (c :: rest) (lexeme c rest)
      ((standing front (c :: rest)).readLexeme c (byteLength front)) := by
  have hmark (kind : TokenKind) : Finds front (c :: rest) (kind, [c])
      ((standing front (c :: rest)).single kind (byteLength front)) := by
    have hsingle := finds_single front [] rest c kind
    rwa [List.append_nil] at hsingle
  unfold readLexeme lexeme
  split
  case isTrue hc => subst hc; exact finds_readEquals front rest
  split
  case isTrue hc => subst hc; exact finds_readExclamation front rest
  split
  case isTrue hc => subst hc; exact finds_readAngle front rest '<' _ _
  split
  case isTrue hc => subst hc; exact finds_readAngle front rest '>' _ _
  split
  case isTrue hc => subst hc; exact hmark _
  split
  case isTrue hc => subst hc; exact hmark _
  split
  case isTrue hc => subst hc; exact hmark _
  split
  case isTrue hc => subst hc; exact hmark _
  exact finds_readBare front (c :: rest)

/-! ## Tokens -/

theorem scanFrom_append_of_blanks {blanks : List Char} (hblanks : ∀ c ∈ blanks, isBlank c = true)
    (offset : Nat) (text : List Char) :
    scanFrom offset (blanks ++ text) = scanFrom (offset + byteLength blanks) text := by
  have htaken : (blanks ++ text).takeWhile isBlank = blanks ++ text.takeWhile isBlank :=
    List.takeWhile_append_of_pos hblanks
  have hdropped : (blanks ++ text).dropWhile isBlank = text.dropWhile isBlank :=
    List.dropWhile_append_of_pos hblanks
  rw [scanFrom, scanFrom, htaken, byteLength_append, Nat.add_assoc]
  generalize List.dropWhile isBlank (blanks ++ text) = rest at *
  generalize List.dropWhile isBlank text = rest' at *
  rw [hdropped]

theorem drop_lexeme {c : Char} {rest literal tail : List Char} (h : c :: rest = literal ++ tail)
    (hne : literal ≠ []) : rest.drop (literal.length - 1) = tail := by
  obtain ⟨d, literal', rfl⟩ := List.exists_cons_of_ne_nil hne
  obtain ⟨-, rfl⟩ := List.cons.inj h
  simp

/-- A scan finds the current token of the stream, and leads to a place from which the others are
found, unless that token is terminal. -/
theorem scan_standing (front text : List Char) :
    ∃ passed rest, text = passed ++ rest ∧
      (standing front text).scan =
        some ((scanFrom (byteLength front) text).current, standing (front ++ passed) rest) ∧
      ((scanFrom (byteLength front) text).current.isTerminal = false →
        scanFrom (byteLength (front ++ passed)) rest =
          (scanFrom (byteLength front) text).advance) := by
  obtain ⟨hcurrent, hadvance⟩ := TokenCursor.stream_pull ⟨byteLength front, text, none⟩
  change _ = (scanFrom (byteLength front) text).current at hcurrent
  change _ = (scanFrom (byteLength front) text).advance at hadvance
  rw [← hcurrent, ← hadvance]
  have hsplit := List.takeWhile_append_dropWhile (p := isBlank) (l := text)
  simp only [scan, skipWhile_standing, Option.bind_eq_bind, Option.bind_some, sight_standing,
    here_standing, TokenCursor.pull, ← byteLength_append]
  generalize text.takeWhile isBlank = blanks at *
  cases hdrop : text.dropWhile isBlank with
  | nil =>
    rw [hdrop] at hsplit
    exact ⟨blanks, [], hsplit.symm, rfl, fun hopen => absurd rfl (Bool.eq_false_iff.mp hopen)⟩
  | cons c rest =>
    have hc : isBlank c = false := head?_dropWhile_eq_false isBlank text c (by rw [hdrop]; rfl)
    rw [hdrop] at hsplit
    obtain ⟨passed, tail, hpassed, hread, hopen⟩ := finds_readLexeme (front ++ blanks) c rest
    have htext : text = blanks ++ passed ++ tail := by rw [← hsplit, hpassed, List.append_assoc]
    rw [List.append_assoc] at hread
    simp only [List.head?_cons, hread]
    refine ⟨blanks ++ passed, tail, htext, ?_⟩
    split
    case isTrue hend => exact ⟨rfl, fun hopen => absurd hend (Bool.eq_false_iff.mp hopen)⟩
    case isFalse hend =>
      refine ⟨rfl, fun _ => ?_⟩
      obtain ⟨trailing, rfl, htrailing⟩ := hopen (by simpa [Token.isTerminal] using hend)
      rw [List.append_assoc] at hpassed
      have hrest := drop_lexeme hpassed (lexeme_ne_nil hc rest)
      change _ = scanFrom _ _
      rw [hrest, scanFrom_append_of_blanks htrailing, ← byteLength_append]
      simp only [List.append_assoc]

/-! ## Runs -/

/-- Whether a scanner has a stream of tokens ahead, at some place of its query. -/
inductive Follows (query : String) : QueryScanner → TokenStream → Prop where
  | running {front rest : List Char} (hquery : query.toList = front ++ rest) :
      Follows query (standing front rest) (scanFrom (byteLength front) rest)
  | stopped {front rest : List Char} (hquery : query.toList = front ++ rest)
      (token : { token : Token // token.isTerminal = true }) :
      Follows query { standing front rest with last := some token } (.ended token token.2)

theorem Follows.pull {query : String} {scanner : QueryScanner} {s : TokenStream}
    (h : Follows query scanner s) :
    ∃ after, scanner.pull = some (s.current, after) ∧ Follows query after s.advance := by
  cases h with
  | stopped hquery token => exact ⟨_, rfl, .stopped hquery token⟩
  | @running front text hquery =>
    obtain ⟨passed, rest, rfl, hscan, hopen⟩ := scan_standing front text
    rw [← List.append_assoc] at hquery
    have hpull : (standing front (passed ++ rest)).pull = (standing front (passed ++ rest)).scan >>=
        fun found => if h : found.1.isTerminal = true then
          some (found.1, { found.2 with last := some ⟨found.1, h⟩ }) else some found := rfl
    rw [hpull, hscan, Option.bind_eq_bind, Option.bind_some]
    split
    case isTrue hend =>
      refine ⟨_, rfl, ?_⟩
      rw [TokenStream.advance_of_isTerminal hend]
      exact .stopped hquery ⟨_, hend⟩
    case isFalse hend =>
      refine ⟨_, rfl, ?_⟩
      rw [← hopen (by simpa using hend)]
      exact .running hquery

theorem Follows.pulls {query : String} {scanner : QueryScanner} {s : TokenStream}
    (h : Follows query scanner s) (n : Nat) :
    ∃ after rest, scanner.pulls n = some (s.pulls n, after) ∧ Follows query after rest := by
  induction n generalizing scanner s with
  | zero => exact ⟨scanner, s, rfl, h⟩
  | succ n ih =>
    obtain ⟨after, hpull, hafter⟩ := h.pull
    obtain ⟨final, rest, hpulls, hfinal⟩ := ih hafter
    refine ⟨final, rest, ?_, hfinal⟩
    simp only [QueryScanner.pulls, hpull, Option.bind_eq_bind, Option.bind_some, hpulls]
    rfl

/-- Whether the offsets of a scanner are places in its query: the one of the character in sight, or
of the end if there is none, and the one behind that character. -/
structure IsAligned (scanner : QueryScanner) : Prop where
  here_le_next : scanner.here ≤ scanner.next
  next_le_size : scanner.next ≤ scanner.query.utf8ByteSize
  here_isValid : String.Pos.Raw.IsValid scanner.query ⟨scanner.here⟩
  next_isValid : String.Pos.Raw.IsValid scanner.query ⟨scanner.next⟩
  sight_stands : ∀ c ∈ scanner.sight, ∃ tail,
    StandsAt scanner.query scanner.here (.singleton c) tail
  sight_none : scanner.sight = none ↔ scanner.here = scanner.query.utf8ByteSize
  next_eq : scanner.next = scanner.here + scanner.sight.elim 0 Char.utf8Size

theorem isAligned_standing (front rest : List Char) : (standing front rest).IsAligned := by
  have hnext : String.Pos.Raw.IsValid (.ofList (front ++ rest)) ⟨(standing front rest).next⟩ := by
    cases rest with
    | nil => exact isValid_byteLength front []
    | cons c rest =>
      rw [next_standing, ← List.singleton_append, ← List.append_assoc]
      exact isValid_byteLength (front ++ [c]) rest
  constructor
  · exact Nat.le_add_right _ _
  · exact hnext.le_rawEndPos
  · exact isValid_byteLength front rest
  · exact hnext
  · intro c hc
    obtain ⟨tail, rfl⟩ := List.head?_eq_some_iff.mp hc
    exact ⟨.ofList tail, standsAt_iff.mpr ⟨front, by simp, rfl⟩⟩
  · rw [sight_standing, here_standing, query_standing, ← String.size_toByteArray,
      ← byteLength_eq_size, byteLength_append]
    cases rest with
    | nil => simp [byteLength]
    | cons c rest =>
      have hpos := byteLength_pos c rest
      simp only [List.head?_cons, reduceCtorEq, false_iff]
      omega
  · rfl

theorem Follows.isAligned {query : String} {scanner : QueryScanner} {s : TokenStream}
    (h : Follows query scanner s) : scanner.query = query ∧ scanner.IsAligned := by
  cases h with
  | @running front rest hquery =>
    refine ⟨?_, isAligned_standing front rest⟩
    rw [query_standing, ← hquery, String.ofList_toList]
  | @stopped front rest hquery token =>
    obtain ⟨hnext, hsize, hhere, hbehind, hstands, hnone, heq⟩ := isAligned_standing front rest
    refine ⟨?_, ⟨hnext, hsize, hhere, hbehind, hstands, hnone, heq⟩⟩
    rw [query_standing, ← hquery, String.ofList_toList]

/-- However many tokens are taken from a scanner, they are those of the query, no cut is refused on
the way, and the offsets of the scanner are places in the query. -/
theorem pulls_ofQuery (query : String) (n : Nat) :
    ∃ scanner, (ofQuery query).bind (·.pulls n) = some ((FilterQuery.scan query).pulls n, scanner) ∧
      scanner.query = query ∧ scanner.IsAligned := by
  have hfollows : Follows query (standing [] query.toList) (FilterQuery.scan query) := .running rfl
  obtain ⟨scanner, rest, hpulls, hfinal⟩ := hfollows.pulls n
  rw [ofQuery_eq, Option.bind_some, hpulls]
  exact ⟨scanner, rfl, hfinal.isAligned⟩

end QueryScanner

end FilterQuery
