import FilterQuery.TokenStreams

/-!
# Scanning

A query is split into tokens from left to right.  Blanks before a token are skipped.  A token is
one of the punctuation marks, an operator, or a bare run of text up to the next reserved
character; the run keeps its inner blanks and loses those at its end.  Scanning stops at the first
malformed operator or at the end of the query.

A listing of a query has one line for each token: its offset, set flush right in four columns, and
the token itself.
-/

namespace FilterQuery

/-- Whether a character ends a bare run. -/
def isReserved (c : Char) : Bool :=
  c == '=' || c == '<' || c == '>' || c == '!' || c == '(' || c == ')' || c == ';' || c == ','

/-- The bytes that a text takes in a query. -/
def byteLength : List Char → Nat
  | [] => 0
  | c :: rest => c.utf8Size + byteLength rest

@[simp] theorem byteLength_append (xs ys : List Char) :
    byteLength (xs ++ ys) = byteLength xs + byteLength ys := by
  induction xs with
  | nil => simp [byteLength]
  | cons c xs ih => simp only [List.cons_append, byteLength, ih]; omega

/-- The token text that begins with an equals sign, of which `rest` is what follows: `==`, or a
comparison spelled `=word=`.  A malformed operator covers the sign and the word. -/
def equalsLexeme (rest : List Char) : TokenKind × List Char :=
  if rest.head? = some '=' then (.comparison .equal, ['=', '='])
  else
    let word := rest.takeWhile isAlphabetic
    match Comparison.ofKey? word with
    | some op =>
      if (rest.dropWhile isAlphabetic).head? = some '=' then
        (.comparison op, '=' :: word ++ ['='])
      else (.malformed, '=' :: word)
    | none => (.malformed, '=' :: word)

/-- The token text that begins with an exclamation mark, of which `rest` is what follows.  A
malformed operator covers the mark and the next character. -/
def exclamationLexeme (rest : List Char) : TokenKind × List Char :=
  if rest.head? = some '=' then (.comparison .notEqual, ['!', '='])
  else (.malformed, '!' :: rest.take 1)

def angleLexeme (bracket : Char) (strict loose : Comparison) (rest : List Char) :
    TokenKind × List Char :=
  if rest.head? = some '=' then (.comparison loose, [bracket, '='])
  else (.comparison strict, [bracket])

/-- The bare run at the start of a text, up to a reserved character. -/
def bareLexeme (text : List Char) : TokenKind × List Char :=
  let literal := trimBlanksEnd (text.takeWhile fun c => !isReserved c)
  (.literal (classify literal), literal)

/-- The kind and the text of the token that begins with the character `c`, which is not a blank,
and of which `rest` is what follows. -/
def lexeme (c : Char) (rest : List Char) : TokenKind × List Char :=
  if c = '=' then equalsLexeme rest
  else if c = '!' then exclamationLexeme rest
  else if c = '<' then angleLexeme '<' .less .lessOrEqual rest
  else if c = '>' then angleLexeme '>' .greater .greaterOrEqual rest
  else if c = ';' then (.connective .and, [';'])
  else if c = ',' then (.connective .or, [','])
  else if c = '(' then (.opening, ['('])
  else if c = ')' then (.closing, [')'])
  else bareLexeme (c :: rest)

private theorem equalsLexeme_ne_nil (rest : List Char) : (equalsLexeme rest).2 ≠ [] := by
  unfold equalsLexeme
  split
  · simp
  · dsimp only
    split
    · split <;> simp
    · simp

private theorem exclamationLexeme_ne_nil (rest : List Char) :
    (exclamationLexeme rest).2 ≠ [] := by
  unfold exclamationLexeme
  split <;> simp

private theorem angleLexeme_ne_nil (bracket : Char) (strict loose : Comparison)
    (rest : List Char) : (angleLexeme bracket strict loose rest).2 ≠ [] := by
  unfold angleLexeme
  split <;> simp

private theorem bareLexeme_ne_nil {c : Char} {rest : List Char} (hblank : isBlank c = false)
    (hres : isReserved c = false) : (bareLexeme (c :: rest)).2 ≠ [] := by
  apply trimBlanksEnd_ne_nil (c := c) _ hblank
  simp [hres]

theorem lexeme_ne_nil {c : Char} (hblank : isBlank c = false) (rest : List Char) :
    (lexeme c rest).2 ≠ [] := by
  unfold lexeme
  split
  · exact equalsLexeme_ne_nil rest
  split
  · exact exclamationLexeme_ne_nil rest
  split
  · exact angleLexeme_ne_nil _ _ _ rest
  split
  · exact angleLexeme_ne_nil _ _ _ rest
  split
  · simp
  split
  · simp
  split
  · simp
  split
  · simp
  · exact bareLexeme_ne_nil hblank (by simp [isReserved, *])

/-- The tokens of the text that begins at a byte offset of the query.  The text of a token is
never empty, so passing it leaves out at least the character that it begins with. -/
def scanFrom (offset : Nat) (text : List Char) : TokenStream :=
  let start := offset + byteLength (text.takeWhile isBlank)
  match h : text.dropWhile isBlank with
  | [] => .ended ⟨.endOfInput, "", start⟩ rfl
  | c :: rest =>
    let found := lexeme c rest
    let token : Token := ⟨found.1, String.ofList found.2, start⟩
    if hend : token.isTerminal then .ended token hend
    else
      .push token (by simpa using hend)
        (scanFrom (start + byteLength found.2) (rest.drop (found.2.length - 1)))
termination_by text.length
decreasing_by
  have hle := (List.dropWhile_suffix (l := text) isBlank).length_le
  rw [h] at hle
  simp only [List.length_drop, List.length_cons] at hle ⊢
  omega

def scan (query : String) : TokenStream := scanFrom 0 query.toList

/-- All tokens of a query, the last of which is terminal. -/
def tokenize (query : String) : List Token := (scan query).toList

/-! ## Listings -/

/-- A number set flush right in a column of the given width, wider if it does not fit. -/
def flushRight (width n : Nat) : String :=
  String.ofList (List.replicate (width - n.repr.length) ' ') ++ n.repr

def Token.listingLine (token : Token) : String := flushRight 4 token.offset ++ "  " ++ token.display

def tokenListing (query : String) : String :=
  String.intercalate "\n" ((tokenize query).map Token.listingLine)

end FilterQuery
