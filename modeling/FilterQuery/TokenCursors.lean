import FilterQuery.TokenScanner

/-!
# Token cursors

A cursor gives out the tokens of a query one at a time.  It keeps the text that has not been
scanned yet and the byte offset of that text.  Once it has come to the terminal token, it keeps
that and gives it out again and again.
-/

namespace FilterQuery

/-- A place in a query from which tokens are given out. -/
structure TokenCursor where
  offset : Nat
  text : List Char
  last : Option { token : Token // token.isTerminal = true }

namespace TokenCursor

def ofQuery (query : String) : TokenCursor := ⟨0, query.toList, none⟩

def pull (cursor : TokenCursor) : Token × TokenCursor :=
  match cursor.last with
  | some token => (token, cursor)
  | none =>
    let start := cursor.offset + byteLength (cursor.text.takeWhile isBlank)
    match cursor.text.dropWhile isBlank with
    | [] =>
      let token : Token := ⟨.endOfInput, "", start⟩
      (token, { cursor with last := some ⟨token, rfl⟩ })
    | c :: rest =>
      let found := lexeme c rest
      let token : Token := ⟨found.1, String.ofList found.2, start⟩
      if hend : token.isTerminal then (token, { cursor with last := some ⟨token, hend⟩ })
      else (token, ⟨start + byteLength found.2, rest.drop (found.2.length - 1), none⟩)

/-- The token that is scanned when the next one is given out; a terminal token that is given out
again is not scanned again. -/
def fresh (cursor : TokenCursor) : List Token :=
  match cursor.last with
  | some _ => []
  | none => [cursor.pull.1]

/-- The tokens that are scanned while some more tokens are given out. -/
def scanned (cursor : TokenCursor) : Nat → List Token
  | 0 => []
  | n + 1 => cursor.fresh ++ cursor.pull.2.scanned n

def skip (cursor : TokenCursor) : Nat → TokenCursor
  | 0 => cursor
  | n + 1 => cursor.pull.2.skip n

/-- The tokens that a cursor still gives out. -/
def stream (cursor : TokenCursor) : TokenStream :=
  match cursor.last with
  | some token => .ended token token.2
  | none => scanFrom cursor.offset cursor.text

@[simp] theorem stream_ofQuery (query : String) : (ofQuery query).stream = scan query := rfl

/-- A cursor gives out the stream of its tokens: the current one, and then the others. -/
theorem stream_pull (cursor : TokenCursor) :
    cursor.pull.1 = cursor.stream.current ∧ cursor.pull.2.stream = cursor.stream.advance := by
  obtain ⟨offset, text, last⟩ := cursor
  cases last with
  | some token => exact ⟨rfl, rfl⟩
  | none =>
    have hstream : stream ⟨offset, text, none⟩ = scanFrom offset text := rfl
    rw [hstream, scanFrom]
    split
    case h_1 hnil =>
      simp only [pull, hnil]
      exact ⟨rfl, rfl⟩
    case h_2 c rest hcons =>
      simp only [pull, hcons]
      split
      case isTrue => exact ⟨rfl, rfl⟩
      case isFalse => exact ⟨rfl, rfl⟩

theorem pull_fst (cursor : TokenCursor) : cursor.pull.1 = cursor.stream.current :=
  cursor.stream_pull.1

@[simp] theorem stream_skip (cursor : TokenCursor) (n : Nat) :
    (cursor.skip n).stream = cursor.stream.drop n := by
  induction n generalizing cursor with
  | zero => rfl
  | succ n ih =>
    rw [skip, ih, cursor.stream_pull.2, TokenStream.advance, TokenStream.drop_drop, Nat.add_comm]

theorem skip_add (cursor : TokenCursor) (m n : Nat) :
    cursor.skip (m + n) = (cursor.skip m).skip n := by
  induction m generalizing cursor with
  | zero => rw [Nat.zero_add, skip]
  | succ m ih => rw [Nat.succ_add, skip, skip, ih]

end TokenCursor

end FilterQuery
