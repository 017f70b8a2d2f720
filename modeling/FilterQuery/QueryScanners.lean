import FilterQuery.TokenScanner

/-!
# Query scanners

A query is scanned in place.  A scanner keeps the query and two byte offsets in it, of the character
in sight and of the one behind that, and every text that it looks at or gives out is cut from the
query at byte offsets.  A cut that is not in order, that goes beyond the query or through a
character comes to `none`, and so would a scan that never ended.
-/

namespace FilterQuery

/-- The part of a query between two byte offsets.  They have to be in order, and each has to be the
offset of a character or of the end of the query. -/
def cut? (query : String) (start stop : Nat) : Option String :=
  if h : String.Pos.Raw.IsValid query ⟨start⟩ ∧ String.Pos.Raw.IsValid query ⟨stop⟩ ∧
      start ≤ stop then
    some (query.extract (query.pos ⟨start⟩ h.1) (query.pos ⟨stop⟩ h.2.1))
  else none

/-- A place in a query at which it is scanned: the byte offsets of the character in sight and of the
one behind it, the character in sight, unless that is the end, and the terminal token, once it has
been found. -/
structure QueryScanner where
  query : String
  here : Nat
  next : Nat
  sight : Option Char
  last : Option { token : Token // token.isTerminal = true }

namespace QueryScanner

/-- The character behind the one in sight. -/
def peek (scanner : QueryScanner) : Option (Option Char) := do
  let rest ← cut? scanner.query scanner.next scanner.query.utf8ByteSize
  return rest.toList.head?

def step (scanner : QueryScanner) : Option QueryScanner := do
  let sight ← scanner.peek
  return { scanner with
    here := scanner.next, next := scanner.next + sight.elim 0 Char.utf8Size, sight }

def ofQuery (query : String) : Option QueryScanner := step ⟨query, 0, 0, none, none⟩

/-- The scanner at the first character that does not belong to a kind. -/
def skipWhile (p : Char → Bool) (scanner : QueryScanner) : Option QueryScanner :=
  if scanner.sight.any p then do
    let behind ← scanner.step
    behind |>.skipWhile p
  else some scanner
partial_fixpoint

def single (scanner : QueryScanner) (kind : TokenKind) (start : Nat) :
    Option (Token × QueryScanner) := do
  let after ← scanner.step
  let text ← cut? after.query start after.here
  return (⟨kind, text, start⟩, after)

/-- A malformed operator that ends before the character in sight. -/
def malformed (scanner : QueryScanner) (start : Nat) : Option (Token × QueryScanner) := do
  let text ← cut? scanner.query start scanner.here
  return (⟨.malformed, text, start⟩, scanner)

/-- The rest of an operator that is spelled `=word=`, behind its first sign. -/
def readWord (scanner : QueryScanner) (start : Nat) : Option (Token × QueryScanner) := do
  let after ← scanner.skipWhile isAlphabetic
  if after.sight = some '=' then
    let word ← cut? after.query scanner.here after.here
    match Comparison.ofKey? word.toList with
    | some op => after.single (.comparison op) start
    | none => after.malformed start
  else after.malformed start

def readEquals (scanner : QueryScanner) (start : Nat) : Option (Token × QueryScanner) := do
  if (← scanner.peek) = some '=' then
    let after ← (← scanner.step).step
    return (⟨.comparison .equal, "==", start⟩, after)
  else (← scanner.step).readWord start

/-- The token that begins with the exclamation mark in sight.  A malformed operator takes in the
next character, which stays in sight. -/
def readExclamation (scanner : QueryScanner) (start : Nat) : Option (Token × QueryScanner) := do
  let after ← scanner.step
  match after.sight with
  | some c =>
    if c = '=' then after.single (.comparison .notEqual) start
    else
      let text ← cut? after.query start (after.here + c.utf8Size)
      return (⟨.malformed, text, start⟩, after)
  | none => return (⟨.malformed, "!", start⟩, after)

def readAngle (scanner : QueryScanner) (bracket : Char) (strict loose : Comparison) (start : Nat) :
    Option (Token × QueryScanner) := do
  let after ← scanner.step
  if after.sight = some '=' then after.single (.comparison loose) start
  else return (⟨.comparison strict, .singleton bracket, start⟩, after)

def readBare (scanner : QueryScanner) (start : Nat) : Option (Token × QueryScanner) := do
  let after ← scanner.skipWhile fun c => !isReserved c
  let text ← cut? after.query start after.here
  let literal := trimBlanksEnd text.toList
  return (⟨.literal (classify literal), .ofList literal, start⟩, after)

/-- The token that begins with the character in sight, which is not a blank. -/
def readLexeme (scanner : QueryScanner) (c : Char) (start : Nat) : Option (Token × QueryScanner) :=
  if c = '=' then scanner.readEquals start
  else if c = '!' then scanner.readExclamation start
  else if c = '<' then scanner.readAngle '<' .less .lessOrEqual start
  else if c = '>' then scanner.readAngle '>' .greater .greaterOrEqual start
  else if c = ';' then scanner.single (.connective .and) start
  else if c = ',' then scanner.single (.connective .or) start
  else if c = '(' then scanner.single .opening start
  else if c = ')' then scanner.single .closing start
  else scanner.readBare start

def scan (scanner : QueryScanner) : Option (Token × QueryScanner) := do
  let scanner ← scanner.skipWhile isBlank
  match scanner.sight with
  | none => return (⟨.endOfInput, "", scanner.here⟩, scanner)
  | some c => scanner.readLexeme c scanner.here

/-- The next token; a terminal token is given out again and again. -/
def pull (scanner : QueryScanner) : Option (Token × QueryScanner) :=
  match scanner.last with
  | some token => some (token, scanner)
  | none => do
    let (token, after) ← scanner.scan
    if h : token.isTerminal = true then return (token, { after with last := some ⟨token, h⟩ })
    else return (token, after)

def pulls (scanner : QueryScanner) : Nat → Option (List Token × QueryScanner)
  | 0 => some ([], scanner)
  | n + 1 => do
    let (token, after) ← scanner.pull
    let (tokens, final) ← after.pulls n
    return (token :: tokens, final)

/-- All tokens that are still to come, the last of which is terminal. -/
def tokens (scanner : QueryScanner) : Option (List Token) := do
  let (token, after) ← scanner.pull
  if token.isTerminal then return [token]
  else
    let rest ← after |>.tokens
    return token :: rest
partial_fixpoint

end QueryScanner

end FilterQuery
