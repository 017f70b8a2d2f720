import FilterQuery.Tokens

/-!
# Token streams

A token stream holds the tokens of a query that are still ahead, in order, and the terminal token
that ends them.  A reader sees the current token and one token past it.  The terminal token is
never passed: a stream that has come to it stays there.
-/

namespace FilterQuery

/-- The tokens that are still to be read, and the terminal token after them. -/
structure TokenStream where
  ahead : List Token
  last : Token
  ahead_open : ∀ token ∈ ahead, token.isTerminal = false
  last_terminal : last.isTerminal = true

namespace TokenStream

def ended (token : Token) (h : token.isTerminal = true) : TokenStream :=
  ⟨[], token, by simp, h⟩

def push (token : Token) (h : token.isTerminal = false) (s : TokenStream) : TokenStream :=
  ⟨token :: s.ahead, s.last, by simp [h]; exact s.ahead_open, s.last_terminal⟩

def length (s : TokenStream) : Nat := s.ahead.length

/-- All tokens of the stream, the terminal one included. -/
def toList (s : TokenStream) : List Token := s.ahead ++ [s.last]

def current (s : TokenStream) : Token := s.ahead.headD s.last

def drop (s : TokenStream) (n : Nat) : TokenStream :=
  ⟨s.ahead.drop n, s.last, fun token h => s.ahead_open token (List.mem_of_mem_drop h),
    s.last_terminal⟩

/-- The stream after its current token; a terminal token is not passed. -/
def advance (s : TokenStream) : TokenStream := s.drop 1

def peek (s : TokenStream) : Token := s.advance.current

/-- The tokens that come from a stream one by one; the terminal one comes over and over. -/
def pulls (s : TokenStream) : Nat → List Token
  | 0 => []
  | n + 1 => s.current :: s.advance.pulls n

/-- The token that passing the current one brings within sight, if there is a new one. -/
def arriving (s : TokenStream) : List Token :=
  match s.ahead with
  | _ :: _ :: token :: _ => [token]
  | [_, _] => [s.last]
  | _ => []

/-- The tokens that are in sight when reading begins. -/
def inSight (s : TokenStream) : List Token := s.toList.take 2

@[simp] theorem toList_ended (token : Token) (h : token.isTerminal = true) :
    (ended token h).toList = [token] := rfl

@[simp] theorem toList_push (token : Token) (h : token.isTerminal = false) (s : TokenStream) :
    (push token h s).toList = token :: s.toList := rfl

@[simp] theorem current_ended (token : Token) (h : token.isTerminal = true) :
    (ended token h).current = token := rfl

@[simp] theorem current_push (token : Token) (h : token.isTerminal = false) (s : TokenStream) :
    (push token h s).current = token := rfl

@[simp] theorem advance_ended (token : Token) (h : token.isTerminal = true) :
    (ended token h).advance = ended token h := rfl

@[simp] theorem advance_push (token : Token) (h : token.isTerminal = false) (s : TokenStream) :
    (push token h s).advance = s := rfl

@[simp] theorem length_pulls (s : TokenStream) (n : Nat) : (s.pulls n).length = n := by
  induction n generalizing s with
  | zero => rfl
  | succ n ih => simp [pulls, ih]

@[simp] theorem length_drop (s : TokenStream) (n : Nat) :
    (s.drop n).length = s.length - n := List.length_drop ..

@[simp] theorem length_advance (s : TokenStream) : s.advance.length = s.length - 1 :=
  length_drop s 1

@[simp] theorem drop_zero (s : TokenStream) : s.drop 0 = s := rfl

@[simp] theorem drop_drop (s : TokenStream) (m n : Nat) :
    (s.drop m).drop n = s.drop (m + n) := by
  simp [drop]

theorem arriving_eq (s : TokenStream) : s.arriving = (s.toList.drop 2).take 1 := by
  unfold arriving toList
  match s.ahead with
  | [] => rfl
  | [_] => rfl
  | [_, _] => rfl
  | _ :: _ :: _ :: _ => rfl

theorem length_pos_of_kind {s : TokenStream} {kind : TokenKind} (h : s.current.kind = kind)
    (hopen : kind.isTerminal = false) : 0 < s.length := by
  subst h
  cases hs : s.ahead with
  | nil =>
    have hlast := s.last_terminal
    simp only [current, hs, List.headD_nil] at hopen
    simp [Token.isTerminal, hopen] at hlast
  | cons token rest => simp [length, hs]

theorem advance_of_isTerminal {s : TokenStream} (h : s.current.isTerminal = true) :
    s.advance = .ended s.current h := by
  obtain ⟨ahead, last, hopen, hlast⟩ := s
  cases ahead with
  | nil => rfl
  | cons token rest =>
    have hcurrent : token.isTerminal = true := h
    rw [hopen token List.mem_cons_self] at hcurrent
    cases hcurrent

variable {s : TokenStream}

theorem ahead_eq_cons (h : 0 < s.length) : s.ahead = s.current :: s.advance.ahead := by
  obtain ⟨ahead, last, hopen, hlast⟩ := s
  cases ahead with
  | nil => cases h
  | cons token ahead => rfl

theorem current_eq_last (h : s.length = 0) : s.current = s.last := by
  obtain ⟨ahead, last, hopen, hlast⟩ := s
  cases ahead with
  | nil => rfl
  | cons token ahead => cases h

theorem toList_eq_take_append (s : TokenStream) (n : Nat) :
    s.toList = s.ahead.take n ++ (s.drop n).toList := by
  rw [toList, toList, drop, ← List.append_assoc, List.take_append_drop]

theorem toList_drop {n : Nat} (h : n ≤ s.length) : (s.drop n).toList = s.toList.drop n := by
  rw [toList, toList, List.drop_append_of_le_length h]
  rfl

theorem toList_eq (s : TokenStream) :
    s.toList = s.current :: if s.current.isTerminal then [] else s.advance.toList := by
  obtain ⟨ahead, last, hopen, hlast⟩ := s
  cases ahead with
  | nil => simp [toList, current, hlast]
  | cons token ahead => simp [toList, current, advance, drop, hopen token List.mem_cons_self]

theorem toList_eq_cons (s : TokenStream) : ∃ rest, s.toList = s.current :: rest :=
  ⟨_, s.toList_eq⟩

theorem length_pos_of_isTerminal (h : s.current.isTerminal = false) : 0 < s.length :=
  length_pos_of_kind rfl h

theorem length_advance_lt (h : s.current.isTerminal = false) : s.advance.length < s.length := by
  have hpos := length_pos_of_isTerminal h
  rw [length_advance]
  omega

theorem length_eq_zero_of_isTerminal {s : TokenStream} (h : s.current.isTerminal = true) :
    s.length = 0 := by
  cases hlen : s.length with
  | zero => rfl
  | succ n =>
    have hmem : s.current ∈ s.ahead := by
      rw [ahead_eq_cons (by omega)]
      exact List.mem_cons_self
    rw [s.ahead_open _ hmem] at h
    cases h

end TokenStream

end FilterQuery
