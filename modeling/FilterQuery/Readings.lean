import FilterQuery.ParseErrors
import FilterQuery.TokenStreams

/-!
# Readings

Reading a part of a query from a token stream comes to a result or an error, passes some tokens,
and leaves notes behind in the order in which things happened.  The number of tokens passed is
counted from the stream that the reading began with, so what remains of the stream after a reading
is known from the count alone.
-/

namespace FilterQuery

/-- What is noted while a query is read. -/
inductive Note where
  /-- A token has come within sight. -/
  | scanned (token : Token)
  /-- The parts of a combination have been taken over by one under the same connective. -/
  | flattened (parts : Nat) (op : Connective)
  deriving DecidableEq

/-- What reading a part of a query comes to. -/
structure Reading (α : Type) where
  result : Except ParseError α
  passed : Nat
  notes : List Note

namespace Reading

variable {α β : Type}

def accept (a : α) : Reading α := ⟨.ok a, 0, []⟩

def refuse (e : ParseError) : Reading α := ⟨.error e, 0, []⟩

/-- A reading of what follows the current token, counted from the current token on. -/
def afterCurrent (s : TokenStream) (next : Reading α) : Reading α :=
  ⟨next.result, next.passed + 1, s.arriving.map .scanned ++ next.notes⟩

/-- A reading that goes on with the result of the first, unless that is an error.  The
continuation is told how many tokens have been passed. -/
def andThen (first : Reading α) (next : α → Nat → Reading β) : Reading β :=
  match first.result with
  | .error e => ⟨.error e, first.passed, first.notes⟩
  | .ok a =>
    let second := next a first.passed
    ⟨second.result, first.passed + second.passed, first.notes ++ second.notes⟩

def remaining (r : Reading α) (s : TokenStream) : TokenStream := s.drop r.passed

def map (f : α → β) (r : Reading α) : Reading β := ⟨r.result.map f, r.passed, r.notes⟩

def noting (notes : List Note) (r : Reading α) : Reading α :=
  ⟨r.result, r.passed, notes ++ r.notes⟩

theorem andThen_of_ok {first : Reading α} {a : α} (h : first.result = .ok a)
    (next : α → Nat → Reading β) :
    first.andThen next =
      ⟨(next a first.passed).result, first.passed + (next a first.passed).passed,
        first.notes ++ (next a first.passed).notes⟩ := by
  simp [andThen, h]

theorem andThen_of_error {first : Reading α} {e : ParseError} (h : first.result = .error e)
    (next : α → Nat → Reading β) :
    first.andThen next = ⟨.error e, first.passed, first.notes⟩ := by
  simp [andThen, h]

@[simp] theorem accept_andThen (a : α) (next : α → Nat → Reading β) :
    (accept a).andThen next = next a 0 := by
  simp [andThen, accept]

@[simp] theorem refuse_andThen (e : ParseError) (next : α → Nat → Reading β) :
    (refuse e).andThen next = refuse e := rfl

end Reading

/-- The error at the current token: a malformed operator is always reported as such. -/
def TokenStream.errorOr (s : TokenStream) (e : ParseError) : ParseError :=
  if s.current.kind = .malformed then .malformedOperator s.current else e

end FilterQuery
