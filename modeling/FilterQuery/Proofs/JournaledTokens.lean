import FilterQuery.Journals
import FilterQuery.Proofs.ConsumedTokens
import FilterQuery.Proofs.SuccessiveTokens

/-!
# Journaled tokens

A reading notes a token when it comes within sight, which is two tokens before it is read: with each
token that is passed, the one behind the next comes within sight.  So the notes of any reading tell
of as many tokens as it passes, from the third token of its stream on, and a query has two more of
them at the start.  A token cursor scans as many tokens for it: the terminal token is scanned once,
however often it is given out.
-/

namespace FilterQuery

/-! ## Scanned tokens -/

namespace TokenCursor

end TokenCursor

/-! ## Noted tokens -/

def Note.token? : Note → Option Token
  | scanned token => some token
  | flattened .. => none

/-- Whether a reading notes one token for each token that it passes, from the third one of its
stream on. -/
structure NotesArrivals {α : Type} (s : TokenStream) (r : Reading α) : Prop where
  passed_le : r.passed ≤ s.length
  tokens_eq : r.notes.filterMap Note.token? = (s.toList.drop 2).take r.passed

namespace NotesArrivals

variable {α β : Type} {s : TokenStream} {r : Reading α}

theorem accept (a : α) : NotesArrivals s (.accept a) := ⟨Nat.zero_le _, rfl⟩

theorem refuse (e : ParseError) : NotesArrivals s (.refuse e : Reading α) := ⟨Nat.zero_le _, rfl⟩

theorem afterCurrent (hopen : s.current.isTerminal = false) (h : NotesArrivals s.advance r) :
    NotesArrivals s (.afterCurrent s r) where
  passed_le := by
    have hle := h.passed_le
    have hshorter := TokenStream.length_advance_lt hopen
    simp only [Reading.afterCurrent]
    omega
  tokens_eq := by
    have harriving : (s.arriving.map Note.scanned).filterMap Note.token? = s.arriving := by
      rw [List.filterMap_map]
      exact List.filterMap_some
    have htokens : s.toList = s.current :: s.advance.toList := by
      rw [s.toList_eq, if_neg (ne_true_of_eq_false hopen)]
    simp only [Reading.afterCurrent, List.filterMap_append]
    rw [harriving, h.tokens_eq, s.arriving_eq, htokens, Nat.add_comm, List.take_add]
    simp only [List.drop_succ_cons, List.drop_drop]

theorem andThen {next : α → Nat → Reading β} (h : NotesArrivals s r)
    (hok : ∀ a, r.result = .ok a → NotesArrivals (s.drop r.passed) (next a r.passed)) :
    NotesArrivals s (r.andThen next) := by
  cases hresult : r.result with
  | error e =>
    rw [Reading.andThen_of_error hresult]
    exact ⟨h.passed_le, h.tokens_eq⟩
  | ok a =>
    rw [Reading.andThen_of_ok hresult]
    obtain ⟨hle, htokens⟩ := hok a hresult
    have hpassed := h.passed_le
    rw [TokenStream.length_drop] at hle
    refine ⟨by dsimp only; omega, ?_⟩
    dsimp only
    rw [List.filterMap_append, h.tokens_eq, htokens, List.take_add,
      TokenStream.toList_drop hpassed, List.drop_drop, List.drop_drop, Nat.add_comm]

theorem map (f : α → β) (h : NotesArrivals s r) : NotesArrivals s (r.map f) :=
  ⟨h.passed_le, h.tokens_eq⟩

theorem noting (h : NotesArrivals s r) (op : Connective) (operands : List Filter) :
    NotesArrivals s (r.noting (flatteningNotes op operands)) where
  passed_le := h.passed_le
  tokens_eq := by
    have hnone : (flatteningNotes op operands).filterMap Note.token? = [] := by
      rw [flatteningNotes, List.filterMap_filterMap, List.filterMap_eq_nil_iff]
      intro operand _
      cases operand with
      | constraint => rfl
      | combination inner parts =>
        dsimp only
        split <;> rfl
    rw [Reading.noting, List.filterMap_append, hnone, List.nil_append]
    exact h.tokens_eq

end NotesArrivals

/-! ## Constraints -/

section Constraints

variable {s : TokenStream} {field : String} {op : Comparison}

end Constraints

/-! ## Expressions -/

end FilterQuery
