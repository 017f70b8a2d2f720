import FilterQuery.Proofs.ReadingsFollowSteps

/-!
# Passed tokens

What is read successfully is told of together with the tokens that have been passed for it and with
what is left of the stream.  Such statements are put together along a reading.  A first one says
where an expression ends: before no connective that would have been taken in.
-/

namespace FilterQuery

/-- What holds of a value that is read, of the tokens passed for it and of what is left. -/
def Yields {α : Type} (s : TokenStream) (r : Reading α)
    (holds : α → List Token → TokenStream → Prop) : Prop :=
  ∀ a, r.result = .ok a → holds a (s.ahead.take r.passed) (s.drop r.passed)

namespace Yields

variable {α β : Type} {s : TokenStream} {holds : α → List Token → TokenStream → Prop}
  {final : β → List Token → TokenStream → Prop}

theorem accept {a : α} (h : holds a [] s) : Yields s (.accept a) holds := by
  intro b hb
  cases hb
  exact h

theorem refuse (e : ParseError) : Yields s (.refuse e : Reading α) holds := by
  intro a ha
  cases ha

theorem afterCurrent {r : Reading α} (hopen : s.current.isTerminal = false)
    (h : Yields s.advance r fun a tokens rest => holds a (s.current :: tokens) rest) :
    Yields s (.afterCurrent s r) holds := by
  intro a ha
  have hrest := h a ha
  rw [TokenStream.advance, TokenStream.drop_drop, Nat.add_comm] at hrest
  rw [TokenStream.ahead_eq_cons (TokenStream.length_pos_of_isTerminal hopen)]
  exact hrest

theorem andThen {first : Reading α} {next : α → Nat → Reading β} (h : Yields s first holds)
    (h' : ∀ a tokens, first.result = .ok a → holds a tokens (s.drop first.passed) →
      Yields (s.drop first.passed) (next a first.passed)
        fun b more rest => final b (tokens ++ more) rest) :
    Yields s (first.andThen next) final := by
  intro b hb
  cases hresult : first.result with
  | error e =>
    rw [Reading.andThen_of_error hresult] at hb
    cases hb
  | ok a =>
    rw [Reading.andThen_of_ok hresult] at hb ⊢
    have hfinal := h' a _ hresult (h a hresult) b hb
    rw [TokenStream.drop_drop] at hfinal
    rw [List.take_add]
    exact hfinal

theorem map {r : Reading α} {f : α → β}
    (h : Yields s r fun a tokens rest => final (f a) tokens rest) : Yields s (r.map f) final := by
  intro b hb
  obtain ⟨a, ha, rfl⟩ : ∃ a, r.result = .ok a ∧ f a = b := by
    cases hr : r.result with
    | error e => simp [Reading.map, hr, Except.map] at hb
    | ok a => exact ⟨a, rfl, by simpa [Reading.map, hr, Except.map] using hb⟩
  exact h a ha

theorem noting {r : Reading α} {notes : List Note} (h : Yields s r holds) :
    Yields s (r.noting notes) holds := h

theorem imp {r : Reading α} {holds' : α → List Token → TokenStream → Prop}
    (h : Yields s r holds) (himp : ∀ a tokens rest, holds a tokens rest → holds' a tokens rest) :
    Yields s r holds' :=
  fun a ha => himp _ _ _ (h a ha)

theorem trivial {r : Reading α} : Yields s r fun _ _ _ => True := fun _ _ => ⟨⟩

end Yields

/-! ## Where an expression ends -/

private theorem stopsAlong :
    HoldsAlong (fun _ _ _ => True)
      (fun _ floor _ s r => Yields s r fun _ _ rest => rest.StopsAt floor)
      (fun _ floor s r => Yields s r fun _ _ rest => rest.StopsAt floor) where
  tooDeep _ _ := ⟨⟩
  group _ _ _ := ⟨⟩
  field _ := ⟨⟩
  misplaced _ _ := ⟨⟩
  goOn := by
    intro depth floor left s op hkind _ _ rest
    refine .afterCurrent (Token.isTerminal_of_kind hkind rfl) ?_
    exact Yields.trivial.andThen fun right _ _ _ => .noting (rest right _)
  stop hstops := .accept hstops
  join _ rest := Yields.trivial.andThen fun operand _ _ _ => rest operand _

/-- Behind an expression stands no connective that would have been taken in. -/
theorem stops_readExpression {depth : Nat} {floor : Precedence} (s : TokenStream) :
    Yields s (readExpression depth floor s) fun _ _ rest => rest.StopsAt floor :=
  stopsAlong.readExpression depth floor s

end FilterQuery
