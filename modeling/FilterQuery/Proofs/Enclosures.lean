import FilterQuery.Proofs.Derivations

/-!
# Enclosures

Following the tokens of a query from left to right tells which parentheses are open at each place.
A parenthesis right behind a comparison opens a list, every other one opens a group.  The tokens of
a derivation close what they open, their groups are nested as deep as those of the derivation, and
outside of their parentheses stand only the connectives of its layer.
-/

namespace FilterQuery

/-- What a parenthesis opens. -/
inductive Bracket where
  | group
  | list
  deriving DecidableEq

/-- The parentheses that are open at a place, the innermost one first, and whether a comparison
stands right before it. -/
structure Enclosure where
  brackets : List Bracket
  afterComparison : Bool

namespace Enclosure

def outermost : Enclosure := ⟨[], false⟩

def next (place : Enclosure) (token : Token) : Enclosure where
  brackets :=
    match token.kind with
    | .opening => (if place.afterComparison then .list else .group) :: place.brackets
    | .closing => place.brackets.tail
    | _ => place.brackets
  afterComparison := token.kind.comparison?.isSome

def after (place : Enclosure) (tokens : List Token) : Enclosure := tokens.foldl next place

/-- How many groups are open at a place. -/
def groups (place : Enclosure) : Nat := place.brackets.count .group

/-- The greatest number of groups that are open at a place or behind one of the tokens. -/
def deepest (place : Enclosure) : List Token → Nat
  | [] => place.groups
  | token :: rest => max place.groups ((place.next token).deepest rest)

/-- Whether all tokens stand inside `n` parentheses at least, and of the connectives among them
only some inside no more. -/
def Keeps (n : Nat) (allowed : Connective → Prop) (place : Enclosure) : List Token → Prop
  | [] => True
  | token :: rest =>
    (token.isTerminal = false ∧ n ≤ (place.next token).brackets.length ∧
      ∀ op, token.kind = .connective op → (place.next token).brackets.length = n → allowed op) ∧
      (place.next token).Keeps n allowed rest

end Enclosure

/-- How deep the groups among some tokens are nested. -/
def groupNesting (tokens : List Token) : Nat := Enclosure.outermost.deepest tokens

def Layer.Joins : Layer → Connective → Prop
  | .operand, _ => False
  | .conjunction, op => op = .and
  | .disjunction, _ => True

namespace Enclosure

variable {place : Enclosure} {token : Token} {xs ys : List Token} {n : Nat}
  {allowed allowed' : Connective → Prop}

@[simp] theorem after_nil (place : Enclosure) : place.after [] = place := rfl

@[simp] theorem after_cons (place : Enclosure) (token : Token) (rest : List Token) :
    place.after (token :: rest) = (place.next token).after rest := rfl

@[simp] theorem after_append (place : Enclosure) (xs ys : List Token) :
    place.after (xs ++ ys) = (place.after xs).after ys := List.foldl_append ..

theorem groups_le_deepest (place : Enclosure) (tokens : List Token) :
    place.groups ≤ place.deepest tokens := by
  cases tokens with
  | nil => exact Nat.le_refl _
  | cons token rest => exact Nat.le_max_left _ _

theorem deepest_append (place : Enclosure) (xs ys : List Token) :
    place.deepest (xs ++ ys) = max (place.deepest xs) ((place.after xs).deepest ys) := by
  induction xs generalizing place with
  | nil => simp [deepest, Nat.max_eq_right (place.groups_le_deepest ys)]
  | cons x xs ih => simp [deepest, ih, Nat.max_assoc]

theorem groups_after_le (place : Enclosure) (tokens : List Token) :
    (place.after tokens).groups ≤ place.deepest tokens := by
  have hend := place.deepest_append tokens []
  rw [List.append_nil] at hend
  rw [hend]
  exact Nat.le_max_right _ _

theorem Keeps.append (h : place.Keeps n allowed xs) (h' : (place.after xs).Keeps n allowed ys) :
    place.Keeps n allowed (xs ++ ys) := by
  induction xs generalizing place with
  | nil => exact h'
  | cons x xs ih => exact ⟨h.1, ih h.2 h'⟩

/-- What stands inside one more parenthesis does not count. -/
theorem Keeps.inside (h : place.Keeps (n + 1) allowed xs) : place.Keeps n allowed' xs := by
  induction xs generalizing place with
  | nil => trivial
  | cons x xs ih =>
    obtain ⟨⟨hopen, hlength, -⟩, hrest⟩ := h
    refine ⟨⟨hopen, by omega, fun op _ hn => ?_⟩, ih hrest⟩
    omega

theorem Keeps.imp (h : place.Keeps n allowed xs) (himp : ∀ op, allowed op → allowed' op) :
    place.Keeps n allowed' xs := by
  induction xs generalizing place with
  | nil => trivial
  | cons x xs ih =>
    obtain ⟨⟨hopen, hlength, hjoin⟩, hrest⟩ := h
    exact ⟨⟨hopen, hlength, fun op hop hn => himp op (hjoin op hop hn)⟩, ih hrest⟩

theorem Keeps.of_append {rest : List Token} (h : place.Keeps n allowed (xs ++ token :: rest)) :
    token.isTerminal = false ∧ ∀ op, token.kind = .connective op →
      ((place.after xs).next token).brackets.length = n → allowed op := by
  induction xs generalizing place with
  | nil => exact ⟨h.1.1, h.1.2.2⟩
  | cons x xs ih => exact ih h.2

/-! ## Single tokens -/

section Tokens

variable {brackets : List Bracket}

@[simp] theorem next_literal (place : Enclosure) (literal : ValuedLiteral) :
    place.next literal.token = ⟨place.brackets, false⟩ := rfl

@[simp] theorem next_connective (place : Enclosure) (joint : Spelling) (op : Connective) :
    place.next (joint.token (.connective op)) = ⟨place.brackets, false⟩ := rfl

@[simp] theorem next_field (place : Enclosure) (field : Spelling) :
    place.next (field.token (.literal .identifier)) = ⟨place.brackets, false⟩ := rfl

@[simp] theorem next_comparison (place : Enclosure) (sign : Spelling) (op : Comparison) :
    place.next (sign.token (.comparison op)) = ⟨place.brackets, true⟩ := rfl

@[simp] theorem next_group (opening : Spelling) :
    next ⟨brackets, false⟩ (opening.token .opening) = ⟨.group :: brackets, false⟩ := rfl

@[simp] theorem next_list (opening : Spelling) :
    next ⟨brackets, true⟩ (opening.token .opening) = ⟨.list :: brackets, false⟩ := rfl

@[simp] theorem next_closing {bracket : Bracket} (closing : Spelling) :
    next ⟨bracket :: brackets, false⟩ (closing.token .closing) = ⟨brackets, false⟩ := rfl

end Tokens

end Enclosure

theorem groupNesting_le_of_prefix {xs ys : List Token} (h : xs <+: ys) :
    groupNesting xs ≤ groupNesting ys := by
  obtain ⟨more, rfl⟩ := h
  rw [groupNesting, groupNesting, Enclosure.deepest_append]
  exact Nat.le_max_left _ _

/-! ## Tokens of derivations -/

open Enclosure

/-- Whether tokens close the parentheses that they open, with groups nested to a depth, and have
only certain connectives outside of them. -/
structure Balanced (allowed : Connective → Prop) (nesting : Nat) (tokens : List Token) : Prop where
  after : ∀ brackets, Enclosure.after ⟨brackets, false⟩ tokens = ⟨brackets, false⟩
  deepest : ∀ brackets, Enclosure.deepest ⟨brackets, false⟩ tokens =
    Enclosure.groups ⟨brackets, false⟩ + nesting
  keeps : ∀ brackets, Keeps brackets.length allowed ⟨brackets, false⟩ tokens

namespace Balanced

variable {allowed allowed' : Connective → Prop} {m n : Nat} {xs ys : List Token}

theorem imp (h : Balanced allowed n xs) (himp : ∀ op, allowed op → allowed' op) :
    Balanced allowed' n xs :=
  ⟨h.after, h.deepest, fun brackets => (h.keeps brackets).imp himp⟩

theorem join {op : Connective} (h : Balanced allowed m xs) (h' : Balanced allowed n ys)
    (hop : allowed op) (joint : Spelling) :
    Balanced allowed (max m n) (xs ++ joint.token (.connective op) :: ys) where
  after := by
    intro brackets
    simp [h.after, h'.after]
  deepest := by
    intro brackets
    rw [deepest_append, h.after, h.deepest, Enclosure.deepest, next_connective, h'.deepest]
    simp only [groups]
    omega
  keeps := by
    intro brackets
    refine (h.keeps brackets).append ?_
    rw [h.after]
    refine ⟨⟨rfl, Nat.le_refl _, fun op' hkind _ => ?_⟩, h'.keeps brackets⟩
    cases hkind
    exact hop

theorem group (h : Balanced allowed n xs) (opening closing : Spelling) :
    Balanced allowed' (n + 1) (opening.token .opening :: (xs ++ [closing.token .closing])) where
  after := by
    intro brackets
    simp [h.after]
  deepest := by
    intro brackets
    rw [Enclosure.deepest, next_group, deepest_append, h.after, h.deepest]
    simp only [Enclosure.deepest, next_closing, groups, List.count_cons_self]
    omega
  keeps := by
    intro brackets
    have hinner : Keeps (brackets.length + 1) allowed ⟨.group :: brackets, false⟩ xs :=
      h.keeps (.group :: brackets)
    refine ⟨⟨rfl, Nat.le_succ _, fun op hkind => by cases hkind⟩, hinner.inside.append ?_⟩
    rw [h.after]
    exact ⟨⟨rfl, Nat.le_refl _, fun op hkind => by cases hkind⟩, trivial⟩

end Balanced

section Constraints

variable {brackets : List Bracket} {op : Comparison} {allowed : Connective → Prop}

private theorem after_literalList (literals : LiteralList) :
    after ⟨brackets, false⟩ literals.tokens = ⟨brackets, false⟩ := by
  induction literals with
  | single literal => rfl
  | more front comma literal ih => simp [LiteralList.tokens, ih]

private theorem deepest_literals (literals : LiteralList) :
    deepest ⟨brackets, false⟩ literals.tokens = groups ⟨brackets, false⟩ := by
  induction literals with
  | single literal => simp [LiteralList.tokens, deepest, groups]
  | more front comma literal ih =>
    rw [LiteralList.tokens, deepest_append, ih, after_literalList]
    simp [deepest, groups]

private theorem keeps_literals (literals : LiteralList) (bracket : Bracket) :
    Keeps brackets.length allowed ⟨bracket :: brackets, false⟩ literals.tokens := by
  have hone (token : Token) (hopen : token.isTerminal = false)
      (hnext : next ⟨bracket :: brackets, false⟩ token = ⟨bracket :: brackets, false⟩) :
      Keeps brackets.length allowed ⟨bracket :: brackets, false⟩ [token] := by
    refine ⟨⟨hopen, ?_, fun _ _ hlength => ?_⟩, trivial⟩
    · simp [hnext]
    · simp [hnext] at hlength
  induction literals with
  | single literal => exact hone _ rfl rfl
  | more front comma literal ih =>
    refine ih.append ?_
    rw [after_literalList]
    exact (hone _ rfl rfl).append (hone literal.token rfl rfl)

private theorem after_derivedArgument (argument : DerivedArgument op) :
    after ⟨brackets, true⟩ argument.tokens = ⟨brackets, false⟩ := by
  cases argument with
  | any | ordered => rfl
  | list => simp [DerivedArgument.tokens, after_literalList]

private theorem deepest_argument (argument : DerivedArgument op) :
    deepest ⟨brackets, true⟩ argument.tokens = groups ⟨brackets, true⟩ := by
  cases argument with
  | any | ordered => simp [DerivedArgument.tokens, deepest, groups]
  | list =>
    rw [DerivedArgument.tokens, deepest, next_list, deepest_append, deepest_literals,
      after_literalList]
    simp [deepest, groups]

private theorem keeps_argument (argument : DerivedArgument op) :
    Keeps brackets.length allowed ⟨brackets, true⟩ argument.tokens := by
  cases argument with
  | any | ordered => exact ⟨⟨rfl, Nat.le_refl _, fun _ hkind => by cases hkind⟩, trivial⟩
  | list _ opening literals _ closing =>
    refine ⟨⟨rfl, Nat.le_succ _, fun _ hkind => by cases hkind⟩, ?_⟩
    refine (keeps_literals literals .list).append ?_
    rw [after_literalList]
    exact ⟨⟨rfl, Nat.le_refl _, fun _ hkind => by cases hkind⟩, trivial⟩

private theorem balanced_constraint (field sign : Spelling) (argument : DerivedArgument op) :
    Balanced allowed 0
      (field.token (.literal .identifier) :: sign.token (.comparison op) :: argument.tokens) where
  after := by
    intro brackets
    simp [after_derivedArgument]
  deepest := by
    intro brackets
    rw [deepest, deepest, next_field, next_comparison, deepest_argument]
    simp [groups]
  keeps := by
    intro brackets
    refine ⟨⟨rfl, Nat.le_refl _, fun _ hkind => by cases hkind⟩, ?_⟩
    exact ⟨⟨rfl, Nat.le_refl _, fun _ hkind => by cases hkind⟩, keeps_argument argument⟩

end Constraints

/-- The parentheses of a derivation match each other, and hide all connectives but those of its
layer. -/
theorem balanced_derivation {layer : Layer} (d : Derivation layer) :
    Balanced layer.Joins d.nesting d.tokens := by
  induction d with
  | constraint field op sign argument => exact balanced_constraint field sign argument
  | group opening inner closing ih => exact ih.group opening closing
  | operand inner ih => exact ih.imp fun _ h => h.elim
  | and left semicolon right ihleft ihright =>
    exact ihleft.join (ihright.imp fun _ h => h.elim) rfl semicolon
  | conjunction inner ih => exact ih.imp fun _ _ => trivial
  | or left comma right ihleft ihright =>
    exact ihleft.join (ihright.imp fun _ _ => trivial) trivial comma

/-- The groups among the tokens of a derivation are nested as deep as its own; lists do not count. -/
theorem groupNesting_tokens {layer : Layer} (d : Derivation layer) :
    groupNesting d.tokens = d.nesting := by
  rw [groupNesting, outermost, (balanced_derivation d).deepest]
  exact Nat.zero_add _

theorem groupNesting_derivation {layer : Layer} (d : Derivation layer) (last : Token)
    (hlast : last.kind = .endOfInput) : groupNesting (d.tokens ++ [last]) = d.nesting := by
  obtain ⟨kind, literal, offset⟩ := last
  cases hlast
  have hbalanced := balanced_derivation d
  rw [groupNesting, deepest_append, ← groupNesting, groupNesting_tokens, outermost, hbalanced.after]
  simp [deepest, groups, next]

end FilterQuery
