import FilterQuery.Proofs.LiteralValues

/-!
# Derivations

The grammar of queries, as trees.  A disjunction is made of conjunctions with commas between them,
a conjunction of operands with semicolons between them, and an operand is a constraint or a
disjunction in parentheses.  A derivation has the tokens that it covers, the tree that it spells
out, and a depth to which its groups are nested; the filter that it stands for is the tree with
chains under one connective made flat.
-/

namespace FilterQuery

/-- What is free about a token whose kind is known. -/
structure Spelling where
  literal : String
  offset : Nat

def Spelling.token (spelling : Spelling) (kind : TokenKind) : Token :=
  ⟨kind, spelling.literal, spelling.offset⟩

theorem exists_spelling {token : Token} {kind : TokenKind} (h : token.kind = kind) :
    ∃ spelling : Spelling, token = spelling.token kind ∧ spelling.literal = token.literal ∧
      spelling.offset = token.offset := by
  subst h
  exact ⟨⟨token.literal, token.offset⟩, rfl, rfl, rfl⟩

/-- Whether the literals of a class have an order, and so can be listed. -/
def LiteralClass.isOrdered : LiteralClass → Bool
  | .identifier | .text | .integer | .float => true
  | .boolean _ | .null => false

theorem LiteralValue.isOrderable {text : String} {cls : LiteralClass} {value : Value}
    (h : LiteralValue text cls value) : value.isOrderable = cls.isOrdered := by
  cases h <;> rfl

/-- A literal and its value. -/
structure ValuedLiteral where
  cls : LiteralClass
  spelling : Spelling
  value : Value
  valued : LiteralValue spelling.literal cls value

def ValuedLiteral.token (literal : ValuedLiteral) : Token :=
  literal.spelling.token (.literal literal.cls)

inductive LiteralList where
  | single (literal : ValuedLiteral)
  | more (front : LiteralList) (comma : Spelling) (literal : ValuedLiteral)

namespace LiteralList

def tokens : LiteralList → List Token
  | single literal => [literal.token]
  | more front comma literal => front.tokens ++ [comma.token (.connective .or), literal.token]

def values : LiteralList → List Value
  | single literal => [literal.value]
  | more front _ literal => front.values ++ [literal.value]

def isOrdered : LiteralList → Bool
  | single literal => literal.cls.isOrdered
  | more front _ literal => front.isOrdered && literal.cls.isOrdered

/-- A list begins with a literal. -/
theorem exists_first (literals : LiteralList) :
    ∃ (first : ValuedLiteral) (rest : List Token), literals.tokens = first.token :: rest := by
  induction literals with
  | single literal => exact ⟨literal, [], rfl⟩
  | more front comma literal ih =>
    obtain ⟨first, rest, hfirst⟩ := ih
    exact ⟨first, rest ++ [comma.token (.connective .or), literal.token], by simp [tokens, hfirst]⟩

end LiteralList

namespace Comparison

theorem mem_equality_iff {op : Comparison} :
    op ∈ [.equal, .notEqual] ↔ op.isMembership = false ∧ op.isEquality = true := by
  cases op <;> decide

theorem mem_ordering_iff {op : Comparison} :
    op ∈ [.less, .lessOrEqual, .greater, .greaterOrEqual] ↔
      op.isMembership = false ∧ op.isEquality = false := by
  cases op <;> decide

theorem mem_membership_iff {op : Comparison} :
    op ∈ [.within, .outside] ↔ op.isMembership = true := by
  cases op <;> decide

end Comparison

/-- The arguments that a comparison takes. -/
inductive DerivedArgument (op : Comparison) where
  | any (equality : op ∈ [.equal, .notEqual]) (literal : ValuedLiteral)
  | ordered (ordering : op ∈ [.less, .lessOrEqual, .greater, .greaterOrEqual])
      (literal : ValuedLiteral) (ordered : literal.cls.isOrdered = true)
  | list (membership : op ∈ [.within, .outside]) (opening : Spelling) (literals : LiteralList)
      (ordered : literals.isOrdered = true) (closing : Spelling)

namespace DerivedArgument

variable {op : Comparison}

def tokens : DerivedArgument op → List Token
  | any _ literal => [literal.token]
  | ordered _ literal _ => [literal.token]
  | list _ opening literals _ closing =>
    opening.token .opening :: (literals.tokens ++ [closing.token .closing])

def argument : DerivedArgument op → Argument
  | any _ literal => .one literal.value
  | ordered _ literal _ => .one literal.value
  | list _ _ literals _ _ => .list literals.values

end DerivedArgument

/-- The layers of the grammar, from the tightest to the loosest. -/
inductive Layer where
  | operand
  | conjunction
  | disjunction

/-- The derivations of each layer. -/
inductive Derivation : Layer → Type where
  | constraint (field : Spelling) (op : Comparison) (sign : Spelling)
      (argument : DerivedArgument op) : Derivation .operand
  | group (opening : Spelling) (inner : Derivation .disjunction) (closing : Spelling) :
      Derivation .operand
  | operand (inner : Derivation .operand) : Derivation .conjunction
  | and (left : Derivation .conjunction) (semicolon : Spelling) (right : Derivation .operand) :
      Derivation .conjunction
  | conjunction (inner : Derivation .conjunction) : Derivation .disjunction
  | or (left : Derivation .disjunction) (comma : Spelling) (right : Derivation .conjunction) :
      Derivation .disjunction

namespace Filter

mutual

/-- A filter in which combinations directly under the same connective are merged. -/
def flatten : Filter → Filter
  | constraint field op argument => constraint field op argument
  | combination op parts => combination op (flattenParts op parts)

def flattenParts (op : Connective) : List Filter → List Filter
  | [] => []
  | part :: rest => (flatten part).operands op ++ flattenParts op rest

end

theorem flatten_pair (op : Connective) (left right : Filter) :
    (combination op [left, right]).flatten = left.flatten.combine op right.flatten := by
  simp [flatten, flattenParts, combine]

end Filter

namespace Derivation

variable {layer : Layer}

def tokens : {layer : Layer} → Derivation layer → List Token
  | _, constraint field op sign argument =>
    field.token (.literal .identifier) :: sign.token (.comparison op) :: argument.tokens
  | _, group opening inner closing =>
    opening.token .opening :: (inner.tokens ++ [closing.token .closing])
  | _, operand inner => inner.tokens
  | _, and left semicolon right =>
    left.tokens ++ semicolon.token (.connective .and) :: right.tokens
  | _, conjunction inner => inner.tokens
  | _, or left comma right => left.tokens ++ comma.token (.connective .or) :: right.tokens

/-- The tree that a derivation spells out, with one combination for each connective. -/
def tree : {layer : Layer} → Derivation layer → Filter
  | _, constraint field op _ argument => .constraint field.literal op argument.argument
  | _, group _ inner _ => inner.tree
  | _, operand inner => inner.tree
  | _, and left _ right => .combination .and [left.tree, right.tree]
  | _, conjunction inner => inner.tree
  | _, or left _ right => .combination .or [left.tree, right.tree]

def nesting : {layer : Layer} → Derivation layer → Nat
  | _, constraint .. => 0
  | _, group _ inner _ => inner.nesting + 1
  | _, operand inner => inner.nesting
  | _, and left _ right => max left.nesting right.nesting
  | _, conjunction inner => inner.nesting
  | _, or left _ right => max left.nesting right.nesting

def filter (d : Derivation layer) : Filter := d.tree.flatten

@[simp] theorem filter_constraint (field : Spelling) (op : Comparison) (sign : Spelling)
    (argument : DerivedArgument op) : (constraint field op sign argument).filter =
      .constraint field.literal op argument.argument := rfl

@[simp] theorem filter_group (opening : Spelling) (inner : Derivation .disjunction)
    (closing : Spelling) : (group opening inner closing).filter = inner.filter := rfl

@[simp] theorem filter_operand (inner : Derivation .operand) :
    (operand inner).filter = inner.filter := rfl

@[simp] theorem filter_and (left : Derivation .conjunction) (semicolon : Spelling)
    (right : Derivation .operand) :
    (and left semicolon right).filter = left.filter.combine .and right.filter :=
  Filter.flatten_pair ..

@[simp] theorem filter_conjunction (inner : Derivation .conjunction) :
    (conjunction inner).filter = inner.filter := rfl

@[simp] theorem filter_or (left : Derivation .disjunction) (comma : Spelling)
    (right : Derivation .conjunction) :
    (or left comma right).filter = left.filter.combine .or right.filter :=
  Filter.flatten_pair ..

end Derivation

end FilterQuery
