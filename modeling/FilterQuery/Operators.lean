/-!
# Operators

The connectives that join filters, the comparisons of a constraint, and how tightly a token in
operator position binds.  Conjunction binds tighter than disjunction.
-/

namespace FilterQuery

/-- How several filters are joined into one. -/
inductive Connective where
  | and
  | or
  deriving DecidableEq

/-- How a constraint compares its field with its argument. -/
inductive Comparison where
  | equal
  | notEqual
  | within
  | outside
  | less
  | lessOrEqual
  | greater
  | greaterOrEqual
  deriving DecidableEq

/-- Binding strengths, from the weakest to the strongest. -/
inductive Precedence where
  | lowest
  | or
  | and
  | comparison
  deriving DecidableEq

namespace Precedence

def level : Precedence → Nat
  | lowest => 0
  | or => 1
  | and => 2
  | comparison => 3

instance : LT Precedence := ⟨fun p q => p.level < q.level⟩

instance : LE Precedence := ⟨fun p q => p.level ≤ q.level⟩

instance (p q : Precedence) : Decidable (p < q) := inferInstanceAs (Decidable (p.level < q.level))

instance (p q : Precedence) : Decidable (p ≤ q) := inferInstanceAs (Decidable (p.level ≤ q.level))

instance : Ord Precedence := ⟨fun p q => compare p.level q.level⟩

def name : Precedence → String
  | lowest => "Lowest"
  | or => "Or"
  | and => "And"
  | comparison => "Comparison"

end Precedence

namespace Connective

/-- How tightly a connective binds its operands. -/
def precedence : Connective → Precedence
  | and => .and
  | or => .or

theorem not_and_lt_precedence (op : Connective) : ¬ Precedence.and < op.precedence := by
  cases op <;> decide

theorem not_comparison_lt_precedence (op : Connective) :
    ¬ Precedence.comparison < op.precedence := by
  cases op <;> decide

def symbol : Connective → String
  | and => ";"
  | or => ","

/-- The name of a connective in trees and messages. -/
def name : Connective → String
  | and => "And"
  | or => "Or"

/-- The name of a connective in JSON. -/
def key : Connective → String
  | and => "and"
  | or => "or"

end Connective

namespace Comparison

def symbol : Comparison → String
  | equal => "=="
  | notEqual => "!="
  | within => "=in="
  | outside => "=out="
  | less => "=lt="
  | lessOrEqual => "=le="
  | greater => "=gt="
  | greaterOrEqual => "=ge="

def name : Comparison → String
  | equal => "Eq"
  | notEqual => "Ne"
  | within => "In"
  | outside => "Out"
  | less => "Lt"
  | lessOrEqual => "Le"
  | greater => "Gt"
  | greaterOrEqual => "Ge"

/-- The name of a comparison in JSON, which is also the word of its `=word=` spelling. -/
def key : Comparison → String
  | equal => "eq"
  | notEqual => "ne"
  | within => "in"
  | outside => "out"
  | less => "lt"
  | lessOrEqual => "le"
  | greater => "gt"
  | greaterOrEqual => "ge"

def all : List Comparison :=
  [equal, notEqual, within, outside, less, lessOrEqual, greater, greaterOrEqual]

/-- The comparison that a `=word=` spelling names. -/
def ofKey? (word : List Char) : Option Comparison :=
  all.find? fun comparison => comparison.key.toList = word

def isMembership : Comparison → Bool
  | within | outside => true
  | _ => false

/-- Whether a comparison of one value takes any value, with or without an order. -/
def isEquality : Comparison → Bool
  | equal | notEqual => true
  | _ => false

theorem mem_all (comparison : Comparison) : comparison ∈ all := by
  cases comparison <;> decide

@[simp] theorem ofKey?_key (comparison : Comparison) :
    ofKey? comparison.key.toList = some comparison := by
  cases comparison <;> decide

theorem ofKey?_eq_some_iff (word : List Char) (comparison : Comparison) :
    ofKey? word = some comparison ↔ word = comparison.key.toList := by
  constructor
  · intro h
    have hword := List.find?_some h
    exact (of_decide_eq_true hword).symm
  · rintro rfl
    exact ofKey?_key comparison

end Comparison

end FilterQuery
