import FilterQuery.Operators
import FilterQuery.Values

/-!
# Filters

A filter is a constraint on a field or a combination of filters under one connective.  Combining
two filters keeps chains flat: an operand that is already a combination under the same connective
contributes its parts instead of itself.
-/

namespace FilterQuery

/-- What a field is compared with. -/
inductive Argument where
  | one (value : Value)
  | list (values : List Value)
  deriving DecidableEq

/-- A condition on the fields of a record. -/
inductive Filter where
  | constraint (field : String) (op : Comparison) (argument : Argument)
  | combination (op : Connective) (parts : List Filter)

namespace Argument

def display : Argument → String
  | one value => value.display
  | list values => "[" ++ String.intercalate ", " (values.map Value.display) ++ "]"

/-- Equality of lists of values, under which floats are compared as numbers. -/
def sameValues : List Value → List Value → Bool
  | [], [] => true
  | v :: vs, w :: ws => v.same w && sameValues vs ws
  | _, _ => false

def same : Argument → Argument → Bool
  | one v, one w => v.same w
  | list vs, list ws => sameValues vs ws
  | _, _ => false

end Argument

namespace Filter

mutual

def decideEq : (x y : Filter) → Decidable (x = y)
  | constraint f o a, constraint g p b =>
    if h : f = g ∧ o = p ∧ a = b then isTrue (by simp [h])
    else isFalse (by simpa using h)
  | combination o xs, combination p ys =>
    match decEq o p, decidePartsEq xs ys with
    | isTrue ho, isTrue hparts => isTrue (by rw [ho, hparts])
    | isFalse ho, _ => isFalse (by simp [ho])
    | _, isFalse hparts => isFalse (by simp [hparts])
  | constraint .., combination .. => isFalse (by simp)
  | combination .., constraint .. => isFalse (by simp)

def decidePartsEq : (xs ys : List Filter) → Decidable (xs = ys)
  | [], [] => isTrue rfl
  | x :: xs, y :: ys =>
    match decideEq x y, decidePartsEq xs ys with
    | isTrue hx, isTrue hxs => isTrue (by rw [hx, hxs])
    | isFalse hx, _ => isFalse (by simp [hx])
    | _, isFalse hxs => isFalse (by simp [hxs])
  | [], _ :: _ => isFalse (by simp)
  | _ :: _, [] => isFalse (by simp)

end

instance : DecidableEq Filter := decideEq

/-- The parts that a filter contributes to a combination under a connective. -/
def operands (op : Connective) : Filter → List Filter
  | combination inner parts => if inner = op then parts else [combination inner parts]
  | constraint field comparison argument => [constraint field comparison argument]

def combine (op : Connective) (left right : Filter) : Filter :=
  combination op (left.operands op ++ right.operands op)

mutual

def same : Filter → Filter → Bool
  | constraint f o a, constraint g p b => f = g && o = p && a.same b
  | combination o xs, combination p ys => o = p && sameParts xs ys
  | _, _ => false

def sameParts : List Filter → List Filter → Bool
  | [], [] => true
  | x :: xs, y :: ys => same x y && sameParts xs ys
  | _, _ => false

end

end Filter

/-- Equality of filters that may be absent; an absent one equals only another absent one. -/
def sameFilters : Option Filter → Option Filter → Bool
  | none, none => true
  | some x, some y => x.same y
  | _, _ => false

end FilterQuery
