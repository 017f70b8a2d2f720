import FilterQuery.Tokens

/-!
# Groups of token kinds

Every kind has a bit of its own, so a set of kinds is a word of bits and membership is one
conjunction.
-/

namespace FilterQuery

namespace TokenKind

/-- The number of a kind in the order of `TokenKind.all`. -/
def index : TokenKind → Nat
  | literal .identifier => 0
  | literal .text => 1
  | literal .integer => 2
  | literal .float => 3
  | literal (.boolean false) => 4
  | literal (.boolean true) => 5
  | literal .null => 6
  | comparison .equal => 7
  | comparison .notEqual => 8
  | comparison .within => 9
  | comparison .outside => 10
  | comparison .less => 11
  | comparison .lessOrEqual => 12
  | comparison .greater => 13
  | comparison .greaterOrEqual => 14
  | connective .and => 15
  | connective .or => 16
  | opening => 17
  | closing => 18
  | malformed => 19
  | endOfInput => 20

def bit (kind : TokenKind) : UInt32 := 1 <<< UInt32.ofNat kind.index

theorem getElem?_all_index (kind : TokenKind) : all[kind.index]? = some kind := by
  cases kind with
  | literal cls =>
    cases cls with
    | boolean b => cases b <;> rfl
    | _ => rfl
  | comparison op => cases op <;> rfl
  | connective op => cases op <;> rfl
  | _ => rfl

end TokenKind

/-- A set of token kinds, as the union of their bits. -/
structure TokenGroup where
  bits : UInt32
  deriving DecidableEq

namespace TokenGroup

def ofKinds (kinds : List TokenKind) : TokenGroup :=
  ⟨kinds.foldl (fun bits kind => bits ||| kind.bit) 0⟩

def includes (group : TokenGroup) (kind : TokenKind) : Bool := kind.bit &&& group.bits != 0

/-- The members of a group, in the order of the kinds. -/
def members (group : TokenGroup) : List TokenKind := TokenKind.all.filter group.includes

def comparison : TokenGroup := ofKinds (Comparison.all.map .comparison)

/-- The comparisons that need no order on their arguments. -/
def equality : TokenGroup :=
  ofKinds [.comparison .equal, .comparison .notEqual, .comparison .within, .comparison .outside]

def membership : TokenGroup := ofKinds [.comparison .within, .comparison .outside]

/-- The comparisons that need an order on their arguments. -/
def relation : TokenGroup :=
  ofKinds [.comparison .less, .comparison .lessOrEqual, .comparison .greater,
    .comparison .greaterOrEqual]

def argument : TokenGroup :=
  ofKinds [.literal .identifier, .literal .text, .literal .integer, .literal .float,
    .literal (.boolean false), .literal (.boolean true), .literal .null]

def logical : TokenGroup := ofKinds [.connective .and, .connective .or]

def named : List (String × TokenGroup) :=
  [("comparison", comparison), ("equality", equality), ("membership", membership),
    ("relation", relation), ("argument", argument), ("logical", logical)]

end TokenGroup

end FilterQuery
