import FilterQuery.ConstraintReading

/-!
# Values of literals

What value a literal has, said without reading it.  A string has its own text.  A number has a
value only when all its digits are of ASCII; an integer must fit into 64 bits, a float must stay
finite when it is rounded.
-/

namespace FilterQuery

/-- The number that a text stands for which consists of ASCII digits behind an optional sign. -/
def signedNumber (text : List Char) : Int :=
  if (splitSign text).1 then -(Nat.ofDigitChars 10 (splitSign text).2 0 : Int)
  else Nat.ofDigitChars 10 (splitSign text).2 0

namespace FloatLiteral

structure IsAscii (literal : FloatLiteral) : Prop where
  mantissa : ∀ c ∈ literal.whole ++ literal.fraction, c.isDigit = true
  exponent : ∀ e ∈ literal.exponent, ∀ c ∈ e.2, c.isDigit = true

namespace IsAscii

variable {literal : FloatLiteral}

theorem whole (h : literal.IsAscii) : ∀ c ∈ literal.whole, c.isDigit = true :=
  (List.forall_mem_append.mp h.mantissa).1

theorem fraction (h : literal.IsAscii) : ∀ c ∈ literal.fraction, c.isDigit = true :=
  (List.forall_mem_append.mp h.mantissa).2

end IsAscii

/-- The digits of a float literal as one number, the decimal point left out. -/
def mantissa (literal : FloatLiteral) : Nat :=
  Nat.ofDigitChars 10 (literal.whole ++ literal.fraction) 0

def scale (literal : FloatLiteral) : Int :=
  match literal.exponent with
  | none => 0
  | some (true, digits) => -(Nat.ofDigitChars 10 digits 0 : Int)
  | some (false, digits) => Nat.ofDigitChars 10 digits 0

def rounded (literal : FloatLiteral) : Binary64 :=
  .ofDecimal literal.negative literal.mantissa (literal.scale - literal.fraction.length)

end FloatLiteral

/-- The values of the literals of each class. -/
inductive LiteralValue (text : String) : LiteralClass → Value → Prop where
  | identifier : LiteralValue text .identifier (.string text)
  | text : LiteralValue text .text (.string text)
  | boolean (b : Bool) : LiteralValue text (.boolean b) (.boolean b)
  | null : LiteralValue text .null .null
  | integer (n : Int64) (ascii : ∀ c ∈ (splitSign text.toList).2, c.isDigit = true)
      (fits : n.toInt = signedNumber text.toList) : LiteralValue text .integer (.integer n)
  | float (literal : FloatLiteral) (shape : FloatLiteral.read? text.toList = some literal)
      (ascii : literal.IsAscii) (finite : literal.rounded.isFinite = true) :
      LiteralValue text .float (.float literal.rounded)

/-! ## Integers -/

theorem le_ofDigitChars (digits : List Char) (n : Nat) : n ≤ Nat.ofDigitChars 10 digits n := by
  rw [Nat.ofDigitChars_eq_ofDigitChars_zero]
  have hpow : 1 ≤ 10 ^ digits.length := Nat.one_le_pow _ _ (by decide)
  have hle : 1 * n ≤ 10 ^ digits.length * n := Nat.mul_le_mul_right n hpow
  omega

/-- What digits are read as, one after the other: ASCII digits that go beyond the limit are reported
before any later digit is looked at. -/
theorem readDigits_eq {limit : Nat} {overflow : IntegerFault} {start : Nat} (hstart : start ≤ limit)
    (digits : List Char) :
    readDigits limit overflow start digits =
      if limit < Nat.ofDigitChars 10 (digits.takeWhile Char.isDigit) start then .error overflow
      else if digits.all Char.isDigit = true then .ok (Nat.ofDigitChars 10 digits start)
      else .error .invalidDigit := by
  induction digits generalizing start with
  | nil => simp [readDigits, Nat.not_lt.mpr hstart]
  | cons c rest ih =>
    rw [readDigits, digitValue?]
    by_cases hc : c.isDigit = true
    · rw [if_pos hc, List.takeWhile_cons_of_pos hc, Nat.ofDigitChars_cons, Nat.ofDigitChars_cons,
        Nat.mul_comm 10 start]
      dsimp only
      split
      case isTrue hover =>
        have hle := le_ofDigitChars (rest.takeWhile Char.isDigit)
          (start * 10 + (c.toNat - '0'.toNat))
        rw [if_pos (Nat.lt_of_lt_of_le hover hle)]
      case isFalse hover =>
        rw [ih (Nat.le_of_not_lt hover)]
        simp [hc]
    · rw [if_neg hc, List.takeWhile_cons_of_neg hc]
      simp [Nat.not_lt.mpr hstart, hc]

theorem takeWhile_isDigit {digits : List Char} (h : digits.all Char.isDigit = true) :
    digits.takeWhile Char.isDigit = digits := by
  have hfront : (digits ++ []).takeWhile Char.isDigit = digits ++ [] :=
    List.takeWhile_append_of_pos (List.all_eq_true.mp h)
  rwa [List.append_nil] at hfront

theorem readDigits_eq_ok_iff {limit : Nat} {overflow : IntegerFault} {digits : List Char}
    {start n : Nat} (hstart : start ≤ limit) :
    readDigits limit overflow start digits = .ok n ↔
      (∀ c ∈ digits, c.isDigit = true) ∧ Nat.ofDigitChars 10 digits start = n ∧ n ≤ limit := by
  rw [readDigits_eq hstart, ← List.all_eq_true]
  by_cases hascii : digits.all Char.isDigit = true
  · rw [takeWhile_isDigit hascii, if_pos hascii]
    split
    case isTrue hover =>
      simp only [reduceCtorEq, false_iff]
      rintro ⟨-, rfl, hle⟩
      omega
    case isFalse hover =>
      rw [Except.ok.injEq]
      constructor
      · rintro rfl
        exact ⟨hascii, rfl, Nat.le_of_not_lt hover⟩
      · exact fun h => h.2.1
  · rw [if_neg hascii]
    split <;> simp [hascii]

private theorem readDigits_map_eq_ok_iff {limit : Nat} {overflow : IntegerFault}
    {digits : List Char} {f : Nat → Int} {n : Int64}
    (hf : ∀ m : Nat, m ≤ limit ↔ -9223372036854775808 ≤ f m ∧ f m < 9223372036854775808) :
    (readDigits limit overflow 0 digits).map (fun m => Int64.ofInt (f m)) = .ok n ↔
      (∀ c ∈ digits, c.isDigit = true) ∧ n.toInt = f (Nat.ofDigitChars 10 digits 0) := by
  constructor
  · intro h
    cases hread : readDigits limit overflow 0 digits with
    | error fault => simp [hread, Except.map] at h
    | ok m =>
      obtain ⟨hdigits, hm, hle⟩ := (readDigits_eq_ok_iff (Nat.zero_le _)).mp hread
      simp only [hread, Except.map, Except.ok.injEq] at h
      obtain ⟨hlow, hhigh⟩ := (hf m).mp hle
      rw [← h, Int64.toInt_ofInt_of_le (by omega) (by omega), hm]
      exact ⟨hdigits, rfl⟩
  · rintro ⟨hdigits, hn⟩
    have hle : Nat.ofDigitChars 10 digits 0 ≤ limit := by
      have hlow := n.le_toInt
      have hhigh := n.toInt_lt
      rw [hf, ← hn]
      omega
    rw [(readDigits_eq_ok_iff (Nat.zero_le _)).mpr ⟨hdigits, rfl, hle⟩]
    simp [Except.map, ← hn]

theorem readInteger_eq_ok_iff {text : List Char} {n : Int64} :
    readInteger text = .ok n ↔
      (∀ c ∈ (splitSign text).2, c.isDigit = true) ∧ n.toInt = signedNumber text := by
  unfold readInteger signedNumber
  generalize splitSign text = parts
  obtain ⟨negative, digits⟩ := parts
  cases negative with
  | false =>
    change (readDigits 9223372036854775807 .tooLarge 0 digits).map (fun m => .ofInt (m : Int)) =
      .ok n ↔ _
    exact readDigits_map_eq_ok_iff (f := fun m => (m : Int)) (by intro m; omega)
  | true =>
    change (readDigits 9223372036854775808 .tooSmall 0 digits).map (fun m => .ofInt (-(m : Int))) =
      .ok n ↔ _
    exact readDigits_map_eq_ok_iff (f := fun m => -(m : Int)) (by intro m; omega)

/-! ## Floats -/

theorem readNumber?_eq_some_iff {digits : List Char} {n : Nat} :
    readNumber? digits = some n ↔
      (∀ c ∈ digits, c.isDigit = true) ∧ Nat.ofDigitChars 10 digits 0 = n := by
  simp [readNumber?]

/-- A float literal is rounded as soon as its digits are of ASCII. -/
theorem nearest?_eq_some_iff {literal : FloatLiteral} {x : Binary64} :
    literal.nearest? = some x ↔ literal.IsAscii ∧ literal.rounded = x := by
  obtain ⟨negative, whole, fraction, exponent⟩ := literal
  simp only [FloatLiteral.nearest?, Option.bind_eq_bind, Option.bind_eq_some_iff,
    readNumber?_eq_some_iff, Option.pure_def, Option.some.injEq]
  constructor
  · rintro ⟨digits, ⟨hdigits, rfl⟩, power, hpower, rfl⟩
    match exponent with
    | none =>
      cases hpower
      exact ⟨⟨hdigits, by simp⟩, rfl⟩
    | some (minus, places) =>
      simp only [readPower?, Option.map_eq_some_iff, readNumber?_eq_some_iff] at hpower
      obtain ⟨n, ⟨hplaces, rfl⟩, rfl⟩ := hpower
      refine ⟨⟨hdigits, by simpa using hplaces⟩, ?_⟩
      cases minus <;> rfl
  · rintro ⟨⟨hdigits, hplaces⟩, rfl⟩
    refine ⟨_, ⟨hdigits, rfl⟩, ?_⟩
    match exponent with
    | none => exact ⟨0, rfl, rfl⟩
    | some (minus, places) =>
      have hplaces : ∀ c ∈ places, c.isDigit = true := hplaces _ rfl
      simp only [readPower?, Option.map_eq_some_iff, readNumber?_eq_some_iff]
      refine ⟨_, ⟨_, ⟨hplaces, rfl⟩, rfl⟩, ?_⟩
      cases minus <;> rfl

theorem readFloat_eq_ok_iff {text : List Char} {x : Binary64} :
    readFloat text = .ok x ↔
      ∃ literal, FloatLiteral.read? text = some literal ∧ literal.IsAscii ∧
        literal.rounded = x ∧ x.isFinite = true := by
  unfold readFloat
  cases hread : (FloatLiteral.read? text).bind FloatLiteral.nearest? with
  | none =>
    simp only [reduceCtorEq, false_iff, not_exists]
    rintro literal ⟨hshape, hascii, hrounded, -⟩
    have hnearest := nearest?_eq_some_iff.mpr ⟨hascii, hrounded⟩
    simp [hshape, hnearest] at hread
  | some y =>
    obtain ⟨literal, hshape, hnearest⟩ := Option.bind_eq_some_iff.mp hread
    obtain ⟨hascii, hrounded⟩ := nearest?_eq_some_iff.mp hnearest
    dsimp only
    constructor
    · intro h
      split at h
      case isTrue hfinite =>
        cases h
        exact ⟨literal, hshape, hascii, hrounded, hfinite⟩
      case isFalse => cases h
    · rintro ⟨literal', hshape', -, rfl, hfinite⟩
      rw [hshape] at hshape'
      cases hshape'
      rw [← hrounded, if_pos hfinite]

/-- Reading a literal token gives the value of the literal. -/
theorem literalValue_eq_ok_iff {field : String} {cls : LiteralClass} {token : Token}
    {value : Value} :
    literalValue field cls token = .ok value ↔ LiteralValue token.literal cls value := by
  constructor
  · intro h
    cases cls with
    | identifier => cases h; exact .identifier
    | text => cases h; exact .text
    | boolean b => cases h; exact .boolean b
    | null => cases h; exact .null
    | integer =>
      dsimp only [literalValue] at h
      split at h
      case h_1 n hread =>
        cases h
        obtain ⟨hascii, hfits⟩ := readInteger_eq_ok_iff.mp hread
        exact .integer n hascii hfits
      case h_2 => cases h
    | float =>
      dsimp only [literalValue] at h
      split at h
      case h_1 x hread =>
        cases h
        obtain ⟨literal, hshape, hascii, rfl, hfinite⟩ := readFloat_eq_ok_iff.mp hread
        exact .float literal hshape hascii hfinite
      all_goals cases h
  · intro h
    cases h with
    | identifier => rfl
    | text => rfl
    | boolean b => rfl
    | null => rfl
    | integer n hascii hfits =>
      simp [literalValue, readInteger_eq_ok_iff.mpr ⟨hascii, hfits⟩]
    | float literal hshape hascii hfinite =>
      simp [literalValue, readFloat_eq_ok_iff.mpr ⟨literal, hshape, hascii, rfl, hfinite⟩]

theorem literalValue_eq_error {field : String} {cls : LiteralClass} {token : Token}
    {e : ParseError} (h : literalValue field cls token = .error e) :
    (∃ fault, e = .unreadableInteger field token fault) ∨ e = .unreadableFloat field token ∨
      e = .floatOutOfRange field token := by
  cases cls with
  | integer =>
    dsimp only [literalValue] at h
    split at h
    · cases h
    · cases h
      exact .inl ⟨_, rfl⟩
  | float =>
    dsimp only [literalValue] at h
    split at h
    · cases h
    · cases h
      exact .inr (.inl rfl)
    · cases h
      exact .inr (.inr rfl)
  | _ => cases h

theorem token?_literalValue {field : String} {cls : LiteralClass} {token : Token}
    {e : ParseError} (h : literalValue field cls token = .error e) : e.token? = some token := by
  obtain ⟨fault, rfl⟩ | rfl | rfl := literalValue_eq_error h <;> rfl

/-- A literal is passed if it has a value, and stays where it is otherwise. -/
theorem readValue_of_literal {s : TokenStream} {cls : LiteralClass}
    (hkind : s.current.kind = .literal cls) (field : String) :
    (readValue field s).result = literalValue field cls s.current ∧
      (readValue field s).passed =
        if (literalValue field cls s.current).isOk then 1 else 0 := by
  unfold readValue
  simp only [hkind]
  cases literalValue field cls s.current <;> exact ⟨rfl, rfl⟩

end FilterQuery
