import FilterQuery.Parsers
import FilterQuery.Proofs.ReadingsFollowSteps

/-!
# Parsers read their tokens

The tokens in sight of a parser and those that its cursor still gives out make up a stream.  Every
act of a parser comes to what is read from that stream, and leaves the parser with as many tokens
passed as the reading passes, in the groups in which it was before.  So an act depends on the
tokens ahead and the depth alone, and always comes to an end.
-/

namespace FilterQuery

namespace TokenStream

/-- A stream that begins with a token.  Behind a terminal token there is nothing. -/
def cons (token : Token) (s : TokenStream) : TokenStream :=
  if h : token.isTerminal = true then ended token h else push token (eq_false_of_ne_true h) s

@[simp] theorem current_cons (token : Token) (s : TokenStream) : (cons token s).current = token := by
  unfold cons
  split <;> rfl

theorem advance_cons {token : Token} (h : token.isTerminal = false) (s : TokenStream) :
    (cons token s).advance = s := by
  rw [cons, dif_neg (ne_true_of_eq_false h), advance_push]

theorem cons_current (s : TokenStream) : cons s.current s.advance = s := by
  obtain ⟨ahead, last, hopen, hlast⟩ := s
  cases ahead with
  | nil => exact dif_pos hlast
  | cons token rest => exact dif_neg (ne_true_of_eq_false (hopen token List.mem_cons_self))

end TokenStream

namespace Parser

variable {p : Parser}

/-- The tokens that are ahead of a parser, up to the first terminal one. -/
def stream (p : Parser) : TokenStream := .cons p.current (.cons p.upcoming p.cursor.stream)

@[simp] theorem stream_current (p : Parser) : p.stream.current = p.current :=
  TokenStream.current_cons ..

@[simp] theorem errorOr_eq (p : Parser) (e : ParseError) : p.errorOr e = p.stream.errorOr e := by
  rw [errorOr, TokenStream.errorOr, stream_current]

@[simp] theorem stream_enter (p : Parser) : p.enter.stream = p.stream := rfl

@[simp] theorem depth_enter (p : Parser) : p.enter.depth = p.depth + 1 := rfl

@[simp] theorem depth_advance (p : Parser) : p.advance.depth = p.depth := rfl

theorem stream_advance (h : p.current.isTerminal = false) : p.advance.stream = p.stream.advance := by
  have hupcoming : p.advance.upcoming = p.cursor.stream.current := p.cursor.pull_fst
  have hcursor : p.advance.cursor.stream = p.cursor.stream.advance := p.cursor.stream_pull.2
  rw [stream, stream, hupcoming, hcursor, TokenStream.cons_current, TokenStream.advance_cons h]
  rfl

theorem stream_ofCursor (cursor : TokenCursor) : (ofCursor cursor).stream = cursor.stream := by
  have hbehind : cursor.pull.2.stream = cursor.stream.advance := cursor.stream_pull.2
  have hcurrent : (ofCursor cursor).current = cursor.stream.current := cursor.pull_fst
  have hupcoming : (ofCursor cursor).upcoming = cursor.stream.advance.current :=
    hbehind ▸ cursor.pull.2.pull_fst
  have hcursor : (ofCursor cursor).cursor.stream = cursor.stream.advance.advance :=
    hbehind ▸ cursor.pull.2.stream_pull.2
  rw [stream, hcurrent, hupcoming, hcursor, TokenStream.cons_current, TokenStream.cons_current]

theorem length_advance_lt (h : p.current.isTerminal = false) :
    p.advance.stream.length < p.stream.length := by
  rw [stream_advance h]
  exact TokenStream.length_advance_lt (by rwa [stream_current])

def after (p : Parser) : Nat → Parser
  | 0 => p
  | n + 1 => p.advance.after n

@[simp] theorem after_zero (p : Parser) : p.after 0 = p := rfl

theorem after_succ (p : Parser) (n : Nat) : p.after (n + 1) = p.advance.after n := rfl

theorem after_add (p : Parser) (m n : Nat) : p.after (m + n) = (p.after m).after n := by
  induction m generalizing p with
  | zero => rw [Nat.zero_add, after_zero]
  | succ m ih => rw [Nat.succ_add, after_succ, after_succ, ih]

@[simp] theorem depth_after (p : Parser) (n : Nat) : (p.after n).depth = p.depth := by
  induction n generalizing p with
  | zero => rfl
  | succ n ih =>
    rw [after_succ, ih, depth_advance]

@[simp] theorem leave_after_enter (p : Parser) (n : Nat) : (p.enter.after n).leave = p.after n := by
  induction n generalizing p with
  | zero => rfl
  | succ n ih => exact ih p.advance

theorem stream_after {n : Nat} (h : n ≤ p.stream.length) :
    (p.after n).stream = p.stream.drop n := by
  induction n generalizing p with
  | zero => rfl
  | succ n ih =>
    have hopen : p.current.isTerminal = false := by
      rw [← stream_current, Bool.eq_false_iff]
      intro hterminal
      have hzero := TokenStream.length_eq_zero_of_isTerminal hterminal
      omega
    have hadvance := stream_advance hopen
    have hle : n ≤ p.advance.stream.length := by
      rw [hadvance, TokenStream.length_advance]
      omega
    rw [after_succ, ih hle, hadvance, TokenStream.advance, TokenStream.drop_drop, Nat.add_comm]

end Parser

/-- An outcome of a parser is what is read from its tokens, with as many of them passed. -/
structure Reads {α : Type} (p : Parser) (outcome : Option (Outcome α)) (r : Reading α) : Prop where
  passed_le : r.passed ≤ p.stream.length
  run : outcome = some (r.result, p.after r.passed)

namespace Reads

variable {α β : Type} {p : Parser} {outcome : Option (Outcome α)} {r : Reading α}

theorem stream_after (h : Reads p outcome r) : (p.after r.passed).stream = p.stream.drop r.passed :=
  Parser.stream_after h.passed_le

theorem length_after (h : Reads p outcome r) :
    (p.after r.passed).stream.length ≤ p.stream.length := by
  rw [h.stream_after, TokenStream.length_drop]
  omega

theorem accept (a : α) : Reads p (some (.ok a, p)) (.accept a) := ⟨Nat.zero_le _, rfl⟩

theorem refuse (e : ParseError) : Reads p (some (.error e, p)) (.refuse e : Reading α) :=
  ⟨Nat.zero_le _, rfl⟩

theorem afterCurrent (hopen : p.current.isTerminal = false) (h : Reads p.advance outcome r) :
    Reads p outcome (.afterCurrent p.stream r) where
  passed_le := by
    have hle := h.passed_le
    have hshorter := Parser.length_advance_lt hopen
    simp only [Reading.afterCurrent]
    omega
  run := h.run

theorem andThen {goOn : Outcome α → Option (Outcome β)} {next : α → Nat → Reading β}
    (h : Reads p outcome r)
    (herror : ∀ e, r.result = .error e →
      goOn (.error e, p.after r.passed) = some (.error e, p.after r.passed))
    (hok : ∀ a, r.result = .ok a →
      Reads (p.after r.passed) (goOn (.ok a, p.after r.passed)) (next a r.passed)) :
    Reads p (outcome >>= goOn) (r.andThen next) := by
  have hgoOn : (outcome >>= goOn) = goOn (r.result, p.after r.passed) := by
    rw [h.run]
    rfl
  rw [hgoOn]
  cases hresult : r.result with
  | error e =>
    rw [Reading.andThen_of_error hresult]
    exact ⟨h.passed_le, herror e hresult⟩
  | ok a =>
    rw [Reading.andThen_of_ok hresult]
    have hsecond := hok a hresult
    have hle := hsecond.passed_le
    rw [h.stream_after, TokenStream.length_drop] at hle
    have hpassed := h.passed_le
    refine ⟨by dsimp only; omega, ?_⟩
    rw [Parser.after_add]
    exact hsecond.run

theorem bind {first : Parsing α} {second : α → Parsing β} {next : α → Nat → Reading β}
    (h : Reads p (first p) r)
    (hok : ∀ a, r.result = .ok a →
      Reads (p.after r.passed) (second a (p.after r.passed)) (next a r.passed)) :
    Reads p ((first >>= second) p) (r.andThen next) :=
  h.andThen (fun _ _ => rfl) hok

theorem map (f : α → β) (h : Reads p outcome r) :
    Reads p (do
      let (result, behind) ← outcome
      return (result.map f, behind)) (r.map f) := by
  rw [h.run]
  exact ⟨h.passed_le, rfl⟩

theorem bind_pure {act : Parsing α} (f : α → β) (h : Reads p (act p) r) :
    Reads p ((act >>= fun a => pure (f a)) p) (r.map f) where
  passed_le := h.passed_le
  run := by
    change Option.bind (act p) _ = _
    rw [h.run]
    cases hresult : r.result <;> simp [Reading.map, hresult] <;> rfl

theorem noting {notes : List Note} (h : Reads p outcome r) : Reads p outcome (r.noting notes) :=
  ⟨h.passed_le, h.run⟩

end Reads

/-! ## Constraints -/

namespace Parser

variable {p : Parser} {field : String} {op : Comparison}

/-- An act that first looks at the parser is told where the parser is. -/
private theorem get_bind {α : Type} (act : Parser → Parsing α) (p : Parser) :
    (get >>= act) p = act p p := rfl

private theorem pass_bind {α : Type} (act : Unit → Parsing α) (p : Parser) :
    (pass >>= act) p = act () p.advance := rfl

theorem reads_value (p : Parser) : Reads p (value field p) (readValue field p.stream) := by
  unfold readValue
  rw [value, get_bind, p.stream_current, ← p.errorOr_eq]
  cases hkind : p.current.kind with
  | literal cls =>
    dsimp only
    cases literalValue field cls p.current with
    | ok value => exact .afterCurrent (Token.isTerminal_of_kind hkind rfl) (.accept value)
    | error e => exact .refuse e
  | _ => exact .refuse _

theorem reads_orderable (p : Parser) :
    Reads p (orderable field op p) (readOrderable field op p.stream) := by
  unfold readOrderable
  rw [orderable]
  refine (reads_value p).bind fun value _ => ?_
  split
  case isTrue hordered => exact .accept value
  case isFalse hordered => exact .refuse _

theorem reads_values (p : Parser) :
    Reads p (values field op p) (readValues field op p.stream) := by
  induction hlen : p.stream.length using Nat.strongRecOn generalizing p with
  | ind n ih =>
    rw [values, readValues]
    refine (reads_orderable p).andThen (fun _ _ => rfl) fun value _ => ?_
    have hlength : (p.after (readOrderable field op p.stream).passed).stream.length ≤ n :=
      hlen ▸ (reads_orderable p).length_after
    dsimp only
    rw [← (reads_orderable p).stream_after]
    generalize p.after (readOrderable field op p.stream).passed = q at hlength ⊢
    rw [q.stream_current, ← q.errorOr_eq]
    cases hkind : q.current.kind with
    | closing => exact .afterCurrent (Token.isTerminal_of_kind hkind rfl) (.accept [value])
    | connective joint =>
      cases joint with
      | and => exact .refuse _
      | or =>
        have hopen := Token.isTerminal_of_kind hkind rfl
        have hshorter := Nat.lt_of_lt_of_le (length_advance_lt hopen) hlength
        rw [← stream_advance hopen]
        exact .afterCurrent hopen (.map (value :: ·) (ih _ hshorter q.advance rfl))
    | _ => exact .refuse _

theorem reads_list (p : Parser) : Reads p (list field op p) (readList field op p.stream) := by
  unfold readList
  rw [list, get_bind, p.stream_current, ← p.errorOr_eq]
  split
  case isTrue hkind =>
    have hopen := Token.isTerminal_of_kind hkind rfl
    rw [← stream_advance hopen, p.advance.stream_current, pass_bind, get_bind]
    refine .afterCurrent hopen ?_
    split
    case isTrue hclosing => exact .refuse _
    case isFalse hclosing => exact reads_values p.advance
  case isFalse hkind => exact .refuse _

theorem reads_argument (p : Parser) :
    Reads p (argument field op p) (readArgument field op p.stream) := by
  unfold argument readArgument
  split
  case isTrue hmember => exact .bind_pure Argument.list (reads_list p)
  case isFalse hmember =>
    split
    case isTrue hequal => exact .bind_pure Argument.one (reads_value p)
    case isFalse hequal => exact .bind_pure Argument.one (reads_orderable p)

theorem reads_constraint (hopen : p.current.isTerminal = false) :
    Reads p (constraint p) (readConstraint p.stream) := by
  unfold readConstraint readComparison
  rw [constraint, get_bind, pass_bind, get_bind, ← stream_advance hopen, p.advance.stream_current,
    ← p.advance.errorOr_eq, p.stream_current]
  refine .afterCurrent hopen ?_
  cases hkind : p.advance.current.kind with
  | comparison op =>
    have hopen := Token.isTerminal_of_kind hkind rfl
    dsimp only
    rw [pass_bind, ← stream_advance hopen]
    exact .afterCurrent hopen
      (.bind_pure (Filter.constraint p.current.literal op) (reads_argument p.advance.advance))
  | _ => exact .refuse _

/-! ## Expressions -/

private theorem reads_closing (opening : Nat) (inner : Filter) (p : Parser) :
    Reads p (do
      let (result, behind) ← closing opening p
      return (result.map fun _ => inner, behind)) (readClosing opening inner p.stream) := by
  rw [closing, get_bind, readClosing, p.stream_current, ← p.errorOr_eq]
  split
  case isTrue hkind => exact .afterCurrent (Token.isTerminal_of_kind hkind rfl) (.accept inner)
  case isFalse hkind => exact .refuse _

/-- A group is left whatever its inner expression has come to. -/
private theorem reads_group {outcome : Option (Outcome Filter)} {r : Reading Filter}
    {goOn : Outcome Filter → Option (Outcome Filter)} {next : Filter → Nat → Reading Filter}
    (h : Reads p.enter outcome r)
    (herror : ∀ e inside, goOn (.error e, inside) = some (.error e, inside.leave))
    (hok : ∀ inner, r.result = .ok inner →
      Reads (p.after r.passed) (goOn (.ok inner, p.enter.after r.passed)) (next inner r.passed)) :
    Reads p (outcome >>= goOn) (r.andThen next) := by
  have hleft : Reads p (some (r.result, p.after r.passed)) r := ⟨h.passed_le, rfl⟩
  have hgroup : Reads p (some (r.result, p.after r.passed) >>= fun outcome =>
      goOn (outcome.1, p.enter.after r.passed)) (r.andThen next) :=
    hleft.andThen (fun e _ => by rw [herror, p.leave_after_enter]) hok
  rw [h.run]
  exact hgroup

private theorem readsAlong :
    HoldsAlong
      (fun depth s r => ∀ p : Parser, p.depth = depth → p.stream = s → Reads p (operand p) r)
      (fun depth floor left s r =>
        ∀ p : Parser, p.depth = depth → p.stream = s → Reads p (operands floor left p) r)
      (fun depth floor s r =>
        ∀ p : Parser, p.depth = depth → p.stream = s → Reads p (expression floor p) r) where
  tooDeep := by
    rintro _ _ hkind hfull p rfl rfl
    rw [p.stream_current] at hkind ⊢
    rw [operand, hkind]
    dsimp only
    rw [if_pos hfull]
    exact .refuse _
  group := by
    rintro _ _ hkind hdepth inner p rfl rfl
    rw [p.stream_current] at hkind ⊢
    have hopen := Token.isTerminal_of_kind hkind rfl
    rw [← stream_advance hopen] at inner ⊢
    have hinner := inner p.advance.enter rfl rfl
    rw [operand, hkind]
    dsimp only
    rw [if_neg (Nat.not_le_of_lt hdepth)]
    refine .afterCurrent hopen (reads_group hinner (fun _ _ => rfl) fun inside _ => ?_)
    dsimp only
    rw [p.advance.leave_after_enter, ← stream_after (p := p.advance) hinner.passed_le]
    exact reads_closing p.current.offset inside _
  field := by
    rintro _ _ hkind p rfl rfl
    rw [p.stream_current] at hkind
    rw [operand, hkind]
    exact reads_constraint (Token.isTerminal_of_kind hkind rfl)
  misplaced := by
    rintro _ _ hopening hfield p rfl rfl
    rw [p.stream_current] at hopening hfield ⊢
    rw [← p.errorOr_eq]
    unfold operand
    split
    case h_1 hkind => exact absurd hkind hopening
    case h_2 hkind => exact absurd hkind hfield
    case h_3 => exact .refuse _
  goOn := by
    rintro _ floor left _ op hkind hfloor right rest p rfl rfl
    rw [p.stream_current] at hkind
    have hopen := Token.isTerminal_of_kind hkind rfl
    rw [← stream_advance hopen] at right rest ⊢
    have hright := right p.advance rfl rfl
    rw [operands, hkind]
    dsimp only
    rw [if_pos hfloor]
    refine .afterCurrent hopen (hright.andThen (fun _ _ => rfl) fun filter _ => .noting ?_)
    exact rest filter _ _ (p.advance.depth_after _) hright.stream_after
  stop := by
    rintro _ floor left _ hstops p rfl rfl
    rw [TokenStream.StopsAt, p.stream_current] at hstops
    unfold operands
    split
    case h_1 op hkind =>
      rw [if_neg (hstops op hkind)]
      exact .accept left
    case h_2 => exact .accept left
  join := by
    rintro _ floor _ first rest p rfl rfl
    have hoperand := first p rfl rfl
    rw [expression]
    refine hoperand.andThen (fun _ _ => rfl) fun left _ => ?_
    exact rest left _ _ (p.depth_after _) hoperand.stream_after

/-! ## What a parser reads -/

theorem reads_operand (p : Parser) : Reads p (operand p) (readOperand p.depth p.stream) :=
  readsAlong.readOperand _ _ p rfl rfl

/-- A parser reads expressions from its tokens, inside of the groups that are open. -/
theorem reads_expression (floor : Precedence) (p : Parser) :
    Reads p (expression floor p) (readExpression p.depth floor p.stream) :=
  readsAlong.readExpression _ _ _ p rfl rfl

theorem reads_query (hdepth : p.depth = 0) : Reads p (query p) (readQuery p.stream) := by
  have hexpression := reads_expression .lowest p
  rw [hdepth] at hexpression
  unfold readQuery
  rw [query]
  refine hexpression.bind fun filter _ => ?_
  rw [get_bind]
  dsimp only
  rw [← hexpression.stream_after, stream_current, ← errorOr_eq]
  split
  case isTrue hend => exact .accept filter
  case isFalse hend => exact .refuse _

end Parser

theorem Request.reads_act {p : Parser} (request : Request) (hdepth : p.depth = 0) :
    Reads p (request.act p) (request.read p.stream) := by
  cases request with
  | query => exact Parser.reads_query hdepth
  | expression floor =>
    have hexpression := Parser.reads_expression floor p
    rwa [hdepth] at hexpression

end FilterQuery
