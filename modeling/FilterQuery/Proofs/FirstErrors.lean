import FilterQuery.Proofs.GrammarReading
import FilterQuery.Proofs.WrittenFilters

/-!
# First errors

A query is refused at one token.  The tokens up to that one settle the error, whatever comes after
them, and the tokens before it can still be completed to a query that is read: every state of a
stepwise reading expects something that can be written down, and open groups can be closed.
-/

namespace FilterQuery

open ReadingState

/-! ## Completions -/

def Expectation.completion : Expectation → List Char
  | operand => 'a' :: '=' :: '=' :: ['1']
  | comparison _ => '=' :: '=' :: ['1']
  | argument _ op => if op.isMembership then '(' :: '1' :: [')'] else ['1']
  | firstValue .. | nextValue .. => '1' :: [')']
  | separator .. => [')']
  | joint _ => []

/-- A text that brings a reading to its end: one that meets the expectation, and a parenthesis for
each open group. -/
def ReadingState.completion (state : ReadingState) : List Char :=
  state.expected.completion ++ List.replicate state.groups.length ')'

/-- Whether a text is scanned as tokens that take any reading from an expectation to the end of a
conjunction. -/
private def Completes (expected : Expectation) (text : List Char) : Prop :=
  ∀ offset, ∃ tokens, ScansAs Ends offset text tokens ∧
    ∀ limit groups pending, ∃ pending' last,
      after limit ⟨groups, pending, expected⟩ tokens = .ok ⟨groups, pending', .joint last⟩

section Completions

variable {expected expected' : Expectation} {text text' : List Char} {field : String}
  {op : Comparison} {values : List Value}

/-- Whether a text is scanned as a token that takes any reading to another expectation. -/
private def LeadsTo (follows : List Char → Prop) (expected : Expectation) (text : List Char)
    (expected' : Expectation) : Prop :=
  ∀ offset, ∃ token : Token, ScansAs follows offset text [token] ∧
    ∀ limit groups pending, step limit ⟨groups, pending, expected⟩ token =
      .ok ⟨groups, pending, expected'⟩

private theorem LeadsTo.completes {follows : List Char → Prop}
    (h : LeadsTo follows expected text expected') (h' : Completes expected' text')
    (hfollows : ∀ tail, Ends tail → follows (text' ++ tail)) :
    Completes expected (text ++ text') := by
  intro offset
  obtain ⟨token, hscans, hstep⟩ := h offset
  obtain ⟨tokens, hscans', hafter⟩ := h' (offset + byteLength text)
  refine ⟨[token] ++ tokens, hscans.append hscans' hfollows, fun limit groups pending => ?_⟩
  rw [List.singleton_append, after_cons (hstep limit groups pending)]
  exact hafter limit groups pending

private theorem exists_one (offset : Nat) :
    ∃ literal : ValuedLiteral, literal.value = .integer 1 ∧ literal.cls.isOrdered = true ∧
      ScansAs Ends offset ['1'] [literal.token] := by
  have hone : (Value.integer 1).IsWritable := trivial
  have htext : (Value.integer 1).queryText.toList = ['1'] := by decide
  have hliteral := hone.exists_literal offset
  rwa [htext] at hliteral

private theorem completes_joint {filter : Filter} : Completes (.joint filter) [] := by
  intro offset
  exact ⟨[], fun tail _ => .done, fun _ _ pending => ⟨pending, filter, rfl⟩⟩

private theorem completes_separator : Completes (.separator field op values) [')'] := by
  intro offset
  refine ⟨_, fun tail _ => scansAs_closing offset tail trivial, fun limit groups pending => ?_⟩
  rw [after_singleton, step_list_closing rfl]
  exact ⟨_, _, rfl⟩

private theorem completes_nextValue : Completes (.nextValue field op values) ('1' :: [')']) := by
  have hone : LeadsTo Ends (.nextValue field op values) ['1']
      (.separator field op (values ++ [.integer 1])) := by
    intro offset
    obtain ⟨literal, hvalue, hordered, hscans⟩ := exists_one offset
    refine ⟨literal.token, hscans, fun limit groups pending => ?_⟩
    rw [step_next_value literal.kind_token, literal.orderedValue_token hordered, hvalue]
    rfl
  exact hone.completes completes_separator fun _ _ => ends_cons rfl _

private theorem completes_firstValue : Completes (.firstValue field op) ('1' :: [')']) := by
  have hone : LeadsTo Ends (.firstValue field op) ['1']
      (.separator field op [.integer 1]) := by
    intro offset
    obtain ⟨literal, hvalue, hordered, hscans⟩ := exists_one offset
    refine ⟨literal.token, hscans, fun limit groups pending => ?_⟩
    rw [step_first_value literal.kind_token, literal.orderedValue_token hordered, hvalue]
    rfl
  exact hone.completes completes_separator fun _ _ => ends_cons rfl _

private theorem completes_argument : Completes (.argument field op)
    (if op.isMembership then '(' :: '1' :: [')'] else ['1']) := by
  split
  case isTrue hmember =>
    have hopening : LeadsTo (fun _ => True) (.argument field op) ['('] (.firstValue field op) := by
      intro offset
      exact ⟨_, scansAs_opening offset, fun limit groups pending => step_list_opening rfl hmember⟩
    exact hopening.completes completes_firstValue fun _ _ => trivial
  case isFalse hmember =>
    have hmember : op.isMembership = false := by simpa using hmember
    intro offset
    obtain ⟨literal, hvalue, hordered, hscans⟩ := exists_one offset
    refine ⟨[literal.token], hscans, fun limit groups pending => ?_⟩
    rw [after_singleton]
    by_cases hequal : op.isEquality = true
    · rw [step_any_value literal.kind_token hmember hequal, literal.literalValue_token]
      exact ⟨_, _, rfl⟩
    · rw [step_ordered_value literal.kind_token hmember (by simpa using hequal),
        literal.orderedValue_token hordered]
      exact ⟨_, _, rfl⟩

private theorem completes_comparison : Completes (.comparison field) ('=' :: '=' :: ['1']) := by
  have hsign : LeadsTo (fun _ => True) (.comparison field) ['=', '='] (.argument field .equal) := by
    intro offset
    exact ⟨_, scansAs_symbol .equal offset, fun limit groups pending => step_comparison rfl⟩
  exact hsign.completes completes_argument fun _ _ => trivial

private theorem completes_operand : Completes .operand ('a' :: '=' :: '=' :: ['1']) := by
  have hclassify : classify "a".toList = .identifier := by decide
  have hfield : LeadsTo Ends .operand ['a'] (.comparison "a") := by
    intro offset
    exact ⟨_, scansAs_field hclassify offset, fun limit groups pending => step_field rfl⟩
  exact hfield.completes completes_comparison fun _ _ => ends_cons rfl _

private theorem completes_completion (expected : Expectation) :
    Completes expected expected.completion := by
  cases expected with
  | operand => exact completes_operand
  | comparison => exact completes_comparison
  | argument => exact completes_argument
  | firstValue => exact completes_firstValue
  | nextValue => exact completes_nextValue
  | separator => exact completes_separator
  | joint => exact completes_joint

end Completions

private theorem ends_closings (n : Nat) {tail : List Char} (h : Ends tail) :
    Ends (List.replicate n ')' ++ tail) := by
  cases n with
  | zero => exact h
  | succ n => exact ends_cons rfl _

private theorem exists_closings (groups : List (Nat × Pending)) (offset : Nat) :
    ∃ tokens, ScansAs Ends offset (List.replicate groups.length ')') tokens ∧
      ∀ limit pending last, ∃ next filter,
        after limit ⟨groups, pending, .joint last⟩ tokens = .ok next ∧ next.Finishes filter := by
  induction groups generalizing offset with
  | nil => exact ⟨[], fun tail _ => .done, fun _ _ last => ⟨_, _, rfl, rfl, last, rfl, rfl⟩⟩
  | cons group groups ih =>
    obtain ⟨opening, outside⟩ := group
    obtain ⟨tokens, hscans, hafter⟩ := ih (offset + byteLength [')'])
    refine ⟨_, (scansAs_closing offset).append hscans fun _ _ => trivial, fun limit pending last => ?_⟩
    rw [List.singleton_append, after_cons (step_closing rfl)]
    exact hafter limit _ _

theorem exists_completion (limit : Nat) (state : ReadingState) (offset : Nat) :
    ∃ tokens, ScansAs Ends offset state.completion tokens ∧
      ∃ next filter, state.after limit tokens = .ok next ∧ next.Finishes filter := by
  obtain ⟨groups, pending, expected⟩ := state
  obtain ⟨tokens, hscans, hafter⟩ := completes_completion expected offset
  obtain ⟨closings, hscans', hafter'⟩ :=
    exists_closings groups (offset + byteLength expected.completion)
  obtain ⟨pending', last, hjoint⟩ := hafter limit groups pending
  refine ⟨tokens ++ closings, hscans.append hscans' fun _ => ends_closings _, ?_⟩
  rw [after_append hjoint]
  exact hafter' limit pending' last

/-! ## Completed queries -/

private theorem IsLexeme.borders {kind : TokenKind} {literal tail : List Char}
    (h : IsLexeme kind literal) (hrun : ∀ cls, kind = .literal cls → Ends tail)
    (hangle : ∀ op, kind = .comparison op → tail.head? ≠ some '=') :
    Borders kind literal tail := by
  cases h with
  | bare run => exact borders_of_ends run (hrun _ rfl)
  | less => exact ⟨by simp, fun _ => hangle _ rfl⟩
  | greater => exact ⟨by simp, fun _ => hangle _ rfl⟩
  | word op => exact borders_of_ne (by simp) (by simp) (by simp) tail
  | connective op => exact borders_of_ne (by simp) (by cases op <;> decide) (by cases op <;> decide) tail
  | _ => exact borders_of_ne (by simp) (by simp) (by simp) tail

private theorem borders_completion {limit : Nat} {state next : ReadingState} {token : Token}
    (h : state.Takes limit token next) (hlex : IsLexeme token.kind token.literal.toList) :
    Borders token.kind token.literal.toList next.completion := by
  have hends : Ends (List.replicate next.groups.length ')') := by
    have hnil : Ends [] := by simp [Ends]
    simpa using ends_closings next.groups.length hnil
  apply hlex.borders
  · intro cls hcls
    cases h with
    | field | value | firstValue | nextValue => first | exact ends_cons rfl _ | exact hends
    | opening hkind | comparison hkind | listOpening hkind | separator hkind | listClosing hkind
    | and hkind | or hkind | closing hkind | endOfInput hkind => simp [hkind] at hcls
  · intro op hop
    cases h with
    | comparison hkind =>
      simp only [ReadingState.completion, Expectation.completion]
      split <;> simp
    | opening hkind | field hkind | value hkind | firstValue hkind | nextValue hkind
    | listOpening hkind | separator hkind | listClosing hkind | and hkind | or hkind
    | closing hkind | endOfInput hkind => simp [hkind] at hop

/-- Tokens at the beginning of a query that a reading takes in are completed to a query that is
read. -/
theorem exists_parse_of_after {query : String} {front back : List Token} {last : Token}
    {state : ReadingState} (h : tokenize query = front ++ back ++ [last])
    (hafter : start.after maxNesting front = .ok state) :
    ∃ query' filter rest, tokenize query' = front ++ rest ∧ parse query' = .ok filter := by
  obtain ⟨tokens, offset, text, last', hscans, -, -, hlist⟩ := exists_scans 0 query.toList
  have heq : front ++ back ++ [last] = tokens ++ [last'] := h.symm.trans hlist
  obtain ⟨rfl, -⟩ := List.append_inj' heq rfl
  obtain ⟨middle, text', hfront, -⟩ := hscans.split
  obtain ⟨cut, hcut⟩ := hfront.exists_front
  have hborders : ∀ token ∈ front.getLast?,
      Borders token.kind token.literal.toList state.completion := by
    intro token htoken
    obtain ⟨before, rfl⟩ := List.getLast?_eq_some_iff.mp htoken
    obtain ⟨previous, -, hstep⟩ := exists_after_of_append hafter
    rw [after_singleton] at hstep
    exact borders_completion (takes_of_step hstep) (hfront.isLexeme token (by simp))
  obtain ⟨completion, hcompletion, next, filter, hnext, hfinish⟩ :=
    exists_completion maxNesting state (0 + byteLength cut)
  have hall := (hcut _ hborders).append
    (by have hend := hcompletion [] (by simp [Ends]); rwa [List.append_nil] at hend)
  rw [← String.toList_ofList (l := cut ++ state.completion)] at hall
  let last : Token := ⟨.endOfInput, "", 0 + byteLength cut + byteLength state.completion⟩
  have htokenize : tokenize (String.ofList (cut ++ state.completion)) =
      front ++ (completion ++ [last]) := by
    rw [hall.tokenize_eq, List.append_assoc]
  refine ⟨String.ofList (cut ++ state.completion), filter, completion ++ [last], htokenize, ?_⟩
  rw [parse_eq_ok_iff, htokenize]
  refine ⟨next, ?_, hfinish⟩
  rw [after_append hafter, after_append hnext, after_singleton]
  exact hfinish.step_end rfl maxNesting

/-! ## The refused token -/

/-- What an error tells about the refused token and about the tokens before it. -/
structure ParseError.Blames (e : ParseError) (before : List Token) (token : Token) : Prop where
  carried : ∀ carried, e.token? = some carried → carried = token
  emptyList : ∀ field, e = .emptyList field → token.kind = .closing ∧
    ∃ front op, ∃ name sign opening : Token, before = front ++ [name, sign, opening] ∧
      name.kind = .literal .identifier ∧ name.literal = field ∧ sign.kind = .comparison op ∧
      op.isMembership = true ∧ opening.kind = .opening
  unordered : ∀ field op value, e = .unorderedArgument field op value →
    ∃ cls, token.kind = .literal cls ∧ LiteralValue token.literal cls value ∧
      value.isOrderable = false

theorem ParseError.Blames.of_token? {e : ParseError} {before : List Token} {token : Token}
    (h : e.token? = some token) : e.Blames before token where
  carried := by
    intro carried hcarried
    rw [h] at hcarried
    exact (Option.some.inj hcarried).symm
  emptyList := by
    rintro field rfl
    cases h
  unordered := by
    rintro field op value rfl
    cases h

private theorem token?_refusal (state : ReadingState) (token : Token) :
    (state.refusal token).token? = some token := by
  generalize hrefusal : state.refusal token = e
  cases misplaces_of_refusal hrefusal <;> rfl

private theorem exists_list_opening {limit : Nat} {tokens : List Token} {state : ReadingState}
    {field : String} {op : Comparison} (h : Spelled limit tokens state)
    (hexpected : state.expected = .firstValue field op) :
    ∃ front, ∃ name sign opening : Token, tokens = front ++ [name, sign, opening] ∧
      name.kind = .literal .identifier ∧ name.literal = field ∧ sign.kind = .comparison op ∧
      op.isMembership = true ∧ opening.kind = .opening := by
  obtain ⟨⟨outer, inner, latest, rfl, -, -, hlatest⟩, -⟩ := h
  rw [hexpected] at hlatest
  cases hlatest with
  | firstValue name sign opening op hmember =>
    exact ⟨outer ++ inner, _, _, _, rfl, rfl, rfl, rfl, hmember, rfl⟩

theorem blames_of_refused {limit : Nat} {tokens : List Token} {state : ReadingState}
    {token : Token} {e : ParseError} (h : Spelled limit tokens state)
    (hstep : state.step limit token = .error e) : e.Blames tokens token := by
  cases refuses_of_step hstep with
  | misplaced => exact .of_token? (token?_refusal state token)
  | tooDeep => exact .of_token? rfl
  | emptyList hkind hexpected =>
    refine ⟨fun carried hcarried => ?_, fun field he => ?_, fun field op value he => ?_⟩
    · cases hcarried
    · cases he
      obtain ⟨front, name, sign, opening, hlist⟩ := exists_list_opening h hexpected
      exact ⟨hkind, front, _, name, sign, opening, hlist⟩
    · cases he
  | unreadable _ _ hfault => exact .of_token? (token?_literalValue hfault)
  | unordered hkind hexpected hvalue hordered =>
    refine ⟨fun carried hcarried => ?_, fun field he => ?_, fun field op value he => ?_⟩
    · cases hcarried
    · cases he
    · cases he
      exact ⟨_, hkind, literalValue_eq_ok_iff.mp hvalue, hordered⟩

/-- A query that is refused is refused by the state behind some of its tokens, at a token with which
no query is read, while without it some query is. -/
theorem exists_refusal {query : String} {e : ParseError} (h : parse query = .error e) :
    ∃ i, ∃ hi : i < (tokenize query).length, ∃ state,
      start.after maxNesting ((tokenize query).take i) = .ok state ∧
      state.step maxNesting (tokenize query)[i] = .error e ∧
      Spelled maxNesting ((tokenize query).take i) state ∧
      (∀ query', (tokenize query').take (i + 1) = (tokenize query).take (i + 1) →
        parse query' = .error e) ∧
      ∃ query' filter, (tokenize query').take i = (tokenize query).take i ∧
        parse query' = .ok filter := by
  obtain ⟨i, hi, state, hafter, hrefused⟩ :=
    exists_refused_of_after_eq_error (parse_eq_error_iff.mp h)
  obtain ⟨tokens, offset, rest, last, hscans, -, hopen, hlist⟩ := exists_scans 0 query.toList
  have htokens : tokenize query = tokens ++ [last] := hlist
  have hle : i ≤ tokens.length := by
    rw [htokens, List.length_append, List.length_singleton] at hi
    omega
  have hfront : (tokenize query).take i = tokens.take i := by
    rw [htokens, List.take_append_of_le_length hle]
  refine ⟨i, hi, state, hafter, hrefused, ?_, ?_, ?_⟩
  · rw [hfront] at hafter ⊢
    exact Spelled.start.after hafter fun token hmem => hopen token (List.mem_of_mem_take hmem)
  · intro query' hsame
    have hcut : start.after maxNesting ((tokenize query).take (i + 1)) = .error e := by
      rw [List.take_succ_eq_append_getElem hi, after_concat hafter, hrefused]
    rw [parse_eq_error_iff, ← List.take_append_drop (i + 1) (tokenize query'), hsame]
    exact after_append_of_error hcut _
  · have hsplit : tokenize query = tokens.take i ++ tokens.drop i ++ [last] := by
      rw [List.take_append_drop, htokens]
    rw [hfront] at hafter ⊢
    obtain ⟨query', filter, rest', htokenize, hparse⟩ := exists_parse_of_after hsplit hafter
    refine ⟨query', filter, ?_, hparse⟩
    have hlength : (tokens.take i).length = i := List.length_take_of_le hle
    rw [htokenize, List.take_append_of_le_length (Nat.le_of_eq hlength.symm),
      List.take_of_length_le (Nat.le_of_eq hlength)]

/-- A query that is refused is refused at a token which alone is to blame: with it no query is
read, without it some query is. -/
theorem exists_refused_token {query : String} {e : ParseError} (h : parse query = .error e) :
    ∃ i, ∃ hi : i < (tokenize query).length,
      (∀ query', (tokenize query').take (i + 1) = (tokenize query).take (i + 1) →
        parse query' = .error e) ∧
      (∃ query' filter, (tokenize query').take i = (tokenize query).take i ∧
        parse query' = .ok filter) ∧
      e.Blames ((tokenize query).take i) (tokenize query)[i] := by
  obtain ⟨i, hi, state, -, hrefused, hspelled, hsettled, hviable⟩ := exists_refusal h
  exact ⟨i, hi, hsettled, hviable, blames_of_refused hspelled hrefused⟩

theorem exists_refused_token_empty_list :
    parse "a=in=()" = .error (.emptyList "a") ∧
      ∃ i, ∃ hi : i < (tokenize "a=in=()").length,
        (∀ query', (tokenize query').take (i + 1) = (tokenize "a=in=()").take (i + 1) →
          parse query' = .error (.emptyList "a")) ∧
        (∃ query' filter, (tokenize query').take i = (tokenize "a=in=()").take i ∧
          parse query' = .ok filter) ∧
        (ParseError.emptyList "a").Blames ((tokenize "a=in=()").take i) (tokenize "a=in=()")[i] := by
  have hclassify : classify "a".toList = .identifier := by decide
  have hlist := (scansAs_symbol .within 1).append
    ((scansAs_opening 5).append (scansAs_closing 6) fun _ _ => trivial) fun _ _ => trivial
  have hscans := (scansAs_field hclassify 0).append hlist (fun _ _ => ends_cons rfl _) [] trivial
  have htokens : tokenize "a=in=()" = _ := Scans.tokenize_eq hscans
  have h : parse "a=in=()" = .error (.emptyList "a") := by
    rw [parse_eq_error_iff, htokens]
    refine (after_cons (step_field rfl) _).trans ?_
    refine (after_cons (step_comparison rfl) _).trans ?_
    refine (after_cons (step_list_opening rfl rfl) _).trans ?_
    exact after_cons_of_error (step_empty_list rfl) _
  exact ⟨h, exists_refused_token h⟩

end FilterQuery
