import FilterQuery.Proofs.CanonicalRoundTrip
import FilterQuery.Proofs.PrintedFilters
import FilterQuery.Proofs.RelabeledTokens
import FilterQuery.Proofs.TokenTilings

/-!
# Joined queries

Queries can be put together.  Behind a query that is read and a mark of punctuation, the tokens of
another query are the same, only further behind.  With a comma between them, two queries are read as
the disjunction of what they are read as; with a semicolon between them and parentheses around
them, as the conjunction.  Behind a query that is read, the other one is refused with its own error.
-/

namespace FilterQuery

section Tokens

variable {offset offset' : Nat} {text rest : List Char} {tokens : List Token} {last : Token}
  {kind : TokenKind} {c : Char}

private theorem Scans.add_byteLength (h : Scans offset text tokens offset' rest) :
    offset' + byteLength rest = offset + byteLength text := by
  induction h with
  | done => rfl
  | next _ _ _ _ ih =>
    rw [ih, byteLength_append, byteLength_append]
    omega

/-- A text that does not stop at a malformed operator runs to its end. -/
private theorem Stops.eq_endOfInput (h : Stops offset text last) (hvalid : last.kind ≠ .malformed) :
    last = ⟨.endOfInput, "", offset + byteLength text⟩ := by
  cases h with
  | ended => rfl
  | malformed => exact absurd rfl hvalid

/-- A text that runs to its end is scanned in the same way in front of a mark, and the mark is
scanned where the text ends. -/
theorem scansAs_append_mark (htokens : (scanFrom offset text).toList = tokens ++ [last])
    (hend : last.kind = .endOfInput) (mark : IsMark kind c) :
    ScansAs (fun _ => True) offset (text ++ [c])
      (tokens ++ [⟨kind, String.ofList [c], offset + byteLength text⟩]) := by
  obtain ⟨tokens', offset', rest, last', hscans, hstop, -, hlist⟩ := exists_scans offset text
  rw [hlist] at htokens
  obtain ⟨rfl, hlast⟩ := List.append_inj' htokens rfl
  cases hlast
  intro tail _
  have hmore : ∀ d ∈ ((c :: tail).dropWhile isBlank).head?, isReserved d = true := by
    rw [List.dropWhile_cons_of_neg (by simp [isBlank_of_isReserved mark.isReserved])]
    exact ends_cons mark.isReserved tail
  have hfront := hscans.append_text hmore (by simp [mark.ne_equals])
  have hplace := hscans.add_byteLength
  cases hstop with
  | malformed => cases hend
  | ended hblanks =>
    have hmark : Scans offset' (rest ++ ([c] ++ tail)) _ _ tail :=
      .next hblanks mark.isLexeme (mark.borders tail) .done
    have hscans' := hfront.append hmark
    rw [hplace] at hscans'
    rw [List.append_assoc, byteLength_append, ← Nat.add_assoc]
    exact hscans'

variable {query : String}

theorem tokenize_join (htokens : tokenize query = tokens ++ [last])
    (hend : last.kind = .endOfInput) (mark : IsMark kind c) (query' : String) :
    tokenize (query ++ String.ofList [c] ++ query') =
      tokens ++ ⟨kind, String.ofList [c], query.utf8ByteSize⟩ ::
        (tokenize query').map (Token.moved (· + (query.utf8ByteSize + 1))) := by
  have hscans := scansAs_append_mark htokens hend mark query'.toList trivial
  have hstop : 0 + byteLength (query.toList ++ [c]) = 0 + (query.utf8ByteSize + 1) := by
    rw [byteLength_append, mark.byteLength, byteLength_toList]
  have htext : (query ++ String.ofList [c] ++ query').toList =
      query.toList ++ [c] ++ query'.toList := by simp
  rw [tokenize, scan, htext, hscans.toList_scanFrom, hstop, toList_scanFrom_add, byteLength_toList,
    Nat.zero_add, List.append_assoc]
  rfl

/-- A query without malformed operators is split off by a mark: in front of the mark its tokens are
the same without the end of input, the mark stands where the query ends, and behind the mark are the
tokens of what follows, further behind by the query and the mark. -/
theorem tokenize_split (hvalid : ∀ token ∈ tokenize query, token.kind ≠ .malformed)
    (mark : IsMark kind c) (query' : String) :
    ∃ tokens, tokenize query = tokens ++ [⟨.endOfInput, "", query.utf8ByteSize⟩] ∧
      tokenize (query ++ String.ofList [c] ++ query') =
        tokens ++ ⟨kind, String.ofList [c], query.utf8ByteSize⟩ ::
          (tokenize query').map (Token.moved (· + (query.utf8ByteSize + 1))) := by
  obtain ⟨tokens, offset, rest, last, hscans, hstop, -, hlist⟩ := exists_scans 0 query.toList
  have htokens : tokenize query = tokens ++ [last] := hlist
  have hlast := hstop.eq_endOfInput (hvalid last (by simp [htokens]))
  have hplace := hscans.add_byteLength
  rw [Nat.zero_add, byteLength_toList] at hplace
  rw [hplace] at hlast
  refine ⟨tokens, by rw [htokens, hlast], ?_⟩
  exact tokenize_join htokens (by rw [hlast]) mark query'

theorem tokenize_split_angle :
    (∀ token ∈ tokenize "é <", token.kind ≠ .malformed) ∧ IsMark .opening '(' ∧
    ∃ tokens, tokenize "é <" = tokens ++ [⟨.endOfInput, "", 4⟩] ∧
      tokenize ("é <" ++ String.ofList ['('] ++ " = =") =
        tokens ++ ⟨.opening, "(", 4⟩ :: [⟨.malformed, "=", 6⟩] := by
  have hvalid : ∀ token ∈ tokenize "é <", token.kind ≠ .malformed := by decide +kernel
  have hbehind : tokenize " = =" = [⟨.malformed, "=", 1⟩] := by decide +kernel
  obtain ⟨tokens, hfront, hsplit⟩ := tokenize_split hvalid .opening " = ="
  rw [hbehind] at hsplit
  exact ⟨hvalid, .opening, tokens, hfront, hsplit⟩

theorem toList_scanFrom_of_tokenize (htokens : tokenize query = tokens ++ [last]) (n : Nat) :
    (scanFrom n query.toList).toList =
      tokens.map (Token.moved (· + n)) ++ [last.moved (· + n)] := by
  have hadd := toList_scanFrom_add 0 n query.toList
  rwa [← scan, ← tokenize, htokens, List.map_append, List.map_singleton, Nat.zero_add] at hadd

theorem scansAs_parenthesized
    (htokens : (scanFrom (offset + byteLength ['(']) text).toList = tokens ++ [last])
    (hend : last.kind = .endOfInput) :
    ScansAs (fun _ => True) offset ('(' :: (text ++ [')']))
      (⟨.opening, "(", offset⟩ ::
        (tokens ++ [⟨.closing, ")", offset + byteLength ['('] + byteLength text⟩])) :=
  (scansAs_opening offset).append (scansAs_append_mark htokens hend .closing) fun _ _ => trivial

end Tokens

/-! ## Derivations -/

section Derivations

variable {budget budget' : Nat} {tokens front back : List Token} {filter left right : Filter}
  {last : Token}

/-- A part of a chain is put behind it. -/
theorem Derives.join (op : Connective) (hleft : Derives op.chainLayer budget front left)
    (hright : Derives op.partLayer budget back right) (joint : Spelling) :
    Derives op.chainLayer budget (front ++ joint.token (.connective op) :: back)
      (left.combine op right) := by
  cases op with
  | and => exact hleft.and hright joint
  | or => exact hleft.or hright joint

/-- A chain is a part, or a shorter chain with a part behind it. -/
@[elab_as_elim]
theorem Derives.chain_induction {op : Connective} {motive : List Token → Filter → Prop}
    (h : Derives op.chainLayer budget tokens filter)
    (part : ∀ {tokens filter}, Derives op.partLayer budget tokens filter → motive tokens filter)
    (join : ∀ {front back left right} (joint : Spelling), motive front left →
      Derives op.partLayer budget back right →
      motive (front ++ joint.token (.connective op) :: back) (left.combine op right)) :
    motive tokens filter := by
  have hall : ∀ {layer : Layer} (d : Derivation layer), d.nesting ≤ budget →
      layer = op.chainLayer → motive d.tokens d.filter := by
    intro layer d hnesting hlayer
    induction d with
    | constraint | group => cases op <;> cases hlayer
    | operand inner =>
      cases op with
      | and => exact part ⟨inner, rfl, hnesting, rfl⟩
      | or => cases hlayer
    | and left semicolon right ihleft =>
      cases op with
      | and =>
        rw [Derivation.nesting, Nat.max_le] at hnesting
        rw [Derivation.filter_and]
        exact join semicolon (ihleft hnesting.1 rfl) ⟨right, rfl, hnesting.2, rfl⟩
      | or => cases hlayer
    | conjunction inner =>
      cases op with
      | and => cases hlayer
      | or => exact part ⟨inner, rfl, hnesting, rfl⟩
    | or left comma right ihleft =>
      cases op with
      | and => cases hlayer
      | or =>
        rw [Derivation.nesting, Nat.max_le] at hnesting
        rw [Derivation.filter_or]
        exact join comma (ihleft hnesting.1 rfl) ⟨right, rfl, hnesting.2, rfl⟩
  obtain ⟨d, rfl, hnesting, rfl⟩ := h
  exact hall d hnesting rfl

/-- A chain may be put behind another one, part by part. -/
theorem Derives.join_chain (op : Connective) (hleft : Derives op.chainLayer budget front left)
    (hright : Derives op.chainLayer budget back right) (joint : Spelling) :
    Derives op.chainLayer budget (front ++ joint.token (.connective op) :: back)
      (left.combine op right) := by
  refine hright.chain_induction (fun hpart => hleft.join op hpart joint) ?_
  intro middle back left' right joint' hmiddle hpart
  have hjoin := hmiddle.join op hpart joint'
  rwa [Filter.combine_assoc, List.append_assoc] at hjoin

theorem Derives.of_groupNesting (h : Derives .disjunction budget tokens filter)
    (hlast : last.kind = .endOfInput) (hnesting : groupNesting (tokens ++ [last]) ≤ budget') :
    Derives .disjunction budget' tokens filter := by
  obtain ⟨d, rfl, -, hfilter⟩ := h
  rw [groupNesting_derivation d last hlast] at hnesting
  exact ⟨d, rfl, hnesting, hfilter⟩

end Derivations

/-! ## Joined queries -/

section Joined

variable {query query' : String} {left right : Filter} {e : ParseError}

private theorem parse_comma (h : parse query = .ok left) (h' : parse query' = .ok right) :
    parse (query ++ "," ++ query') = .ok (left.combine .or right) := by
  obtain ⟨tokens, last, htokens, hend, hderives⟩ := parse_eq_ok_iff_derives.mp h
  obtain ⟨tokens', last', htokens', hend', hderives'⟩ := parse_eq_ok_iff_derives.mp h'
  have hjoined := tokenize_join htokens hend .comma query'
  let r := Relabeling.moved (· + (query.utf8ByteSize + 1))
  refine parse_eq_ok_iff_derives.mpr ⟨_, r.token last', ?_, (r.kind_token last').trans hend',
    hderives.join_chain .or (hderives'.relabel r) ⟨",", query.utf8ByteSize⟩⟩
  rw [htokens', List.map_append, List.map_singleton] at hjoined
  rw [List.append_assoc]
  exact hjoined

private theorem exists_step_connective {state : ReadingState} {filter : Filter} {token : Token}
    {op : Connective} (h : state.Finishes filter) (hop : token.kind = .connective op)
    (limit : Nat) : ∃ pending, state.step limit token = .ok ⟨[], pending, .operand⟩ := by
  obtain ⟨groups, pending, expected⟩ := state
  obtain ⟨rfl, last, rfl, -⟩ := h
  cases op with
  | and => exact ⟨_, ReadingState.step_and hop⟩
  | or => exact ⟨_, ReadingState.step_or hop⟩

private theorem parse_join_of_error {op : Connective} {c : Char} (h : parse query = .ok left)
    (herror : parse query' = .error e) (mark : IsMark (.connective op) c) :
    parse (query ++ String.ofList [c] ++ query') =
      .error (e.relabel (.moved (· + (query.utf8ByteSize + 1)))) := by
  obtain ⟨tokens, last, htokens, hend, d, rfl, hnesting, -⟩ := parse_eq_ok_iff_derives.mp h
  obtain ⟨state, hafter, hfinish⟩ := after_derivation d hnesting
  obtain ⟨pending, hstep⟩ : ∃ pending, state.step maxNesting
      ⟨.connective op, String.ofList [c], query.utf8ByteSize⟩ = .ok ⟨[], pending, .operand⟩ :=
    exists_step_connective hfinish rfl maxNesting
  -- what has been read so far is pending, which makes no difference to an error
  have halike : ReadingState.Alike (.moved (· + (query.utf8ByteSize + 1))) .start
      ⟨[], pending, .operand⟩ := ⟨rfl, .same _⟩
  rw [parse_eq_error_iff, tokenize_join htokens hend mark, ReadingState.after_append hafter,
    ReadingState.after_cons hstep]
  exact halike.after_eq_error (parse_eq_error_iff.mp herror)

private theorem exists_scansAs_group (h : parse query = .ok left)
    (hnesting : groupNesting (tokenize query) ≤ 127) (offset : Nat) :
    ∃ tokens, Derives .operand maxNesting tokens left ∧
      ScansAs (fun _ => True) offset ('(' :: (query.toList ++ [')'])) tokens := by
  obtain ⟨tokens, last, htokens, hend, hderives⟩ := parse_eq_ok_iff_derives.mp h
  let r := Relabeling.moved (· + (offset + byteLength ['(']))
  have hinner := toList_scanFrom_of_tokenize htokens (offset + byteLength ['('])
  rw [htokens] at hnesting
  have hgroup := ((hderives.of_groupNesting hend hnesting).relabel r).group ⟨"(", offset⟩
    ⟨")", offset + byteLength ['('] + byteLength query.toList⟩
  exact ⟨_, hgroup, scansAs_parenthesized hinner ((r.kind_token last).trans hend)⟩

private theorem parse_groups (h : parse query = .ok left) (h' : parse query' = .ok right)
    (hnesting : groupNesting (tokenize query) ≤ 127)
    (hnesting' : groupNesting (tokenize query') ≤ 127) :
    parse ("(" ++ query ++ ");(" ++ query' ++ ")") = .ok (left.combine .and right) := by
  obtain ⟨front, hleft, hfront⟩ := exists_scansAs_group h hnesting 0
  have hmarked := hfront.append (scansAs_mark .semicolon _) fun _ _ => trivial
  obtain ⟨back, hright, hback⟩ := exists_scansAs_group h' hnesting' _
  have hscans := hmarked.append hback (fun _ _ => trivial) [] trivial
  have htext : ("(" ++ query ++ ");(" ++ query' ++ ")").toList =
      '(' :: (query.toList ++ [')']) ++ [';'] ++ '(' :: (query'.toList ++ [')']) ++ [] := by
    simp
  rw [← htext, List.append_assoc] at hscans
  exact parse_eq_ok_iff_derives.mpr ⟨_, _, hscans.tokenize_eq, rfl,
    (hleft.operand.and hright ⟨";", _⟩).conjunction⟩

/-- Reading goes along with putting queries together.  Behind a query that is read, and a comma or
a semicolon, another query comes to the same error that it comes to by itself, with all places
further behind by the bytes in front.  If the other query is read as well, then a comma makes a
disjunction of the two, and a semicolon between the two in parentheses a conjunction. -/
theorem parse_join (h : parse query = .ok left) :
    (∀ right, parse query' = .ok right →
      parse (query ++ "," ++ query') = .ok (left.combine .or right)) ∧
    (∀ e, parse query' = .error e →
      parse (query ++ "," ++ query') =
          .error (e.relabel (.moved (· + (query.utf8ByteSize + 1)))) ∧
        parse (query ++ ";" ++ query') =
          .error (e.relabel (.moved (· + (query.utf8ByteSize + 1))))) ∧
    ∀ right, parse query' = .ok right →
      groupNesting (tokenize query) ≤ 127 → groupNesting (tokenize query') ≤ 127 →
        parse ("(" ++ query ++ ");(" ++ query' ++ ")") = .ok (left.combine .and right) := by
  refine ⟨fun right h' => parse_comma h h', fun e herror => ⟨?_, ?_⟩, ?_⟩
  · exact parse_join_of_error h herror .comma
  · exact parse_join_of_error h herror .semicolon
  · intro right h' hnesting hnesting'
    exact parse_groups h h' hnesting hnesting'

theorem parse_join_constraint : ∃ left right, parse "a==1" = .ok left ∧ parse "b==2" = .ok right ∧
    parse "a==1,b==2" = .ok (left.combine .or right) ∧
    parse "(a==1);(b==2)" = .ok (left.combine .and right) ∧
    parse "b" = .error (.missingComparison "b" ⟨.endOfInput, "", 1⟩) ∧
    parse "a==1,b" = .error (.missingComparison "b" ⟨.endOfInput, "", 6⟩) ∧
    parse "a==1;b" = .error (.missingComparison "b" ⟨.endOfInput, "", 6⟩) := by
  let left := Filter.constraint "a" .equal (.one (.integer 1))
  let right := Filter.constraint "b" .equal (.one (.integer 2))
  have hleft : left.IsCanonical := .constraint (by decide) (Argument.suits_equal 1)
  have hright : right.IsCanonical := .constraint (by decide) (Argument.suits_equal 2)
  have htext : left.queryText = "a==1" := by decide
  have htext' : right.queryText = "b==2" := by decide
  have h : parse "a==1" = .ok left := htext ▸ parse_queryText_of_isCanonical hleft (by decide)
  have h' : parse "b==2" = .ok right := htext' ▸ parse_queryText_of_isCanonical hright (by decide)
  have hnesting : groupNesting (tokenize "a==1") ≤ 127 := by
    rw [← htext, groupNesting_queryText hleft.isPrintable]
    decide
  have hnesting' : groupNesting (tokenize "b==2") ≤ 127 := by
    rw [← htext', groupNesting_queryText hright.isPrintable]
    decide
  have hfield : classify "b".toList = .identifier := by decide
  have htokens : tokenize "b" = _ := Scans.tokenize_eq (scansAs_field hfield 0 [] (by simp [Ends]))
  have herror : parse "b" = .error (.missingComparison "b" ⟨.endOfInput, "", 1⟩) := by
    rw [parse_eq_error_iff, htokens]
    refine (ReadingState.after_cons (ReadingState.step_field rfl) _).trans ?_
    exact ReadingState.after_cons_of_error (ReadingState.step_comparison_refusal (by simp)) _
  have hor := (parse_join h).1 right h'
  have hand := (parse_join h).2.2 right h' hnesting hnesting'
  obtain ⟨hcomma, hsemicolon⟩ := (parse_join h).2.1 _ herror
  exact ⟨left, right, h, h', hor, hand, herror, hcomma, hsemicolon⟩

end Joined

end FilterQuery
