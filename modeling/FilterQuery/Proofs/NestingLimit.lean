import FilterQuery.Proofs.DerivationsRead
import FilterQuery.Proofs.ParserRestarts
import FilterQuery.Proofs.ReadingPlaces

/-!
# The nesting limit

The limit of nesting counts the groups that are open at a place, and nothing else.  What the grammar
derives is read if no place in it lies inside of more groups than are allowed; otherwise it is
refused at the first parenthesis that opens one more.  The parentheses of lists are no groups, and a
group that has been closed is not open any more.  A parser that has been asked for anything before
counts from where the next request begins.
-/

namespace FilterQuery

namespace TokenStream

variable {s : TokenStream} {tokens behind : List Token} {next : Token}

theorem fronts_of_toList (h : s.toList = tokens ++ next :: behind) :
    s.Fronts tokens (s.drop tokens.length) ∧ (s.drop tokens.length).current = next := by
  have hlength : tokens.length ≤ s.ahead.length := by
    have hcount := congrArg List.length h
    simp only [toList, List.length_append, List.length_cons, List.length_nil] at hcount
    omega
  have hsplit := s.toList_eq_take_append tokens.length
  rw [h] at hsplit
  obtain ⟨htokens, hrest⟩ := List.append_inj hsplit (List.length_take_of_le hlength).symm
  obtain ⟨more, hmore⟩ := (s.drop tokens.length).toList_eq_cons
  rw [hmore] at hrest
  have hahead := s.ahead.take_append_drop tokens.length
  rw [← htokens] at hahead
  exact ⟨⟨hahead.symm, rfl⟩, (List.cons.inj hrest).1.symm⟩

end TokenStream

namespace Request

/-- The layer in which a request is derived. -/
def layer : Request → Layer
  | query => .disjunction
  | expression floor => floor.layer

/-- Whether what is asked for may end in front of a token. -/
def EndsAt : Request → Token → Prop
  | query, next => next.kind = .endOfInput
  | expression floor, next => ∀ op, next.kind = .connective op → ¬ floor < op.precedence

variable {request : Request} {s rest : TokenStream} {tokens behind : List Token} {next : Token}

theorem comes_read (d : Derivation request.layer) (hnesting : d.nesting ≤ maxNesting)
    (h : s.Fronts d.tokens rest) (hend : request.EndsAt rest.current) :
    Comes s (request.read s) d.filter rest := by
  have hdepth : 0 + d.nesting ≤ maxNesting := by rwa [Nat.zero_add]
  cases request with
  | expression floor => exact comes_readExpression floor d hdepth h hend
  | query =>
    have hkind : rest.current.kind = .endOfInput := hend
    have hstop : rest.StopsAt .lowest := by
      intro op hop
      rw [hkind] at hop
      cases hop
    have hread : Comes s (readExpression 0 .lowest s) d.filter rest :=
      comes_readExpression .lowest d hdepth h hstop
    change Comes s (readQuery s) d.filter rest
    refine hread.andThen fun n hn => ?_
    dsimp only
    rw [hn, if_pos hkind]
    exact .accept d.filter rest

/-- What is asked for is refused at the first parenthesis that goes too deep, if there is one. -/
theorem exists_read_nestingTooDeep (d : Derivation request.layer) (hdeep : maxNesting < d.nesting)
    (h : s.toList = d.tokens ++ next :: behind) :
    ∃ token, OpensTooDeep maxNesting d.tokens token ∧
      (request.read s).result = .error (.nestingTooDeep token) := by
  obtain ⟨whole, htokens, hnesting⟩ := exists_disjunction d
  rw [← hnesting] at hdeep
  obtain ⟨token, -, -, hafter⟩ := after_derivation_of_deep whole hdeep
  rw [htokens] at hafter
  refine ⟨token, ReadingState.opensTooDeep_of_after hafter, ?_⟩
  have hall : ReadingState.start.after maxNesting s.toList = .error (.nestingTooDeep token) := by
    rw [h]
    exact ReadingState.after_append_of_error hafter _
  cases hresult : (request.read s).result with
  | error e =>
    have herror := (request.follows_read s).after_toList hresult
    rw [hall] at herror
    cases herror
    rfl
  | ok filter =>
    -- what is read of an expression is not shorter than the derivation, so it would go too deep
    exfalso
    cases request with
    | query =>
      obtain ⟨state, hstate, -⟩ := readQuery_eq_ok_iff.mp hresult
      rw [hall] at hstate
      cases hstate
    | expression floor =>
      obtain ⟨⟨read, hread, hshallow, -⟩, hlongest⟩ := longest_readExpression floor s filter hresult
      rw [← hread] at hlongest
      have hwhole : s.toList = read.tokens ++ _ := hread ▸ s.toList_eq_take_append _
      have hfront : d.tokens <+: s.toList := ⟨_, h.symm⟩
      have hlength := hlongest d (hwhole ▸ hfront)
      have hcovered := List.prefix_of_prefix_length_le hfront ⟨_, hwhole.symm⟩ hlength
      have hle := groupNesting_le_of_prefix hcovered
      rw [groupNesting_tokens, groupNesting_tokens] at hle
      omega

end Request

/-- The limit of nesting counts the open groups.  A query that the grammar derives is read if no
more than the allowed number of groups is open anywhere in it, and otherwise refused at the first
parenthesis behind which more are.  So is whatever a parser is asked for, from where the request
begins, no matter what it has been asked before. -/
theorem nesting_counts_open_groups :
    (∀ (query : String) (d : Derivation .disjunction) (last : Token),
      tokenize query = d.tokens ++ [last] → last.kind = .endOfInput →
        groupNesting (tokenize query) = d.nesting ∧
        (groupNesting (tokenize query) ≤ maxNesting → parse query = .ok d.filter) ∧
        (maxNesting < groupNesting (tokenize query) →
          ∃ token, OpensTooDeep maxNesting (tokenize query) token ∧
            parse query = .error (.nestingTooDeep token))) ∧
    ∀ (query : String) (skipped : Nat) (before : List Request) (request : Request),
      ∃ results k,
        (Parser.begun query skipped).serve before = some (results, Parser.begun query k) ∧
        ∀ (d : Derivation request.layer) (next : Token) (behind : List Token),
          ((scan query).drop k).toList = d.tokens ++ next :: behind → request.EndsAt next →
            groupNesting d.tokens = d.nesting ∧
            (groupNesting d.tokens ≤ maxNesting → request.act (Parser.begun query k) =
              some (.ok d.filter, Parser.begun query (k + d.tokens.length))) ∧
            (maxNesting < groupNesting d.tokens →
              ∃ token final, OpensTooDeep maxNesting d.tokens token ∧
                request.act (Parser.begun query k) =
                  some (.error (.nestingTooDeep token), final)) := by
  constructor
  · intro query d last htokens hend
    have hnesting : groupNesting (tokenize query) = d.nesting := by
      rw [htokens, groupNesting_derivation d last hend]
    rw [hnesting]
    refine ⟨rfl, fun hle => ?_, fun hdeep => ?_⟩
    · exact parse_eq_ok_iff_derives.mpr ⟨d.tokens, last, htokens, hend, d, rfl, hle, rfl⟩
    · obtain ⟨token, hopens, hread⟩ :=
        Request.query.exists_read_nestingTooDeep d hdeep htokens
      exact ⟨token, htokens ▸ hopens.append [last], hread⟩
  · intro query skipped before request
    obtain ⟨results, k, hserve⟩ := Parser.exists_serve_begun before query skipped
    refine ⟨results, k, hserve, fun d next behind htokens hend => ?_⟩
    have hact := Parser.act_begun request query k
    rw [groupNesting_tokens]
    refine ⟨rfl, fun hle => ?_, fun hdeep => ?_⟩
    · obtain ⟨hfronts, hnext⟩ := TokenStream.fronts_of_toList htokens
      have hread := request.comes_read d hle hfronts (hnext ▸ hend)
      have hpassed := (Parser.reads_begun request query k).passed_le
      rw [Parser.stream_begun] at hpassed
      rw [hread.result, hread.passed_eq hpassed hfronts] at hact
      exact hact
    · obtain ⟨token, hopens, hread⟩ := request.exists_read_nestingTooDeep d hdeep htokens
      rw [hread] at hact
      exact ⟨token, _, hopens, hact⟩

/-- A text inside some groups of its own. -/
def inGroups : Nat → List Char → List Char
  | 0, text => text
  | n + 1, text => '(' :: (inGroups n text ++ [')'])

theorem Written.inGroups {text : List Char} {filter : Filter} {nesting : Nat}
    (h : Written .disjunction text filter nesting) (n : Nat) :
    Written .disjunction (inGroups n text) filter (nesting + n) := by
  induction n with
  | zero => exact h
  | succ n ih => exact ih.group.operand.conjunction

theorem ends_inGroups (text : List Char) : ∀ {n : Nat}, n ≠ 0 → Ends (inGroups n text)
  | _ + 1, _ => ends_cons rfl _

/-- A list, and two groups side by side. -/
def siblings : List Char := "a=in=(1,2);(b==3);(c==4)".toList

def siblingsFilter : Filter :=
  .combination .and
    [.constraint "a" .within (.list [.integer 1, .integer 2]),
      .constraint "b" .equal (.one (.integer 3)), .constraint "c" .equal (.one (.integer 4))]

theorem written_siblings : Written .disjunction siblings siblingsFilter 1 := by
  have hlist : Written .operand _ (.constraint "a" .within (.list [.integer 1, .integer 2])) 0 :=
    written_constraint (by decide)
      (.list (by decide) (by decide) (by decide) (by simp [Value.IsWritable]))
  have hfirst : Written Connective.and.chainLayer _ _ 0 := hlist.operand
  have hleft : Written .operand _ (.constraint "b" .equal (.one (.integer 3))) 0 :=
    written_constraint (by decide) (Argument.suits_equal 3)
  have hright : Written .operand _ (.constraint "c" .equal (.one (.integer 4))) 0 :=
    written_constraint (by decide) (Argument.suits_equal 4)
  have hfront : Written Connective.and.chainLayer _ _ 1 :=
    hfirst.join hleft.operand.conjunction.group
  have hall : Written Connective.and.chainLayer _ _ 1 :=
    hfront.join hright.operand.conjunction.group
  exact hall.disjunction

/-- An operand inside two groups that is refused for its value, which has no order. -/
def unordered : List Char := "((a=lt=true".toList

def unorderedTokens : List Token :=
  [⟨.opening, "(", 0⟩, ⟨.opening, "(", 1⟩, ⟨.literal .identifier, "a", 2⟩,
    ⟨.comparison .less, "=lt=", 3⟩, ⟨.literal (.boolean true), "true", 7⟩]

theorem exists_tokenize_unordered {text : List Char} {filter : Filter} {nesting : Nat}
    (h : Written .disjunction text filter nesting) (hends : Ends text) :
    ∃ (d : Derivation .disjunction) (last : Token), d.filter = filter ∧ d.nesting = nesting ∧
      last.kind = .endOfInput ∧
      tokenize (String.ofList (unordered ++ text)) = unorderedTokens ++ (d.tokens ++ [last]) := by
  obtain ⟨d, hfilter, hnesting, hscans⟩ := h 11
  have hvalue : ScansAs Ends 7 "true".toList [⟨.literal (.boolean true), "true", 7⟩] :=
    scansAs_literal (show (Value.boolean true).IsWritable from trivial).queryText.1 7
  have hsign := (scansAs_symbol .less 3).append hvalue fun _ _ => trivial
  have hfield := (scansAs_field (show classify "a".toList = .identifier by decide) 2).append hsign
    fun _ _ => ends_cons rfl _
  have hinside := (scansAs_opening 1).append hfield fun _ _ => trivial
  have hfront := (scansAs_opening 0).append hinside fun _ _ => trivial
  have hall := (hfront text hends).append ((List.append_nil text) ▸ hscans [] (by simp [Ends]))
  have hquery : Scans 0 (String.ofList (unordered ++ text)).toList (unorderedTokens ++ d.tokens)
      (11 + byteLength text) [] := by
    rw [String.toList_ofList]
    exact hall
  exact ⟨d, _, hfilter, hnesting, rfl, hquery.tokenize_eq.trans (List.append_assoc ..)⟩

/-- A parser that is asked for a query there goes on behind the refused value, whatever is next. -/
theorem serve_unordered {query : String} {tokens : List Token} {last : Token}
    (h : tokenize query = unorderedTokens ++ (tokens ++ [last])) :
    5 ≤ (scan query).length ∧ ∀ requests,
      (Parser.begun query 0).serve (.query :: requests) = do
        let (results, final) ← (Parser.begun query 5).serve requests
        return (.error (.unorderedArgument "a" .less (.boolean true)) :: results, final) := by
  have hahead : (scan query).ahead = unorderedTokens ++ tokens :=
    (List.append_inj' (h.trans (List.append_assoc ..).symm) rfl).1
  have hlength : 5 ≤ (scan query).length := by
    rw [TokenStream.length, hahead, List.length_append]
    exact Nat.le_add_right _ _
  have hcurrent : ((scan query).drop 4).current = ⟨.literal (.boolean true), "true", 7⟩ := by
    change ((scan query).ahead.drop 4).headD (scan query).last = _
    rw [hahead]
    rfl
  obtain ⟨herror, hpassed⟩ : (readQuery (scan query)).result =
        .error (.unorderedArgument "a" .less (.boolean true)) ∧
      (readQuery (scan query)).passed = 4 + 1 :=
    readQuery_of_refused (Nat.le_of_succ_le hlength) (by rw [hahead]; rfl) (by rw [hcurrent]; rfl)
  refine ⟨hlength, fun requests => ?_⟩
  rw [Parser.serve_cons, TokenStream.drop_zero]
  change (do
    let (results, final) ← (Parser.begun query (0 + (readQuery (scan query)).passed)).serve requests
    return ((readQuery (scan query)).result :: results, final)) = _
  rw [herror, hpassed]

/-- A query of 128 groups inside each other is read, one of 129 is not, and 128 of them are read
again by a parser that has failed inside of two more. -/
theorem nesting_counts_open_groups_again :
    parse (String.ofList (inGroups 127 siblings)) = .ok siblingsFilter ∧
    (∃ token, OpensTooDeep maxNesting (tokenize (String.ofList (inGroups 128 siblings))) token ∧
      parse (String.ofList (inGroups 128 siblings)) = .error (.nestingTooDeep token)) ∧
    ∃ final, (Parser.begun (String.ofList (unordered ++ inGroups 127 siblings)) 0).serve
        [.query, .query] =
      some ([.error (.unorderedArgument "a" .less (.boolean true)), .ok siblingsFilter],
        final) := by
  have hwritten (n : Nat) : Written .disjunction
      (String.ofList (inGroups n siblings)).toList siblingsFilter (1 + n) := by
    rw [String.toList_ofList]
    exact written_siblings.inGroups n
  refine ⟨?_, ?_, ?_⟩
  · obtain ⟨d, last, htokens, hend, hnesting, hfilter⟩ := (hwritten 127).exists_derivation
    have hall := nesting_counts_open_groups.1 _ d last htokens hend
    rw [hall.1, hnesting, hfilter] at hall
    exact hall.2.1 (by decide)
  · obtain ⟨d, last, htokens, hend, hnesting, -⟩ := (hwritten 128).exists_derivation
    have hall := nesting_counts_open_groups.1 _ d last htokens hend
    rw [hall.1, hnesting] at hall
    exact hall.2.2 (by decide)
  · obtain ⟨d, last, hfilter, hnesting, hend, htokens⟩ :=
      exists_tokenize_unordered (written_siblings.inGroups 127) (ends_inGroups siblings (by decide))
    obtain ⟨hlength, hserve⟩ := serve_unordered htokens
    generalize String.ofList (unordered ++ inGroups 127 siblings) = query at *
    obtain ⟨results, k, hbefore, hall⟩ := nesting_counts_open_groups.2 query 0 [.query] .query
    have hplace : Parser.begun query 5 = Parser.begun query k :=
      congrArg Prod.snd (Option.some.inj ((hserve []).symm.trans hbefore))
    have hbehind : ((scan query).drop k).toList = d.tokens ++ [last] := by
      rw [← Parser.stream_begun, ← hplace, Parser.stream_begun, TokenStream.toList_drop hlength]
      exact congrArg (List.drop 5) htokens
    have hle : groupNesting d.tokens ≤ maxNesting := by
      rw [groupNesting_tokens, hnesting]
      decide
    have hact : Request.query.act (Parser.begun query k) =
        some (.ok d.filter, Parser.begun query (k + d.tokens.length)) :=
      (hall d last [] hbehind hend).2.1 hle
    rw [hfilter, ← hplace] at hact
    refine ⟨Parser.begun query (k + d.tokens.length), (hserve [.query]).trans ?_⟩
    rw [Parser.serve, hact]
    rfl

end FilterQuery
