import FilterQuery.Proofs.CanonicalRoundTrip
import FilterQuery.Proofs.DerivedReadings
import FilterQuery.Proofs.FirstErrors
import FilterQuery.Proofs.ParserReadings

/-!
# Parsers restart

A parser keeps nothing of what it has been asked before but its place: after any requests, whether
they succeeded or not, it is a new parser that begins further on.  Where that is, is told by what
the last request came to.  An error that carries a token leaves that token to the next request, and
an expression leaves everything that does not belong to it.  What a parser comes to, first or later,
is canonical like what a query is parsed as.
-/

namespace FilterQuery

open ReadingState

/-! ## Where a request leaves off -/

/-- What the result of a request tells about the tokens that it has passed and those that it leaves
to the next request, of which there is always one. -/
structure Request.LeavesOff (request : Request) (result : Except ParseError Filter)
    (passed : List Token) (next : Token) (rest : List Token) : Prop where
  carried : ∀ e token, result = .error e → e.token? = some token → next = token
  emptyList : ∀ field, result = .error (.emptyList field) → next.kind = .closing ∧
    ∃ front op, ∃ name sign opening : Token, passed = front ++ [name, sign, opening] ∧
      name.kind = .literal .identifier ∧ name.literal = field ∧ sign.kind = .comparison op ∧
      op.isMembership = true ∧ opening.kind = .opening
  unordered : ∀ field op value, result = .error (.unorderedArgument field op value) →
    ∃ front literal cls, passed = front ++ [literal] ∧ literal.kind = .literal cls ∧
      LiteralValue literal.literal cls value ∧ value.isOrderable = false
  /-- The tokens passed are the longest expression that the tokens ahead begin with. -/
  expression : ∀ floor filter, request = .expression floor → result = .ok filter →
    Derives floor.layer maxNesting passed filter ∧
      ∀ d : Derivation floor.layer, d.tokens <+: passed ++ next :: rest →
        d.tokens.length ≤ passed.length
  query : ∀ filter, request = .query → result = .ok filter →
    Derives .disjunction maxNesting passed filter ∧ next.kind = .endOfInput

namespace Request

variable {request : Request} {s : TokenStream} {rest : List Token}

theorem follows_read (request : Request) (s : TokenStream) :
    Follows .start s (fun _ _ _ => True) (request.read s) := by
  cases request with
  | query => exact (follows_readQuery s).imp fun _ _ _ _ => trivial
  | expression floor => exact follows_readExpression floor s

/-- An error blames the token before which a request stops, but for the overrun. -/
theorem exists_blamed {e : ParseError} (hresult : (request.read s).result = .error e) :
    ∃ i, (request.read s).passed = i + e.overrun ∧
      e.Blames (s.ahead.take i) (s.drop i).current := by
  obtain ⟨i, before, -, hi, hafter, hrefused⟩ := (request.follows_read s).error e hresult
  have hspelled := Spelled.start.after hafter fun token hmem =>
    s.ahead_open token (List.mem_of_mem_take hmem)
  exact ⟨i, hi, blames_of_refused hspelled hrefused⟩

theorem blames_next {e : ParseError} (hresult : (request.read s).result = .error e)
    (hoverrun : e.overrun = 0) :
    e.Blames (s.ahead.take (request.read s).passed) (s.drop (request.read s).passed).current := by
  obtain ⟨i, hi, hblames⟩ := exists_blamed hresult
  rwa [hi, hoverrun]

theorem exists_blames_last {e : ParseError} (hpassed : (request.read s).passed ≤ s.length)
    (hresult : (request.read s).result = .error e) (hoverrun : e.overrun = 1) :
    ∃ front token, s.ahead.take (request.read s).passed = front ++ [token] ∧
      e.Blames front token := by
  obtain ⟨i, hi, hblames⟩ := exists_blamed hresult
  refine ⟨_, _, ?_, hblames⟩
  have hpos : 0 < (s.drop i).length := by
    rw [TokenStream.length_drop]
    omega
  have hahead : s.ahead.drop i = (s.drop i).current :: (s.drop i).advance.ahead :=
    TokenStream.ahead_eq_cons hpos
  rw [hi, hoverrun, List.take_add, hahead]
  rfl

/-- What a request leaves off with, when it is read from a stream. -/
theorem leavesOff_read (hpassed : (request.read s).passed ≤ s.length)
    (hrest : (s.drop (request.read s).passed).toList =
      (s.drop (request.read s).passed).current :: rest) :
    request.LeavesOff (request.read s).result (s.ahead.take (request.read s).passed)
      (s.drop (request.read s).passed).current rest where
  carried := by
    intro e token hresult htoken
    exact ((blames_next hresult (ParseError.overrun_of_token? htoken)).carried token htoken).symm
  emptyList := by
    intro field hresult
    exact (blames_next hresult rfl).emptyList field rfl
  unordered := by
    intro field op value hresult
    obtain ⟨front, literal, hfront, hblames⟩ := exists_blames_last hpassed hresult rfl
    obtain ⟨cls, hliteral⟩ := hblames.unordered field op value rfl
    exact ⟨front, literal, cls, hfront, hliteral⟩
  expression := by
    rintro floor filter rfl hresult
    rw [← hrest]
    exact longest_readExpression floor s filter hresult
  query := by
    rintro filter rfl hresult
    obtain ⟨-, reached, hafter, hfinish, hend⟩ := (follows_readQuery s).ok filter hresult
    have hspelled := Spelled.start.after hafter fun token hmem =>
      s.ahead_open token (List.mem_of_mem_take hmem)
    exact ⟨hspelled.derives hfinish, hend⟩

end Request

/-! ## New parsers -/

namespace Parser

/-- A new parser that begins where some tokens of a query have been skipped. -/
def begun (query : String) (skipped : Nat) : Parser :=
  .ofCursor ((TokenCursor.ofQuery query).skip skipped)

theorem after_ofCursor (cursor : TokenCursor) (n : Nat) :
    (ofCursor cursor).after n = ofCursor (cursor.skip n) := by
  induction n generalizing cursor with
  | zero => rfl
  | succ n ih => exact ih cursor.pull.2

theorem stream_begun (query : String) (k : Nat) :
    (begun query k).stream = (scan query).drop k := by
  rw [begun, stream_ofCursor, TokenCursor.stream_skip, TokenCursor.stream_ofQuery]

theorem after_begun (query : String) (k n : Nat) :
    (begun query k).after n = begun query (k + n) := by
  rw [begun, after_ofCursor, begun, TokenCursor.skip_add]

/-- A new parser comes to what is read from the tokens where it begins, and leaves a new parser
behind the ones that are passed. -/
theorem reads_begun (request : Request) (query : String) (k : Nat) :
    Reads (begun query k) (request.act (begun query k)) (request.read ((scan query).drop k)) := by
  have hreads := request.reads_act (p := begun query k) rfl
  rwa [stream_begun] at hreads

theorem act_begun (request : Request) (query : String) (k : Nat) :
    request.act (begun query k) = some ((request.read ((scan query).drop k)).result,
      begun query (k + (request.read ((scan query).drop k)).passed)) := by
  rw [(reads_begun request query k).run, after_begun]

theorem serve_cons (request : Request) (requests : List Request) (query : String) (k : Nat) :
    (begun query k).serve (request :: requests) = do
      let (results, final) ←
        (begun query (k + (request.read ((scan query).drop k)).passed)).serve requests
      return ((request.read ((scan query).drop k)).result :: results, final) := by
  rw [serve, act_begun]
  rfl

/-- After any requests a parser is a new one that begins further on. -/
theorem exists_serve_begun (requests : List Request) (query : String) (skipped : Nat) :
    ∃ results k, (begun query skipped).serve requests = some (results, begun query k) := by
  induction requests generalizing skipped with
  | nil => exact ⟨[], skipped, rfl⟩
  | cons request requests ih =>
    obtain ⟨results, k, hserve⟩ :=
      ih (skipped + (request.read ((scan query).drop skipped)).passed)
    refine ⟨(request.read ((scan query).drop skipped)).result :: results, k, ?_⟩
    rw [serve_cons, hserve]
    rfl

/-- A parser of which anything has been asked is a new parser that begins further on in the query,
and so it is after one more request.  That one has passed the tokens between the two places, and
what it has come to tells which they are. -/
theorem serve_then_act (query : String) (skipped : Nat) (before : List Request)
    (request : Request) :
    ∃ results k result passed next rest,
      (begun query skipped).serve before = some (results, begun query k) ∧
      request.act (begun query k) = some (result, begun query (k + passed.length)) ∧
      ((scan query).drop k).toList = passed ++ next :: rest ∧
      (begun query (k + passed.length)).current = next ∧
      request.LeavesOff result passed next rest := by
  obtain ⟨results, k, hserve⟩ := exists_serve_begun before query skipped
  have hreads := reads_begun request query k
  have hact := act_begun request query k
  have hpassed := hreads.passed_le
  rw [stream_begun] at hpassed
  generalize hs : (scan query).drop k = s at hact hpassed
  obtain ⟨rest, hrest⟩ := (s.drop (request.read s).passed).toList_eq_cons
  have hlength : (s.ahead.take (request.read s).passed).length = (request.read s).passed :=
    List.length_take_of_le hpassed
  refine ⟨results, k, (request.read s).result, s.ahead.take (request.read s).passed, _, rest, hserve,
    ?_, ?_, ?_, request.leavesOff_read hpassed hrest⟩
  · rw [hlength, hact]
  · rw [hs, s.toList_eq_take_append (request.read s).passed, hrest]
  · rw [hlength, ← Parser.stream_current, stream_begun, ← TokenStream.drop_drop, hs]

/-! ## Filters that parsers come to -/

/-- What is read from tokens of a query is canonical, wherever in the query they begin. -/
theorem isCanonical_of_read {request : Request} {query : String} {k : Nat} {filter : Filter}
    (h : (request.read ((scan query).drop k)).result = .ok filter) : filter.IsCanonical := by
  have hpassed := (reads_begun request query k).passed_le
  rw [stream_begun] at hpassed
  obtain ⟨rest, hrest⟩ :=
    (((scan query).drop k).drop (request.read ((scan query).drop k)).passed).toList_eq_cons
  have hleaves := request.leavesOff_read hpassed hrest
  obtain ⟨layer, d, htokens, rfl⟩ : ∃ (layer : Layer) (d : Derivation layer),
      d.tokens = ((scan query).drop k).ahead.take (request.read ((scan query).drop k)).passed ∧
        d.filter = filter := by
    cases request with
    | query =>
      obtain ⟨d, htokens, -, hfilter⟩ := (hleaves.query filter rfl h).1
      exact ⟨_, d, htokens, hfilter⟩
    | expression floor =>
      obtain ⟨d, htokens, -, hfilter⟩ := (hleaves.expression floor filter rfl h).1
      exact ⟨_, d, htokens, hfilter⟩
  have htokenize : tokenize query = (scan query).ahead ++ [(scan query).last] := rfl
  refine isCanonical_of_isGenuine d fun token hmem => ?_
  rw [htokens] at hmem
  exact isGenuine_of_tokenize htokenize token (List.mem_of_mem_drop (List.mem_of_mem_take hmem))

theorem isCanonical_of_serve {query : String} {skipped : Nat} {requests : List Request}
    {results : List (Except ParseError Filter)} {final : Parser} {filter : Filter}
    (h : (begun query skipped).serve requests = some (results, final))
    (hmem : .ok filter ∈ results) : filter.IsCanonical := by
  induction requests generalizing skipped results with
  | nil =>
    cases h
    cases hmem
  | cons request requests ih =>
    rw [serve_cons] at h
    obtain ⟨⟨behind, last⟩, hbehind, hresults⟩ := Option.bind_eq_some_iff.mp h
    cases hresults
    rcases List.mem_cons.mp hmem with hfirst | hmem
    · exact isCanonical_of_read hfirst.symm
    · exact ih hbehind hmem

theorem exists_serve_query (query : String) :
    ∃ final, (begun query 0).serve [.query] = some ([parse query], final) :=
  ⟨_, serve_cons .query [] query 0⟩

end Parser

end FilterQuery
