import FilterQuery.Proofs.ParserRestarts

/-!
# Consumed tokens

Whatever a parser is asked for, it comes to a result, and the tokens that it passes on the way are
not terminal.  So the tokens that are consumed over any number of requests are the first ones of
those ahead.  A request that succeeds consumes three tokens at least; where no token is left but
the terminal one, every request fails and changes nothing.
-/

namespace FilterQuery

namespace Derivation

private theorem tokens_argument_ne_nil {op : Comparison} (argument : DerivedArgument op) :
    argument.tokens ≠ [] := by
  cases argument <;> simp [DerivedArgument.tokens]

theorem three_le_length_tokens {layer : Layer} (d : Derivation layer) : 3 ≤ d.tokens.length := by
  induction d with
  | constraint field op sign argument =>
    have hpos := List.length_pos_iff.mpr (tokens_argument_ne_nil argument)
    simp only [tokens, List.length_cons]
    omega
  | group opening inner closing ih =>
    simp only [tokens, List.length_cons, List.length_append]
    omega
  | operand inner ih => exact ih
  | and left semicolon right ihleft ihright =>
    simp only [tokens, List.length_append]
    omega
  | conjunction inner ih => exact ih
  | or left comma right ihleft ihright =>
    simp only [tokens, List.length_append]
    omega

end Derivation

theorem Derives.three_le_length {layer : Layer} {budget : Nat} {tokens : List Token}
    {filter : Filter} (h : Derives layer budget tokens filter) : 3 ≤ tokens.length := by
  obtain ⟨d, rfl, -, -⟩ := h
  exact d.three_le_length_tokens

theorem TokenStream.filter_toList (s : TokenStream) :
    s.toList.filter (fun token => !token.isTerminal) = s.ahead := by
  have hlast := s.last_terminal
  have hopen : ∀ token ∈ s.ahead, (!token.isTerminal) = true := by
    intro token hmem
    rw [s.ahead_open token hmem]
    rfl
  rw [toList, List.filter_append, List.filter_eq_self.mpr hopen]
  simp [hlast]

namespace Parser

/-- Some tokens, none of which is terminal, are all that is passed from one parser to another. -/
inductive Consumes : Parser → List Token → Parser → Prop where
  | nothing {p : Parser} : Consumes p [] p
  | next {p q : Parser} {tokens : List Token} (hopen : p.current.isTerminal = false)
      (rest : Consumes p.advance tokens q) : Consumes p (p.current :: tokens) q

variable {p q r : Parser} {tokens more : List Token}

theorem Consumes.trans (h : p.Consumes tokens q) (h' : q.Consumes more r) :
    p.Consumes (tokens ++ more) r := by
  induction h with
  | nothing => exact h'
  | next hopen _ ih => exact .next hopen (ih h')

theorem Consumes.ahead_eq (h : p.Consumes tokens q) :
    p.stream.ahead = tokens ++ q.stream.ahead := by
  induction h with
  | nothing => rfl
  | @next p q tokens hopen _ ih =>
    have hcurrent : p.stream.current.isTerminal = false := by rwa [stream_current]
    rw [TokenStream.ahead_eq_cons (TokenStream.length_pos_of_isTerminal hcurrent), stream_current,
      ← stream_advance hopen, ih, List.cons_append]

theorem Consumes.of_isTerminal (h : p.Consumes tokens q) (hterminal : p.current.isTerminal = true) :
    tokens = [] ∧ q = p := by
  cases h with
  | nothing => exact ⟨rfl, rfl⟩
  | next hopen =>
    rw [hopen] at hterminal
    cases hterminal

theorem consumes_after {n : Nat} (h : n ≤ p.stream.length) :
    p.Consumes (p.stream.ahead.take n) (p.after n) := by
  induction n generalizing p with
  | zero => exact .nothing
  | succ n ih =>
    have hpos : 0 < p.stream.length := by omega
    have hopen : p.current.isTerminal = false := by
      rw [← stream_current, Bool.eq_false_iff]
      intro hterminal
      rw [TokenStream.length_eq_zero_of_isTerminal hterminal] at hpos
      cases hpos
    have hle : n ≤ p.advance.stream.length := by
      rw [stream_advance hopen, TokenStream.length_advance]
      omega
    rw [TokenStream.ahead_eq_cons hpos, List.take_succ_cons, stream_current, after_succ,
      ← stream_advance hopen]
    exact .next hopen (ih hle)

end Parser

/-- A request consumes as many tokens as its reading passes, three at least if it succeeds. -/
theorem Request.exists_consumes {p : Parser} (request : Request) (hdepth : p.depth = 0) :
    ∃ result tokens q, request.act p = some (result, q) ∧ p.Consumes tokens q ∧ q.depth = 0 ∧
      tokens.length = (request.read p.stream).passed ∧
      ∀ filter, result = .ok filter → 3 ≤ tokens.length := by
  have hreads := request.reads_act hdepth
  have hlength : (p.stream.ahead.take (request.read p.stream).passed).length =
      (request.read p.stream).passed := List.length_take_of_le hreads.passed_le
  refine ⟨_, _, _, hreads.run, Parser.consumes_after hreads.passed_le, ?_, hlength, ?_⟩
  · rw [Parser.depth_after, hdepth]
  · intro filter hresult
    obtain ⟨rest, hrest⟩ := (p.stream.drop (request.read p.stream).passed).toList_eq_cons
    have hleaves := request.leavesOff_read hreads.passed_le hrest
    cases hrequest : request with
    | query =>
      subst hrequest
      exact (hleaves.query filter rfl hresult).1.three_le_length
    | expression floor =>
      subst hrequest
      exact (hleaves.expression floor filter rfl hresult).1.three_le_length

namespace Parser

/-- A parser that is asked again and again comes to a result each time, and consumes tokens. -/
theorem exists_consumes_serve {p : Parser} (requests : List Request) (hdepth : p.depth = 0) :
    ∃ results tokens q, p.serve requests = some (results, q) ∧
      results.length = requests.length ∧ p.Consumes tokens q ∧ q.depth = 0 := by
  induction requests generalizing p with
  | nil => exact ⟨[], [], p, rfl, rfl, .nothing, hdepth⟩
  | cons request requests ih =>
    obtain ⟨result, tokens, q, hact, hconsumes, houtside, -⟩ := request.exists_consumes hdepth
    obtain ⟨results, more, final, hserve, hlength, hrest, hfinal⟩ := ih houtside
    refine ⟨result :: results, tokens ++ more, final, ?_, ?_, hconsumes.trans hrest, hfinal⟩
    · rw [serve, hact]
      change Option.bind (serve q requests) _ = _
      rw [hserve]
      rfl
    · rw [List.length_cons, List.length_cons, hlength]

/-- After any requests, one more comes to a result.  All in all no more tokens are consumed than
the query has before its terminal token, a successful expression consumes three of them, and at the
terminal token every request fails and leaves the parser as it is. -/
theorem serve_then_act_consumes (query : String) (skipped : Nat) (before : List Request)
    (request : Request) :
    ∃ results p passed result next more,
      (begun query skipped).serve before = some (results, p) ∧ results.length = before.length ∧
      (begun query skipped).Consumes passed p ∧
      request.act p = some (result, next) ∧ p.Consumes more next ∧
      more.length = (request.read p.stream).passed ∧
      passed ++ more <+: ((tokenize query).filter fun token => !token.isTerminal).drop skipped ∧
      (passed ++ more).length ≤ (tokenize query).countP (fun token => !token.isTerminal) ∧
      (∀ floor filter, request = .expression floor → result = .ok filter → 3 ≤ more.length) ∧
      (p.current.isTerminal = true → (∃ e, result = .error e) ∧ next = p) := by
  obtain ⟨results, passed, p, hserve, hresults, hpassed, hdepth⟩ :=
    exists_consumes_serve before (p := begun query skipped) rfl
  obtain ⟨result, more, next, hact, hmore, -, hlength, hthree⟩ := request.exists_consumes hdepth
  have hahead : passed ++ more <+: ((tokenize query).filter fun token => !token.isTerminal).drop
      skipped := by
    have hall := (hpassed.trans hmore).ahead_eq
    rw [stream_begun] at hall
    rw [tokenize, TokenStream.filter_toList]
    exact ⟨_, hall.symm⟩
  refine ⟨results, p, passed, result, next, more, hserve, hresults, hpassed, hact, hmore, hlength,
    hahead, ?_, fun _ filter _ hresult => hthree filter hresult, fun hterminal => ?_⟩
  · have hle := hahead.length_le
    rw [List.length_drop, ← List.countP_eq_length_filter] at hle
    omega
  · obtain ⟨rfl, rfl⟩ := hmore.of_isTerminal hterminal
    refine ⟨?_, rfl⟩
    cases result with
    | error e => exact ⟨e, rfl⟩
    | ok filter => exact absurd (hthree filter rfl) (by simp)

end Parser

end FilterQuery
