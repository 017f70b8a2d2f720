import Mathlib.Data.List.Chain
import FilterQuery.Proofs.ExtendedTexts
import FilterQuery.Proofs.ScannerSafety

/-!
# Successive tokens

Every token but the end of the query takes up a character at least, so a query has at most one
token more than characters, and each token begins behind the one before it.  A bare run ends before
a reserved character or at the end of the query, so no other one follows it at once.  A scanner
gives out the tokens one after the other, and once it has come to the terminal one it stands still.
-/

namespace FilterQuery

/-! ## Neighbours -/

section Neighbours

variable {offset offset' : Nat} {text rest : List Char} {tokens : List Token} {token last : Token}

theorem Scans.length_add_le (h : Scans offset text tokens offset' rest) :
    tokens.length + rest.length ≤ text.length := by
  induction h with
  | done => simp
  | next _ hlex _ _ ih =>
    have hpos := List.length_pos_iff.mpr hlex.ne_nil
    simp only [List.length_cons, List.length_append]
    omega

theorem Scans.pairwise_offset (h : Scans offset text tokens offset' rest)
    (hstop : Stops offset' rest last) :
    (tokens ++ [last]).Pairwise fun token later => token.offset < later.offset := by
  induction h with
  | done => exact List.pairwise_singleton _ _
  | next _ hlex _ hscans ih =>
    refine List.Pairwise.cons (fun later hmem => ?_) (ih hstop)
    have hpos := byteLength_pos_of_ne_nil hlex.ne_nil
    have hle := hscans.le_offset hstop later hmem
    dsimp only
    omega

/-- No bare run begins where a reserved character comes first. -/
theorem Scans.kind_ne_literal (h : Scans offset text (token :: tokens) offset' rest)
    (hreserved : ∀ c ∈ (text.dropWhile isBlank).head?, isReserved c = true) (cls : LiteralClass) :
    token.kind ≠ .literal cls := by
  cases h with
  | @next _ _ blanks literal tail _ kind _ hblanks hlex _ _ =>
    rintro rfl
    rw [hlex.dropWhile_blanks hblanks] at hreserved
    cases hlex with
    | bare run =>
      obtain ⟨c, literal', rfl⟩ := List.exists_cons_of_ne_nil run.ne_nil
      have hc := run.unreserved c List.mem_cons_self
      rw [hreserved c rfl] at hc
      cases hc

theorem Scans.isChain_literal (h : Scans offset text tokens offset' rest)
    (hlast : last.isTerminal = true) :
    (tokens ++ [last]).IsChain fun token next =>
      ∀ cls cls', token.kind = .literal cls → next.kind ≠ .literal cls' := by
  induction h with
  | done => exact .singleton _
  | @next _ _ blanks literal tail _ kind tokens hblanks hlex hborders hscans ih =>
    cases tokens with
    | nil =>
      refine .cons_cons (fun _ cls _ hcls => ?_) ih
      rw [Token.isTerminal, hcls] at hlast
      cases hlast
    | cons next tokens =>
      exact .cons_cons (fun cls cls' hcls => hscans.kind_ne_literal (hborders.run cls hcls) cls') ih

end Neighbours

/-! ## Tokens that are given out -/

namespace TokenStream

theorem getElem?_pulls (s : TokenStream) {k n : Nat} (h : k < n) :
    (s.pulls n)[k]? = some (s.drop k).current := by
  induction n generalizing s k with
  | zero => cases h
  | succ n ih =>
    cases k with
    | zero => rfl
    | succ k =>
      rw [pulls, List.getElem?_cons_succ, ih s.advance (Nat.lt_of_succ_lt_succ h), advance, drop_drop,
        Nat.add_comm]

theorem current_drop (s : TokenStream) (k : Nat) :
    s.toList[min k (s.toList.length - 1)]? = some (s.drop k).current := by
  have hlength : s.toList.length - 1 = s.ahead.length := by simp [toList]
  rw [hlength, toList]
  by_cases hk : k < s.ahead.length
  · rw [Nat.min_eq_left (Nat.le_of_lt hk), List.getElem?_append_left hk]
    simp [current, drop, List.headD_eq_head?_getD, hk]
  · have hle : s.ahead.length ≤ k := Nat.le_of_not_lt hk
    rw [Nat.min_eq_right hle, List.getElem?_concat_length]
    simp [current, drop, List.drop_eq_nil_of_le hle]

end TokenStream

namespace QueryScanner

/-- A scanner comes to an end, with the tokens of the stream ahead. -/
theorem Follows.tokens {query : String} {scanner : QueryScanner} {s : TokenStream}
    (h : Follows query scanner s) : scanner.tokens = some s.toList := by
  induction hlen : s.length using Nat.strongRecOn generalizing scanner s with
  | ind n ih =>
    obtain ⟨after, hpull, hafter⟩ := h.pull
    rw [QueryScanner.tokens, hpull, s.toList_eq, Option.bind_eq_bind, Option.bind_some]
    dsimp only
    split
    case isTrue => rfl
    case isFalse hopen =>
      have hshorter : s.advance.length < n :=
        hlen ▸ TokenStream.length_advance_lt (Bool.eq_false_iff.mpr hopen)
      rw [ih _ hshorter hafter rfl]
      rfl

/-- Scanning a query comes to an end; it goes on by a character at least with each token, finds one
terminal token, at the end, and never two literals at once.  However many tokens are taken from the
scanner, those behind the terminal one are that one again. -/
theorem advances_then_stands_still (query : String) :
    (ofQuery query).bind QueryScanner.tokens = some (tokenize query) ∧
    (tokenize query).length ≤ query.length + 1 ∧
    (tokenize query).Pairwise (fun token later => token.offset < later.offset) ∧
    (∃ front last, tokenize query = front ++ [last] ∧ last.isTerminal = true ∧
      ∀ token ∈ front, token.isTerminal = false) ∧
    (tokenize query).IsChain (fun token next =>
      ∀ cls cls', token.kind = .literal cls → next.kind ≠ .literal cls') ∧
    ∀ k, ∃ given scanner token,
      (ofQuery query).bind (·.pulls (k + 1)) = some (given, scanner) ∧ given[k]? = some token ∧
      (tokenize query)[min k ((tokenize query).length - 1)]? = some token := by
  obtain ⟨front, offset, rest, last, hscans, hstop, hopen, hlist⟩ := exists_scans 0 query.toList
  have htokens : tokenize query = front ++ [last] := hlist
  have hfollows : Follows query (standing [] query.toList) (FilterQuery.scan query) := .running rfl
  refine ⟨?_, ?_, ?_, ?_, ?_, fun k => ?_⟩
  · rw [ofQuery_eq, Option.bind_some, hfollows.tokens]
    rfl
  · have hle := hscans.length_add_le
    rw [htokens, List.length_append, List.length_singleton, ← String.length_toList]
    omega
  · rw [htokens]
    exact hscans.pairwise_offset hstop
  · exact ⟨front, last, htokens, hstop.isTerminal, hopen⟩
  · rw [htokens]
    exact hscans.isChain_literal hstop.isTerminal
  · obtain ⟨scanner, -, hpulls, -⟩ := hfollows.pulls (k + 1)
    refine ⟨_, scanner, _, ?_, (FilterQuery.scan query).getElem?_pulls (Nat.lt_succ_self k), ?_⟩
    · rw [ofQuery_eq, Option.bind_some, hpulls]
    · exact (FilterQuery.scan query).current_drop k

end QueryScanner

end FilterQuery
