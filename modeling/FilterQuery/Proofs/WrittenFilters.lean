import FilterQuery.Proofs.CanonicalFilters
import FilterQuery.Proofs.Derivations
import FilterQuery.Proofs.FloatTexts
import FilterQuery.Proofs.ScannedTexts

/-!
# Written filters

The canonical query of a filter is scanned as the tokens of a derivation, whatever follows it, as
long as that begins with a reserved character.  The derivation stands for the normal form of the
filter, and its groups are nested as deep as the parentheses of the query.
-/

namespace FilterQuery

/-- What may follow a text without running into it. -/
def Ends (tail : List Char) : Prop := ∀ c ∈ tail.head?, isReserved c = true

/-- A text that is scanned as some tokens in front of certain others. -/
def ScansAs (follows : List Char → Prop) (offset : Nat) (text : List Char)
    (tokens : List Token) : Prop :=
  ∀ tail, follows tail → Scans offset (text ++ tail) tokens (offset + byteLength text) tail

/-- A text that is scanned as the tokens of a derivation in a layer. -/
def Written (layer : Layer) (text : List Char) (filter : Filter) (nesting : Nat) : Prop :=
  ∀ offset, ∃ d : Derivation layer, d.filter = filter ∧ d.nesting = nesting ∧
    ScansAs Ends offset text d.tokens

theorem ScansAs.append {follows follows' : List Char → Prop} {offset : Nat}
    {text text' : List Char} {tokens tokens' : List Token}
    (h : ScansAs follows offset text tokens)
    (h' : ScansAs follows' (offset + byteLength text) text' tokens')
    (hfollows : ∀ tail, follows' tail → follows (text' ++ tail)) :
    ScansAs follows' offset (text ++ text') (tokens ++ tokens') := by
  intro tail htail
  have hscans := (h (text' ++ tail) (hfollows tail htail)).append (h' tail htail)
  rw [List.append_assoc, byteLength_append, ← Nat.add_assoc]
  exact hscans

theorem ScansAs.lexeme {follows : List Char → Prop} {kind : TokenKind} {literal : List Char}
    (h : IsLexeme kind literal) (hborders : ∀ tail, follows tail → Borders kind literal tail)
    (offset : Nat) :
    ScansAs follows offset literal [⟨kind, String.ofList literal, offset⟩] := by
  intro tail htail
  have hscans : Scans offset ([] ++ (literal ++ tail)) _ (offset + byteLength literal) tail :=
    .next (by simp) h (hborders tail htail) .done
  exact hscans

theorem ends_cons {c : Char} (h : isReserved c = true) (tail : List Char) : Ends (c :: tail) := by
  intro d hd
  cases hd
  exact h

/-! ## Lexemes of written filters -/

theorem borders_of_ends {cls : LiteralClass} {text tail : List Char} (hrun : IsBareRun text)
    (hends : Ends tail) : Borders (.literal cls) text tail := by
  refine ⟨fun _ _ => ?_, ?_⟩
  · have hsolid : ∀ c ∈ tail.head?, isBlank c = false :=
      fun c hc => isBlank_of_isReserved (hends c hc)
    have hdrop : tail.dropWhile isBlank = tail := by
      have hnil : ([] ++ tail).dropWhile isBlank = tail :=
        dropWhile_append_stop (by simp) hsolid
      exact hnil
    rw [hdrop]
    exact hends
  · intro hangle
    have hreserved : ∃ c ∈ text, isReserved c = true := by
      rcases hangle with rfl | rfl
      · exact ⟨'<', by simp, by decide⟩
      · exact ⟨'>', by simp, by decide⟩
    obtain ⟨c, hc, hreserved⟩ := hreserved
    rw [hrun.unreserved c hc] at hreserved
    cases hreserved

private theorem isLexeme_symbol (op : Comparison) :
    IsLexeme (.comparison op) op.symbol.toList := by
  cases op with
  | equal => exact .doubled
  | notEqual => exact .notEqual
  | within => exact .word .within
  | outside => exact .word .outside
  | less => exact .word .less
  | lessOrEqual => exact .word .lessOrEqual
  | greater => exact .word .greater
  | greaterOrEqual => exact .word .greaterOrEqual

private theorem borders_symbol (op : Comparison) (tail : List Char) :
    Borders (.comparison op) op.symbol.toList tail := by
  apply borders_of_ne (by simp)
  · cases op <;> simp [Comparison.symbol]
  · cases op <;> simp [Comparison.symbol]

private theorem ends_symbol (op : Comparison) (tail : List Char) :
    Ends (op.symbol.toList ++ tail) := by
  cases op <;> exact ends_cons rfl _

theorem scansAs_mark {kind : TokenKind} {c : Char} (mark : IsMark kind c) (offset : Nat) :
    ScansAs (fun _ => True) offset [c] [⟨kind, String.ofList [c], offset⟩] :=
  .lexeme mark.isLexeme (fun tail _ => mark.borders tail) offset

theorem scansAs_opening (offset : Nat) :
    ScansAs (fun _ => True) offset ['('] [⟨.opening, "(", offset⟩] := scansAs_mark .opening offset

theorem scansAs_closing (offset : Nat) :
    ScansAs (fun _ => True) offset [')'] [⟨.closing, ")", offset⟩] := scansAs_mark .closing offset

private theorem ScansAs.parenthesize {offset : Nat} {text : List Char} {tokens : List Token}
    (h : ScansAs Ends (offset + byteLength ['(']) text tokens) :
    ∃ closing, ScansAs Ends offset ('(' :: (text ++ [')']))
      (⟨.opening, "(", offset⟩ :: (tokens ++ [⟨.closing, ")", closing⟩])) := by
  have hclosing := scansAs_closing (offset + byteLength ['('] + byteLength text)
  have hinner := h.append hclosing fun _ _ => ends_cons rfl _
  have hall := (scansAs_opening offset).append hinner fun _ _ => trivial
  exact ⟨_, fun tail _ => hall tail trivial⟩

theorem scansAs_literal {text : String} (hrun : IsBareRun text.toList) (offset : Nat) :
    ScansAs Ends offset text.toList [⟨.literal (classify text.toList), text, offset⟩] := by
  have hscans := ScansAs.lexeme (.bare hrun) (fun tail hends => borders_of_ends hrun hends) offset
  rwa [String.ofList_toList] at hscans

theorem scansAs_field {field : String} (h : classify field.toList = .identifier) (offset : Nat) :
    ScansAs Ends offset field.toList [⟨.literal .identifier, field, offset⟩] := by
  have hscans := scansAs_literal (isBareRun_of_identifier h) offset
  rwa [h] at hscans

theorem scansAs_symbol (op : Comparison) (offset : Nat) :
    ScansAs (fun _ => True) offset op.symbol.toList [⟨.comparison op, op.symbol, offset⟩] := by
  have h : ScansAs (fun _ => True) offset op.symbol.toList
      [⟨.comparison op, String.ofList op.symbol.toList, offset⟩] :=
    .lexeme (isLexeme_symbol op) (fun tail _ => borders_symbol op tail) offset
  rwa [String.ofList_toList] at h

private theorem scansAs_connective (op : Connective) (offset : Nat) :
    ScansAs (fun _ => True) offset op.symbol.toList [⟨.connective op, op.symbol, offset⟩] := by
  have hborders (tail : List Char) : Borders (.connective op) op.symbol.toList tail := by
    apply borders_of_ne (by simp)
    · cases op <;> simp [Connective.symbol]
    · cases op <;> simp [Connective.symbol]
  have h : ScansAs (fun _ => True) offset op.symbol.toList
      [⟨.connective op, String.ofList op.symbol.toList, offset⟩] :=
    .lexeme (.connective op) (fun tail _ => hborders tail) offset
  rwa [String.ofList_toList] at h

theorem scansAs_equality {field text : String} (hfield : classify field.toList = .identifier)
    (hrun : IsBareRun text.toList) (offset : Nat) :
    ScansAs Ends offset (field.toList ++ (['=', '='] ++ text.toList))
      [⟨.literal .identifier, field, offset⟩,
        ⟨.comparison .equal, "==", offset + byteLength field.toList⟩,
        ⟨.literal (classify text.toList), text, offset + byteLength field.toList + 2⟩] := by
  have hsign := (scansAs_symbol .equal (offset + byteLength field.toList)).append
    (scansAs_literal hrun _) fun _ _ => trivial
  exact (scansAs_field hfield offset).append hsign fun _ _ => ends_cons rfl _

/-! ## Values -/

private theorem isBareRun_keyword {text : List Char} (hne : text ≠ [])
    (h : text.all continuesIdentifier = true) : IsBareRun text :=
  isBareRun_of_continuesIdentifier hne (List.all_eq_true.mp h)

private theorem classify_true : classify (Value.boolean true).queryText.toList = .boolean true := by
  decide

private theorem classify_false :
    classify (Value.boolean false).queryText.toList = .boolean false := by
  decide

private theorem classify_null : classify Value.null.queryText.toList = .null := by
  decide

theorem Value.IsWritable.queryText {value : Value} (h : value.IsWritable) :
    IsBareRun value.queryText.toList ∧
      LiteralValue value.queryText (classify value.queryText.toList) value := by
  cases value with
  | string text =>
    obtain ⟨hrun, hcls | hcls⟩ := h
    · exact ⟨hrun, hcls ▸ .identifier⟩
    · exact ⟨hrun, hcls ▸ .text⟩
  | integer n =>
    refine ⟨isBareRun_integer n, ?_⟩
    rw [Value.queryText, classify_integer]
    exact literalValue_integer n
  | float x =>
    refine ⟨isBareRun_float h, ?_⟩
    rw [Value.queryText, classify_float h]
    exact literalValue_float h
  | boolean b =>
    cases b with
    | true => exact ⟨isBareRun_keyword (by decide) (by decide), classify_true ▸ .boolean true⟩
    | false =>
      exact ⟨isBareRun_keyword (by decide) (by decide), classify_false ▸ .boolean false⟩
  | null => exact ⟨isBareRun_keyword (by decide) (by decide), classify_null ▸ .null⟩

theorem Value.IsWritable.exists_literal {value : Value} (h : value.IsWritable)
    (offset : Nat) :
    ∃ literal : ValuedLiteral, literal.value = value ∧ literal.cls.isOrdered = value.isOrderable ∧
      ScansAs Ends offset value.queryText.toList [literal.token] := by
  obtain ⟨hrun, hvalued⟩ := h.queryText
  refine ⟨⟨_, ⟨value.queryText, offset⟩, value, hvalued⟩, rfl, hvalued.isOrderable.symm, ?_⟩
  exact scansAs_literal hrun offset

/-! ## Lists of values -/

/-- A text that is scanned as a list of values that have an order. -/
private def WrittenList (text : List Char) (values : List Value) : Prop :=
  ∀ offset, ∃ literals : LiteralList, literals.values = values ∧ literals.isOrdered = true ∧
    ScansAs Ends offset text literals.tokens

private theorem WrittenList.single {value : Value} (h : value.IsWritable)
    (hordered : value.isOrderable = true) : WrittenList value.queryText.toList [value] := by
  intro offset
  obtain ⟨literal, rfl, hcls, hscans⟩ := h.exists_literal offset
  exact ⟨.single literal, rfl, hcls.trans hordered, hscans⟩

private theorem WrittenList.more {text : List Char} {values : List Value} {value : Value}
    (hlist : WrittenList text values) (h : value.IsWritable)
    (hordered : value.isOrderable = true) :
    WrittenList (text ++ ',' :: value.queryText.toList) (values ++ [value]) := by
  intro offset
  obtain ⟨literals, rfl, hliterals, hscans⟩ := hlist offset
  obtain ⟨literal, rfl, hcls, hscans'⟩ := h.exists_literal (offset + byteLength text + byteLength [','])
  have hcomma := scansAs_connective .or (offset + byteLength text)
  refine ⟨.more literals ⟨",", offset + byteLength text⟩ literal, rfl, ?_, ?_⟩
  · rw [LiteralList.isOrdered, hliterals, hcls, hordered]
    rfl
  · exact hscans.append (hcomma.append hscans' fun _ _ => trivial) fun _ _ => ends_cons rfl _

private def moreValues (values : List Value) : List Char :=
  values.flatMap fun value => ',' :: value.queryText.toList

private theorem WrittenList.append {text : List Char} {values more : List Value}
    (hlist : WrittenList text values) (h : ∀ value ∈ more, value.IsWritable)
    (hordered : ∀ value ∈ more, value.isOrderable = true) :
    WrittenList (text ++ moreValues more) (values ++ more) := by
  induction more generalizing text values with
  | nil => simpa [moreValues] using hlist
  | cons value more ih =>
    have hvalue := hlist.more (h value List.mem_cons_self) (hordered value List.mem_cons_self)
    have hmore := ih hvalue (fun v hv => h v (List.mem_cons_of_mem _ hv))
      (fun v hv => hordered v (List.mem_cons_of_mem _ hv))
    simpa [moreValues] using hmore

theorem toList_intercalate_cons (separator first : String) (rest : List String) :
    (String.intercalate separator (first :: rest)).toList =
      first.toList ++ rest.flatMap fun text => separator.toList ++ text.toList := by
  induction rest generalizing first with
  | nil => simp
  | cons second rest ih => simp [String.intercalate_cons_cons, ih]

theorem count_intercalate {c : Char} {separator : String} (h : c ∉ separator.toList)
    (texts : List String) : (String.intercalate separator texts).toList.count c =
      (texts.flatMap String.toList).count c := by
  cases texts with
  | nil => rfl
  | cons first rest =>
    rw [toList_intercalate_cons, List.flatMap_cons, List.count_append, List.count_append]
    congr 1
    induction rest with
    | nil => rfl
    | cons text rest ih => simp [ih, List.count_eq_zero.mpr h]

private theorem writtenList_values {values : List Value} (hne : values ≠ [])
    (h : ∀ value ∈ values, value.IsWritable)
    (hordered : ∀ value ∈ values, value.isOrderable = true) :
    WrittenList (String.intercalate "," (values.map Value.queryText)).toList values := by
  cases values with
  | nil => exact absurd rfl hne
  | cons first rest =>
    have hfirst := WrittenList.single (h first List.mem_cons_self)
      (hordered first List.mem_cons_self)
    have hlist := hfirst.append (fun v hv => h v (List.mem_cons_of_mem _ hv))
      (fun v hv => hordered v (List.mem_cons_of_mem _ hv))
    rw [List.map_cons, toList_intercalate_cons, List.flatMap_map]
    exact hlist

/-! ## Constraints -/

/-- An argument is scanned as the tokens of an argument that the grammar derives. -/
private theorem exists_derivedArgument {op : Comparison} {argument : Argument}
    (h : argument.Suits op) (offset : Nat) :
    ∃ derived : DerivedArgument op, derived.argument = argument ∧
      ScansAs Ends offset argument.queryText.toList derived.tokens := by
  cases h with
  | any hequal hwritable =>
    obtain ⟨literal, rfl, -, hscans⟩ := hwritable.exists_literal offset
    exact ⟨.any hequal literal, rfl, hscans⟩
  | ordered hordering hordered hwritable =>
    obtain ⟨literal, rfl, hcls, hscans⟩ := hwritable.exists_literal offset
    exact ⟨.ordered hordering literal (hcls.trans hordered), rfl, hscans⟩
  | @list hmember values hne hordered hwritable =>
    obtain ⟨literals, rfl, hliterals, hscans⟩ :=
      writtenList_values hne hwritable hordered (offset + byteLength ['('])
    obtain ⟨closing, hall⟩ := hscans.parenthesize
    have htext : (Argument.list literals.values).queryText.toList =
        '(' :: ((String.intercalate "," (literals.values.map Value.queryText)).toList ++ [')']) := by
      simp [Argument.queryText]
    rw [← htext] at hall
    exact ⟨.list hmember ⟨"(", offset⟩ literals hliterals ⟨")", closing⟩, rfl, hall⟩

theorem written_constraint {field : String} {op : Comparison} {argument : Argument}
    (hfield : classify field.toList = .identifier) (hsuits : argument.Suits op) :
    Written .operand (Filter.constraint field op argument).queryText.toList
      (.constraint field op argument) 0 := by
  intro offset
  have hscans := scansAs_field hfield offset
  let sign := offset + byteLength field.toList
  obtain ⟨derived, rfl, hargument⟩ :=
    exists_derivedArgument hsuits (sign + byteLength op.symbol.toList)
  have hsign := scansAs_symbol op sign
  refine ⟨.constraint ⟨field, offset⟩ op ⟨op.symbol, sign⟩ derived, rfl, rfl, ?_⟩
  have htext : (Filter.constraint field op derived.argument).queryText.toList =
      field.toList ++ (op.symbol.toList ++ derived.argument.queryText.toList) := by
    simp [Filter.queryText]
  rw [htext]
  have htail := hsign.append hargument fun _ _ => trivial
  exact hscans.append htail fun tail _ => by
    rw [List.append_assoc]
    exact ends_symbol op _

/-! ## Combinations -/

/-- The layer of the parts of a combination. -/
def Connective.partLayer : Connective → Layer
  | and => .operand
  | or => .conjunction

/-- The layer of a combination itself. -/
def Connective.chainLayer : Connective → Layer
  | and => .conjunction
  | or => .disjunction

namespace Written

variable {text text' : List Char} {filter filter' : Filter} {nesting nesting' : Nat}

theorem operand (h : Written .operand text filter nesting) :
    Written .conjunction text filter nesting := by
  intro offset
  obtain ⟨d, rfl, rfl, hscans⟩ := h offset
  exact ⟨.operand d, rfl, rfl, hscans⟩

theorem conjunction (h : Written .conjunction text filter nesting) :
    Written .disjunction text filter nesting := by
  intro offset
  obtain ⟨d, rfl, rfl, hscans⟩ := h offset
  exact ⟨.conjunction d, rfl, rfl, hscans⟩

theorem part (h : Written .operand text filter nesting) (op : Connective) :
    Written op.partLayer text filter nesting := by
  cases op with
  | and => exact h
  | or => exact h.operand

theorem chain {op : Connective} (h : Written op.partLayer text filter nesting) :
    Written op.chainLayer text filter nesting := by
  cases op with
  | and => exact h.operand
  | or => exact h.conjunction

theorem disjunction {op : Connective} (h : Written op.chainLayer text filter nesting) :
    Written .disjunction text filter nesting := by
  cases op with
  | and => exact h.conjunction
  | or => exact h

theorem group (h : Written .disjunction text filter nesting) :
    Written .operand ('(' :: (text ++ [')'])) filter (nesting + 1) := by
  intro offset
  obtain ⟨d, rfl, rfl, hscans⟩ := h (offset + byteLength ['('])
  obtain ⟨closing, hall⟩ := hscans.parenthesize
  exact ⟨.group ⟨"(", offset⟩ d ⟨")", closing⟩, rfl, rfl, hall⟩

theorem join {op : Connective} (h : Written op.chainLayer text filter nesting)
    (h' : Written op.partLayer text' filter' nesting') :
    Written op.chainLayer (text ++ (op.symbol.toList ++ text')) (filter.combine op filter')
      (max nesting nesting') := by
  intro offset
  let joint := offset + byteLength text
  have hjoint := scansAs_connective op joint
  have hends (tail : List Char) : Ends (op.symbol.toList ++ tail) := by
    cases op <;> exact ends_cons rfl _
  obtain ⟨d, rfl, rfl, hscans⟩ := h offset
  obtain ⟨d', rfl, rfl, hscans'⟩ := h' (joint + byteLength op.symbol.toList)
  have htail := hjoint.append hscans' fun _ _ => trivial
  have hall := hscans.append htail fun tail _ => by
    rw [List.append_assoc]
    exact hends _
  cases op with
  | and => exact ⟨.and d ⟨";", joint⟩ d', Derivation.filter_and .., rfl, hall⟩
  | or => exact ⟨.or d ⟨",", joint⟩ d', Derivation.filter_or .., rfl, hall⟩

end Written

namespace Filter

def partText (outer : Connective) (part : Filter) : List Char :=
  if part.needsGroup outer then '(' :: (part.queryText.toList ++ [')'])
  else part.queryText.toList

theorem partTexts_eq_map (outer : Connective) (parts : List Filter) :
    partTexts outer parts = parts.map fun part => String.ofList (part.partText outer) := by
  induction parts with
  | nil => rfl
  | cons part rest ih =>
    have hpart : (if part.needsGroup outer then "(" ++ queryText part ++ ")" else queryText part) =
        String.ofList (part.partText outer) := by
      unfold partText
      split
      · rw [← String.toList_inj]
        simp
      · simp
    rw [partTexts, ih, hpart, List.map_cons]

/-- The layer in which a filter is written. -/
def layer : Filter → Layer
  | constraint .. => .operand
  | combination op _ => op.chainLayer

private def WrittenPart (outer : Connective) (part : Filter) : Prop :=
  Written outer.partLayer (part.partText outer) part.normal
    (if part.needsGroup outer then part.grouping + 1 else part.grouping)

private theorem writtenPart {part : Filter} (outer : Connective)
    (h : Written part.layer part.queryText.toList part.normal part.grouping) :
    part.WrittenPart outer := by
  unfold WrittenPart partText
  cases part with
  | constraint field op argument => exact h.part outer
  | combination inner parts =>
    split
    case isTrue => exact h.disjunction.group.part outer
    case isFalse hfree =>
      have hlayers : outer = .or ∧ inner = .and := by
        revert hfree
        cases outer <;> cases inner <;> simp [needsGroup] <;> decide
      obtain ⟨rfl, rfl⟩ := hlayers
      exact h

private theorem written_chain {op : Connective} {text : List Char} {filter : Filter}
    {nesting : Nat} {rest : List Filter} (h : Written op.chainLayer text filter nesting)
    (hrest : ∀ part ∈ rest, part.WrittenPart op) :
    Written op.chainLayer (text ++ rest.flatMap fun part => op.symbol.toList ++ part.partText op)
      (foldNormal op filter rest) (max nesting (partsGrouping op rest)) := by
  induction rest generalizing text filter nesting with
  | nil => simpa [foldNormal, partsGrouping] using h
  | cons part rest ih =>
    have hjoin := h.join (hrest part List.mem_cons_self)
    have hall := ih hjoin fun p hp => hrest p (List.mem_cons_of_mem _ hp)
    rw [foldNormal, partsGrouping, ← Nat.max_assoc]
    simpa using hall

private theorem written_combination {op : Connective} {parts : List Filter} (hne : parts ≠ [])
    (h : ∀ part ∈ parts, part.WrittenPart op) :
    Written op.chainLayer (combination op parts).queryText.toList (combination op parts).normal
      (combination op parts).grouping := by
  cases parts with
  | nil => exact absurd rfl hne
  | cons first rest =>
    have hfirst := (h first List.mem_cons_self).chain
    have hall := written_chain hfirst fun p hp => h p (List.mem_cons_of_mem _ hp)
    have htext : (combination op (first :: rest)).queryText.toList =
        first.partText op ++ rest.flatMap fun part => op.symbol.toList ++ part.partText op := by
      rw [queryText, partTexts_eq_map, List.map_cons, toList_intercalate_cons, List.flatMap_map]
      simp
    rw [htext]
    exact hall

/-- A filter is written in its layer as its normal form. -/
theorem IsPrintable.written {filter : Filter} (h : filter.IsPrintable) :
    Written filter.layer filter.queryText.toList filter.normal filter.grouping := by
  induction h with
  | constraint hfield hsuits => exact written_constraint hfield hsuits
  | combination hne _ ih => exact written_combination hne fun part hmem => writtenPart _ (ih part hmem)

end Filter

theorem Written.exists_derivation {layer : Layer} {query : String} {filter : Filter} {nesting : Nat}
    (h : Written layer query.toList filter nesting) :
    ∃ (d : Derivation layer) (last : Token), tokenize query = d.tokens ++ [last] ∧
      last.kind = .endOfInput ∧ d.nesting = nesting ∧ d.filter = filter := by
  obtain ⟨d, hfilter, hnesting, hscans⟩ := h 0
  have hall := hscans [] (by simp [Ends])
  rw [List.append_nil] at hall
  exact ⟨d, _, hall.tokenize_eq, rfl, hnesting, hfilter⟩

/-- The canonical query of a filter is covered by a derivation of its normal form. -/
theorem exists_derivation_queryText {filter : Filter} (h : filter.IsPrintable) :
    ∃ (d : Derivation .disjunction) (last : Token), tokenize filter.queryText = d.tokens ++ [last] ∧
      last.kind = .endOfInput ∧ d.nesting = filter.grouping ∧ d.filter = filter.normal := by
  have hlayer := h.written
  cases filter with
  | constraint => exact hlayer.operand.conjunction.exists_derivation
  | combination op => exact hlayer.disjunction.exists_derivation

end FilterQuery
