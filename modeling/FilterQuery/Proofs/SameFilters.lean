import FilterQuery.Proofs.CanonicalRoundTrip

/-!
# Same filters

Filters are compared by their structure and floats as numbers, so the two zeros are the same, though
they are written differently.  The canonical query of a filter tells it to the last bit: equal texts
belong to identical filters.  With every zero made positive, the text tells no more than the
comparison does: two filters are the same exactly if they have the same text then.
-/

namespace FilterQuery

/-! ## Changed values -/

/-- A change of values after which each still fits where it stood. -/
structure KeepsFit (f : Value → Value) : Prop where
  writable : ∀ value, value.IsWritable → (f value).IsWritable
  orderable : ∀ value, (f value).isOrderable = value.isOrderable

/-- Whether values that can be written are compared by what they are changed to. -/
def ComparesBy (f : Value → Value) : Prop :=
  ∀ value other : Value, value.IsWritable → (value.same other = true ↔ f value = f other)

variable {f : Value → Value}

namespace Argument

def mapValues (f : Value → Value) : Argument → Argument
  | one value => one (f value)
  | list values => list (values.map f)

theorem Suits.mapValues {op : Comparison} {argument : Argument} (hf : KeepsFit f)
    (h : argument.Suits op) : (argument.mapValues f).Suits op := by
  cases h with
  | any hequal hwritable => exact .any hequal (hf.writable _ hwritable)
  | ordered hordering hordered hwritable =>
    refine .ordered hordering ?_ (hf.writable _ hwritable)
    rw [hf.orderable]
    exact hordered
  | list hmember hne hordered hwritable =>
    refine .list hmember ?_ ?_ ?_
    · rwa [ne_eq, List.map_eq_nil_iff]
    · intro changed hchanged
      obtain ⟨value, hmem, rfl⟩ := List.mem_map.mp hchanged
      rw [hf.orderable]
      exact hordered value hmem
    · intro changed hchanged
      obtain ⟨value, hmem, rfl⟩ := List.mem_map.mp hchanged
      exact hf.writable value (hwritable value hmem)

theorem sameValues_iff (hf : ComparesBy f) {values : List Value}
    (h : ∀ value ∈ values, value.IsWritable) (others : List Value) :
    sameValues values others = true ↔ values.map f = others.map f := by
  induction values generalizing others with
  | nil => cases others <;> simp [sameValues]
  | cons value values ih =>
    cases others with
    | nil => simp [sameValues]
    | cons other others =>
      have hvalue := hf value other (h value List.mem_cons_self)
      have hvalues := ih (fun v hmem => h v (List.mem_cons_of_mem _ hmem)) others
      rw [sameValues, Bool.and_eq_true, hvalue, hvalues, List.map_cons, List.map_cons,
        List.cons.injEq]

theorem Suits.same_iff {op : Comparison} {argument : Argument} (hf : ComparesBy f)
    (h : argument.Suits op) (other : Argument) :
    argument.same other = true ↔ argument.mapValues f = other.mapValues f := by
  cases h with
  | any _ hwritable | ordered _ _ hwritable =>
    cases other with
    | one other => simpa [same, Argument.mapValues] using hf _ other hwritable
    | list others => simp [same, Argument.mapValues]
  | list _ _ _ hwritable =>
    cases other with
    | one other => simp [same, Argument.mapValues]
    | list others => simpa [same, Argument.mapValues] using sameValues_iff hf hwritable others

end Argument

namespace Filter

mutual

def mapValues (f : Value → Value) : Filter → Filter
  | constraint field op argument => constraint field op (argument.mapValues f)
  | combination op parts => combination op (mapPartValues f parts)

def mapPartValues (f : Value → Value) : List Filter → List Filter
  | [] => []
  | part :: rest => mapValues f part :: mapPartValues f rest

end

theorem mapPartValues_eq (f : Value → Value) (parts : List Filter) :
    mapPartValues f parts = parts.map (mapValues f) := by
  induction parts with
  | nil => rfl
  | cons part rest ih => rw [mapPartValues, ih, List.map_cons]

@[simp] theorem isUnder_mapValues (f : Value → Value) (op : Connective) (filter : Filter) :
    (filter.mapValues f).isUnder op = filter.isUnder op := by
  cases filter <;> rfl

variable {filter : Filter}

theorem IsCanonical.mapValues (h : filter.IsCanonical) (hf : KeepsFit f) :
    (filter.mapValues f).IsCanonical := by
  induction h with
  | constraint hfield hsuits => exact .constraint hfield (hsuits.mapValues hf)
  | @combination op parts htwo _ hmixed ih =>
    rw [Filter.mapValues, mapPartValues_eq]
    refine .combination ?_ ?_ ?_
    · rwa [List.length_map]
    · intro changed hchanged
      obtain ⟨part, hmem, rfl⟩ := List.mem_map.mp hchanged
      exact ih part hmem
    · intro inner hinner
      obtain ⟨part, hmem, hpart⟩ := List.mem_map.mp hinner
      have hunder : (part.mapValues f).isUnder op = true := isUnder_iff.mpr ⟨inner, hpart⟩
      rw [isUnder_mapValues] at hunder
      obtain ⟨parts', rfl⟩ := isUnder_iff.mp hunder
      exact hmixed parts' hmem

private theorem partsAlternations_mapPartValues {parts : List Filter} (op : Connective)
    (h : ∀ part ∈ parts, (part.mapValues f).alternations = part.alternations) :
    partsAlternations op (mapPartValues f parts) = partsAlternations op parts := by
  induction parts with
  | nil => rfl
  | cons part rest ih =>
    rw [mapPartValues, partsAlternations, partsAlternations, h part List.mem_cons_self,
      ih fun p hmem => h p (List.mem_cons_of_mem _ hmem), isUnder_mapValues]

theorem IsCanonical.alternations_mapValues (h : filter.IsCanonical) (f : Value → Value) :
    (filter.mapValues f).alternations = filter.alternations := by
  induction h with
  | constraint => rfl
  | combination _ _ _ ih => exact partsAlternations_mapPartValues _ ih

private theorem sameParts_iff {parts : List Filter}
    (h : ∀ part ∈ parts, ∀ other, part.same other = true ↔ part.mapValues f = other.mapValues f)
    (others : List Filter) :
    sameParts parts others = true ↔ mapPartValues f parts = mapPartValues f others := by
  induction parts generalizing others with
  | nil => cases others <;> simp [sameParts, mapPartValues]
  | cons part rest ih =>
    cases others with
    | nil => simp [sameParts, mapPartValues]
    | cons other others =>
      have hrest := ih (fun p hmem => h p (List.mem_cons_of_mem _ hmem)) others
      rw [sameParts, Bool.and_eq_true, h part List.mem_cons_self other, hrest, mapPartValues,
        mapPartValues, List.cons.injEq]

/-- Where values are compared by what they are changed to, so are filters. -/
theorem IsCanonical.same_iff (h : filter.IsCanonical) (hf : ComparesBy f) (other : Filter) :
    filter.same other = true ↔ filter.mapValues f = other.mapValues f := by
  induction h generalizing other with
  | constraint _ hsuits =>
    cases other with
    | constraint => simp [same, Filter.mapValues, hsuits.same_iff hf, and_assoc]
    | combination => simp [same, Filter.mapValues]
  | combination _ _ _ ih =>
    cases other with
    | constraint => simp [same, Filter.mapValues]
    | combination op parts =>
      have hparts := sameParts_iff ih parts
      simp [same, Filter.mapValues, hparts]

end Filter

/-! ## Positive zeros -/

namespace Binary64

/-- The same number, with a positive sign if it is zero. -/
def withPositiveZero (x : Binary64) : Binary64 :=
  { x with negative := x.negative && decide (x.magnitude ≠ 0) }

theorem isNaN_of_isFinite {x : Binary64} (h : x.isFinite = true) : x.isNaN = false := by
  simp only [isFinite, isNaN, decide_eq_true_eq, decide_eq_false_iff_not] at h ⊢
  omega

theorem equals_iff {x : Binary64} (h : x.isNaN = false) (y : Binary64) :
    x.equals y = true ↔ x.withPositiveZero = y.withPositiveZero := by
  obtain ⟨negative, magnitude, hlt⟩ := x
  obtain ⟨negative', magnitude', hlt'⟩ := y
  simp only [equals, withPositiveZero, h, mk.injEq, Bool.not_false, Bool.true_and,
    Bool.and_eq_true, decide_eq_true_eq, Bool.not_eq_true']
  simp only [isNaN, decide_eq_false_iff_not] at h ⊢
  constructor
  · rintro ⟨-, ⟨rfl, rfl⟩ | ⟨rfl, rfl⟩⟩
    · exact ⟨rfl, rfl⟩
    · simp
  · rintro ⟨hsign, rfl⟩
    refine ⟨h, ?_⟩
    by_cases hzero : magnitude = 0
    · exact .inr ⟨hzero, hzero⟩
    · simp only [ne_eq, hzero, not_false_eq_true, decide_true, Bool.and_true] at hsign
      exact .inl ⟨hsign, rfl⟩

end Binary64

namespace Value

def withPositiveZero : Value → Value
  | float x => float x.withPositiveZero
  | value => value

theorem keepsFit_withPositiveZero : KeepsFit withPositiveZero where
  writable value h := by
    cases value with
    | string | float => exact h
    | integer | boolean | null => trivial
  orderable value := by cases value <;> rfl

theorem comparesBy_withPositiveZero : ComparesBy withPositiveZero := by
  intro value other h
  cases value with
  | float x =>
    cases other with
    | float y =>
      have hnumber := Binary64.isNaN_of_isFinite h
      rw [same, withPositiveZero, withPositiveZero, float.injEq, Binary64.equals_iff hnumber]
    | _ => simp [same, withPositiveZero]
  | _ => cases other <;> simp [same, withPositiveZero]

end Value

/-- The same filter, with a positive sign at every zero among its floats. -/
def Filter.withPositiveZeros (filter : Filter) : Filter :=
  filter.mapValues Value.withPositiveZero

/-! ## Canonical queries -/

/-- The canonical queries of two filters that are read are equal only if the filters are
identical. -/
theorem Filter.queryText_inj {x y : Filter} (hx : x.IsCanonical) (hy : y.IsCanonical)
    (hxnesting : x.alternations ≤ maxNesting) (hynesting : y.alternations ≤ maxNesting)
    (h : x.queryText = y.queryText) : x = y := by
  have hread := parse_queryText_of_isCanonical hx hxnesting
  rw [h, parse_queryText_of_isCanonical hy hynesting] at hread
  exact (Except.ok.inj hread).symm

/-- Two filters that are read from queries are the same exactly if their canonical queries are,
with every zero made positive; and the canonical queries are equal as they stand exactly if the
filters are identical, down to the signs of zeros. -/
theorem sameFilters_iff_queryText_eq {query query' : String} {x y : Filter}
    (h : parse query = .ok x) (h' : parse query' = .ok y) :
    (sameFilters (some x) (some y) = true ↔
      x.withPositiveZeros.queryText = y.withPositiveZeros.queryText) ∧
    (x.queryText = y.queryText ↔ x = y) ∧
    (x.queryText = y.queryText → sameFilters (some x) (some y) = true) := by
  obtain ⟨hx, hxnesting⟩ := isCanonical_of_parse h
  obtain ⟨hy, hynesting⟩ := isCanonical_of_parse h'
  have hsame : sameFilters (some x) (some y) = true ↔ x.withPositiveZeros = y.withPositiveZeros :=
    hx.same_iff Value.comparesBy_withPositiveZero y
  have htext : x.queryText = y.queryText → x = y := Filter.queryText_inj hx hy hxnesting hynesting
  refine ⟨⟨fun heq => ?_, fun heq => ?_⟩, ⟨htext, fun heq => ?_⟩, fun heq => ?_⟩
  · rw [hsame.mp heq]
  · have hkeeps := Value.keepsFit_withPositiveZero
    rw [← hx.alternations_mapValues Value.withPositiveZero] at hxnesting
    rw [← hy.alternations_mapValues Value.withPositiveZero] at hynesting
    exact hsame.mpr (Filter.queryText_inj (hx.mapValues hkeeps) (hy.mapValues hkeeps) hxnesting
      hynesting heq)
  · rw [heq]
  · rw [hsame, htext heq]

theorem sameFilters_of_queryText_ne :
    ∃ x y, parse "a==0.0;b=in=(1,-0.0)" = .ok x ∧ parse "a=eq=-0.0 ; b=in=(1, 0e5)" = .ok y ∧
      x.queryText ≠ y.queryText ∧ sameFilters (some x) (some y) = true := by
  let filter (first second : Bool) := Filter.combination .and
    [.constraint "a" .equal (.one (.float ⟨first, 0, by decide⟩)),
      .constraint "b" .within (.list [.integer 1, .float ⟨second, 0, by decide⟩])]
  have h : parse "a==0.0;b=in=(1,-0.0)" = .ok (filter false true) :=
    parse_eq_ok_of_toOption (by decide +kernel)
  have h' : parse "a=eq=-0.0 ; b=in=(1, 0e5)" = .ok (filter true false) :=
    parse_eq_ok_of_toOption (by decide +kernel)
  have htext : (filter false true).withPositiveZeros.queryText =
      (filter true false).withPositiveZeros.queryText := by decide +kernel
  exact ⟨_, _, h, h', by decide +kernel, (sameFilters_iff_queryText_eq h h').1.mpr htext⟩

/-- As they stand, the canonical queries of two filters that are the same need not be equal: the
zeros are written with their signs. -/
theorem not_sameFilters_iff_queryText_eq :
    ∃ x y, parse "a==0.0" = .ok x ∧ parse "a==-0.0" = .ok y ∧
      ¬ (sameFilters (some x) (some y) = true ↔ x.queryText = y.queryText) := by
  let filter (negative : Bool) :=
    Filter.constraint "a" .equal (.one (.float ⟨negative, 0, by decide⟩))
  have h : parse "a==0.0" = .ok (filter false) := parse_eq_ok_of_toOption (by decide +kernel)
  have h' : parse "a==-0.0" = .ok (filter true) := parse_eq_ok_of_toOption (by decide +kernel)
  have hsame : sameFilters (some (filter false)) (some (filter true)) = true := by decide +kernel
  have htext : (filter false).queryText ≠ (filter true).queryText := by decide +kernel
  exact ⟨_, _, h, h', fun hiff => htext (hiff.mp hsame)⟩

end FilterQuery
