import FilterQuery.TokenGroups

/-!
# Group members

A group of token kinds is a set.  The kinds have different numbers, all below the width of a word,
so each has a bit that no other kind has, and the bits of a group are those of its kinds.  How a
list of kinds is ordered, and how often it names a kind, makes no difference to its group.
-/

namespace FilterQuery

namespace TokenKind

theorem index_lt (kind : TokenKind) : kind.index < 32 := by
  obtain ⟨hlt, -⟩ := List.getElem?_eq_some_iff.mp kind.getElem?_all_index
  exact Nat.lt_of_lt_of_le hlt (by decide)

theorem index_inj {kind kind' : TokenKind} (h : kind.index = kind'.index) : kind = kind' := by
  have hkind := kind.getElem?_all_index
  rw [h, kind'.getElem?_all_index] at hkind
  exact (Option.some.inj hkind).symm

theorem testBit_bit (kind : TokenKind) (i : Nat) :
    kind.bit.toNat.testBit i = decide (kind.index = i) := by
  have hindex := kind.index_lt
  have hamount : (UInt32.ofNat kind.index).toNat % 32 = kind.index := by
    rw [UInt32.toNat_ofNat']
    omega
  have hword : kind.bit.toNat = 1 <<< kind.index := by
    rw [bit, UInt32.toNat_shiftLeft, hamount, UInt32.toNat_one, Nat.one_shiftLeft]
    exact Nat.mod_eq_of_lt (Nat.pow_lt_pow_right (by decide) hindex)
  rw [hword, Nat.one_shiftLeft, Nat.testBit_two_pow]

end TokenKind

namespace TokenGroup

private theorem testBit_foldl (word : UInt32) (kinds : List TokenKind) (i : Nat) :
    (kinds.foldl (fun bits kind => bits ||| kind.bit) word).toNat.testBit i =
      (word.toNat.testBit i || kinds.any fun kind => decide (kind.index = i)) := by
  induction kinds generalizing word with
  | nil => simp
  | cons kind kinds ih =>
    rw [List.foldl_cons, ih, UInt32.toNat_or, Nat.testBit_or, TokenKind.testBit_bit, List.any_cons,
      Bool.or_assoc]

theorem testBit_ofKinds {kinds : List TokenKind} {i : Nat} :
    (ofKinds kinds).bits.toNat.testBit i = true ↔ ∃ kind ∈ kinds, kind.index = i := by
  rw [ofKinds, testBit_foldl]
  simp

theorem includes_iff {group : TokenGroup} {kind : TokenKind} :
    group.includes kind = true ↔ group.bits.toNat.testBit kind.index = true := by
  rw [includes, bne_iff_ne, ne_eq, ← UInt32.toNat_inj, UInt32.toNat_and, UInt32.toNat_zero]
  constructor
  · intro hne
    obtain ⟨i, hi⟩ := Nat.exists_testBit_of_ne_zero hne
    rw [Nat.testBit_and, TokenKind.testBit_bit, Bool.and_eq_true, decide_eq_true_eq] at hi
    rw [hi.1]
    exact hi.2
  · intro hbit hzero
    have hboth := congrArg (Nat.testBit · kind.index) hzero
    simp [TokenKind.testBit_bit, hbit] at hboth

theorem includes_ofKinds_iff {kinds : List TokenKind} {kind : TokenKind} :
    (ofKinds kinds).includes kind = true ↔ kind ∈ kinds := by
  rw [includes_iff, testBit_ofKinds]
  constructor
  · rintro ⟨member, hmem, hindex⟩
    rwa [← TokenKind.index_inj hindex]
  · intro hmem
    exact ⟨kind, hmem, rfl⟩

theorem ofKinds_eq_of_mem_iff {kinds kinds' : List TokenKind}
    (h : ∀ kind, kind ∈ kinds ↔ kind ∈ kinds') : ofKinds kinds = ofKinds kinds' := by
  have hbits : (ofKinds kinds).bits.toNat = (ofKinds kinds').bits.toNat := by
    refine Nat.eq_of_testBit_eq fun i => Bool.eq_iff_iff.mpr ?_
    rw [testBit_ofKinds, testBit_ofKinds]
    simp only [h]
  exact congrArg mk (UInt32.toNat_inj.mp hbits)

/-- The group of a list of kinds is the set of the kinds in the list: a kind belongs to it exactly
if it is in the list, and two lists have the same bits exactly if the same kinds are in them. -/
theorem ofKinds_is_set_of_kinds (kinds kinds' : List TokenKind) (kind : TokenKind) :
    ((ofKinds kinds).includes kind = true ↔ kind ∈ kinds) ∧
    ((ofKinds kinds).bits = (ofKinds kinds').bits ↔ ∀ member, member ∈ kinds ↔ member ∈ kinds') := by
  refine ⟨includes_ofKinds_iff, fun hbits member => ?_, fun h => ?_⟩
  · have hgroups : ofKinds kinds = ofKinds kinds' := congrArg mk hbits
    rw [← includes_ofKinds_iff, hgroups, includes_ofKinds_iff]
  · rw [ofKinds_eq_of_mem_iff h]

/-- The named groups of kinds are what readers ask of a token: whether it is a comparison, a
connective or a literal. -/
theorem includes_named_iff (kind : TokenKind) :
    (comparison.includes kind = true ↔ ∃ op, kind = .comparison op) ∧
    (logical.includes kind = true ↔ ∃ op, kind = .connective op) ∧
    (argument.includes kind = true ↔ ∃ cls, kind = .literal cls) := by
  refine ⟨?_, ?_, ?_⟩
  · rw [comparison, includes_ofKinds_iff]
    cases kind <;> simp [Comparison.mem_all]
  · rw [logical, includes_ofKinds_iff]
    cases kind with
    | connective op => cases op <;> simp
    | _ => simp
  · rw [argument, includes_ofKinds_iff]
    cases kind with
    | literal cls =>
      cases cls with
      | boolean b => cases b <;> simp
      | _ => simp
    | _ => simp

theorem includes_named_comparison_iff (op : Comparison) :
    (membership.includes (.comparison op) = true ↔ op.isMembership = true) ∧
    (equality.includes (.comparison op) = true ↔
      op.isMembership = true ∨ op.isEquality = true) ∧
    (relation.includes (.comparison op) = true ↔
      op.isMembership = false ∧ op.isEquality = false) := by
  rw [membership, equality, relation, includes_ofKinds_iff, includes_ofKinds_iff,
    includes_ofKinds_iff]
  cases op <;> simp [Comparison.isMembership, Comparison.isEquality]

end TokenGroup

end FilterQuery
