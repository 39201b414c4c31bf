import Redraft.Proofs.Align.Finders

namespace Redraft

namespace Tokens

theorem extract_extract {xs : Tokens} {start stop a b : Nat} (h : start + b ≤ stop) :
    (xs.extract start stop).extract a b = xs.extract (start + a) (start + b) := by
  apply List.ext_getElem?
  intro k
  simp only [getElem?_extract, Nat.add_sub_add_left, Nat.add_assoc]
  by_cases hk : k < b - a
  · rw [if_pos hk, if_pos hk, if_pos (by omega)]
  · rw [if_neg hk, if_neg hk]

theorem extract_drop (xs : Tokens) (start a b : Nat) :
    (xs.drop start).extract a b = xs.extract (start + a) (start + b) := by
  simp only [List.extract_eq_take_drop, List.drop_drop, Nat.add_sub_add_left]

theorem extract_to_end {xs : Tokens} {start stop : Nat} (h : xs.length ≤ stop) :
    xs.extract start stop = xs.drop start := by
  rw [List.extract_eq_take_drop, List.take_of_length_le]
  rw [List.length_drop]
  omega

theorem take_drop_eq_extract (xs : Tokens) (start count : Nat) :
    (xs.drop start).take count = xs.extract start (min (start + count) xs.length) := by
  rw [List.extract_eq_take_drop]
  apply List.ext_getElem?
  intro k
  simp only [List.getElem?_take, List.getElem?_drop]
  by_cases hk : start + k < xs.length
  · by_cases hcount : k < count
    · rw [if_pos hcount, if_pos (by omega)]
    · rw [if_neg hcount, if_neg (by omega)]
  · rw [List.getElem?_eq_none (Nat.le_of_not_lt hk), ite_self, ite_self]

end Tokens

namespace Align

structure Block.IsCopy (block : Block) (reference generated : Tokens) : Prop where
  nonempty : 0 < block.length
  spells : block.Spells reference generated

theorem Block.IsCopy.inRange {block : Block} {reference generated : Tokens}
    (hcopy : block.IsCopy reference generated) :
    block.inRange reference generated = .ok block := by
  obtain ⟨-, hreference, hgenerated, -⟩ := hcopy
  rw [Block.inRange, if_neg]
  omega

theorem Block.of_inRange {block kept : Block} {reference generated : Tokens}
    (hrange : block.inRange reference generated = .ok kept) :
    kept = block ∧ kept.referenceEnd ≤ reference.length := by
  rw [Block.inRange] at hrange
  split at hrange
  · cases hrange
  · obtain rfl := Except.ok.inj hrange
    exact ⟨rfl, by omega⟩

theorem Block.IsCopy.asked {block : Block} {reference generated : Tokens}
    (hcopy : block.IsCopy reference generated) {maxLength : Nat} (hmax : 1 ≤ maxLength) :
    ¬(reference.isEmpty || maxLength == 0) = true ∧ ¬generated.isEmpty = true := by
  have hpos := hcopy.nonempty
  obtain ⟨hreference, hgenerated, -⟩ := hcopy.spells
  rw [referenceEnd] at hreference
  rw [generatedEnd] at hgenerated
  simp only [Bool.or_eq_true, List.isEmpty_iff_length_eq_zero, beq_iff_eq]
  omega

theorem Block.IsCopy.toAbsolute {block : Block} {plan : Window.Plan}
    {reference generated : Tokens}
    (hcopy : block.IsCopy (plan.referenceSlice reference) (plan.generatedSlice generated)) :
    (block.toAbsolute plan).IsCopy reference generated := by
  obtain ⟨hnonempty, hreference, hgenerated, hsame⟩ := hcopy
  simp only [Window.Plan.referenceSlice, Window.Plan.generatedSlice, referenceEnd,
    generatedEnd, List.extract_eq_take_drop, List.length_take, List.length_drop]
    at hreference hgenerated
  have hend : plan.referenceStart + block.referenceEnd ≤ plan.referenceEnd := by
    rw [referenceEnd]
    omega
  have hleft : (block.toAbsolute plan).referenceEnd =
      plan.referenceStart + block.referenceEnd := by
    simp only [Block.toAbsolute, referenceEnd]
    omega
  have hright : (block.toAbsolute plan).generatedEnd =
      plan.generatedStart + block.generatedEnd := by
    simp only [Block.toAbsolute, generatedEnd]
    omega
  rw [Window.Plan.referenceSlice, Window.Plan.generatedSlice, Tokens.extract_extract hend,
    Tokens.extract_drop] at hsame
  refine ⟨hnonempty, ?_, ?_, ?_⟩
  · rw [hleft, referenceEnd]
    omega
  · rw [hright, generatedEnd]
    omega
  · rw [hleft, hright]
    simp only [Block.toAbsolute]
    rw [Nat.add_comm block.referenceStart, Nat.add_comm block.generatedStart]
    exact hsame

/-- What is found in a region that runs to the end of both texts is a copy. -/
def FindsCopies (longest : Tokens → Tokens → Region → Block) : Prop :=
  ∀ (reference generated : Tokens) i j,
    let block := longest reference generated ⟨i, reference.length, j, generated.length⟩
    block.length = 0 ∨ block.IsCopy reference generated

theorem Region.Common.isCopy {region : Region} {reference generated : Tokens}
    {block : Block} (hcommon : region.Common reference generated block) :
    block.IsCopy reference generated :=
  ⟨hcommon.nonempty, hcommon.spells⟩

theorem findsCopies_longestOnDiagonals : FindsCopies longestOnDiagonals := by
  intro reference generated i j
  rcases (longestOnDiagonals_first reference generated
    ⟨i, reference.length, j, generated.length⟩).common with hempty | hcommon
  · refine .inl ?_
    rw [hempty, Region.length_emptyBlock]
  · exact .inr hcommon.isCopy

/-- Excluding frequent tokens makes blocks shorter or other ones, but never wrong. -/
theorem findsCopies_longestByIndex (autojunk : Bool) :
    FindsCopies (longestByIndex autojunk) := by
  intro reference generated i j
  have hcommon := (PositionIndex.faithful_empty.sync generated).longest_common
    ((PositionIndex.empty.sync generated).popularLimit autojunk) reference
    ⟨i, reference.length, j, generated.length⟩
  rw [PositionIndex.indexed_sync] at hcommon
  exact hcommon.imp (congrArg Block.length) Region.Common.isCopy

section Copies

variable {longest : Tokens → Tokens → Region → Block} {reference generated : Tokens}

theorem FindsCopies.lastBlockFrom (hfinds : FindsCopies longest)
    (referenceFrom generatedFrom : Nat) {last : Option Block}
    (hlast : ∀ block, last = some block → block.IsCopy reference generated) (block : Block)
    (hblock : lastBlockFrom (longest reference generated) reference.length generated.length
      referenceFrom generatedFrom last = some block) :
    block.IsCopy reference generated := by
  fun_induction Align.lastBlockFrom (longest reference generated) reference.length
    generated.length referenceFrom generatedFrom last with
  | case1 referenceFrom generatedFrom last hinside found honward ih =>
      apply ih _ hblock
      intro other hother
      obtain rfl := Option.some.inj hother
      exact (hfinds reference generated referenceFrom generatedFrom).resolve_left honward.1
  | case2 referenceFrom generatedFrom last hinside found hstuck => exact hlast block hblock
  | case3 referenceFrom generatedFrom last houtside => exact hlast block hblock

theorem FindsCopies.windowedLastBlock (hfinds : FindsCopies longest)
    {settings : MatchSettings} {block : Block}
    (hblock : windowedLastBlock longest reference settings generated = some block) :
    block.IsCopy reference generated := by
  obtain ⟨kept, hkept, rfl⟩ := Option.map_eq_some_iff.1 hblock
  apply Block.IsCopy.toAbsolute
  apply hfinds.lastBlockFrom 0 0 _ kept hkept
  intro _ hnone
  cases hnone

end Copies

/-- The `length` reference tokens in front of `place` are the last of the output, and they
are enough for a draft. -/
structure CopiedTail (reference : Tokens) (settings : MatchSettings) (generated : Tokens)
    (place length : Nat) : Prop where
  nonempty : 0 < length
  length_le_place : length ≤ place
  place_le : place ≤ reference.length
  length_le : length ≤ generated.length
  copied : reference.extract (place - length) place =
    generated.drop (generated.length - length)
  enough : settings.minTailMatch ≤ length ∨ length = generated.length

theorem Block.IsCopy.copiedTail {block : Block} {reference generated : Tokens}
    {settings : MatchSettings} (hcopy : block.IsCopy reference generated)
    (hend : block.generatedEnd = generated.length)
    (henough : ¬(block.length < settings.minTailMatch ∧ block.generatedStart ≠ 0)) :
    CopiedTail reference settings generated block.referenceEnd block.length := by
  obtain ⟨hnonempty, hreference, -, hsame⟩ := hcopy
  have hstart : generated.length - block.length = block.generatedStart := by
    rw [← hend, generatedEnd, Nat.add_sub_cancel]
  refine ⟨hnonempty, Nat.le_add_left _ _, hreference, ?_, ?_, ?_⟩
  · rw [← hend]
    exact Nat.le_add_left _ _
  · rw [hstart, referenceEnd, Nat.add_sub_cancel, ← referenceEnd, hsame, hend,
      Tokens.extract_to_end (Nat.le_refl _)]
  · rw [← hend, generatedEnd]
    omega

/-- A rule that answers copies drafts nothing, or at every length what stands behind one and
the same copied tail. -/
theorem chunkBy_copiedTail {rule : Tokens → Option Block} {reference generated : Tokens}
    (settings : MatchSettings)
    (hcopies : ∀ block, rule generated = some block → block.IsCopy reference generated)
    (hgenerated : generated ≠ []) :
    (∀ maxLength, chunkBy rule reference settings generated maxLength = []) ∨
      ∃ place length, CopiedTail reference settings generated place length ∧
        ∀ maxLength, 1 ≤ maxLength →
          chunkBy rule reference settings generated maxLength =
            reference.extract place (min (place + maxLength) reference.length) := by
  have hasks : generated.isEmpty = false := by simpa using hgenerated
  simp only [chunkBy, hasks, Bool.false_eq_true, if_false]
  cases hrule : rule generated with
  | none => exact .inl fun maxLength => ite_self _
  | some block =>
      have hcopy := hcopies block hrule
      dsimp only
      rw [hcopy.inRange]
      dsimp only [continuation]
      by_cases hend : block.generatedEnd = generated.length
      · by_cases hshort : block.length < settings.minTailMatch ∧ block.generatedStart ≠ 0
        · refine .inl fun maxLength => ?_
          rw [if_neg (not_not_intro hend), if_pos hshort, ite_self]
        · refine .inr ⟨block.referenceEnd, block.length, hcopy.copiedTail hend hshort, ?_⟩
          intro maxLength hmax
          rw [if_neg (hcopy.asked hmax).1, if_neg (not_not_intro hend), if_neg hshort,
            Tokens.take_drop_eq_extract]
      · refine .inl fun maxLength => ?_
        rw [if_pos hend, ite_self]

end Align

end Redraft
