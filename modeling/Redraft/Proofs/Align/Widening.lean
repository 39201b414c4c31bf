import Redraft.Proofs.Align.Diagonals
import Redraft.Proofs.Align.Positions

namespace Redraft

namespace Tokens

theorem length_le_agreement {xs ys : Tokens}
    (hsame : xs[agreement xs ys]? = ys[agreement xs ys]?) : xs.length ≤ agreement xs ys := by
  by_contra hinside
  have htoken := List.getElem?_eq_getElem (Nat.lt_of_not_le hinside)
  refine Nat.not_succ_le_self (agreement xs ys) (le_agreement_iff.2 ?_)
  intro k hk
  rcases Nat.lt_succ_iff_lt_or_eq.1 hk with hlt | rfl
  · exact getElem?_of_lt_agreement hlt
  · exact ⟨_, htoken, hsame ▸ htoken⟩

theorem getElem?_of_extract {xs : Tokens} {start stop k : Nat} {token : Token}
    (h : (xs.extract start stop)[k]? = some token) : xs[start + k]? = some token := by
  rw [getElem?_extract] at h
  split at h
  · exact h
  · cases h

theorem mem_extract {xs : Tokens} {start stop k : Nat} {token : Token}
    (hk : k < stop - start) (h : xs[start + k]? = some token) : token ∈ xs.extract start stop := by
  apply List.mem_of_getElem?
  rw [getElem?_extract, if_pos hk, h]

end Tokens

namespace Align

section Stops

variable {xs ys : Tokens} {a b c d i j : Nat}

theorem getElem?_ne_behind (hc : c ≤ xs.length) :
    let shared := Tokens.agreement (xs.extract i c) (ys.extract j d)
    i + shared < c → j + shared < d → xs[i + shared]? ≠ ys[j + shared]? := by
  intro shared hic hjd hsame
  have hstops : (xs.extract i c).length ≤ shared := by
    apply Tokens.length_le_agreement
    rwa [Tokens.getElem?_extract, if_pos (by omega), Tokens.getElem?_extract,
      if_pos (by omega)]
  rw [List.extract_eq_take_drop, List.length_take, List.length_drop] at hstops
  omega

theorem getElem?_ne_in_front (hi : i ≤ xs.length) (hj : j ≤ ys.length) :
    let shared := Tokens.agreement (xs.extract a i).reverse (ys.extract b j).reverse
    a < i - shared → b < j - shared → xs[i - shared - 1]? ≠ ys[j - shared - 1]? := by
  intro shared hia hjb hsame
  have hstops : (xs.extract a i).reverse.length ≤ shared := by
    apply Tokens.length_le_agreement
    rwa [getElem?_reverse_extract hi (by omega), getElem?_reverse_extract hj (by omega),
      Nat.sub_right_comm i, Nat.sub_right_comm j]
  rw [List.length_reverse, List.extract_eq_take_drop, List.length_take,
    List.length_drop] at hstops
  omega

end Stops

namespace Region

structure Within (region : Region) (reference generated : Tokens) : Prop where
  reference_le : region.referenceFrom ≤ region.referenceTo
  referenceTo_le : region.referenceTo ≤ reference.length
  generated_le : region.generatedFrom ≤ region.generatedTo
  generatedTo_le : region.generatedTo ≤ generated.length

/-- The texts differ in front of the block and behind it, unless the region ends there. -/
structure Closed (region : Region) (reference generated : Tokens) (block : Block) : Prop where
  back : region.referenceFrom < block.referenceStart →
    region.generatedFrom < block.generatedStart →
      reference[block.referenceStart - 1]? ≠ generated[block.generatedStart - 1]?
  forth : block.referenceEnd < region.referenceTo → block.generatedEnd < region.generatedTo →
    reference[block.referenceEnd]? ≠ generated[block.generatedEnd]?

section Within

variable {region : Region} {reference generated : Tokens} {block : Block}

theorem Within.contains_emptyBlock (hwithin : region.Within reference generated) :
    region.Contains region.emptyBlock :=
  ⟨Nat.le_refl _, hwithin.reference_le, Nat.le_refl _, hwithin.generated_le⟩

theorem Within.spells_emptyBlock (hwithin : region.Within reference generated) :
    region.emptyBlock.Spells reference generated := by
  refine ⟨Nat.le_trans hwithin.reference_le hwithin.referenceTo_le,
    Nat.le_trans hwithin.generated_le hwithin.generatedTo_le, ?_⟩
  simp [emptyBlock, Block.referenceEnd, Block.generatedEnd, List.extract_eq_take_drop]

theorem Within.closed_widen (hwithin : region.Within reference generated)
    (hblock : region.Contains block) :
    region.Closed reference generated (block.widen reference generated region) := by
  obtain ⟨-, hreference, -, hgenerated⟩ := hwithin
  obtain ⟨-, hre, -, hge⟩ := hblock
  simp only [Block.referenceEnd, Block.generatedEnd] at hre hge
  have hback := agreement_reverse_le reference generated region.referenceFrom
    region.generatedFrom block.referenceStart block.generatedStart
  constructor
  · exact getElem?_ne_in_front (by omega) (by omega)
  · simp only [Block.widen, Block.referenceEnd, Block.generatedEnd]
    -- What is taken in at the front moves the start, but not the end.
    rw [← Nat.add_assoc, ← Nat.add_assoc, Nat.sub_add_cancel (by omega), ← Nat.add_assoc,
      ← Nat.add_assoc, Nat.sub_add_cancel (by omega)]
    exact getElem?_ne_behind hreference

theorem length_le_widen (block : Block) (reference generated : Tokens) (region : Region) :
    block.length ≤ (block.widen reference generated region).length := by
  rw [Block.widen]
  dsimp only
  omega

end Within

end Region

namespace PositionIndex

variable {index : PositionIndex} {reference : Tokens} {region : Region} {limit : Option Nat}

theorem Faithful.length_le_longestRun (h : index.Faithful) {block : Block}
    (hcommon : region.Common reference index.indexed block)
    (hrare : ∀ token ∈ reference.extract block.referenceStart block.referenceEnd,
      ∀ most ∈ limit, index.indexed.count token ≤ most) :
    block.length ≤ (longestRun (index.seeds limit region.generatedFrom region.generatedTo)
      (reference.extract region.referenceFrom region.referenceTo) region.referenceFrom
      region.emptyBlock {}).length := by
  obtain ⟨hfrom, -, hpos, -⟩ := Region.common_iff.1 hcommon
  have hseeded := le_seededRun_iff.1 (h.run_of_common hcommon)
  have hrun : block.length ≤
      seededRun (index.seeds limit region.generatedFrom region.generatedTo)
        (reference.extract region.referenceFrom region.referenceTo)
        (block.referenceStart - region.referenceFrom + block.length)
        (block.generatedStart + block.length) := by
    rw [le_seededRun_iff]
    intro k hk
    obtain ⟨token, hrow, hseed⟩ := hseeded k hk
    refine ⟨token, hrow, h.mem_seeds_of_rare (hrare token ?_) hseed⟩
    have hplace := Tokens.getElem?_of_extract hrow
    rw [← Nat.add_assoc, Nat.add_sub_cancel' hfrom] at hplace
    exact Tokens.mem_extract (by rwa [Block.referenceEnd, Nat.add_sub_cancel_left]) hplace
  have hbest := (h.longestRun_best limit reference region).notAfter_run _ _
    (Nat.add_pos_right _ hpos) (Nat.lt_of_lt_of_le hpos hrun)
  exact Nat.le_trans hrun hbest.length_le

/-- No run without frequent tokens is longer than the block that is found. -/
theorem Faithful.length_le_longest (h : index.Faithful) {block : Block}
    (hcommon : region.Common reference index.indexed block)
    (hrare : ∀ token ∈ reference.extract block.referenceStart block.referenceEnd,
      ∀ most ∈ limit, index.indexed.count token ≤ most) :
    block.length ≤ (index.longest limit reference index.indexed region).length :=
  Nat.le_trans (h.length_le_longestRun hcommon hrare) (Region.length_le_widen _ _ _ _)

theorem Faithful.longest_inside (h : index.Faithful) (limit : Option Nat)
    (hwithin : region.Within reference index.indexed) :
    let block := index.longest limit reference index.indexed region
    region.Contains block ∧ block.Spells reference index.indexed := by
  rcases h.longest_common limit reference region with hempty | hcommon
  · dsimp only
    rw [hempty]
    exact ⟨hwithin.contains_emptyBlock, hwithin.spells_emptyBlock⟩
  · exact ⟨hcommon.inside, hcommon.spells⟩

theorem Faithful.longest_closed (h : index.Faithful) (limit : Option Nat)
    (hwithin : region.Within reference index.indexed) :
    region.Closed reference index.indexed
      (index.longest limit reference index.indexed region) := by
  apply hwithin.closed_widen
  rcases h.longestRun_common limit reference region with hempty | hcommon
  · rw [hempty]
    exact hwithin.contains_emptyBlock
  · exact hcommon.inside

end PositionIndex

/-- Whatever outputs the index has seen before, the search of a region leads to the one longest
common block that is earliest in the reference and then in the output, or to the empty block if
no token is shared. With any limit on how often a token may occur, it leads to equal tokens of
the region that cannot be extended at either end, and that are at least as many as in every
common block whose tokens all keep to the limit. -/
theorem search_by_index_finds_longest {reference generated : Tokens} {region : Region}
    (hwithin : region.Within reference generated) (seen : List Tokens) :
    let index := (seen.foldl PositionIndex.sync .empty).sync generated
    let found := index.longest none reference generated region
    ((region.Longest reference generated found ∧
        ∀ other, region.Longest reference generated other → other = found) ∨
      found = region.emptyBlock ∧ ∀ other, ¬region.Common reference generated other) ∧
      ∀ limit : Option Nat,
        let block := index.longest limit reference generated region
        (region.Contains block ∧ block.Spells reference generated) ∧
          region.Closed reference generated block ∧
            ∀ other, region.Common reference generated other →
              (∀ token ∈ reference.extract other.referenceStart other.referenceEnd,
                ∀ most ∈ limit, generated.count token ≤ most) →
              other.length ≤ block.length := by
  intro index found
  have hfaithful : index.Faithful := (PositionIndex.faithful_empty.foldl_sync seen).sync generated
  have hindexed : index.indexed = generated := PositionIndex.indexed_sync _ _
  have hfirst : region.First reference generated found := by
    have hfirst := hfaithful.longest_first reference region
    rwa [hindexed] at hfirst
  refine ⟨hfirst.longest_or_empty, ?_⟩
  intro limit block
  have hinside := hfaithful.longest_inside limit (hindexed ▸ hwithin)
  have hclosed := hfaithful.longest_closed limit (hindexed ▸ hwithin)
  rw [hindexed] at hinside hclosed
  refine ⟨hinside, hclosed, ?_⟩
  intro other hother hrare
  have hlength := hfaithful.length_le_longest (hindexed ▸ hother) (hindexed ▸ hrare)
  rwa [hindexed] at hlength

/-- The longest run is of a token that occurs three times. If no token may occur more than once,
the two tokens that keep to that are found all the same. -/
theorem search_by_index_finds_longest_of_rare :
    let reference : Tokens := [0, 0, 0, 7, 8]
    let generated : Tokens := [7, 8, 0, 0, 0]
    let region : Region := ⟨0, 5, 0, 5⟩
    let index := ([[7, 0], [5, 5]].foldl PositionIndex.sync .empty).sync generated
    region.Within reference generated ∧
      index.longest none reference generated region = ⟨0, 2, 3⟩ ∧
        region.Closed reference generated (index.longest (some 1) reference generated region) ∧
          2 ≤ (index.longest (some 1) reference generated region).length := by
  intro reference generated region index
  have hwithin : region.Within reference generated :=
    ⟨by decide, by decide, by decide, by decide⟩
  obtain ⟨hfound, hlimited⟩ := search_by_index_finds_longest hwithin [[7, 0], [5, 5]]
  obtain ⟨-, hclosed, hlongest⟩ := hlimited (some 1)
  have hrun : region.Longest reference generated ⟨0, 2, 3⟩ := by
    have hfirst := longestOnDiagonals_first reference generated region
    rw [show longestOnDiagonals reference generated region = ⟨0, 2, 3⟩ by decide] at hfirst
    exact hfirst.longest (by decide)
  have hrare : region.Common reference generated ⟨3, 0, 2⟩ :=
    ⟨by decide, by decide, by decide⟩
  rcases hfound with ⟨-, hunique⟩ | ⟨-, hnothing⟩
  · exact ⟨hwithin, (hunique _ hrun).symm, hclosed, hlongest _ hrare (by decide)⟩
  · exact absurd hrun.common (hnothing _)

end Align

end Redraft
