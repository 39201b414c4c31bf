import Mathlib.Data.Nat.Find
import Redraft.Proofs.Align.Copies

namespace Redraft

namespace Tokens

/-- Apart from tokens that are not in the reference, the output goes through the reference
from left to right. -/
def IsEditOf (generated reference : Tokens) : Prop :=
  (generated.filterMap (reference.idxOf? ·)).Pairwise (· < ·)

instance (generated reference : Tokens) : Decidable (generated.IsEditOf reference) :=
  inferInstanceAs (Decidable (List.Pairwise _ _))

theorem idxOf?_of_nodup {reference : Tokens} (hdistinct : reference.Nodup) {i : Nat}
    {token : Token} (hget : reference[i]? = some token) :
    reference.idxOf? token = some i := by
  obtain ⟨hi, rfl⟩ := List.getElem?_eq_some_iff.1 hget
  rw [List.idxOf?_eq_some_iff]
  refine ⟨hi, rfl, ?_⟩
  intro j hj heq
  exact absurd ((List.getElem_inj hdistinct).1 heq) (Nat.ne_of_lt hj)

section IsEditOf

variable {generated reference : Tokens} {i j p q : Nat} {a b : Token}

theorem IsEditOf.lt (hedit : generated.IsEditOf reference) (hdistinct : reference.Nodup)
    (hij : i < j) (hi : generated[i]? = some a) (hp : reference[p]? = some a)
    (hj : generated[j]? = some b) (hq : reference[q]? = some b) : p < q := by
  obtain ⟨hilt, rfl⟩ := List.getElem?_eq_some_iff.1 hi
  obtain ⟨hjlt, rfl⟩ := List.getElem?_eq_some_iff.1 hj
  rw [IsEditOf, List.pairwise_filterMap, List.pairwise_iff_getElem] at hedit
  exact hedit i j hilt hjlt hij p (idxOf?_of_nodup hdistinct hp) q
    (idxOf?_of_nodup hdistinct hq)

theorem IsEditOf.length_places_le (hedit : generated.IsEditOf reference)
    (hdistinct : reference.Nodup) {token : Token} (htoken : token ∈ reference) :
    (Align.PositionIndex.places token generated).length ≤ 1 := by
  obtain ⟨p, hp⟩ := List.mem_iff_getElem?.1 htoken
  have hplace (i : Nat) (hi : i ∈ Align.PositionIndex.places token generated) :
      generated[i]? = some token := Align.PositionIndex.mem_places.1 hi
  have hsorted := Align.PositionIndex.places_sorted token generated
  generalize Align.PositionIndex.places token generated = places at hplace hsorted
  match places, hsorted with
  | [], _ => exact Nat.zero_le 1
  | [_], _ => exact Nat.le_refl 1
  | i :: j :: places, hsorted =>
      have hi := hplace i List.mem_cons_self
      have hj := hplace j (List.mem_cons_of_mem _ List.mem_cons_self)
      have hij := List.rel_of_pairwise_cons hsorted List.mem_cons_self
      exact absurd (hedit.lt hdistinct hij hi hp hj hp) (Nat.lt_irrefl p)

end IsEditOf

end Tokens

namespace Align

section Spells

variable {reference generated : Tokens} {block other tail : Block}

theorem Block.spells_iff :
    block.Spells reference generated ↔
      block.referenceEnd ≤ reference.length ∧ block.generatedEnd ≤ generated.length ∧
        ∀ k < block.length,
          reference[block.referenceStart + k]? = generated[block.generatedStart + k]? := by
  refine and_congr_right fun _ => and_congr_right fun _ => ?_
  simp only [referenceEnd, generatedEnd]
  constructor
  · intro hsame k hk
    have hget := congrArg (·[k]?) hsame
    simpa only [Tokens.getElem?_extract, Nat.add_sub_cancel_left, if_pos hk] using hget
  · intro hsame
    apply List.ext_getElem?
    intro k
    simp only [Tokens.getElem?_extract, Nat.add_sub_cancel_left]
    by_cases hk : k < block.length
    · rw [if_pos hk, if_pos hk, hsame k hk]
    · rw [if_neg hk, if_neg hk]

theorem Block.Spells.shared (hspells : block.Spells reference generated) {k : Nat}
    (hk : k < block.length) :
    ∃ token, reference[block.referenceStart + k]? = some token ∧
      generated[block.generatedStart + k]? = some token := by
  obtain ⟨hreference, -, hsame⟩ := Block.spells_iff.1 hspells
  have hin : block.referenceStart + k < reference.length := by
    rw [Block.referenceEnd] at hreference
    omega
  have hget := List.getElem?_eq_getElem hin
  exact ⟨_, hget, (hsame k hk).symm.trans hget⟩

theorem Block.Spells.common (hspells : block.Spells reference generated)
    (hpos : 0 < block.length) {i j : Nat} (hi : i ≤ block.referenceStart)
    (hj : j ≤ block.generatedStart) :
    Region.Common ⟨i, reference.length, j, generated.length⟩ reference generated block where
  inside := ⟨hi, hspells.1, hj, hspells.2.1⟩
  spells := hspells
  nonempty := hpos

end Spells

/-- In every region that runs to the end of both texts the first common block is found. -/
def FindsFirst (longest : Region → Block) (reference generated : Tokens) : Prop :=
  ∀ i j, Region.First ⟨i, reference.length, j, generated.length⟩ reference generated
    (longest ⟨i, reference.length, j, generated.length⟩)

theorem findsFirst_longestOnDiagonals (reference generated : Tokens) :
    FindsFirst (longestOnDiagonals reference generated) reference generated :=
  fun _ _ => longestOnDiagonals_first ..

section Rare

theorem longestRun_congr {seeds seeds' : Token → List Nat} {rows : Tokens}
    (hseeds : ∀ token ∈ rows, seeds token = seeds' token) (i : Nat) (best : Block)
    (previous : Runs) :
    longestRun seeds rows i best previous = longestRun seeds' rows i best previous := by
  induction rows generalizing i best previous with
  | nil => rfl
  | cons token rows ih =>
      rw [longestRun, longestRun, hseeds token List.mem_cons_self]
      exact ih (fun other hother => hseeds other (List.mem_cons_of_mem _ hother)) ..

variable {index : PositionIndex} {limit : Option Nat} {reference : Tokens}

theorem PositionIndex.longest_of_unpopular
    (hunpopular : ∀ token ∈ reference, index.isPopular limit token = false)
    (generated : Tokens) (region : Region) :
    index.longest limit reference generated region =
      index.longest none reference generated region := by
  have hseeds (token : Token)
      (htoken : token ∈ reference.extract region.referenceFrom region.referenceTo) :
      index.seeds limit region.generatedFrom region.generatedTo token =
        index.seeds none region.generatedFrom region.generatedTo token := by
    rw [List.extract_eq_take_drop] at htoken
    rw [seeds, seeds, hunpopular token (List.mem_of_mem_drop (List.mem_of_mem_take htoken))]
    rfl
  rw [PositionIndex.longest, PositionIndex.longest, longestRun_congr hseeds]

theorem PositionIndex.Faithful.not_isPopular (hfaithful : index.Faithful) {token : Token}
    (hrare : (places token index.indexed).length ≤ 1) (autojunk : Bool) :
    index.isPopular (index.popularLimit autojunk) token = false := by
  apply hfaithful.isPopular_eq_false
  intro most hmost
  rw [length_places] at hrare
  rw [popularLimit] at hmost
  split at hmost
  · obtain rfl := Option.some.inj hmost
    omega
  · cases hmost

theorem findsFirst_longestByIndex {autojunk : Bool} {generated : Tokens}
    (hrare : autojunk = true → ∀ token ∈ reference,
      (PositionIndex.places token generated).length ≤ 1) :
    FindsFirst (longestByIndex autojunk reference generated) reference generated := by
  intro i j
  have hfaithful := PositionIndex.faithful_empty.sync generated
  have hfirst := hfaithful.longest_first reference ⟨i, reference.length, j, generated.length⟩
  rw [PositionIndex.indexed_sync] at hfirst
  rw [longestByIndex]
  cases autojunk with
  | false =>
      rw [PositionIndex.popularLimit_false]
      exact hfirst
  | true =>
      rw [PositionIndex.longest_of_unpopular fun token htoken =>
        hfaithful.not_isPopular (hrare rfl token htoken) true]
      exact hfirst

end Rare

section FindsFirst

variable {longest : Region → Block} {reference generated : Tokens} {i j : Nat}
  {block : Block}

theorem FindsFirst.common (hfirst : FindsFirst longest reference generated)
    (hcommon : Region.Common ⟨i, reference.length, j, generated.length⟩ reference generated
      block) :
    let found := longest ⟨i, reference.length, j, generated.length⟩
    Region.Common ⟨i, reference.length, j, generated.length⟩ reference generated found ∧
      found.NotAfter block := by
  have hnotAfter := (hfirst i j).notAfter block hcommon
  refine ⟨(hfirst i j).common.resolve_left ?_, hnotAfter⟩
  intro hempty
  have hlength := hnotAfter.length_le
  rw [hempty, Region.length_emptyBlock] at hlength
  exact absurd hcommon.nonempty (Nat.not_lt.2 hlength)

theorem lastBlockFrom_of_end (longest : Region → Block) (referenceLength : Nat)
    {generatedLength generatedFrom : Nat} (hend : generatedLength ≤ generatedFrom)
    (referenceFrom : Nat) (last : Option Block) :
    lastBlockFrom longest referenceLength generatedLength referenceFrom generatedFrom last =
      last := by
  rw [lastBlockFrom, if_neg]
  intro hinside
  exact absurd hinside.2 (Nat.not_lt.2 hend)

theorem FindsFirst.lastBlockFrom_eq (hfirst : FindsFirst longest reference generated)
    (hcommon : Region.Common ⟨i, reference.length, j, generated.length⟩ reference generated
      block) (last : Option Block) :
    let found := longest ⟨i, reference.length, j, generated.length⟩
    lastBlockFrom longest reference.length generated.length i j last =
      lastBlockFrom longest reference.length generated.length found.referenceEnd
        found.generatedEnd (some found) := by
  obtain ⟨⟨⟨hi, hreference, hj, hgenerated⟩, -, hpos⟩, -⟩ := hfirst.common hcommon
  simp only [Block.referenceEnd, Block.generatedEnd] at hi hj hreference hgenerated
  dsimp only
  have hinside : i < reference.length ∧ j < generated.length := by omega
  have honward : (longest ⟨i, reference.length, j, generated.length⟩).length ≠ 0 ∧
      i < (longest ⟨i, reference.length, j, generated.length⟩).referenceEnd := by
    rw [Block.referenceEnd]
    omega
  rw [lastBlockFrom, if_pos hinside]
  dsimp only
  rw [if_pos honward]

theorem FindsFirst.lastBlock_of_occurs (hfirst : FindsFirst longest reference generated)
    (hgenerated : generated ≠ []) {place : Nat}
    (hoccurs : Block.Spells ⟨place, 0, generated.length⟩ reference generated)
    (hearliest : ∀ other, Block.Spells ⟨other, 0, generated.length⟩ reference generated →
      place ≤ other) :
    lastBlock longest reference.length generated.length =
      some ⟨place, 0, generated.length⟩ := by
  have hcommon := hoccurs.common (List.length_pos_iff.2 hgenerated) (Nat.zero_le place)
    (Nat.le_refl 0)
  obtain ⟨⟨hinside, hspells, -⟩, hnotAfter⟩ := hfirst.common hcommon
  have hstep := hfirst.lastBlockFrom_eq hcommon none
  generalize longest ⟨0, reference.length, 0, generated.length⟩ = found
    at hinside hspells hnotAfter hstep
  obtain ⟨i, j, n⟩ := found
  simp only [Region.Contains, Block.generatedEnd] at hinside
  rw [Block.notAfter_iff] at hnotAfter
  dsimp only at hinside hnotAfter
  have hwhole : j = 0 ∧ n = generated.length := by omega
  obtain ⟨rfl, rfl⟩ := hwhole
  have hi := hearliest i hspells
  obtain rfl : i = place := by omega
  rw [lastBlock, hstep]
  exact lastBlockFrom_of_end longest _ (Nat.le_add_left _ _) _ _

end FindsFirst

/-- The longest run of the reference that ends the output. It is empty if the last token is
not in the reference. -/
structure Block.IsLongestTail (tail : Block) (reference generated : Tokens) : Prop where
  spells : tail.Spells reference generated
  atEnd : tail.generatedEnd = generated.length
  longest : ∀ other : Block, other.Spells reference generated →
    other.generatedEnd = generated.length → other.length ≤ tail.length

theorem exists_isLongestTail (reference generated : Tokens) :
    ∃ tail : Block, tail.IsLongestTail reference generated := by
  classical
  let Reaches (length : Nat) : Prop := ∃ tail : Block,
    tail.Spells reference generated ∧ tail.generatedEnd = generated.length ∧
      tail.length = length
  have hempty : Reaches 0 :=
    ⟨⟨0, generated.length, 0⟩,
      Block.spells_iff.2 ⟨Nat.zero_le _, Nat.le_refl _, fun _ hk => absurd hk (Nat.not_lt_zero _)⟩,
      rfl, rfl⟩
  obtain ⟨tail, hspells, hend, hlength⟩ :=
    Nat.findGreatest_spec (P := Reaches) (Nat.zero_le generated.length) hempty
  refine ⟨tail, hspells, hend, ?_⟩
  intro other hother hotherEnd
  rw [hlength]
  apply Nat.le_findGreatest
  · rw [← hotherEnd]
    exact Nat.le_add_left _ _
  · exact ⟨other, hother, hotherEnd, rfl⟩

section Distinct

variable {reference generated : Tokens} {block other tail : Block}

theorem Block.Spells.aligned (hdistinct : reference.Nodup)
    (hblock : block.Spells reference generated) (hother : other.Spells reference generated)
    (hpos : 0 < block.length) (hpos' : 0 < other.length)
    (hleft : block.generatedStart < other.generatedEnd)
    (hright : other.generatedStart < block.generatedEnd) :
    block.referenceStart + other.generatedStart =
      other.referenceStart + block.generatedStart := by
  rw [Block.generatedEnd] at hleft hright
  obtain ⟨j, hj⟩ : ∃ j, j = max block.generatedStart other.generatedStart := ⟨_, rfl⟩
  obtain ⟨token, hreference, hgenerated⟩ :=
    hblock.shared (k := j - block.generatedStart) (by omega)
  obtain ⟨token', hreference', hgenerated'⟩ :=
    hother.shared (k := j - other.generatedStart) (by omega)
  rw [Nat.add_sub_cancel' (by omega)] at hgenerated hgenerated'
  rw [hgenerated, Option.some.injEq] at hgenerated'
  subst hgenerated'
  have hsame := (List.getElem?_inj (List.getElem?_eq_some_iff.1 hreference).1 hdistinct).1
    (hreference.trans hreference'.symm)
  omega

/-- A block that is as long as the longest tail and reaches into it is that tail: otherwise
both together were a longer one. -/
theorem Block.IsLongestTail.eq_of_overlap (hdistinct : reference.Nodup)
    (htail : tail.IsLongestTail reference generated)
    (hblock : block.Spells reference generated) (hlength : tail.length ≤ block.length)
    (hpos : 0 < tail.length) (hoverlap : tail.generatedStart < block.generatedEnd) :
    block = tail := by
  have hend := htail.atEnd
  have hinside := hblock.2.1
  have hblockPos := Nat.lt_of_lt_of_le hpos hlength
  have hinsideTail : block.generatedStart < tail.generatedEnd := by
    rw [hend]
    rw [Block.generatedEnd] at hinside
    omega
  have hdiagonal :=
    hblock.aligned hdistinct htail.spells hblockPos hpos hinsideTail hoverlap
  rw [Block.generatedEnd] at hend hinside hoverlap
  have hstart : tail.generatedStart ≤ block.generatedStart := by
    by_contra hbefore
    have hjoined : Block.Spells
        ⟨block.referenceStart, block.generatedStart, generated.length - block.generatedStart⟩
        reference generated := by
      obtain ⟨-, -, hfront⟩ := Block.spells_iff.1 hblock
      obtain ⟨hreference, -, hback⟩ := Block.spells_iff.1 htail.spells
      rw [Block.referenceEnd] at hreference
      refine Block.spells_iff.2 ⟨?_, ?_, ?_⟩
      · simp only [Block.referenceEnd]
        omega
      · simp only [Block.generatedEnd]
        omega
      · intro k hk
        dsimp only at hk ⊢
        by_cases hkfront : k < block.length
        · exact hfront k hkfront
        · have hkback := hback (k - (tail.generatedStart - block.generatedStart)) (by omega)
          rwa [show tail.referenceStart + (k - (tail.generatedStart - block.generatedStart)) =
              block.referenceStart + k by omega,
            show tail.generatedStart + (k - (tail.generatedStart - block.generatedStart)) =
              block.generatedStart + k by omega] at hkback
    have hlonger := htail.longest _ hjoined (by simp only [Block.generatedEnd]; omega)
    dsimp only at hlonger
    omega
  obtain ⟨i, j, n⟩ := block
  obtain ⟨i', j', n'⟩ := tail
  simp only [Block.mk.injEq] at *
  omega

theorem Block.Spells.referenceEnd_le (hdistinct : reference.Nodup)
    (hedit : generated.IsEditOf reference) (hblock : block.Spells reference generated)
    (hother : other.Spells reference generated) (hpos : 0 < block.length)
    (hpos' : 0 < other.length) (hbefore : block.generatedEnd ≤ other.generatedStart) :
    block.referenceEnd ≤ other.referenceStart := by
  obtain ⟨a, hreference, hgenerated⟩ := hblock.shared (Nat.sub_one_lt_of_lt hpos)
  obtain ⟨b, hreference', hgenerated'⟩ := hother.shared hpos'
  rw [Block.generatedEnd] at hbefore
  have hlt := hedit.lt hdistinct (by omega) hgenerated hreference hgenerated' hreference'
  rw [Block.referenceEnd]
  omega

section Walk

variable {longest : Region → Block}

/-- A walk that has not gone past the longest tail arrives there. -/
theorem FindsFirst.lastBlockFrom_of_tail (hfirst : FindsFirst longest reference generated)
    (hdistinct : reference.Nodup) (hedit : generated.IsEditOf reference)
    (htail : tail.IsLongestTail reference generated) (hpos : 0 < tail.length) {i j : Nat}
    (hi : i ≤ tail.referenceStart) (hj : j ≤ tail.generatedStart) (last : Option Block) :
    lastBlockFrom longest reference.length generated.length i j last = some tail := by
  induction hleft : reference.length - i using Nat.strong_induction_on
    generalizing i j last with
  | _ left ih =>
      have hcommon := htail.spells.common hpos hi hj
      obtain ⟨⟨⟨hfrom, hto, -, -⟩, hspells, hfound⟩, hnotAfter⟩ := hfirst.common hcommon
      rw [hfirst.lastBlockFrom_eq hcommon]
      generalize longest ⟨i, reference.length, j, generated.length⟩ = found
        at hfrom hto hspells hfound hnotAfter
      by_cases hoverlap : tail.generatedStart < found.generatedEnd
      · rw [htail.eq_of_overlap hdistinct hspells hnotAfter.length_le hpos hoverlap]
        exact lastBlockFrom_of_end longest _ (Nat.le_of_eq htail.atEnd.symm) _ _
      · have hbefore := Nat.le_of_not_lt hoverlap
        have hrest := hspells.referenceEnd_le hdistinct hedit htail.spells hfound hpos hbefore
        refine ih (reference.length - found.referenceEnd) ?_ hrest hbefore _ rfl
        dsimp only at hfrom hto
        rw [Block.referenceEnd] at hto ⊢
        omega

theorem FindsFirst.lastBlock_of_tail (hfirst : FindsFirst longest reference generated)
    (hdistinct : reference.Nodup) (hedit : generated.IsEditOf reference)
    (htail : tail.IsLongestTail reference generated) (hpos : 0 < tail.length) :
    lastBlock longest reference.length generated.length = some tail :=
  hfirst.lastBlockFrom_of_tail hdistinct hedit htail hpos (Nat.zero_le _) (Nat.zero_le _) none

end Walk

end Distinct

end Align

end Redraft
