import Redraft.Proofs.Matcher.Edits

/-!
The whole decomposition of two texts, of which a finder only ever looks at one side. A region
falls apart into its longest common block and what the regions in front of it and behind it
fall apart into. The walk from block to block ends at the last block of all of these, and it
does end, since every block leads further into the reference.
-/

namespace Redraft

open Align

namespace Align

namespace Region

section FirstBlock

variable (region : Region) (reference generated : Tokens)

def candidates : List Block :=
  (Tokens.positions region.referenceFrom region.referenceTo).flatMap fun i =>
    (Tokens.positions region.generatedFrom region.generatedTo).map fun j =>
      ⟨i, j, region.agreementAt reference generated i j⟩

/-- The longest common block, then the earliest in the reference, then in the output: all
candidates are compared. -/
def firstBlock : Block :=
  (region.candidates reference generated).foldl Block.preferred region.emptyBlock

def whole : Region := ⟨0, reference.length, 0, generated.length⟩

end FirstBlock

def before (region : Region) (block : Block) : Region :=
  { region with referenceTo := block.referenceStart, generatedTo := block.generatedStart }

def behind (region : Region) (block : Block) : Region :=
  { region with referenceFrom := block.referenceEnd, generatedFrom := block.generatedEnd }

variable {region : Region} {reference generated : Tokens} {block : Block}

theorem mem_candidates :
    block ∈ region.candidates reference generated ↔
      (region.referenceFrom ≤ block.referenceStart ∧ block.referenceStart < region.referenceTo) ∧
        (region.generatedFrom ≤ block.generatedStart ∧
          block.generatedStart < region.generatedTo) ∧
        block.length = region.agreementAt reference generated block.referenceStart
          block.generatedStart := by
  simp only [candidates, List.mem_flatMap, List.mem_map, Tokens.mem_positions]
  constructor
  · rintro ⟨i, hi, j, hj, rfl⟩
    exact ⟨hi, hj, rfl⟩
  · intro hgiven
    obtain ⟨hi, hj, hlength⟩ := hgiven
    exact ⟨block.referenceStart, hi, block.generatedStart, hj, by rw [← hlength]⟩

theorem Common.exists_candidate (hcommon : region.Common reference generated block) :
    ∃ candidate ∈ region.candidates reference generated, candidate.NotAfter block := by
  obtain ⟨hrs, hgs, hpos, hagreed⟩ := common_iff.1 hcommon
  obtain ⟨hrto, hgto, -⟩ := le_agreementAt_iff.1 hagreed 0 hpos
  have hplace : (region.referenceFrom ≤ block.referenceStart ∧
      block.referenceStart < region.referenceTo) ∧
      region.generatedFrom ≤ block.generatedStart ∧
        block.generatedStart < region.generatedTo := by omega
  refine ⟨⟨block.referenceStart, block.generatedStart,
    region.agreementAt reference generated block.referenceStart block.generatedStart⟩,
    mem_candidates.2 ⟨hplace.1, hplace.2, rfl⟩, ?_⟩
  rw [Block.notAfter_iff]
  dsimp only
  omega

theorem firstBlock_first (region : Region) (reference generated : Tokens) :
    region.First reference generated (region.firstBlock reference generated) := by
  obtain ⟨hmem, hfirst⟩ :=
    Block.foldl_preferred region.emptyBlock (region.candidates reference generated)
  rw [← firstBlock] at hmem hfirst
  refine ⟨?_, ?_⟩
  · rcases List.mem_cons.1 hmem with hempty | hcandidate
    · exact .inl hempty
    · obtain ⟨⟨hrs, -⟩, ⟨hgs, -⟩, hlength⟩ := mem_candidates.1 hcandidate
      rcases Nat.eq_zero_or_pos (region.firstBlock reference generated).length with
        hzero | hpos
      · refine .inl ((hfirst _ List.mem_cons_self).antisymm ?_)
        rw [Block.notAfter_iff, hzero]
        dsimp only [emptyBlock]
        omega
      · exact .inr (common_iff.2 ⟨hrs, hgs, hpos, Nat.le_of_eq hlength⟩)
  · intro other hother
    obtain ⟨candidate, hcandidate, hnotAfter⟩ := hother.exists_candidate
    exact (hfirst _ (List.mem_cons_of_mem _ hcandidate)).trans hnotAfter

theorem before_lt (hcommon : region.Common reference generated block) :
    (region.before block).referenceTo - (region.before block).referenceFrom <
      region.referenceTo - region.referenceFrom := by
  obtain ⟨⟨hfrom, hto, -, -⟩, -, hpos⟩ := hcommon
  rw [Block.referenceEnd] at hto
  dsimp only [before]
  omega

theorem behind_lt (hcommon : region.Common reference generated block) :
    (region.behind block).referenceTo - (region.behind block).referenceFrom <
      region.referenceTo - region.referenceFrom := by
  obtain ⟨⟨hfrom, hto, -, -⟩, -, hpos⟩ := hcommon
  rw [Block.referenceEnd] at hto
  dsimp only [behind, Block.referenceEnd]
  omega

/-- All blocks of a region from left to right: those in front of the longest common block,
that block, and those behind it. -/
def decomposition (region : Region) (reference generated : Tokens) : List Block :=
  if 0 < (region.firstBlock reference generated).length then
    (region.before (region.firstBlock reference generated)).decomposition reference generated ++
      region.firstBlock reference generated ::
        (region.behind (region.firstBlock reference generated)).decomposition reference
          generated
  else []
termination_by region.referenceTo - region.referenceFrom
decreasing_by
  all_goals
    have hcommon := (firstBlock_first region reference generated).common_of_pos ‹_›
  · exact before_lt hcommon
  · exact behind_lt hcommon

variable (region reference generated) in
def lastOfAll : Option Block := (region.decomposition reference generated).getLast?

theorem First.eq_firstBlock (hfirst : region.First reference generated block) :
    region.firstBlock reference generated = block :=
  (firstBlock_first region reference generated).unique hfirst

theorem First.lastOfAll_of_empty (hfirst : region.First reference generated block)
    (hempty : block.length = 0) : region.lastOfAll reference generated = none := by
  rw [lastOfAll, decomposition, hfirst.eq_firstBlock, if_neg (Nat.not_lt.2 (Nat.le_of_eq hempty))]
  rfl

theorem First.lastOfAll_of_common (hfirst : region.First reference generated block)
    (hpos : 0 < block.length) :
    region.lastOfAll reference generated =
      ((region.behind block).lastOfAll reference generated).or (some block) := by
  rw [lastOfAll, decomposition, hfirst.eq_firstBlock, if_pos hpos, List.getLast?_append,
    List.getLast?_cons, lastOfAll]
  cases ((region.behind block).decomposition reference generated).getLast? <;> rfl

end Region

/-- The walk to the right as it is, without a guard: it goes on for as long as both texts do
and a block is found that is not empty. -/
inductive Walks (longest : Region → Block) (referenceLength generatedLength : Nat) :
    (referenceFrom generatedFrom : Nat) → (last result : Option Block) → Prop where
  | outside {i j : Nat} {last : Option Block}
      (houtside : ¬(i < referenceLength ∧ j < generatedLength)) :
      Walks longest referenceLength generatedLength i j last last
  | nothing {i j : Nat} {last : Option Block} (hinside : i < referenceLength ∧ j < generatedLength)
      (hempty : (longest ⟨i, referenceLength, j, generatedLength⟩).length = 0) :
      Walks longest referenceLength generatedLength i j last last
  | onward {i j : Nat} {last result : Option Block} {block : Block}
      (hinside : i < referenceLength ∧ j < generatedLength)
      (hblock : longest ⟨i, referenceLength, j, generatedLength⟩ = block)
      (hfound : block.length ≠ 0)
      (hrest : Walks longest referenceLength generatedLength block.referenceEnd
        block.generatedEnd (some block) result) :
      Walks longest referenceLength generatedLength i j last result

section FindsFirst

variable {longest : Region → Block} {reference generated : Tokens} {i j : Nat}

/-- A block that is found leads further into the reference, so the guard of the walk never
ends it. -/
theorem FindsFirst.onward (hfirst : FindsFirst longest reference generated)
    (hfound : (longest ⟨i, reference.length, j, generated.length⟩).length ≠ 0) :
    i < (longest ⟨i, reference.length, j, generated.length⟩).referenceEnd := by
  have hcommon := (hfirst i j).common_of_pos (Nat.pos_of_ne_zero hfound)
  have hfrom := hcommon.inside.1
  have hpos := hcommon.nonempty
  rw [Block.referenceEnd]
  dsimp only at hfrom
  omega

theorem FindsFirst.empty_of_stuck (hfirst : FindsFirst longest reference generated)
    (hstuck : ¬((longest ⟨i, reference.length, j, generated.length⟩).length ≠ 0 ∧
      i < (longest ⟨i, reference.length, j, generated.length⟩).referenceEnd)) :
    (longest ⟨i, reference.length, j, generated.length⟩).length = 0 := by
  by_contra hfound
  exact hstuck ⟨hfound, hfirst.onward hfound⟩

theorem FindsFirst.walks (hfirst : FindsFirst longest reference generated) (i j : Nat)
    (last : Option Block) :
    Walks longest reference.length generated.length i j last
      (lastBlockFrom longest reference.length generated.length i j last) := by
  fun_induction lastBlockFrom longest reference.length generated.length i j last with
  | case1 i j last hinside block honward ih => exact .onward hinside rfl honward.1 ih
  | case2 i j last hinside block hstuck => exact .nothing hinside (hfirst.empty_of_stuck hstuck)
  | case3 i j last houtside => exact .outside houtside

theorem Region.lastOfAll_of_outside (houtside : ¬(i < reference.length ∧ j < generated.length)) :
    Region.lastOfAll ⟨i, reference.length, j, generated.length⟩ reference generated = none := by
  have hfirst := firstBlock_first ⟨i, reference.length, j, generated.length⟩ reference generated
  refine hfirst.lastOfAll_of_empty (Nat.eq_zero_of_not_pos fun hpos => houtside ?_)
  obtain ⟨⟨hi, hreference, hj, hgenerated⟩, -, -⟩ := hfirst.common_of_pos hpos
  dsimp only [Block.referenceEnd, Block.generatedEnd] at hi hreference hj hgenerated
  omega

theorem FindsFirst.lastBlockFrom_eq_lastOfAll (hfirst : FindsFirst longest reference generated)
    (i j : Nat) (last : Option Block) :
    lastBlockFrom longest reference.length generated.length i j last =
      (Region.lastOfAll ⟨i, reference.length, j, generated.length⟩ reference generated).or
        last := by
  fun_induction lastBlockFrom longest reference.length generated.length i j last with
  | case1 i j last hinside block honward ih =>
      -- The blocks in front of this one come before it, so they never are the last.
      rw [ih, (hfirst i j).lastOfAll_of_common (Nat.pos_of_ne_zero honward.1), Option.or_assoc]
      rfl
  | case2 i j last hinside block hstuck =>
      rw [(hfirst i j).lastOfAll_of_empty (hfirst.empty_of_stuck hstuck)]
      rfl
  | case3 i j last houtside =>
      rw [Region.lastOfAll_of_outside houtside]
      rfl

theorem FindsFirst.lastBlockFrom_zero (hfirst : FindsFirst longest reference generated) :
    lastBlockFrom longest reference.length generated.length 0 0 none =
      ((Region.whole reference generated).decomposition reference generated).getLast? := by
  rw [hfirst.lastBlockFrom_eq_lastOfAll, Option.or_none]
  rfl

end FindsFirst

theorem MatchTable.Covers.foldl_advance {table : MatchTable} {suffixes : SuffixArray}
    (hordered : suffixes.Ordered) (h : table.Covers suffixes) (seen : List Tokens) :
    (seen.foldl (·.advance suffixes) table).Covers suffixes := by
  induction seen generalizing table with
  | nil => exact h
  | cons window seen ih => exact ih (h.advance hordered window).1

end Align

namespace Backend

/-- How a backend finds the longest block of a region after other outputs were brought to
it, one after the other. -/
def search (backend : Backend) (reference : Tokens) (seen : List Tokens) (generated : Tokens) :
    Region → Block :=
  match backend with
  | sequential =>
    let index := (seen.foldl PositionIndex.sync .empty).sync generated
    index.longest (index.popularLimit false) reference generated
  | parallel => longestOnDiagonals reference generated
  | indexed =>
    let suffixes := SuffixArray.build reference
    let table := (seen.foldl (·.advance suffixes) MatchTable.empty).advance suffixes generated
    table.longest suffixes generated

theorem findsFirst_search (backend : Backend) (reference : Tokens) (seen : List Tokens)
    (generated : Tokens) :
    FindsFirst (backend.search reference seen generated) reference generated := by
  intro i j
  cases backend with
  | sequential =>
      have hfaithful := (PositionIndex.faithful_empty.foldl_sync seen).sync generated
      have hfirst := hfaithful.longest_first reference ⟨i, reference.length, j, generated.length⟩
      rwa [PositionIndex.indexed_sync] at hfirst
  | parallel => exact findsFirst_longestOnDiagonals reference generated i j
  | indexed =>
      have hordered := SuffixArray.build_ordered reference
      obtain ⟨hcovers, hsynced⟩ :=
        ((MatchTable.covers_empty _).foldl_advance hordered seen).advance hordered generated
      exact hcovers.longest_first hordered hsynced _ rfl rfl

end Backend

namespace Matcher

/-- The block that a backend arrives at is the last of the whole decomposition, whatever
other outputs its index or its table has seen, and it arrives there without a guard. So a
matcher answers the last block of what its window leaves of both texts. -/
theorem last_block_ends_decomposition (backend : Backend) (settings : MatchSettings)
    (hjunk : settings.autojunk = false) :
    (∀ (reference : Tokens) (seen : List Tokens) (generated : Tokens),
      let longest := backend.search reference seen generated
      let blocks := (Region.whole reference generated).decomposition reference generated
      Walks longest reference.length generated.length 0 0 none blocks.getLast? ∧
        Align.lastBlock longest reference.length generated.length = blocks.getLast?) ∧
      ∀ (reference : Tokens) (calls : List Call) (generated : Tokens),
        let plan := settings.window.plan reference.length generated.length
        let slice := plan.referenceSlice reference
        let kept := plan.generatedSlice generated
        let blocks := (Region.whole slice kept).decomposition slice kept
        ((build backend reference settings).after calls).lastBlock generated =
          .ok (blocks.getLast?.map (·.toAbsolute plan)) := by
  constructor
  · intro reference seen generated
    have hfirst := backend.findsFirst_search reference seen generated
    have hwalks := hfirst.walks 0 0 none
    rw [hfirst.lastBlockFrom_zero] at hwalks
    exact ⟨hwalks, hfirst.lastBlockFrom_zero⟩
  · intro reference calls generated
    have hfirst := backend.findsFirst_of_all hjunk
    dsimp only
    rw [((good_build backend reference settings).after calls).lastBlock generated,
      Backend.rule, windowedLastBlock, Align.lastBlock, (hfirst _ _).lastBlockFrom_zero]

/-- The walk goes on behind the longest block, of which the window leaves the start of both
texts out. -/
theorem last_block_ends_decomposition_windowed :
    let settings : MatchSettings :=
      { window := { divisor := 4, minLength := 1, referenceFactor := 2 } }
    let matcher := (build .sequential [9, 9, 1, 2, 3, 4, 5, 6] settings).after
      [.next [1, 2, 3] 1, .reset, .next [3, 4] 2]
    settings.autojunk = false ∧
      (Region.whole [1, 2, 3, 4] [1, 2, 4]).decomposition [1, 2, 3, 4] [1, 2, 4] =
          [⟨0, 0, 2⟩, ⟨3, 2, 1⟩] ∧
        matcher.lastBlock [8, 8, 8, 8, 1, 2, 4] = .ok (some ⟨5, 6, 1⟩) := by
  intro settings matcher
  have hblocks : (Region.whole [1, 2, 3, 4] [1, 2, 4]).decomposition [1, 2, 3, 4] [1, 2, 4] =
      [⟨0, 0, 2⟩, ⟨3, 2, 1⟩] := by decide +kernel
  have hplan : settings.window.plan 8 7 = ⟨4, 2, 6⟩ := by decide
  refine ⟨rfl, hblocks, ((last_block_ends_decomposition .sequential settings rfl).2
    [9, 9, 1, 2, 3, 4, 5, 6] [.next [1, 2, 3] 1, .reset, .next [3, 4] 2]
    [8, 8, 8, 8, 1, 2, 4]).trans ?_⟩
  simp only [List.length_cons, List.length_nil, Nat.zero_add, Nat.reduceAdd, hplan]
  exact congrArg (fun blocks : List Block =>
    Except.ok (blocks.getLast?.map (·.toAbsolute ⟨4, 2, 6⟩))) hblocks

end Matcher

end Redraft
