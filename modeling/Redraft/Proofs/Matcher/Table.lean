import Redraft.Proofs.Align.Scan
import Redraft.Proofs.Align.Tails
import Redraft.Proofs.Matcher

namespace Redraft

namespace Align

/-- The longest run of the reference that the output has from position `j` on, in the first
place that has it. -/
structure Block.IsLongestFrom (j : Nat) (reference generated : Tokens) (block : Block) :
    Prop where
  start_eq : block.generatedStart = j
  nonempty : 0 < block.length
  longest : IsGreatest {n | ∃ i, Block.Spells ⟨i, j, n⟩ reference generated} block.length
  first : IsLeast {i | Block.Spells ⟨i, j, block.length⟩ reference generated}
    block.referenceStart

/-- One entry for each position of the output: none where the token is not in the reference,
and otherwise the longest run that starts there. -/
structure IsMatchTable (reference generated : Tokens) (entries : List (Option Block)) :
    Prop where
  length_eq : entries.length = generated.length
  none_iff : ∀ (j : Nat) (token : Token), generated[j]? = some token →
    (entries[j]? = some none ↔ token ∉ reference)
  some_iff : ∀ (j : Nat) (block : Block), entries[j]? = some (some block) ↔
    block.IsLongestFrom j reference generated

section Lookup

variable {reference generated : Tokens} {i j n : Nat}

theorem Block.spells_iff_le_agreement (hpos : 0 < n) :
    Block.Spells ⟨i, j, n⟩ reference generated ↔
      n ≤ Tokens.agreement (reference.drop i) (generated.drop j) := by
  let region : Region := ⟨0, reference.length, 0, generated.length⟩
  have hcommon : region.Common reference generated ⟨i, j, n⟩ ↔ _ := Region.common_iff
  rw [Region.agreementAt_of_ends rfl rfl] at hcommon
  constructor
  · intro hspells
    exact (hcommon.1 (hspells.common hpos (Nat.zero_le i) (Nat.zero_le j))).2.2.2
  · intro hle
    exact (hcommon.2 ⟨Nat.zero_le i, Nat.zero_le j, hpos, hle⟩).spells

theorem Block.isLongestFrom_iff :
    Block.IsLongestFrom j reference generated ⟨i, j, n⟩ ↔
      Occurrence.Longest reference (generated.drop j) 0 ⟨i, n⟩ := by
  constructor
  · intro hgiven
    obtain ⟨-, hpos, ⟨-, hgreatest⟩, hspells, hleast⟩ := hgiven
    have hbound (p : Nat) :
        Tokens.agreement (reference.drop p) (generated.drop j) ≤ n := by
      rcases Nat.eq_zero_or_pos
        (Tokens.agreement (reference.drop p) (generated.drop j)) with hzero | hshared
      · rw [hzero]
        exact Nat.zero_le n
      · exact hgreatest ⟨p, (spells_iff_le_agreement hshared).2 (Nat.le_refl _)⟩
    refine ⟨Nat.zero_le i, hpos, ?_, ?_⟩
    · exact Nat.le_antisymm ((spells_iff_le_agreement hpos).1 hspells) (hbound i)
    · intro p _
      rcases Nat.lt_or_eq_of_le (hbound p) with hlt | heq
      · exact .inl hlt
      · exact .inr ⟨heq, hleast ((spells_iff_le_agreement hpos).2 (Nat.le_of_eq heq.symm))⟩
  · intro hlongest
    obtain ⟨-, hpos, hlength, hfirst⟩ := hlongest
    dsimp only at hpos hlength hfirst
    have hspells : Block.Spells ⟨i, j, n⟩ reference generated :=
      (spells_iff_le_agreement hpos).2 (Nat.le_of_eq hlength)
    refine ⟨rfl, hpos, ⟨⟨i, hspells⟩, ?_⟩, hspells, ?_⟩
    · rintro m ⟨p, hp⟩
      rcases Nat.eq_zero_or_pos m with rfl | hm
      · exact Nat.zero_le n
      · have hle := (spells_iff_le_agreement hm).1 hp
        have := hfirst p (Nat.zero_le p)
        dsimp only
        omega
    · intro p hp
      have hle := (spells_iff_le_agreement hpos).1 hp
      have := hfirst p (Nat.zero_le p)
      dsimp only
      omega

theorem agreement_drop_eq_zero_iff {token : Token} (hget : generated[j]? = some token) :
    (∀ p, 0 ≤ p → Tokens.agreement (reference.drop p) (generated.drop j) = 0) ↔
      token ∉ reference := by
  have hshared (p : Nat) : 0 < Tokens.agreement (reference.drop p) (generated.drop j) ↔
      reference[p]? = some token := by
    rw [← Nat.succ_le_iff, Tokens.le_agreement_iff]
    simp [List.getElem?_drop, hget]
  constructor
  · intro hnothing hmem
    obtain ⟨p, hp⟩ := List.mem_iff_getElem?.1 hmem
    have hpos := (hshared p).2 hp
    rw [hnothing p (Nat.zero_le p)] at hpos
    exact Nat.lt_irrefl 0 hpos
  · intro habsent p _
    by_contra hne
    exact habsent (List.mem_of_getElem? ((hshared p).1 (Nat.pos_of_ne_zero hne)))

namespace MatchTable

variable {suffixes : SuffixArray} {window : Tokens}

theorem lookup_eq_none_iff (hordered : suffixes.Ordered) {token : Token}
    (hget : window[j]? = some token) :
    lookup suffixes window j = none ↔ token ∉ suffixes.text := by
  have hanswers := SuffixArray.longestOccurrenceFrom_answers hordered (window.drop j) 0
  rw [lookup, Option.map_eq_none_iff, SuffixArray.longestOccurrence, hanswers.eq_none_iff,
    agreement_drop_eq_zero_iff hget]

theorem lookup_eq_some_iff (hordered : suffixes.Ordered) {block : Block} :
    lookup suffixes window j = some block ↔ block.IsLongestFrom j suffixes.text window := by
  have hanswers := SuffixArray.longestOccurrenceFrom_answers hordered (window.drop j) 0
  rw [lookup, Option.map_eq_some_iff, SuffixArray.longestOccurrence]
  constructor
  · rintro ⟨found, hfound, rfl⟩
    exact Block.isLongestFrom_iff.2 (hanswers.eq_some_iff.1 hfound)
  · intro hlongest
    obtain ⟨i, j', n⟩ := block
    obtain rfl : j' = j := hlongest.start_eq
    exact ⟨⟨i, n⟩, hanswers.eq_some_iff.2 (Block.isLongestFrom_iff.1 hlongest), rfl⟩

theorem Covers.isMatchTable {table : MatchTable} (hordered : suffixes.Ordered)
    (hcovers : table.Covers suffixes) :
    IsMatchTable suffixes.text table.synced table.starts.toList where
  length_eq := hcovers.size_eq
  none_iff := by
    intro j token hget
    have hj := (List.getElem?_eq_some_iff.1 hget).1
    rw [Array.getElem?_toList, hcovers.entry j hj, Option.some.injEq,
      lookup_eq_none_iff hordered hget]
  some_iff := by
    intro j block
    rw [Array.getElem?_toList, ← lookup_eq_some_iff hordered]
    rcases Nat.lt_or_ge j table.synced.length with hj | hj
    · rw [hcovers.entry j hj, Option.some.injEq]
    · have hnothing : lookup suffixes table.synced j = none := by
        rw [lookup, List.drop_eq_nil_of_le hj, SuffixArray.longestOccurrence,
          SuffixArray.longestOccurrenceFrom_nil, Option.map_none]
      have hbehind : table.starts[j]? = none := by
        rw [Array.getElem?_eq_none_iff, hcovers.size_eq]
        exact hj
      rw [hnothing, hbehind]
      simp only [reduceCtorEq]

end MatchTable

end Lookup

theorem TableFinder.UpToDate.isMatchTable {reference : Tokens} {settings : MatchSettings}
    {generated : Tokens} {finder : TableFinder}
    (current : finder.UpToDate reference settings generated) :
    let plan := settings.window.plan reference.length generated.length
    IsMatchTable (plan.referenceSlice reference) (plan.generatedSlice generated)
      finder.matchesByStart := by
  have hcovers := current.covers
  rw [current.built] at hcovers
  have htable := hcovers.isMatchTable (SuffixArray.build_ordered _)
  rw [SuffixArray.text_build, current.synced_eq] at htable
  exact htable

theorem nextChunk_snd_of_lastBlock {σ : Type} [BlockFinder σ] {finder : σ} {generated : Tokens}
    {maxLength : Nat} {last : Option Block} (hreference : BlockFinder.reference finder ≠ [])
    (hgenerated : generated ≠ []) (hbudget : 0 < maxLength)
    (hlast : (BlockFinder.lastBlock finder generated).1 = .ok last)
    (hrange : ∀ block, last = some block →
      block.inRange (BlockFinder.reference finder) generated = .ok block) :
    (nextChunk finder generated maxLength).2 = (BlockFinder.lastBlock finder generated).2 := by
  have hasked : ¬ ((BlockFinder.reference finder).isEmpty || maxLength == 0) = true := by
    simp [hreference, Nat.ne_of_gt hbudget]
  have hsome : ¬ generated.isEmpty = true := by simp [hgenerated]
  rw [nextChunk, if_neg hasked, if_neg hsome]
  generalize BlockFinder.lastBlock finder generated = found at hlast ⊢
  obtain ⟨answer, after⟩ := found
  obtain rfl : answer = .ok last := hlast
  cases last with
  | none => rfl
  | some block =>
      dsimp only
      rw [hrange block rfl]

theorem TableFinder.Good.nextChunk_upToDate {reference : Tokens} {settings : MatchSettings}
    {finder : TableFinder} (good : finder.Good reference settings) {generated : Tokens}
    {maxLength : Nat} (hreference : reference ≠ []) (hgenerated : generated ≠ [])
    (hbudget : 0 < maxLength) :
    (nextChunk finder generated maxLength).2.UpToDate reference settings generated := by
  obtain ⟨hlast, hcurrent⟩ := good.lastBlock generated
  have hsame : BlockFinder.reference finder = reference := good.reference_eq
  rw [nextChunk_snd_of_lastBlock (hsame ▸ hreference) hgenerated hbudget hlast]
  · exact hcurrent
  · intro block hblock
    rw [hsame]
    exact (findsCopies_longestOnDiagonals.windowedLastBlock hblock).inRange

end Align

namespace Matcher

/-- After any calls, of which the last asked for a draft and had something to look for, the
table of the matcher is the one that can be read off the texts: the parts of the reference and
of the output that the last call kept. -/
theorem table_tells_longest_runs (reference : Tokens) (settings : MatchSettings)
    (calls : List Call) {generated : Tokens} {maxLength : Nat} (hreference : reference ≠ [])
    (hgenerated : generated ≠ []) (hbudget : 0 < maxLength) :
    let plan := settings.window.plan reference.length generated.length
    ∃ finder,
      (build .indexed reference settings).after (calls ++ [.next generated maxLength]) =
        .indexed finder ∧
      Align.IsMatchTable (plan.referenceSlice reference) (plan.generatedSlice generated)
        finder.matchesByStart := by
  intro plan
  have good := (good_build .indexed reference settings).after calls
  rw [after, List.foldl_append]
  change ∃ finder, Call.run ((build .indexed reference settings).after calls)
    (.next generated maxLength) = .indexed finder ∧ _
  generalize (build .indexed reference settings).after calls = matcher at good
  cases good with
  | indexed good =>
      exact ⟨_, rfl, (good.nextChunk_upToDate hreference hgenerated hbudget).isMatchTable⟩

/-- The call before left two matches that reached the end, and the new token ends both. It is
in the reference, but not in the part that is kept. -/
theorem table_tells_longest_runs_windowed :
    let settings : MatchSettings :=
      { window := { divisor := 4, minLength := 1, referenceFactor := 2 } }
    let reference : Tokens := [1, 2, 3, 4, 5, 6, 7, 8]
    let generated : Tokens := [9, 1, 2, 3, 7]
    reference ≠ [] ∧ generated ≠ [] ∧ 0 < 1 ∧
      ∃ finder,
        (build .indexed reference settings).after
          ([.next [1, 2] 2, .reset, .next [9, 1, 2, 3] 1] ++ [.next generated 1]) =
            .indexed finder ∧
        Align.IsMatchTable [1, 2, 3, 4] [2, 3, 7] finder.matchesByStart ∧
        finder.matchesByStart[2]? = some none := by
  intro settings reference generated
  have hreference : reference ≠ [] := List.cons_ne_nil _ _
  have hgenerated : generated ≠ [] := List.cons_ne_nil _ _
  obtain ⟨finder, hafter, htable⟩ := table_tells_longest_runs reference settings
    [.next [1, 2] 2, .reset, .next [9, 1, 2, 3] 1] hreference hgenerated Nat.one_pos
  have hplan : settings.window.plan reference.length generated.length = ⟨2, 0, 4⟩ := by
    decide
  rw [hplan] at htable
  have hkept : Align.IsMatchTable [1, 2, 3, 4] [2, 3, 7] finder.matchesByStart := htable
  refine ⟨hreference, hgenerated, Nat.one_pos, finder, hafter, hkept, ?_⟩
  rw [hkept.none_iff 2 7 rfl]
  decide

end Matcher

end Redraft
