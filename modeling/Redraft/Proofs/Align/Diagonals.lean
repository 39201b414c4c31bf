import Redraft.Align.Diagonals
import Redraft.Proofs.Align.Common

namespace Redraft.Align

variable {reference generated : Tokens} {region : Region}

/-- What a walk from reference position `i` holds is no worse than a block of length `n`
that begins `k` tokens further down. -/
def Reaches (i : Nat) (best : Option Block) (k n : Nat) : Prop :=
  ∃ block, best = some block ∧
    (n < block.length ∨ n = block.length ∧ block.referenceStart ≤ i + k)

structure OnDiagonal (region : Region) (reference generated : Tokens) (i j k : Nat)
    (block : Block) : Prop where
  referenceStart : block.referenceStart = i + k
  generatedStart : block.generatedStart = j + k
  nonempty : 0 < block.length
  agreed : block.length ≤ region.agreementAt reference generated (i + k) (j + k)

namespace Region

theorem agreementAt_cons {i j : Nat} {a b : Token} {as bs : Tokens}
    (hleft : a :: as = reference.extract i region.referenceTo)
    (hright : b :: bs = generated.extract j region.generatedTo) :
    region.agreementAt reference generated i j =
      if a = b then region.agreementAt reference generated (i + 1) (j + 1) + 1 else 0 := by
  by_cases hab : a = b
  · subst b
    have hpos : 1 ≤ region.agreementAt reference generated i j := by
      rw [agreementAt, ← hleft, ← hright, Tokens.agreement_cons_self]
      omega
    rw [if_pos rfl, agreementAt_add hpos]
    omega
  · rw [if_neg hab, agreementAt, ← hleft, ← hright, Tokens.agreement_cons_of_ne hab]

theorem agreementAt_eq_zero_of_nil {i j : Nat} (k : Nat)
    (hnil : reference.extract i region.referenceTo = [] ∨
      generated.extract j region.generatedTo = []) :
    region.agreementAt reference generated (i + k) (j + k) = 0 := by
  by_contra hne
  have hpos : 1 ≤ region.agreementAt reference generated (i + k) (j + k) := by omega
  obtain ⟨hrto, hgto, token, href, hgen⟩ := le_agreementAt_iff.1 hpos 0 (by omega)
  rw [Nat.add_zero] at href hgen
  rcases hnil with hleft | hright
  · have hnone := congrArg (·[k]?) hleft
    rw [Tokens.getElem?_extract, if_pos (by omega), href] at hnone
    simp at hnone
  · have hnone := congrArg (·[k]?) hright
    rw [Tokens.getElem?_extract, if_pos (by omega), hgen] at hnone
    simp at hnone

end Region

theorem Reaches.keep_longer {i k n : Nat} {best : Option Block} (h : Reaches i best k n)
    (found : Block) :
    Reaches i (if best.all (·.length < found.length) then some found else best) k n := by
  obtain ⟨block, rfl, hblock⟩ := h
  by_cases hlonger : block.length < found.length
  · exact ⟨found, by simp [hlonger], by omega⟩
  · exact ⟨block, by simp [hlonger], hblock⟩

/-- The state of a walk `t` tokens down the diagonal from `(i, j)`: the last `run` pairs
agree, and the best block so far is no worse than the run and begins no later. -/
structure Walking (region : Region) (reference generated : Tokens) (i j t run : Nat)
    (best : Option Block) : Prop where
  run_le : run ≤ t
  agreed : region.agreementAt reference generated (i + (t - run)) (j + (t - run)) =
    run + region.agreementAt reference generated (i + t) (j + t)
  reaches : 0 < run → Reaches i best (t - run) run
  sound : ∀ block, best = some block →
    ∃ k ≤ t - run, OnDiagonal region reference generated i j k block

namespace Walking

variable {i j t run : Nat} {best : Option Block}

theorem start (region : Region) (reference generated : Tokens) (i j : Nat) :
    Walking region reference generated i j 0 0 none where
  run_le := Nat.le_refl 0
  agreed := by simp
  reaches := by simp
  sound := by simp

theorem onDiagonal (h : Walking region reference generated i j t run best) {block : Block}
    (hblock : best = some block) : ∃ k, OnDiagonal region reference generated i j k block := by
  obtain ⟨k, -, honDiagonal⟩ := h.sound block hblock
  exact ⟨k, honDiagonal⟩

theorem agree (h : Walking region reference generated i j t run best)
    (hnext : region.agreementAt reference generated (i + t) (j + t) =
      region.agreementAt reference generated (i + (t + 1)) (j + (t + 1)) + 1) :
    Walking region reference generated i j (t + 1) (run + 1)
      (if best.all (·.length < run + 1) then some ⟨i + t - run, j + t - run, run + 1⟩
        else best) where
  run_le := Nat.add_le_add_right h.run_le 1
  agreed := by
    rw [Nat.add_sub_add_right, h.agreed, hnext]
    omega
  reaches := by
    intro _
    have hrun := h.run_le
    rw [Nat.add_sub_add_right]
    by_cases hlonger : best.all (·.length < run + 1)
    · exact ⟨_, if_pos hlonger, .inr ⟨rfl, by simp only; omega⟩⟩
    · rw [if_neg hlonger]
      obtain ⟨block, rfl⟩ : ∃ block, best = some block := by
        cases best with
        | none => simp at hlonger
        | some block => exact ⟨block, rfl⟩
      obtain ⟨k, hk, hblock⟩ := h.sound block rfl
      simp only [Option.all_some, decide_eq_true_eq] at hlonger
      have hstart := hblock.referenceStart
      exact ⟨block, rfl, by omega⟩
  sound := by
    intro block hblock
    have hrun := h.run_le
    rw [Nat.add_sub_add_right]
    split at hblock
    · cases hblock
      have hagreed := h.agreed
      exact ⟨t - run, Nat.le_refl _, by simp only; omega, by simp only; omega, by simp only; omega,
        by simp only; omega⟩
    · exact h.sound block hblock

theorem disagree (h : Walking region reference generated i j t run best) :
    Walking region reference generated i j (t + 1) 0 best where
  run_le := Nat.zero_le _
  agreed := by simp
  reaches := by simp
  sound := by
    intro block hblock
    obtain ⟨k, hk, honDiagonal⟩ := h.sound block hblock
    exact ⟨k, by omega, honDiagonal⟩

theorem reaches_of_end (h : Walking region reference generated i j t run best)
    (hend : region.agreementAt reference generated (i + t) (j + t) = 0) {k : Nat}
    (hfrom : t - run ≤ k) (hto : k < t) :
    Reaches i best k (region.agreementAt reference generated (i + k) (j + k)) := by
  have hrun := h.run_le
  have hagreed := h.agreed
  obtain ⟨block, hbest, hblock⟩ := h.reaches (by omega)
  have hinside : k - (t - run) ≤
      region.agreementAt reference generated (i + (t - run)) (j + (t - run)) := by omega
  have hrest := Region.agreementAt_add hinside
  have hi : i + (t - run) + (k - (t - run)) = i + k := by omega
  have hj : j + (t - run) + (k - (t - run)) = j + k := by omega
  rw [hi, hj] at hrest
  exact ⟨block, hbest, by omega⟩

theorem stop (h : Walking region reference generated i j t run best)
    (hnil : reference.extract (i + t) region.referenceTo = [] ∨
      generated.extract (j + t) region.generatedTo = []) {k : Nat} (hfrom : t - run ≤ k)
    (hpos : 0 < region.agreementAt reference generated (i + k) (j + k)) :
    Reaches i best k (region.agreementAt reference generated (i + k) (j + k)) := by
  by_cases hkt : k < t
  · have hend := Region.agreementAt_eq_zero_of_nil 0 hnil
    exact h.reaches_of_end hend hfrom hkt
  · have hend := Region.agreementAt_eq_zero_of_nil (k - t) hnil
    have hi : i + t + (k - t) = i + k := by omega
    have hj : j + t + (k - t) = j + k := by omega
    rw [hi, hj] at hend
    omega

end Walking

theorem walkDiagonal_spec {i j t run : Nat} {best : Option Block} {as bs : Tokens}
    (h : Walking region reference generated i j t run best)
    (hleft : as = reference.extract (i + t) region.referenceTo)
    (hright : bs = generated.extract (j + t) region.generatedTo) :
    (∀ block, walkDiagonal as bs (i + t) (j + t) run best = some block →
      ∃ k, OnDiagonal region reference generated i j k block) ∧
    (∀ k n, Reaches i best k n → Reaches i (walkDiagonal as bs (i + t) (j + t) run best) k n) ∧
    (∀ k, t - run ≤ k → 0 < region.agreementAt reference generated (i + k) (j + k) →
      Reaches i (walkDiagonal as bs (i + t) (j + t) run best) k
        (region.agreementAt reference generated (i + k) (j + k))) := by
  induction as generalizing bs t run best with
  | nil =>
      simp only [walkDiagonal]
      exact ⟨fun _ => h.onDiagonal, fun _ _ => id, fun _ => h.stop (.inl hleft.symm)⟩
  | cons a as ih =>
      cases bs with
      | nil =>
          simp only [walkDiagonal]
          exact ⟨fun _ => h.onDiagonal, fun _ _ => id, fun _ => h.stop (.inr hright.symm)⟩
      | cons b bs =>
          have hstep := Region.agreementAt_cons hleft hright
          have hleft' : as = reference.extract (i + (t + 1)) region.referenceTo := by
            rw [← Nat.add_assoc, Tokens.extract_succ, ← hleft, List.tail_cons]
          have hright' : bs = generated.extract (j + (t + 1)) region.generatedTo := by
            rw [← Nat.add_assoc, Tokens.extract_succ, ← hright, List.tail_cons]
          by_cases hab : a = b
          · rw [if_pos hab] at hstep
            obtain ⟨hon, hkeep, hreach⟩ := ih (h.agree hstep) hleft' hright'
            simp only [walkDiagonal, if_pos hab]
            rw [Nat.add_sub_add_right] at hreach
            exact ⟨hon, fun k n hbest => hkeep k n
              (hbest.keep_longer ⟨i + t - run, j + t - run, run + 1⟩), hreach⟩
          · rw [if_neg hab] at hstep
            obtain ⟨hon, hkeep, hreach⟩ := ih h.disagree hleft' hright'
            simp only [walkDiagonal, if_neg hab]
            refine ⟨hon, hkeep, ?_⟩
            intro k hfrom hpos
            by_cases hkt : k < t
            · exact hkeep k _ (h.reaches_of_end hstep hfrom hkt)
            · have hne : k ≠ t := by
                intro heq
                subst heq
                omega
              exact hreach k (by omega) hpos

theorem diagonalBlock_spec (reference generated : Tokens) (region : Region) (i j : Nat) :
    (∀ block, diagonalBlock reference generated region (i, j) = some block →
      ∃ k, OnDiagonal region reference generated i j k block) ∧
    (∀ k, 0 < region.agreementAt reference generated (i + k) (j + k) →
      Reaches i (diagonalBlock reference generated region (i, j)) k
        (region.agreementAt reference generated (i + k) (j + k))) := by
  obtain ⟨hsound, -, hreach⟩ :=
    walkDiagonal_spec (Walking.start region reference generated i j) rfl rfl
  exact ⟨hsound, fun k => hreach k (by omega)⟩

namespace Region

theorem from_le_of_mem_diagonals {start : Nat × Nat} (h : start ∈ region.diagonals) :
    region.referenceFrom ≤ start.1 ∧ region.generatedFrom ≤ start.2 := by
  simp only [diagonals, List.mem_append, List.mem_map, Tokens.mem_positions] at h
  rcases h with ⟨i, hi, rfl⟩ | ⟨j, hj, rfl⟩
  · exact ⟨hi.1, Nat.le_refl _⟩
  · exact ⟨Nat.le_refl _, by omega⟩

theorem exists_diagonal {i j : Nat} (hi : region.referenceFrom ≤ i)
    (hito : i < region.referenceTo) (hj : region.generatedFrom ≤ j)
    (hjto : j < region.generatedTo) :
    ∃ start ∈ region.diagonals, ∃ k, i = start.1 + k ∧ j = start.2 + k := by
  simp only [diagonals, List.mem_append, List.mem_map, Tokens.mem_positions]
  by_cases h : j - region.generatedFrom ≤ i - region.referenceFrom
  · refine ⟨(i - (j - region.generatedFrom), region.generatedFrom), .inl ?_,
      j - region.generatedFrom, by simp only; omega, by simp only; omega⟩
    exact ⟨_, by omega, rfl⟩
  · refine ⟨(region.referenceFrom, j - (i - region.referenceFrom)), .inr ?_,
      i - region.referenceFrom, by simp only; omega, by simp only; omega⟩
    exact ⟨_, by omega, rfl⟩

end Region

theorem preferredOf_spec {blocks : List Block} {block : Block}
    (h : preferredOf blocks = some block) :
    block ∈ blocks ∧ ∀ other ∈ blocks, block.NotAfter other := by
  cases blocks with
  | nil => simp [preferredOf] at h
  | cons first rest =>
      simp only [preferredOf, Option.some.injEq] at h
      exact h ▸ Block.foldl_preferred first rest

theorem common_of_diagonalBlock {start : Nat × Nat} (hstart : start ∈ region.diagonals)
    {block : Block} (hblock : diagonalBlock reference generated region start = some block) :
    region.Common reference generated block := by
  obtain ⟨k, hon⟩ :=
    (diagonalBlock_spec reference generated region start.1 start.2).1 block hblock
  obtain ⟨hreference, hgenerated⟩ := Region.from_le_of_mem_diagonals hstart
  rw [Region.common_iff, hon.referenceStart, hon.generatedStart]
  exact ⟨Nat.le_add_right_of_le hreference, Nat.le_add_right_of_le hgenerated, hon.nonempty,
    hon.agreed⟩

theorem exists_diagonalBlock {other : Block}
    (hother : region.Common reference generated other) :
    ∃ start ∈ region.diagonals, ∃ block,
      diagonalBlock reference generated region start = some block ∧ block.NotAfter other := by
  obtain ⟨hrs, hgs, hpos, hagreed⟩ := Region.common_iff.1 hother
  obtain ⟨hrto, hgto, -⟩ := Region.le_agreementAt_iff.1 hagreed 0 hpos
  obtain ⟨start, hstart, k, hi, hj⟩ :=
    Region.exists_diagonal hrs (by omega) hgs (by omega)
  obtain ⟨hsound, hreach⟩ := diagonalBlock_spec reference generated region start.1 start.2
  rw [hi, hj] at hagreed
  obtain ⟨block, hblock, hfirst⟩ := hreach k (by omega)
  obtain ⟨k', hon⟩ := hsound block hblock
  have href := hon.referenceStart
  have hgen := hon.generatedStart
  refine ⟨start, hstart, block, hblock, ?_⟩
  rw [Block.notAfter_iff]
  omega

theorem preferredOf_eq_none {blocks : List Block} (h : preferredOf blocks = none) :
    blocks = [] := by
  cases blocks with
  | nil => rfl
  | cons first rest => simp [preferredOf] at h

/-- The diagonals finder answers the first common block of the region. -/
theorem longestOnDiagonals_first (reference generated : Tokens) (region : Region) :
    region.First reference generated (longestOnDiagonals reference generated region) := by
  have hcovered (other : Block) (hother : region.Common reference generated other) :
      ∃ block ∈ region.diagonals.filterMap (diagonalBlock reference generated region),
        block.NotAfter other := by
    obtain ⟨start, hstart, block, hblock, hnotAfter⟩ := exists_diagonalBlock hother
    exact ⟨block, List.mem_filterMap.2 ⟨start, hstart, hblock⟩, hnotAfter⟩
  unfold longestOnDiagonals
  cases hpreferred : preferredOf
      (region.diagonals.filterMap (diagonalBlock reference generated region)) with
  | none =>
      refine ⟨.inl rfl, ?_⟩
      intro other hother
      obtain ⟨block, hblock, -⟩ := hcovered other hother
      rw [preferredOf_eq_none hpreferred] at hblock
      cases hblock
  | some best =>
      obtain ⟨hbest, hfirst⟩ := preferredOf_spec hpreferred
      obtain ⟨start, hstart, hblock⟩ := List.mem_filterMap.1 hbest
      refine ⟨.inr (common_of_diagonalBlock hstart hblock), ?_⟩
      intro other hother
      obtain ⟨block, hblock, hnotAfter⟩ := hcovered other hother
      exact (hfirst block hblock).trans hnotAfter

end Redraft.Align
