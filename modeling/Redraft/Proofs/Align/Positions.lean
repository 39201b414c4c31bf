import Redraft.Proofs.Align.Common
import Redraft.Proofs.Align.PositionIndex

/-!
The positions finder answers the first common block of a region when no token is excluded.
Row by row its runs are the longest that end there, and of equally long runs it keeps the one
that ended first. The run it ends with is as long as can be, so widening adds nothing.
-/

namespace Redraft.Align

/-- Length of the longest run of seeded pairs that ends just before row `r` and output
position `j`. -/
def seededRun (seeds : Token → List Nat) (rows : Tokens) : Nat → Nat → Nat
  | r + 1, j + 1 =>
    if (rows[r]?).any (j ∈ seeds ·) then seededRun seeds rows r j + 1 else 0
  | _, _ => 0

def Block.endingAt (i j run : Nat) : Block := ⟨i - run, j - run, run⟩

def Block.EndsBefore (block : Block) (i j : Nat) : Prop :=
  block.length = 0 ∨ block.referenceEnd ≤ i ∨
    block.referenceEnd = i + 1 ∧ block.generatedEnd ≤ j

theorem seededRun_succ (seeds : Token → List Nat) {rows : Tokens} {r : Nat} {token : Token}
    (hrow : rows[r]? = some token) (j : Nat) :
    seededRun seeds rows (r + 1) (j + 1) =
      if j ∈ seeds token then seededRun seeds rows r j + 1 else 0 := by
  simp [seededRun, hrow]

theorem seededRun_le (seeds : Token → List Nat) (rows : Tokens) (r j : Nat) :
    seededRun seeds rows r j ≤ r ∧ seededRun seeds rows r j ≤ j := by
  induction r generalizing j with
  | zero => simp [seededRun]
  | succ r ih =>
      cases j with
      | zero => simp [seededRun]
      | succ j =>
          simp only [seededRun]
          split
          · have := ih j
            omega
          · omega

theorem le_seededRun_iff {seeds : Token → List Nat} {rows : Tokens} {r j n : Nat} :
    n ≤ seededRun seeds rows (r + n) (j + n) ↔
      ∀ k < n, ∃ token, rows[r + k]? = some token ∧ j + k ∈ seeds token := by
  induction n with
  | zero => simp
  | succ n ih =>
      rw [← Nat.add_assoc, ← Nat.add_assoc, seededRun]
      cases hrow : rows[r + n]? with
      | none =>
          simp only [Option.any_none, Bool.false_eq_true, if_false]
          constructor
          · intro h
            omega
          · intro h
            obtain ⟨token, hsome, -⟩ := h n (by omega)
            rw [hrow] at hsome
            cases hsome
      | some token =>
          simp only [Option.any_some, decide_eq_true_eq]
          constructor
          · intro h k hk
            split at h
            · rename_i hseed
              rcases Nat.lt_succ_iff_lt_or_eq.1 hk with hlt | rfl
              · exact ih.1 (by omega) k hlt
              · exact ⟨token, hrow, hseed⟩
            · omega
          · intro h
            obtain ⟨token', hsome, hseed⟩ := h n (by omega)
            rw [hrow, Option.some.injEq] at hsome
            subst token'
            rw [if_pos hseed, Nat.add_le_add_iff_right, ih]
            intro k hk
            exact h k (by omega)

theorem foldl_extendRun_runs (previous : Runs) (i : Nat) (seeds : List Nat) (best : Block)
    (runs : Runs) (j : Nat) :
    ((seeds.foldl (extendRun previous i) (best, runs)).2).getD j 0 =
      if j ∈ seeds then previous.before j + 1 else runs.getD j 0 := by
  induction seeds generalizing best runs with
  | nil => simp
  | cons seed seeds ih =>
      rw [List.foldl_cons, extendRun, ih]
      by_cases hmem : j ∈ seeds
      · simp [hmem]
      · by_cases hseed : seed = j
        · subst hseed
          simp [hmem]
        · have hne : j ≠ seed := fun h => hseed h.symm
          simp [hmem, hseed, hne, Std.HashMap.getD_insert]

/-- One row keeps the best block unless one of its runs is longer, and then it keeps the
first of the longest. -/
theorem foldl_extendRun_best (previous : Runs) (i : Nat) (seeds : List Nat) (best : Block)
    (runs : Runs) (hsorted : seeds.Pairwise (· < ·))
    (hbefore : ∀ j ∈ seeds, previous.before j ≤ i ∧ previous.before j ≤ j)
    (hbest : ∀ j ∈ seeds, best.EndsBefore i j) :
    let found := (seeds.foldl (extendRun previous i) (best, runs)).1
    (found = best ∨ ∃ j ∈ seeds, found = .endingAt (i + 1) (j + 1) (previous.before j + 1)) ∧
      found.NotAfter best ∧
      ∀ j ∈ seeds, found.NotAfter (.endingAt (i + 1) (j + 1) (previous.before j + 1)) := by
  induction seeds generalizing best runs with
  | nil => exact ⟨.inl rfl, Block.NotAfter.refl best, by simp⟩
  | cons seed seeds ih =>
      obtain ⟨hseed, hsorted⟩ := List.pairwise_cons.1 hsorted
      obtain ⟨hbeforeSeed, hbefore⟩ := List.forall_mem_cons.1 hbefore
      obtain ⟨hbestSeed, hbest⟩ := List.forall_mem_cons.1 hbest
      simp only [List.foldl_cons, extendRun]
      by_cases hlonger : best.length < previous.before seed + 1
      · have hrun : Block.endingAt (i + 1) (seed + 1) (previous.before seed + 1) =
            ⟨i + 1 - (previous.before seed + 1), seed + 1 - (previous.before seed + 1),
              previous.before seed + 1⟩ := rfl
        rw [if_pos hlonger, ← hrun]
        obtain ⟨hfound, hnotBest, hnotRuns⟩ :=
          ih (.endingAt (i + 1) (seed + 1) (previous.before seed + 1))
            (runs.insert seed (previous.before seed + 1)) hsorted hbefore (by
              intro j hj
              have hlt := hseed j hj
              simp only [Block.EndsBefore, Block.endingAt, Block.referenceEnd,
                Block.generatedEnd]
              omega)
        refine ⟨.inr ?_, hnotBest.trans ?_, ?_⟩
        · rcases hfound with heq | ⟨j, hj, heq⟩
          · exact ⟨seed, List.mem_cons_self, heq⟩
          · exact ⟨j, List.mem_cons_of_mem _ hj, heq⟩
        · rw [Block.notAfter_iff]
          exact .inl hlonger
        · exact List.forall_mem_cons.2 ⟨hnotBest, hnotRuns⟩
      · rw [if_neg hlonger]
        obtain ⟨hfound, hnotBest, hnotRuns⟩ := ih best
          (runs.insert seed (previous.before seed + 1)) hsorted hbefore hbest
        refine ⟨?_, hnotBest, List.forall_mem_cons.2 ⟨hnotBest.trans ?_, hnotRuns⟩⟩
        · rcases hfound with heq | ⟨j, hj, heq⟩
          · exact .inl heq
          · exact .inr ⟨j, List.mem_cons_of_mem _ hj, heq⟩
        · rw [Block.notAfter_iff]
          simp only [Block.EndsBefore, Block.referenceEnd, Block.generatedEnd] at hbestSeed
          simp only [Block.endingAt]
          omega

structure RowsRead (seeds : Token → List Nat) (rows : Tokens) (first r : Nat) (best : Block)
    (runs : Runs) : Prop where
  runs_eq : ∀ j, runs.before j = seededRun seeds rows r j
  ends : best.length = 0 ∨ best.referenceEnd ≤ first + r

/-- The best block is kept unless a run of certain rows is longer, and then it is the first
of the longest. -/
structure BestOfRuns (seeds : Token → List Nat) (rows : Tokens) (first : Nat)
    (among : Nat → Prop) (best found : Block) : Prop where
  origin : found = best ∨ ∃ r j, among r ∧ 0 < seededRun seeds rows r j ∧
    found = .endingAt (first + r) j (seededRun seeds rows r j)
  notAfter_best : found.NotAfter best
  notAfter_run : ∀ r j, among r → 0 < seededRun seeds rows r j →
    found.NotAfter (.endingAt (first + r) j (seededRun seeds rows r j))

section Rows

variable {seeds : Token → List Nat} {rows : Tokens} {first r : Nat} {best : Block}
  {previous : Runs}

theorem BestOfRuns.trans {among among' : Nat → Prop} {middle found : Block}
    (hfirst : BestOfRuns seeds rows first among best middle)
    (hsecond : BestOfRuns seeds rows first among' middle found) :
    BestOfRuns seeds rows first (fun r => among r ∨ among' r) best found := by
  refine ⟨?_, hsecond.notAfter_best.trans hfirst.notAfter_best, ?_⟩
  · rcases hsecond.origin with heq | ⟨r, j, hr, hpos, heq⟩
    · rcases hfirst.origin with hsame | ⟨r, j, hr, hpos, hrun⟩
      · exact .inl (heq.trans hsame)
      · exact .inr ⟨r, j, .inl hr, hpos, heq.trans hrun⟩
    · exact .inr ⟨r, j, .inr hr, hpos, heq⟩
  · intro r j hr hpos
    rcases hr with hr | hr
    · exact hsecond.notAfter_best.trans (hfirst.notAfter_run r j hr hpos)
    · exact hsecond.notAfter_run r j hr hpos

theorem seededRun_behind (seeds : Token → List Nat) (hbehind : rows.length < r) (j : Nat) :
    seededRun seeds rows r j = 0 := by
  cases r with
  | zero => rfl
  | succ r =>
      cases j with
      | zero => rfl
      | succ j =>
          rw [seededRun, List.getElem?_eq_none (Nat.le_of_lt_succ hbehind)]
          rfl

theorem seededRun_of_seed (hread : RowsRead seeds rows first r best previous) {token : Token}
    (hrow : rows[r]? = some token) {j : Nat} (hj : j ∈ seeds token) :
    seededRun seeds rows (r + 1) (j + 1) = previous.before j + 1 := by
  rw [seededRun_succ seeds hrow, if_pos hj, hread.runs_eq]

theorem mem_seeds_of_seededRun {token : Token} (hrow : rows[r]? = some token) {j : Nat}
    (hpos : 0 < seededRun seeds rows (r + 1) (j + 1)) : j ∈ seeds token := by
  by_contra hnot
  rw [seededRun_succ seeds hrow, if_neg hnot] at hpos
  exact absurd hpos (Nat.lt_irrefl 0)

theorem RowsRead.step (hsorted : ∀ token, (seeds token).Pairwise (· < ·))
    (hread : RowsRead seeds rows first r best previous) {token : Token}
    (hrow : rows[r]? = some token) :
    let state := (seeds token).foldl (extendRun previous (first + r)) (best, {})
    RowsRead seeds rows first (r + 1) state.1 state.2 ∧
      BestOfRuns seeds rows first (· = r + 1) best state.1 := by
  have hle (j : Nat) : previous.before j ≤ r ∧ previous.before j ≤ j := by
    rw [hread.runs_eq]
    exact seededRun_le seeds rows r j
  have hbefore : ∀ j ∈ seeds token, previous.before j ≤ first + r ∧ previous.before j ≤ j :=
    fun j _ => ⟨Nat.le_trans (hle j).1 (Nat.le_add_left r first), (hle j).2⟩
  obtain ⟨hfound, hnotBest, hnotRuns⟩ := foldl_extendRun_best previous (first + r)
    (seeds token) best {} (hsorted token) hbefore
    (fun _ _ => hread.ends.imp id .inl)
  have hruns := foldl_extendRun_runs previous (first + r) (seeds token) best {}
  dsimp only
  generalize (seeds token).foldl (extendRun previous (first + r)) (best, {}) = state at *
  refine ⟨⟨?_, ?_⟩, ?_, hnotBest, ?_⟩
  · intro j
    cases j with
    | zero => simp [Runs.before, seededRun]
    | succ j =>
        rw [Runs.before, if_neg (Nat.succ_ne_zero j), Nat.add_sub_cancel, hruns,
          seededRun_succ seeds hrow, hread.runs_eq]
        simp
  · rcases hfound with heq | ⟨j, -, heq⟩
    · rw [heq]
      exact hread.ends.imp id fun hends => Nat.le_succ_of_le hends
    · refine .inr ?_
      have hlej := (hle j).1
      rw [heq]
      simp only [Block.endingAt, Block.referenceEnd]
      omega
  · rcases hfound with heq | ⟨j, hj, heq⟩
    · exact .inl heq
    · refine .inr ⟨r + 1, j + 1, rfl, ?_, ?_⟩
      · rw [seededRun_of_seed hread hrow hj]
        exact Nat.succ_pos _
      · rw [seededRun_of_seed hread hrow hj]
        exact heq
  · intro r' j heq hpos
    subst heq
    cases j with
    | zero => simp [seededRun] at hpos
    | succ j =>
        have hj := mem_seeds_of_seededRun hrow hpos
        rw [seededRun_of_seed hread hrow hj]
        exact hnotRuns j hj

theorem RowsRead.longestRun (hsorted : ∀ token, (seeds token).Pairwise (· < ·))
    (hread : RowsRead seeds rows first r best previous) :
    BestOfRuns seeds rows first (r < ·) best
      (longestRun seeds (rows.drop r) (first + r) best previous) := by
  generalize hrest : rows.drop r = rest
  induction rest generalizing r best previous with
  | nil =>
      have hlength := List.drop_eq_nil_iff.1 hrest
      refine ⟨.inl rfl, Block.NotAfter.refl best, ?_⟩
      intro r' j hr' hpos
      rw [seededRun_behind seeds (Nat.lt_of_le_of_lt hlength hr')] at hpos
      exact absurd hpos (Nat.lt_irrefl 0)
  | cons token rest ih =>
      have hrow : rows[r]? = some token := by
        have hhead := congrArg (·[0]?) hrest
        simpa [List.getElem?_drop] using hhead
      have hrest' : rows.drop (r + 1) = rest := by
        rw [← List.drop_drop, hrest, List.drop_one, List.tail_cons]
      obtain ⟨hnext, hrow⟩ := hread.step hsorted hrow
      have hall := hrow.trans (ih hnext hrest')
      have hamong : (fun r' => r' = r + 1 ∨ r + 1 < r') = (r < ·) := by
        funext r'
        exact propext (by omega)
      rw [hamong] at hall
      exact hall

end Rows

namespace PositionIndex

variable {index : PositionIndex} {reference generated : Tokens} {region : Region}

private abbrev rowsOf (reference : Tokens) (region : Region) : Tokens :=
  reference.extract region.referenceFrom region.referenceTo

private abbrev seedsOf (index : PositionIndex) (region : Region) : Token → List Nat :=
  index.seeds none region.generatedFrom region.generatedTo

theorem Faithful.seeded_iff (h : index.Faithful) {r j : Nat} :
    (∃ token, (rowsOf reference region)[r]? = some token ∧ j ∈ seedsOf index region token) ↔
      region.generatedFrom ≤ j ∧ r < region.referenceTo - region.referenceFrom ∧
        j < region.generatedTo ∧ ∃ token, reference[region.referenceFrom + r]? = some token ∧
          index.indexed[j]? = some token := by
  simp only [rowsOf, seedsOf, Tokens.getElem?_extract, h.mem_seeds]
  by_cases hr : r < region.referenceTo - region.referenceFrom
  · simp only [hr, if_true, true_and]
    constructor
    · intro hgiven
      obtain ⟨token, hrow, hfrom, hto, hplace⟩ := hgiven
      exact ⟨hfrom, hto, token, hrow, hplace⟩
    · intro hgiven
      obtain ⟨hfrom, hto, token, hrow, hplace⟩ := hgiven
      exact ⟨token, hrow, hfrom, hto, hplace⟩
  · simp [hr]

theorem Faithful.common_of_run (h : index.Faithful) {limit : Option Nat} {r j : Nat}
    (hpos : 0 < seededRun (index.seeds limit region.generatedFrom region.generatedTo)
      (rowsOf reference region) r j) :
    region.Common reference index.indexed (.endingAt (region.referenceFrom + r) j
      (seededRun (index.seeds limit region.generatedFrom region.generatedTo)
        (rowsOf reference region) r j)) := by
  have hle := seededRun_le (index.seeds limit region.generatedFrom region.generatedTo)
    (rowsOf reference region) r j
  generalize hn : seededRun (index.seeds limit region.generatedFrom region.generatedTo)
    (rowsOf reference region) r j = n at *
  have hrun : n ≤ seededRun (index.seeds limit region.generatedFrom region.generatedTo)
      (rowsOf reference region) (r - n + n) (j - n + n) := by
    apply Nat.le_of_eq
    rw [Nat.sub_add_cancel hle.1, Nat.sub_add_cancel hle.2, hn]
  have hshared (k : Nat) (hk : k < n) := h.seeded_iff.1 <|
    (le_seededRun_iff.1 hrun k hk).imp fun _ hseed => ⟨hseed.1, mem_seeds_of_limit hseed.2⟩
  obtain ⟨hfrom, -⟩ := hshared 0 hpos
  rw [Region.common_iff, Region.le_agreementAt_iff]
  simp only [Block.endingAt]
  refine ⟨by omega, by omega, hpos, ?_⟩
  intro k hk
  obtain ⟨-, hrto, hjto, token, href, hgen⟩ := hshared k hk
  have hi : region.referenceFrom + r - n + k = region.referenceFrom + (r - n + k) := by omega
  exact ⟨by omega, by omega, token, by rw [hi]; exact href, hgen⟩

theorem Faithful.run_of_common (h : index.Faithful) {block : Block}
    (hcommon : region.Common reference index.indexed block) :
    block.length ≤ seededRun (seedsOf index region) (rowsOf reference region)
      (block.referenceStart - region.referenceFrom + block.length)
      (block.generatedStart + block.length) := by
  obtain ⟨hrs, hgs, hpos, hagreed⟩ := Region.common_iff.1 hcommon
  rw [le_seededRun_iff]
  intro k hk
  obtain ⟨hrto, hgto, token, href, hgen⟩ := Region.le_agreementAt_iff.1 hagreed k hk
  rw [h.seeded_iff]
  have hi : region.referenceFrom + (block.referenceStart - region.referenceFrom + k) =
      block.referenceStart + k := by omega
  exact ⟨by omega, by omega, by omega, token, by rw [hi]; exact href, hgen⟩

theorem Faithful.longestRun_best (h : index.Faithful) (limit : Option Nat)
    (reference : Tokens) (region : Region) :
    BestOfRuns (index.seeds limit region.generatedFrom region.generatedTo)
      (rowsOf reference region) region.referenceFrom (0 < ·) region.emptyBlock
      (longestRun (index.seeds limit region.generatedFrom region.generatedTo)
        (rowsOf reference region) region.referenceFrom region.emptyBlock {}) := by
  have hread : RowsRead (index.seeds limit region.generatedFrom region.generatedTo)
      (rowsOf reference region) region.referenceFrom 0 region.emptyBlock {} :=
    ⟨fun j => by simp [Runs.before, seededRun], .inl rfl⟩
  exact hread.longestRun (h.seeds_sorted limit _ _)

theorem Faithful.longestRun_common (h : index.Faithful) (limit : Option Nat)
    (reference : Tokens) (region : Region) :
    let block := longestRun (index.seeds limit region.generatedFrom region.generatedTo)
      (rowsOf reference region) region.referenceFrom region.emptyBlock {}
    block = region.emptyBlock ∨ region.Common reference index.indexed block := by
  rcases (h.longestRun_best limit reference region).origin with hempty | ⟨r, j, -, hpos, hrun⟩
  · exact .inl hempty
  · dsimp only
    rw [hrun]
    exact .inr (h.common_of_run hpos)

/-- The longest run of a region is its first common block. -/
theorem Faithful.longestRun_first (h : index.Faithful) (reference : Tokens) (region : Region) :
    region.First reference index.indexed
      (longestRun (seedsOf index region) (rowsOf reference region) region.referenceFrom
        region.emptyBlock {}) := by
  have hbest : BestOfRuns (seedsOf index region) (rowsOf reference region)
      region.referenceFrom (0 < ·) region.emptyBlock _ :=
    h.longestRun_best none reference region
  refine ⟨h.longestRun_common none reference region, ?_⟩
  intro other hother
  have hpos := hother.nonempty
  have hfrom := (Region.common_iff.1 hother).1
  have hrun := h.run_of_common hother
  refine (hbest.notAfter_run (other.referenceStart - region.referenceFrom + other.length)
    (other.generatedStart + other.length) (by omega) (by omega)).trans ?_
  rw [Block.notAfter_iff]
  simp only [Block.endingAt]
  omega

end PositionIndex

theorem getElem?_reverse_extract {xs : Tokens} {a i k : Nat} (hi : i ≤ xs.length)
    (hk : a + k < i) : (xs.extract a i).reverse[k]? = xs[i - 1 - k]? := by
  have hlength : (xs.extract a i).length = i - a := by
    simp only [List.extract_eq_take_drop, List.length_take, List.length_drop]
    omega
  rw [List.getElem?_reverse (by omega), Tokens.getElem?_extract, if_pos (by omega), hlength]
  congr 1
  omega

theorem agreement_reverse_le (xs ys : Tokens) (a b i j : Nat) :
    Tokens.agreement (xs.extract a i).reverse (ys.extract b j).reverse ≤ i - a ∧
      Tokens.agreement (xs.extract a i).reverse (ys.extract b j).reverse ≤ j - b := by
  have hleft := Tokens.agreement_le_left (xs.extract a i).reverse (ys.extract b j).reverse
  have hright := Tokens.agreement_le_right (xs.extract a i).reverse (ys.extract b j).reverse
  simp only [List.length_reverse, List.extract_eq_take_drop, List.length_take,
    List.length_drop] at hleft hright ⊢
  omega

theorem getElem?_of_lt_agreement_reverse (xs ys : Tokens) (a b : Nat) {i j : Nat} (k : Nat)
    (hi : i ≤ xs.length) (hj : j ≤ ys.length)
    (h : k < Tokens.agreement (xs.extract a i).reverse (ys.extract b j).reverse) :
    a + k < i ∧ b + k < j ∧
      ∃ token, xs[i - 1 - k]? = some token ∧ ys[j - 1 - k]? = some token := by
  have hle := agreement_reverse_le xs ys a b i j
  obtain ⟨token, href, hgen⟩ := Tokens.getElem?_of_lt_agreement h
  rw [getElem?_reverse_extract hi (by omega)] at href
  rw [getElem?_reverse_extract hj (by omega)] at hgen
  exact ⟨by omega, by omega, token, href, hgen⟩

namespace Region

variable {region : Region} {reference generated : Tokens} {block : Block}

theorem Common.back (h : region.Common reference generated block) {n : Nat}
    (hn : n ≤ Tokens.agreement
      (reference.extract region.referenceFrom block.referenceStart).reverse
      (generated.extract region.generatedFrom block.generatedStart).reverse) :
    n ≤ block.referenceStart ∧ n ≤ block.generatedStart ∧
      region.Common reference generated
        ⟨block.referenceStart - n, block.generatedStart - n, n + block.length⟩ := by
  have hreference : block.referenceStart ≤ reference.length :=
    Nat.le_trans (Nat.le_add_right _ _) h.spells.1
  have hgenerated : block.generatedStart ≤ generated.length :=
    Nat.le_trans (Nat.le_add_right _ _) h.spells.2.1
  have hback (k : Nat) (hk : k < n) := getElem?_of_lt_agreement_reverse reference generated
    region.referenceFrom region.generatedFrom k hreference hgenerated
    (Nat.lt_of_lt_of_le hk hn)
  obtain ⟨hrs, hgs, hpos, hagreed⟩ := Region.common_iff.1 h
  have hroom : region.referenceFrom + n ≤ block.referenceStart ∧
      region.generatedFrom + n ≤ block.generatedStart := by
    cases n with
    | zero => exact ⟨hrs, hgs⟩
    | succ n =>
        obtain ⟨href, hgen, -⟩ := hback n (Nat.lt_succ_self n)
        exact ⟨href, hgen⟩
  refine ⟨by omega, by omega, ?_⟩
  rw [Region.common_iff, Region.le_agreementAt_iff]
  refine ⟨by dsimp only; omega, by dsimp only; omega, by dsimp only; omega, ?_⟩
  intro k hk
  dsimp only at hk ⊢
  by_cases hbefore : k < n
  · obtain ⟨-, -, token, href, hgen⟩ := hback (n - 1 - k) (by omega)
    obtain ⟨hrto, hgto, -⟩ := (Region.le_agreementAt_iff.1 hagreed) 0 hpos
    have hi : block.referenceStart - 1 - (n - 1 - k) = block.referenceStart - n + k := by omega
    have hj : block.generatedStart - 1 - (n - 1 - k) = block.generatedStart - n + k := by omega
    rw [hi] at href
    rw [hj] at hgen
    exact ⟨by omega, by omega, token, href, hgen⟩
  · obtain ⟨hrto, hgto, token, href, hgen⟩ :=
      Region.le_agreementAt_iff.1 hagreed (k - n) (by omega)
    have hi : block.referenceStart + (k - n) = block.referenceStart - n + k := by omega
    have hj : block.generatedStart + (k - n) = block.generatedStart - n + k := by omega
    rw [hi] at href
    rw [hj] at hgen
    exact ⟨by omega, by omega, token, href, hgen⟩

theorem Common.forth (h : region.Common reference generated block) {n : Nat}
    (hn : n ≤ region.agreementAt reference generated block.referenceEnd block.generatedEnd) :
    region.Common reference generated
      ⟨block.referenceStart, block.generatedStart, block.length + n⟩ := by
  obtain ⟨hrs, hgs, hpos, hagreed⟩ := Region.common_iff.1 h
  have hbehind := agreementAt_add hagreed
  simp only [Block.referenceEnd, Block.generatedEnd] at hn
  rw [Region.common_iff]
  exact ⟨hrs, hgs, Nat.lt_of_lt_of_le hpos (Nat.le_add_right _ _), by dsimp only; omega⟩

theorem Common.widen (h : region.Common reference generated block) :
    region.Common reference generated (block.widen reference generated region) := by
  obtain ⟨hreference, hgenerated, hback⟩ := h.back (Nat.le_refl _)
  apply hback.forth
  apply Nat.le_of_eq
  simp only [Block.referenceEnd, Block.generatedEnd]
  rw [← Nat.add_assoc, ← Nat.add_assoc, Nat.sub_add_cancel hreference,
    Nat.sub_add_cancel hgenerated]
  rfl

end Region

theorem Region.widen_emptyBlock (region : Region) (reference generated : Tokens) :
    region.emptyBlock.widen reference generated region =
      ⟨region.referenceFrom, region.generatedFrom,
        region.agreementAt reference generated region.referenceFrom region.generatedFrom⟩ := by
  simp [Block.widen, emptyBlock, agreementAt, Block.referenceEnd, Block.generatedEnd]

theorem Region.common_of_agreementAt_pos {region : Region} {reference generated : Tokens}
    (hpos : 0 < region.agreementAt reference generated region.referenceFrom
      region.generatedFrom) :
    region.Common reference generated ⟨region.referenceFrom, region.generatedFrom,
      region.agreementAt reference generated region.referenceFrom region.generatedFrom⟩ :=
  Region.common_iff.2 ⟨Nat.le_refl _, Nat.le_refl _, hpos, Nat.le_refl _⟩

theorem Region.common_widen {region : Region} {reference generated : Tokens} {block : Block}
    (h : block = region.emptyBlock ∨ region.Common reference generated block) :
    block.widen reference generated region = region.emptyBlock ∨
      region.Common reference generated (block.widen reference generated region) := by
  rcases h with rfl | hcommon
  · rw [Region.widen_emptyBlock]
    rcases Nat.eq_zero_or_pos (region.agreementAt reference generated region.referenceFrom
      region.generatedFrom) with hzero | hpos
    · rw [hzero]
      exact .inl rfl
    · exact .inr (Region.common_of_agreementAt_pos hpos)
  · exact .inr hcommon.widen

theorem Region.First.widen_eq {region : Region} {reference generated : Tokens} {block : Block}
    (h : region.First reference generated block) :
    block.widen reference generated region = block := by
  rcases h.common with rfl | hcommon
  · rw [Region.widen_emptyBlock]
    rcases Nat.eq_zero_or_pos (region.agreementAt reference generated region.referenceFrom
      region.generatedFrom) with hzero | hpos
    · rw [hzero, Region.emptyBlock]
    · have hlength := (h.notAfter _ (Region.common_of_agreementAt_pos hpos)).length_le
      simp only [Region.length_emptyBlock] at hlength
      omega
  · have hlength := (h.notAfter _ hcommon.widen).length_le
    simp only [Block.widen] at hlength ⊢
    generalize Tokens.agreement
      (reference.extract region.referenceFrom block.referenceStart).reverse
      (generated.extract region.generatedFrom block.generatedStart).reverse = back at *
    generalize Tokens.agreement
      (reference.extract block.referenceEnd region.referenceTo)
      (generated.extract block.generatedEnd region.generatedTo) = forth at *
    obtain ⟨i, j, n⟩ := block
    simp only [Block.mk.injEq] at hlength ⊢
    omega

theorem PositionIndex.Faithful.longest_common {index : PositionIndex} (h : index.Faithful)
    (limit : Option Nat) (reference : Tokens) (region : Region) :
    index.longest limit reference index.indexed region = region.emptyBlock ∨
      region.Common reference index.indexed
        (index.longest limit reference index.indexed region) :=
  Region.common_widen (h.longestRun_common limit reference region)

/-- The positions finder without excluded tokens answers the first common block. -/
theorem PositionIndex.Faithful.longest_first {index : PositionIndex} (h : index.Faithful)
    (reference : Tokens) (region : Region) :
    region.First reference index.indexed
      (index.longest none reference index.indexed region) := by
  have hfirst := h.longestRun_first reference region
  rw [PositionIndex.longest, hfirst.widen_eq]
  exact hfirst

end Redraft.Align
