import Redraft.Proofs.Align.Diagonals
import Redraft.Proofs.Align.MatchTable
import Redraft.Proofs.Align.Positions
import Redraft.Proofs.Window

/-!
What finders remember does not show. Each has an invariant under which its answers follow a
rule of the output alone, and the rules of the three are one as long as every token may
start a match.
-/

namespace Redraft

theorem Window.Plan.length_referenceSlice {plan : Plan} {reference : Tokens}
    (h : plan.referenceEnd ≤ reference.length) :
    (plan.referenceSlice reference).length = plan.referenceLength := by
  simp only [referenceSlice, referenceLength, List.extract_eq_take_drop, List.length_take,
    List.length_drop]
  omega

namespace Align

theorem lastBlockFrom_congr {f g : Region → Block} {referenceLength generatedLength : Nat}
    (h : ∀ i j, f ⟨i, referenceLength, j, generatedLength⟩ =
      g ⟨i, referenceLength, j, generatedLength⟩)
    (referenceFrom generatedFrom : Nat) (last : Option Block) :
    lastBlockFrom f referenceLength generatedLength referenceFrom generatedFrom last =
      lastBlockFrom g referenceLength generatedLength referenceFrom generatedFrom last := by
  fun_induction lastBlockFrom f referenceLength generatedLength referenceFrom generatedFrom
    last with
  | case1 referenceFrom generatedFrom last hinside block honward ih =>
      rw [ih]
      conv =>
        rhs
        rw [lastBlockFrom, if_pos hinside, ← h]
      exact (if_pos honward).symm
  | case2 referenceFrom generatedFrom last hinside block hstuck =>
      conv =>
        rhs
        rw [lastBlockFrom, if_pos hinside, ← h]
      exact (if_neg hstuck).symm
  | case3 referenceFrom generatedFrom last houtside =>
      rw [lastBlockFrom, if_neg houtside]

theorem lastBlock_congr {f g : Region → Block} {referenceLength generatedLength : Nat}
    (h : ∀ i j, f ⟨i, referenceLength, j, generatedLength⟩ =
      g ⟨i, referenceLength, j, generatedLength⟩) :
    lastBlock f referenceLength generatedLength = lastBlock g referenceLength generatedLength :=
  lastBlockFrom_congr h 0 0 none

def windowedLastBlock (longest : Tokens → Tokens → Region → Block) (reference : Tokens)
    (settings : MatchSettings) (generated : Tokens) : Option Block :=
  let plan := settings.window.plan reference.length generated.length
  let slice := plan.referenceSlice reference
  let window := plan.generatedSlice generated
  (lastBlock (longest slice window) slice.length window.length).map (·.toAbsolute plan)

theorem windowedLastBlock_congr {f g : Tokens → Tokens → Region → Block}
    (h : ∀ (reference window : Tokens) i j,
      f reference window ⟨i, reference.length, j, window.length⟩ =
        g reference window ⟨i, reference.length, j, window.length⟩)
    (reference : Tokens) (settings : MatchSettings) (generated : Tokens) :
    windowedLastBlock f reference settings generated =
      windowedLastBlock g reference settings generated := by
  unfold windowedLastBlock
  dsimp only
  rw [lastBlock_congr]
  intro i j
  exact h _ _ i j

def chunkBy (rule : Tokens → Option Block) (reference : Tokens) (settings : MatchSettings)
    (generated : Tokens) (maxLength : Nat) : Tokens :=
  if reference.isEmpty || maxLength == 0 then []
  else if generated.isEmpty then reference.take maxLength
  else
    match rule generated with
    | none => []
    | some block =>
      match block.inRange reference generated with
      | .error _ => []
      | .ok block => continuation reference settings generated maxLength block

/-- Finders in good state answer the last block by a rule of the output alone, and stay in
good state. -/
structure Follows (σ : Type) [BlockFinder σ] (reference : Tokens) (settings : MatchSettings)
    (rule : Tokens → Option Block) (Good : σ → Prop) : Prop where
  reference_eq : ∀ finder, Good finder → BlockFinder.reference finder = reference
  settings_eq : ∀ finder, Good finder → BlockFinder.settings finder = settings
  lastBlock_eq : ∀ finder, Good finder → ∀ generated,
    (BlockFinder.lastBlock finder generated).1 = .ok (rule generated)
  good_lastBlock : ∀ finder, Good finder → ∀ generated,
    Good (BlockFinder.lastBlock finder generated).2
  good_clear : ∀ finder, Good finder → Good (BlockFinder.clear finder)

theorem Follows.nextChunk {σ : Type} [BlockFinder σ] {reference : Tokens}
    {settings : MatchSettings} {rule : Tokens → Option Block} {Good : σ → Prop}
    (follows : Follows σ reference settings rule Good) {finder : σ} (hgood : Good finder)
    (generated : Tokens) (maxLength : Nat) :
    (nextChunk finder generated maxLength).1 =
        chunkBy rule reference settings generated maxLength ∧
      Good (nextChunk finder generated maxLength).2 := by
  have hreference := follows.reference_eq finder hgood
  have hblock := follows.lastBlock_eq finder hgood generated
  have hafter := follows.good_lastBlock finder hgood generated
  rw [Align.nextChunk, chunkBy, hreference]
  generalize BlockFinder.lastBlock finder generated = found at hblock hafter
  obtain ⟨block, after⟩ := found
  dsimp only at hblock hafter
  subst hblock
  have hsettings := follows.settings_eq after hafter
  split
  · exact ⟨rfl, hgood⟩
  · split
    · exact ⟨rfl, hgood⟩
    · cases rule generated with
      | none => exact ⟨rfl, hafter⟩
      | some block =>
          dsimp only
          cases block.inRange reference generated with
          | error failure => exact ⟨rfl, follows.good_clear after hafter⟩
          | ok block => exact ⟨by rw [hsettings], hafter⟩

namespace DiagonalFinder

theorem follows (reference : Tokens) (settings : MatchSettings) :
    Follows DiagonalFinder reference settings
      (windowedLastBlock longestOnDiagonals reference settings)
      (· = { reference, settings }) where
  reference_eq := by
    intro finder heq
    subst heq
    rfl
  settings_eq := by
    intro finder heq
    subst heq
    rfl
  lastBlock_eq := by
    intro finder heq generated
    subst heq
    rfl
  good_lastBlock := by
    intro finder heq generated
    subst heq
    rfl
  good_clear := by
    intro finder heq
    subst heq
    rfl

end DiagonalFinder

def longestByIndex (autojunk : Bool) (reference generated : Tokens) : Region → Block :=
  let index := PositionIndex.empty.sync generated
  index.longest (index.popularLimit autojunk) reference generated

theorem PositionIndex.Faithful.occurrences_eq {a b : PositionIndex} (ha : a.Faithful)
    (hb : b.Faithful) (h : a.indexed = b.indexed) : a.occurrences = b.occurrences := by
  funext token
  rw [ha token, hb token, h]

theorem PositionIndex.Faithful.longest_eq {a b : PositionIndex} (ha : a.Faithful)
    (hb : b.Faithful) (h : a.indexed = b.indexed) (limit : Option Nat) :
    a.longest limit = b.longest limit := by
  have hseeds : a.seeds limit = b.seeds limit := by
    funext start stop token
    rw [seeds, seeds, isPopular, isPopular, ha.occurrences_eq hb h]
  funext reference generated region
  rw [PositionIndex.longest, PositionIndex.longest, hseeds]

theorem windowedLastBlock_longestByIndex_false :
    windowedLastBlock (longestByIndex false) = windowedLastBlock longestOnDiagonals := by
  funext reference settings generated
  apply windowedLastBlock_congr
  intro reference window i j
  have hfirst := (PositionIndex.faithful_empty.sync window).longest_first reference
    ⟨i, reference.length, j, window.length⟩
  rw [PositionIndex.indexed_sync] at hfirst
  rw [longestByIndex, PositionIndex.popularLimit_false]
  exact hfirst.unique (longestOnDiagonals_first _ _ _)

namespace PositionFinder

structure Good (reference : Tokens) (settings : MatchSettings) (finder : PositionFinder) :
    Prop where
  reference_eq : finder.reference = reference
  settings_eq : finder.settings = settings
  faithful : finder.index.Faithful

theorem follows (reference : Tokens) (settings : MatchSettings) :
    Follows PositionFinder reference settings
      (windowedLastBlock (longestByIndex settings.autojunk) reference settings)
      (Good reference settings) where
  reference_eq _ good := good.reference_eq
  settings_eq _ good := good.settings_eq
  lastBlock_eq := by
    intro finder hgiven generated
    obtain ⟨rfl, rfl, hfaithful⟩ := hgiven
    have hbase : ∀ plan : Window.Plan,
        (if finder.plan = some plan then finder.index else .empty).Faithful := by
      intro plan
      split
      · exact hfaithful
      · exact PositionIndex.faithful_empty
    change (Except.ok _ : Except AlignError (Option Block)) = _
    dsimp only [windowedLastBlock, longestByIndex]
    have hsynced := ((hbase (finder.settings.window.plan finder.reference.length
      generated.length)).sync ((finder.settings.window.plan finder.reference.length
        generated.length).generatedSlice generated))
    have hfresh := PositionIndex.faithful_empty.sync
      ((finder.settings.window.plan finder.reference.length
        generated.length).generatedSlice generated)
    rw [hsynced.longest_eq hfresh rfl]
    rfl
  good_lastBlock := by
    intro finder hgiven generated
    obtain ⟨rfl, rfl, hfaithful⟩ := hgiven
    refine ⟨rfl, rfl, ?_⟩
    simp only [BlockFinder.lastBlock, PositionFinder.lastBlock]
    split
    · exact hfaithful.sync _
    · exact PositionIndex.faithful_empty.sync _
  good_clear := by
    intro finder hgiven
    obtain ⟨rfl, rfl, -⟩ := hgiven
    exact ⟨rfl, rfl, PositionIndex.faithful_empty⟩

end PositionFinder

theorem MatchTable.Covers.lastBlock_eq {table : MatchTable} {suffixes : SuffixArray}
    {window : Tokens} (hordered : suffixes.Ordered) (hcovers : table.Covers suffixes)
    (hsynced : table.synced = window) :
    lastBlock (table.longest suffixes window) suffixes.length window.length =
      lastBlock (longestOnDiagonals suffixes.text window) suffixes.text.length
        window.length := by
  apply lastBlock_congr
  intro i j
  have hfirst := hcovers.longest_first hordered hsynced
    ⟨i, suffixes.text.length, j, window.length⟩ rfl rfl
  exact hfirst.unique (longestOnDiagonals_first _ _ _)

namespace TableFinder

/-- As long as there is a plan the suffixes are those of its part of the reference, and the
table is complete. -/
structure Good (reference : Tokens) (settings : MatchSettings) (finder : TableFinder) :
    Prop where
  reference_eq : finder.reference = reference
  settings_eq : finder.settings = settings
  suffixes_eq : ∀ plan, finder.plan = some plan →
    finder.suffixes = .build (plan.referenceSlice reference)
  covers : finder.table.Covers finder.suffixes

/-- A finder in good state that has just seen an output: suffixes and table are those of the
parts that are kept for it. -/
structure UpToDate (reference : Tokens) (settings : MatchSettings) (generated : Tokens)
    (finder : TableFinder) : Prop extends Good reference settings finder where
  built : finder.suffixes =
    .build ((settings.window.plan reference.length generated.length).referenceSlice reference)
  synced_eq : finder.table.synced =
    (settings.window.plan reference.length generated.length).generatedSlice generated

theorem good_new (reference : Tokens) (settings : MatchSettings) :
    Good reference settings { reference, settings } where
  reference_eq := rfl
  settings_eq := rfl
  suffixes_eq := by
    intro plan heq
    cases heq
  covers := MatchTable.covers_empty _

theorem Good.moveTo {reference : Tokens} {settings : MatchSettings} {finder : TableFinder}
    (good : finder.Good reference settings) (plan : Window.Plan) :
    (finder.moveTo plan).Good reference settings ∧
      (finder.moveTo plan).suffixes = .build (plan.referenceSlice reference) := by
  obtain ⟨rfl, rfl, hsuffixes, hcovers⟩ := good
  rw [TableFinder.moveTo]
  by_cases hplan : finder.plan = some plan
  · rw [if_pos hplan]
    exact ⟨⟨rfl, rfl, hsuffixes, hcovers⟩, hsuffixes plan hplan⟩
  · rw [if_neg hplan]
    have hbuilt : (if (finder.plan.any fun old =>
        old.referenceStart == plan.referenceStart && old.referenceEnd == plan.referenceEnd)
        then finder.suffixes else .build (plan.referenceSlice finder.reference)) =
        .build (plan.referenceSlice finder.reference) := by
      split
      · rename_i hsame
        obtain ⟨old, hold, hends⟩ := (Option.any_eq_true _ _).1 hsame
        rw [Bool.and_eq_true, beq_iff_eq, beq_iff_eq] at hends
        rw [hsuffixes old hold, Window.Plan.referenceSlice, Window.Plan.referenceSlice,
          hends.1, hends.2]
      · rfl
    refine ⟨⟨rfl, rfl, ?_, MatchTable.covers_empty _⟩, hbuilt⟩
    intro _ heq
    cases heq
    exact hbuilt

theorem Good.lastBlock {reference : Tokens} {settings : MatchSettings} {finder : TableFinder}
    (good : finder.Good reference settings) (generated : Tokens) :
    (finder.lastBlock generated).1 =
        .ok (windowedLastBlock longestOnDiagonals reference settings generated) ∧
      (finder.lastBlock generated).2.UpToDate reference settings generated := by
  have hreference := good.reference_eq
  have hsettings := good.settings_eq
  rw [TableFinder.lastBlock, hreference, hsettings, windowedLastBlock]
  generalize hplan : settings.window.plan reference.length generated.length = plan
  obtain ⟨moved, hsuffixes⟩ := good.moveTo plan
  generalize finder.moveTo plan = finder at moved hsuffixes
  have hend : plan.referenceEnd ≤ reference.length := by
    rw [← hplan]
    exact Window.plan_referenceEnd_le _ _ _
  have hlength : finder.suffixes.length = plan.referenceLength := by
    rw [hsuffixes, SuffixArray.length_build, Window.Plan.length_referenceSlice hend]
  have hordered : finder.suffixes.Ordered := by
    rw [hsuffixes]
    exact SuffixArray.build_ordered _
  have htext : finder.suffixes.text = plan.referenceSlice reference := by
    rw [hsuffixes, SuffixArray.text_build]
  obtain ⟨hcovers, hsynced⟩ := moved.covers.advance hordered (plan.generatedSlice generated)
  dsimp only
  rw [if_neg (fun hne => hne hlength)]
  refine ⟨?_, ⟨moved.reference_eq, moved.settings_eq, moved.suffixes_eq, hcovers⟩, ?_, ?_⟩
  · rw [hcovers.lastBlock_eq hordered hsynced, htext]
  · rw [hplan]
    exact hsuffixes
  · rw [hplan]
    exact hsynced

theorem follows (reference : Tokens) (settings : MatchSettings) :
    Follows TableFinder reference settings
      (windowedLastBlock longestOnDiagonals reference settings)
      (Good reference settings) where
  reference_eq _ good := good.reference_eq
  settings_eq _ good := good.settings_eq
  lastBlock_eq _ good generated := (good.lastBlock generated).1
  good_lastBlock _ good generated := (good.lastBlock generated).2.toGood
  good_clear := by
    intro finder hgiven
    obtain ⟨rfl, rfl, -, -⟩ := hgiven
    exact good_new finder.reference finder.settings

end TableFinder

end Align

end Redraft
