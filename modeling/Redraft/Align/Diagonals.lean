import Redraft.Align.Finder
import Redraft.Align.Spine

/-!
The diagonals finder. On a diagonal the distance between reference and output position is
fixed, so every run of equal tokens lies on exactly one of them and a plain walk finds it.
Diagonals do not depend on one another, and nothing is remembered between calls.
-/

namespace Redraft.Align

/-- Walks down a diagonal. `run` tokens have agreed up to here; of equally long runs the
first is kept. -/
def walkDiagonal : Tokens → Tokens → (i j run : Nat) → Option Block → Option Block
  | a :: as, b :: bs, i, j, run, best =>
    if a = b then
      let found : Block := ⟨i - run, j - run, run + 1⟩
      walkDiagonal as bs (i + 1) (j + 1) (run + 1)
        (if best.all (·.length < found.length) then some found else best)
    else walkDiagonal as bs (i + 1) (j + 1) 0 best
  | _, _, _, _, _, best => best

/-- Where the diagonals of a region begin: on its first output position, then on its first
reference position. -/
def Region.diagonals (region : Region) : List (Nat × Nat) :=
  (Tokens.positions region.referenceFrom region.referenceTo).map (·, region.generatedFrom) ++
    (Tokens.positions (region.generatedFrom + 1) region.generatedTo).map
      (region.referenceFrom, ·)

def diagonalBlock (reference generated : Tokens) (region : Region) (start : Nat × Nat) :
    Option Block :=
  walkDiagonal (reference.extract start.1 region.referenceTo)
    (generated.extract start.2 region.generatedTo) start.1 start.2 0 none

def preferredOf : List Block → Option Block
  | [] => none
  | block :: blocks => some (blocks.foldl Block.preferred block)

def longestOnDiagonals (reference generated : Tokens) (region : Region) : Block :=
  (preferredOf (region.diagonals.filterMap (diagonalBlock reference generated region))).getD
    region.emptyBlock

structure DiagonalFinder where
  reference : Tokens
  settings : MatchSettings

namespace DiagonalFinder

def lastBlock (finder : DiagonalFinder) (generated : Tokens) :
    Except AlignError (Option Block) × DiagonalFinder :=
  let plan := finder.settings.window.plan finder.reference.length generated.length
  let reference := plan.referenceSlice finder.reference
  let window := plan.generatedSlice generated
  let block := Align.lastBlock (longestOnDiagonals reference window)
    reference.length window.length
  (.ok (block.map (·.toAbsolute plan)), finder)

instance : BlockFinder DiagonalFinder where
  reference := DiagonalFinder.reference
  settings := DiagonalFinder.settings
  lastBlock := lastBlock
  clear := id

@[simp] theorem lastBlock_snd (finder : DiagonalFinder) (generated : Tokens) :
    (finder.lastBlock generated).2 = finder := rfl

end DiagonalFinder

end Redraft.Align
