import Std.Data.HashMap
import Redraft.Align.Finder
import Redraft.Align.Spine

/-!
The positions finder. An index says where in the output each token occurs; it grows with
the output. The longest block of a region is found row by row: a reference token continues,
at each of its occurrences, the run that ended one position earlier. The block found is
then extended at both ends, which takes in tokens too frequent to start a run.
-/

namespace Redraft.Align

structure PositionIndex where
  positions : Std.HashMap Token (Array Nat) := {}
  indexed : Tokens := []

namespace PositionIndex

def empty : PositionIndex := {}

def note (positions : Std.HashMap Token (Array Nat)) (entry : Token × Nat) :
    Std.HashMap Token (Array Nat) :=
  positions.alter entry.1 fun known => some ((known.getD #[]).push entry.2)

def sync (index : PositionIndex) (window : Tokens) : PositionIndex :=
  let base := if index.indexed.isPrefixOf window then index else empty
  let old := base.indexed.length
  { positions := ((window.drop old).zipIdx old).foldl note base.positions
    indexed := window }

def occurrences (index : PositionIndex) (token : Token) : List Nat :=
  (index.positions.getD token #[]).toList

def junkLength : Nat := 200

/-- A token with more occurrences than this does not start a run. -/
def popularLimit (index : PositionIndex) (autojunk : Bool) : Option Nat :=
  if autojunk ∧ junkLength ≤ index.indexed.length then
    some (index.indexed.length / 100 + 1)
  else none

def isPopular (index : PositionIndex) (limit : Option Nat) (token : Token) : Bool :=
  limit.any (· < (index.occurrences token).length)

/-- The occurrences that may continue or start a run inside `[start, stop)`. Those in front of
it are skipped, and behind it none is looked at. -/
def seeds (index : PositionIndex) (limit : Option Nat) (start stop : Nat) (token : Token) :
    List Nat :=
  if index.isPopular limit token then []
  else ((index.occurrences token).dropWhile (· < start)).takeWhile (· < stop)

@[simp] theorem indexed_sync (index : PositionIndex) (window : Tokens) :
    (index.sync window).indexed = window := rfl

@[simp] theorem occurrences_empty (token : Token) : empty.occurrences token = [] := by
  simp [empty, occurrences]

@[simp] theorem popularLimit_false (index : PositionIndex) :
    index.popularLimit false = none := by
  simp [popularLimit]

end PositionIndex

abbrev Runs := Std.HashMap Nat Nat

def Runs.before (runs : Runs) (j : Nat) : Nat :=
  if j = 0 then 0 else runs.getD (j - 1) 0

/-- One occurrence of the reference token `i`: its run, and the block if it is the longest
so far. -/
def extendRun (previous : Runs) (i : Nat) (state : Block × Runs) (j : Nat) : Block × Runs :=
  let run := previous.before j + 1
  (if state.1.length < run then ⟨i + 1 - run, j + 1 - run, run⟩ else state.1,
    state.2.insert j run)

def longestRun (seeds : Token → List Nat) : Tokens → Nat → Block → Runs → Block
  | [], _, best, _ => best
  | token :: reference, i, best, previous =>
    let (best, runs) := (seeds token).foldl (extendRun previous i) (best, {})
    longestRun seeds reference (i + 1) best runs

/-- Extends a block at both ends as far as the tokens agree inside the region. -/
def Block.widen (block : Block) (reference generated : Tokens) (region : Region) : Block :=
  let back := Tokens.agreement
    (reference.extract region.referenceFrom block.referenceStart).reverse
    (generated.extract region.generatedFrom block.generatedStart).reverse
  let forth := Tokens.agreement
    (reference.extract block.referenceEnd region.referenceTo)
    (generated.extract block.generatedEnd region.generatedTo)
  ⟨block.referenceStart - back, block.generatedStart - back, back + block.length + forth⟩

def PositionIndex.longest (index : PositionIndex) (limit : Option Nat)
    (reference generated : Tokens) (region : Region) : Block :=
  let rows := reference.extract region.referenceFrom region.referenceTo
  let seeds := index.seeds limit region.generatedFrom region.generatedTo
  (longestRun seeds rows region.referenceFrom region.emptyBlock {}).widen
    reference generated region

structure PositionFinder where
  reference : Tokens
  settings : MatchSettings
  plan : Option Window.Plan := none
  index : PositionIndex := .empty

namespace PositionFinder

def indexedLength (finder : PositionFinder) : Nat := finder.index.indexed.length

def clear (finder : PositionFinder) : PositionFinder :=
  { finder with plan := none, index := .empty }

def lastBlock (finder : PositionFinder) (generated : Tokens) :
    Except AlignError (Option Block) × PositionFinder :=
  let plan := finder.settings.window.plan finder.reference.length generated.length
  let base := if finder.plan = some plan then finder.index else .empty
  let reference := plan.referenceSlice finder.reference
  let window := plan.generatedSlice generated
  let index := base.sync window
  let limit := index.popularLimit finder.settings.autojunk
  let block := Align.lastBlock (index.longest limit reference window)
    reference.length window.length
  (.ok (block.map (·.toAbsolute plan)), { finder with plan := some plan, index })

instance : BlockFinder PositionFinder where
  reference := PositionFinder.reference
  settings := PositionFinder.settings
  lastBlock := lastBlock
  clear := clear

@[simp] theorem reference_clear (finder : PositionFinder) :
    finder.clear.reference = finder.reference := rfl

@[simp] theorem settings_clear (finder : PositionFinder) :
    finder.clear.settings = finder.settings := rfl

@[simp] theorem reference_lastBlock (finder : PositionFinder) (generated : Tokens) :
    (finder.lastBlock generated).2.reference = finder.reference := rfl

@[simp] theorem settings_lastBlock (finder : PositionFinder) (generated : Tokens) :
    (finder.lastBlock generated).2.settings = finder.settings := rfl

end PositionFinder

end Redraft.Align
