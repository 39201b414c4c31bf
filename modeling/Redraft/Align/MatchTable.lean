import Redraft.Align.Finder
import Redraft.Align.Spine
import Redraft.Align.Suffixes

/-!
The table finder. For every position of the output the table holds the longest match of
what follows in the reference. A match that stopped before the end of the output can no
longer change when the output grows, so only matches that reached the end, and the new
positions, are looked up again.
-/

namespace Redraft.Align

structure MatchTable where
  /-- The longest match of the output from each position on. -/
  starts : Array (Option Block) := #[]
  /-- Positions whose match reaches the end of `synced`. -/
  openStarts : List Nat := []
  synced : Tokens := []

namespace MatchTable

def empty : MatchTable := {}

def lookup (suffixes : SuffixArray) (window : Tokens) (j : Nat) : Option Block :=
  (suffixes.longestOccurrence (window.drop j)).map fun found =>
    ⟨found.position, j, found.length⟩

/-- Lets a match grow with the output. It stays the earliest as long as it keeps matching
to the end; otherwise it is looked up anew. -/
def regrow (suffixes : SuffixArray) (window : Tokens) (j : Nat) (block : Block) :
    Option Block :=
  let more := Tokens.agreement (suffixes.text.drop block.referenceEnd)
    (window.drop block.generatedEnd)
  let grown := { block with length := block.length + more }
  if grown.generatedEnd = window.length then some grown else lookup suffixes window j

def settle (suffixes : SuffixArray) (window : Tokens)
    (state : Array (Option Block) × List Nat) (j : Nat) :
    Array (Option Block) × List Nat :=
  let block :=
    match (state.1[j]?).join with
    | some known => regrow suffixes window j known
    | none => lookup suffixes window j
  (if j < state.1.size then state.1.setIfInBounds j block else state.1.push block,
    if block.any (·.generatedEnd == window.length) then state.2 ++ [j] else state.2)

/-- Brings the table up to date, from scratch if `window` does not extend what it covers. -/
def advance (table : MatchTable) (suffixes : SuffixArray) (window : Tokens) : MatchTable :=
  let base := if table.synced.isPrefixOf window then table else empty
  if window.length = base.synced.length then base
  else
    let stale := base.openStarts ++ Tokens.positions base.synced.length window.length
    let (starts, openStarts) := stale.foldl (settle suffixes window) (base.starts, [])
    { starts, openStarts, synced := window }

def candidate (suffixes : SuffixArray) (window : Tokens) (referenceFrom : Nat)
    (entry : Option Block × Nat) : Option Block :=
  entry.1.bind fun block =>
    if referenceFrom ≤ block.referenceStart then some block
    else (suffixes.longestOccurrenceFrom (window.drop entry.2) referenceFrom).map fun found =>
      ⟨found.position, entry.2, found.length⟩

def longest (table : MatchTable) (suffixes : SuffixArray) (window : Tokens)
    (region : Region) : Block :=
  ((table.starts.toList.zipIdx.drop region.generatedFrom).filterMap
    (candidate suffixes window region.referenceFrom)).foldl Block.preferred region.emptyBlock

@[simp] theorem starts_empty : empty.starts = #[] := rfl

@[simp] theorem synced_empty : empty.synced = [] := rfl

end MatchTable

structure TableFinder where
  reference : Tokens
  settings : MatchSettings
  plan : Option Window.Plan := none
  suffixes : SuffixArray := {}
  table : MatchTable := .empty

namespace TableFinder

def matchesByStart (finder : TableFinder) : List (Option Block) := finder.table.starts.toList

def clear (finder : TableFinder) : TableFinder :=
  { finder with plan := none, suffixes := {}, table := .empty }

/-- Moves to a plan. The suffixes are kept as long as the same part of the reference is. -/
def moveTo (finder : TableFinder) (plan : Window.Plan) : TableFinder :=
  if finder.plan = some plan then finder
  else
    let sameReference := finder.plan.any fun old =>
      old.referenceStart == plan.referenceStart && old.referenceEnd == plan.referenceEnd
    { finder with
      plan := some plan
      suffixes :=
        if sameReference then finder.suffixes
        else .build (plan.referenceSlice finder.reference)
      table := .empty }

def lastBlock (finder : TableFinder) (generated : Tokens) :
    Except AlignError (Option Block) × TableFinder :=
  let plan := finder.settings.window.plan finder.reference.length generated.length
  let finder := finder.moveTo plan
  let suffixes := finder.suffixes
  if suffixes.length ≠ plan.referenceLength then
    (.error (.corruptIndex s!"suffix array covers {suffixes.length} tokens, window has {plan.referenceLength}"),
      finder)
  else
    let window := plan.generatedSlice generated
    let table := finder.table.advance suffixes window
    let block := Align.lastBlock (table.longest suffixes window) suffixes.length window.length
    (.ok (block.map (·.toAbsolute plan)), { finder with table })

instance : BlockFinder TableFinder where
  reference := TableFinder.reference
  settings := TableFinder.settings
  lastBlock := lastBlock
  clear := clear

@[simp] theorem reference_clear (finder : TableFinder) :
    finder.clear.reference = finder.reference := rfl

@[simp] theorem settings_clear (finder : TableFinder) :
    finder.clear.settings = finder.settings := rfl

end TableFinder

end Redraft.Align
