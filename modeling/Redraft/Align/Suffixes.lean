import Redraft.Tokens

/-!
The suffixes of a text in lexicographic order. They are sorted by prefix doubling: ranks
that compare the first `2 ^ k` tokens of each suffix give, in pairs, keys that compare twice
as many. In the sorted order the suffixes that share most with a pattern stand around the
place where the pattern itself would be inserted.
-/

namespace Redraft.Align

structure Suffix where
  start : Nat
  tokens : Tokens
deriving DecidableEq, Repr

structure Occurrence where
  position : Nat
  length : Nat
deriving DecidableEq, Repr

def Suffix.all : Nat → Tokens → List Suffix
  | _, [] => []
  | p, token :: tokens => ⟨p, token :: tokens⟩ :: Suffix.all (p + 1) tokens

abbrev SortKey := Nat × Nat

def SortKey.le (a b : SortKey) : Bool := a.1 < b.1 || (a.1 == b.1 && a.2 ≤ b.2)

/-- A way to sort positions by a key. Positions with equal keys may come in any order. -/
abbrev KeySort := (Nat → SortKey) → List Nat → List Nat

def KeySort.merge : KeySort := fun key order =>
  order.mergeSort fun p q => SortKey.le (key p) (key q)

namespace Suffixes

/-- Numbers the positions of a sorted order; equal keys get equal ranks. -/
def rankFrom (key : Nat → SortKey) (ranks : Array Nat) : Nat → Nat → List Nat → Array Nat
  | _, _, [] => ranks
  | rank, previous, p :: order =>
    let rank := if key p = key previous then rank else rank + 1
    rankFrom key (ranks.setIfInBounds p rank) rank p order

def ranks (key : Nat → SortKey) (size : Nat) : List Nat → Array Nat
  | [] => Array.replicate size 0
  | p :: order => rankFrom key (Array.replicate size 0) 0 p order

/-- The pair of ranks of a suffix and of the rest of it after `span` tokens. A suffix that
ends inside the span comes first. -/
def doubledKey (ranks : Array Nat) (span p : Nat) : SortKey :=
  (ranks.getD p 0, (ranks[p + span]?).elim 0 (· + 1))

/-- All ranks differ when the last position in order has the highest possible rank. -/
def allDistinct (ranks : Array Nat) (size : Nat) (order : List Nat) : Bool :=
  size - 1 ≤ (order.getLast?.elim 0 fun p => ranks.getD p 0)

/-- Sorts by twice as many tokens as long as some suffixes are still tied. -/
def refine (sort : KeySort) (size round : Nat) (ranksSoFar : Array Nat) (order : List Nat) :
    List Nat :=
  if Nat.pow 2 round < size ∧ allDistinct ranksSoFar size order = false then
    let key := doubledKey ranksSoFar (Nat.pow 2 round)
    let order := sort key order
    refine sort size (round + 1) (ranks key size order) order
  else order
termination_by size - round
decreasing_by
  rename_i tied
  have := Nat.lt_trans (Nat.lt_two_pow_self (n := round)) tied.1
  omega

def order (sort : KeySort) (text : Tokens) : List Nat :=
  let tokens := text.toArray
  let key : Nat → SortKey := fun p => (tokens.getD p 0, 0)
  let first := sort key (List.range text.length)
  refine sort text.length 0 (ranks key text.length first) first

end Suffixes

structure SuffixArray where
  text : Tokens := []
  sorted : Array Suffix := #[]
deriving DecidableEq, Repr

namespace SuffixArray

def buildWith (sort : KeySort) (text : Tokens) : SuffixArray where
  text := text
  sorted :=
    let suffixes := (Suffix.all 0 text).toArray
    ((Suffixes.order sort text).map fun p => suffixes.getD p ⟨p, []⟩).toArray

def build (text : Tokens) : SuffixArray := buildWith .merge text

def length (suffixes : SuffixArray) : Nat := suffixes.text.length

def isEmpty (suffixes : SuffixArray) : Bool := suffixes.text.isEmpty

def starts (suffixes : SuffixArray) : List Nat := suffixes.sorted.toList.map (·.start)

/-- First index in `[lo, hi)` whose suffix is not below the pattern. -/
def insertionPoint (sorted : Array Suffix) (pattern : Tokens) (lo hi : Nat) : Nat :=
  if h : lo < hi then
    let middle := lo + (hi - lo) / 2
    if (sorted[middle]?).any (fun suffix => decide (suffix.tokens < pattern)) then
      insertionPoint sorted pattern (middle + 1) hi
    else insertionPoint sorted pattern lo middle
  else lo
termination_by hi - lo
decreasing_by all_goals omega

def Occurrence.improve (found : Occurrence) : Option Occurrence → Occurrence
  | none => found
  | some best =>
    if best.length < found.length ∨
        (found.length = best.length ∧ found.position < best.position) then found
    else best

/-- Looks through suffixes that share less and less with the pattern. A suffix that shares
nothing, or less than the best, ends the search even if it starts before `start`. -/
def search (pattern : Tokens) (start : Nat) :
    List Suffix → Option Occurrence → Option Occurrence
  | [], best => best
  | suffix :: rest, best =>
    let shared := Tokens.agreement suffix.tokens pattern
    if shared = 0 ∨ best.any (shared < ·.length) then best
    else if suffix.start < start then search pattern start rest best
    else search pattern start rest
      (some (Occurrence.improve ⟨suffix.start, shared⟩ best))

/-- The longest beginning of the pattern that occurs at or after `start`; of equally long
ones the earliest. -/
def longestOccurrenceFrom (suffixes : SuffixArray) (pattern : Tokens) (start : Nat) :
    Option Occurrence :=
  if pattern.isEmpty || suffixes.sorted.isEmpty then none
  else
    let place := insertionPoint suffixes.sorted pattern 0 suffixes.sorted.size
    let below := (suffixes.sorted.toList.take place).reverse
    let above := suffixes.sorted.toList.drop place
    search pattern start above (search pattern start below none)

def longestOccurrence (suffixes : SuffixArray) (pattern : Tokens) : Option Occurrence :=
  suffixes.longestOccurrenceFrom pattern 0

@[simp] theorem text_build (text : Tokens) : (build text).text = text := rfl

@[simp] theorem length_build (text : Tokens) : (build text).length = text.length := rfl

@[simp] theorem longestOccurrenceFrom_nil (suffixes : SuffixArray) (start : Nat) :
    suffixes.longestOccurrenceFrom [] start = none := rfl

end SuffixArray

end Redraft.Align
