import Redraft.Align.Diagonals

namespace Redraft.Align

/-- Who walks which diagonals. One worker walks some of them in turn, or two parts of the work
are done apart and then joined. -/
inductive Division where
  | alone (starts : List (Nat × Nat))
  | apart (left right : Division)
deriving DecidableEq, Repr

namespace Division

def starts : Division → List (Nat × Nat)
  | alone starts => starts
  | apart left right => left.starts ++ right.starts

/-- The best of the blocks that all workers find. A part that finds none is passed over. -/
def best (found : Nat × Nat → Option Block) : Division → Option Block
  | alone starts => preferredOf (starts.filterMap found)
  | apart left right => Option.merge Block.preferred (left.best found) (right.best found)

def longest (division : Division) (reference generated : Tokens) (region : Region) : Block :=
  (division.best (diagonalBlock reference generated region)).getD region.emptyBlock

end Division

def Region.places (region : Region) : Nat :=
  (region.referenceTo - region.referenceFrom) * (region.generatedTo - region.generatedFrom)

/-- A region with fewer places is left to one worker. -/
def dividedFrom : Nat := 64 * 1024

def longestDivided (division : Division) (reference generated : Tokens) (region : Region) :
    Block :=
  if region.places < dividedFrom then longestOnDiagonals reference generated region
  else division.longest reference generated region

end Redraft.Align
