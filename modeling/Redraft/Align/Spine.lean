import Redraft.Align.Block

/-!
Two sequences fall apart into blocks: the longest common block, and then the same to the
left and to the right of it. Only the last block tells where the output stands, and it lies
on the right spine of that decomposition, so nothing to the left is ever computed.
-/

namespace Redraft.Align

/-- Walks right from block to block and keeps the last. A block that does not lead further
into the reference ends the walk. -/
def lastBlockFrom (longest : Region → Block) (referenceLength generatedLength : Nat)
    (referenceFrom generatedFrom : Nat) (last : Option Block) : Option Block :=
  if referenceFrom < referenceLength ∧ generatedFrom < generatedLength then
    let block := longest ⟨referenceFrom, referenceLength, generatedFrom, generatedLength⟩
    if block.length ≠ 0 ∧ referenceFrom < block.referenceEnd then
      lastBlockFrom longest referenceLength generatedLength
        block.referenceEnd block.generatedEnd (some block)
    else last
  else last
termination_by referenceLength - referenceFrom
decreasing_by
  rename_i inside onward
  exact Nat.sub_lt_sub_left inside.1 onward.2

def lastBlock (longest : Region → Block) (referenceLength generatedLength : Nat) :
    Option Block :=
  lastBlockFrom longest referenceLength generatedLength 0 0 none

@[simp] theorem lastBlock_zero_left (longest : Region → Block) (generatedLength : Nat) :
    lastBlock longest 0 generatedLength = none := by
  rw [lastBlock, lastBlockFrom]
  simp

@[simp] theorem lastBlock_zero_right (longest : Region → Block) (referenceLength : Nat) :
    lastBlock longest referenceLength 0 = none := by
  rw [lastBlock, lastBlockFrom]
  simp

end Redraft.Align
