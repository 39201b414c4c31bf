import Redraft.Window

/-!
A block is a run of equal tokens: `length` tokens of the reference from `referenceStart`
spell the same as those of the output from `generatedStart`. A region is the part of the
reference and of the output in which a block is looked for.
-/

namespace Redraft.Align

structure Block where
  referenceStart : Nat
  generatedStart : Nat
  length : Nat
deriving DecidableEq, Repr

namespace Block

def referenceEnd (block : Block) : Nat := block.referenceStart + block.length

def generatedEnd (block : Block) : Nat := block.generatedStart + block.length

def toAbsolute (block : Block) (plan : Window.Plan) : Block :=
  { block with
    referenceStart := block.referenceStart + plan.referenceStart
    generatedStart := block.generatedStart + plan.generatedStart }

/-- The longer block comes first, then the earlier in the reference, then the earlier in
the output. -/
def preference (a b : Block) : Ordering :=
  (compare b.length a.length).then
    ((compare a.referenceStart b.referenceStart).then
      (compare a.generatedStart b.generatedStart))

def preferred (a b : Block) : Block :=
  if b.preference a = .lt then b else a

def Spells (block : Block) (reference generated : Tokens) : Prop :=
  block.referenceEnd ≤ reference.length ∧ block.generatedEnd ≤ generated.length ∧
    reference.extract block.referenceStart block.referenceEnd =
      generated.extract block.generatedStart block.generatedEnd

instance (block : Block) (reference generated : Tokens) :
    Decidable (block.Spells reference generated) :=
  inferInstanceAs (Decidable (_ ∧ _ ∧ _))

@[simp] theorem toAbsolute_full (block : Block) (referenceLength : Nat) :
    block.toAbsolute (.full referenceLength) = block := rfl

@[simp] theorem length_toAbsolute (block : Block) (plan : Window.Plan) :
    (block.toAbsolute plan).length = block.length := rfl

@[simp] theorem preference_self (block : Block) : block.preference block = .eq := by
  simp [preference]

@[simp] theorem preferred_self (block : Block) : block.preferred block = block := by
  simp [preferred]

end Block

structure Region where
  referenceFrom : Nat
  referenceTo : Nat
  generatedFrom : Nat
  generatedTo : Nat
deriving DecidableEq, Repr

namespace Region

def emptyBlock (region : Region) : Block :=
  ⟨region.referenceFrom, region.generatedFrom, 0⟩

@[simp] theorem length_emptyBlock (region : Region) : region.emptyBlock.length = 0 := rfl

def Contains (region : Region) (block : Block) : Prop :=
  region.referenceFrom ≤ block.referenceStart ∧ block.referenceEnd ≤ region.referenceTo ∧
    region.generatedFrom ≤ block.generatedStart ∧ block.generatedEnd ≤ region.generatedTo

instance (region : Region) (block : Block) : Decidable (region.Contains block) :=
  inferInstanceAs (Decidable (_ ∧ _ ∧ _ ∧ _))

end Region

end Redraft.Align
