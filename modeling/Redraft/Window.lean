import Redraft.Tokens

/-!
Matching a long output against a long reference at every step is too slow, so both are
trimmed once the output outgrows a window. The cut moves in whole windows: the part of the
output that is kept is at least one window long and shorter than two.
-/

namespace Redraft

structure Window where
  divisor : Nat := 15
  minLength : Nat := 100
  referenceFactor : Nat := 4
deriving DecidableEq, Repr

namespace Window

/-- Which part of the output and of the reference one step looks at. The kept output runs
from `generatedStart` to its end. -/
structure Plan where
  generatedStart : Nat
  referenceStart : Nat
  referenceEnd : Nat
deriving DecidableEq, Repr

/-- Zero means that no window fits: there is no reference, or the divisor is zero. -/
def length (window : Window) (referenceLength : Nat) : Nat :=
  if referenceLength = 0 ∨ window.divisor = 0 then 0
  else max (referenceLength / window.divisor) 1

namespace Plan

def full (referenceLength : Nat) : Plan := ⟨0, 0, referenceLength⟩

def referenceLength (plan : Plan) : Nat := plan.referenceEnd - plan.referenceStart

def isWindowed (plan : Plan) (referenceLength : Nat) : Bool :=
  0 < plan.generatedStart ∨ plan.referenceStart ≠ 0 ∨ plan.referenceEnd ≠ referenceLength

def referenceSlice (plan : Plan) (reference : Tokens) : Tokens :=
  reference.extract plan.referenceStart plan.referenceEnd

def generatedSlice (plan : Plan) (generated : Tokens) : Tokens :=
  generated.drop plan.generatedStart

@[simp] theorem referenceSlice_full (reference : Tokens) :
    (full reference.length).referenceSlice reference = reference := by
  simp [full, referenceSlice, List.extract_eq_take_drop]

@[simp] theorem generatedSlice_full (referenceLength : Nat) (generated : Tokens) :
    (full referenceLength).generatedSlice generated = generated := rfl

@[simp] theorem not_isWindowed_full (referenceLength : Nat) :
    (full referenceLength).isWindowed referenceLength = false := by
  simp [full, isWindowed]

end Plan

/-- The window applies when it is at least `minLength` long and the output fills it. -/
def Applies (window : Window) (referenceLength generatedLength : Nat) : Prop :=
  window.length referenceLength ≠ 0 ∧ window.minLength ≤ window.length referenceLength ∧
    window.length referenceLength ≤ generatedLength

instance (window : Window) (referenceLength generatedLength : Nat) :
    Decidable (window.Applies referenceLength generatedLength) :=
  inferInstanceAs (Decidable (_ ∧ _ ∧ _))

def plan (window : Window) (referenceLength generatedLength : Nat) : Plan :=
  if window.Applies referenceLength generatedLength then
    let w := window.length referenceLength
    let generatedStart := (generatedLength - w) / w * w
    let referenceStart := min (generatedStart - w) referenceLength
    { generatedStart, referenceStart
      referenceEnd := min (referenceStart + w * max window.referenceFactor 1) referenceLength }
  else Plan.full referenceLength

/-- The plan as far as sizes go: the end of the reference window is computed before it is cut
to the reference. -/
def plan? (window : Window) (referenceLength generatedLength : Nat) : Option Plan :=
  if window.Applies referenceLength generatedLength then do
    let w := window.length referenceLength
    let generatedStart := (generatedLength - w) / w * w
    let referenceStart := min (generatedStart - w) referenceLength
    let span ← Size.of? (w * max window.referenceFactor 1)
    let stop ← Size.of? (referenceStart + span)
    pure { generatedStart, referenceStart, referenceEnd := min stop referenceLength }
  else pure (Plan.full referenceLength)

def stop (window : Window) (referenceLength generatedLength : Nat) : Nat :=
  (window.plan referenceLength generatedLength).referenceStart +
    window.length referenceLength * max window.referenceFactor 1

theorem plan_of_not_applies {window : Window} {referenceLength generatedLength : Nat}
    (h : ¬ window.Applies referenceLength generatedLength) :
    window.plan referenceLength generatedLength = Plan.full referenceLength := by
  simp [plan, h]

theorem plan?_of_not_applies {window : Window} {referenceLength generatedLength : Nat}
    (h : ¬ window.Applies referenceLength generatedLength) :
    window.plan? referenceLength generatedLength = some (Plan.full referenceLength) := by
  simp [plan?, h]

/-- There is a plan unless the end of the reference window is too large, and then it is the
exact one. -/
theorem plan?_eq (window : Window) (referenceLength generatedLength : Nat) :
    window.plan? referenceLength generatedLength =
      if window.Applies referenceLength generatedLength ∧
          UInt64.size ≤ window.stop referenceLength generatedLength then none
      else some (window.plan referenceLength generatedLength) := by
  by_cases happlies : window.Applies referenceLength generatedLength
  · rw [plan?, stop, plan, if_pos happlies, if_pos happlies]
    dsimp only
    by_cases hspan : window.length referenceLength * max window.referenceFactor 1 <
        UInt64.size
    · rw [Size.of?_of_lt hspan]
      split
      · rename_i hlarge
        exact congrArg (Option.bind · _) (Size.of?_of_le hlarge.2)
      · rename_i hfits
        exact congrArg (Option.bind · _) (Size.of?_of_lt
          (Nat.lt_of_not_le fun hlarge => hfits ⟨happlies, hlarge⟩))
    · rw [Size.of?_of_le (by omega), if_pos ⟨happlies, by omega⟩]
      rfl
  · rw [plan?_of_not_applies happlies, plan_of_not_applies happlies,
      if_neg fun h => happlies h.1]

theorem plan_eq_of_plan? {window : Window} {referenceLength generatedLength : Nat}
    {plan : Plan} (hplan : window.plan? referenceLength generatedLength = some plan) :
    window.plan referenceLength generatedLength = plan := by
  rw [plan?_eq] at hplan
  split at hplan
  · cases hplan
  · exact Option.some.inj hplan

end Window

end Redraft
