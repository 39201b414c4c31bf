import Redraft.Window

/-!
Where the window cuts. Of the output a plan depends on nothing but how many whole windows it
fills, so it stays as it is until another window is full, and then all its ends move on. The
output that is kept fills one window and not a second, and where the output follows the reference
the part of the reference that is kept is around it.
-/

namespace Redraft.Window

theorem plan_of_divisor_eq_zero {window : Window} (hdivisor : window.divisor = 0)
    (referenceLength generatedLength : Nat) :
    window.plan referenceLength generatedLength = .full referenceLength := by
  apply plan_of_not_applies
  intro happlies
  exact happlies.1 (if_pos (.inr hdivisor))

theorem plan?_of_divisor_eq_zero {window : Window} (hdivisor : window.divisor = 0)
    (referenceLength generatedLength : Nat) :
    window.plan? referenceLength generatedLength = some (.full referenceLength) := by
  apply plan?_of_not_applies
  intro happlies
  exact happlies.1 (if_pos (.inr hdivisor))

theorem nonempty_of_plan?_eq_none {window : Window} {referenceLength generatedLength : Nat}
    (hnone : window.plan? referenceLength generatedLength = none) :
    0 < referenceLength ∧ 0 < generatedLength := by
  by_cases happlies : window.Applies referenceLength generatedLength
  · obtain ⟨hlength, -, hfilled⟩ := happlies
    refine ⟨Nat.pos_of_ne_zero fun hempty => hlength (if_pos (.inl hempty)), ?_⟩
    exact Nat.lt_of_lt_of_le (Nat.pos_of_ne_zero hlength) hfilled
  · rw [plan?_of_not_applies happlies] at hnone
    cases hnone

theorem plan_referenceEnd_le (window : Window) (referenceLength generatedLength : Nat) :
    (window.plan referenceLength generatedLength).referenceEnd ≤ referenceLength := by
  unfold plan
  split
  · exact Nat.min_le_right _ _
  · exact Nat.le_refl _

/-- The plan for an output that fills `count` windows: all but the last are cut off, and the
reference is kept from one window further in front. -/
def planAfter (window : Window) (referenceLength count : Nat) : Plan :=
  let w := window.length referenceLength
  let generatedStart := (count - 1) * w
  let referenceStart := min (generatedStart - w) referenceLength
  { generatedStart, referenceStart
    referenceEnd := min (referenceStart + w * max window.referenceFactor 1) referenceLength }

section Applies

variable {window : Window} {referenceLength generatedLength : Nat}

theorem Applies.length_pos (happlies : window.Applies referenceLength generatedLength) :
    0 < window.length referenceLength :=
  Nat.pos_of_ne_zero happlies.1

theorem Applies.plan_eq (happlies : window.Applies referenceLength generatedLength) :
    window.plan referenceLength generatedLength =
      window.planAfter referenceLength
        (generatedLength / window.length referenceLength) := by
  have hdiv := Nat.div_eq_sub_div happlies.length_pos happlies.2.2
  rw [plan, if_pos happlies, planAfter, hdiv, Nat.add_sub_cancel]

theorem Applies.of_le (happlies : window.Applies referenceLength generatedLength) {longer : Nat}
    (hlonger : generatedLength ≤ longer) : window.Applies referenceLength longer :=
  ⟨happlies.1, happlies.2.1, Nat.le_trans happlies.2.2 hlonger⟩

theorem Applies.of_div_eq (happlies : window.Applies referenceLength generatedLength)
    {other : Nat} (hsame : other / window.length referenceLength =
      generatedLength / window.length referenceLength) :
    window.Applies referenceLength other := by
  have hfills := Nat.div_pos happlies.2.2 happlies.length_pos
  rw [← hsame] at hfills
  exact ⟨happlies.1, happlies.2.1, (Nat.div_pos_iff.1 hfills).2⟩

/-- The cut is a multiple of the window, and what is behind it fills one window only. -/
theorem Applies.tail (happlies : window.Applies referenceLength generatedLength) :
    let w := window.length referenceLength
    let plan := window.plan referenceLength generatedLength
    plan.generatedStart = (generatedLength / w - 1) * w ∧
      plan.generatedStart + w ≤ generatedLength ∧
        generatedLength < plan.generatedStart + 2 * w := by
  rw [happlies.plan_eq, planAfter]
  have hpos := happlies.length_pos
  have hfills := Nat.div_pos happlies.2.2 hpos
  generalize window.length referenceLength = w at hpos hfills
  obtain ⟨count, hcount⟩ := Nat.exists_eq_add_of_le' hfills
  have hall := Nat.div_add_mod' generatedLength w
  have hrest := Nat.mod_lt generatedLength hpos
  rw [hcount, Nat.succ_mul] at hall
  dsimp only
  rw [hcount, Nat.add_sub_cancel]
  omega

end Applies

section PlanAfter

variable (window : Window) (referenceLength : Nat)

theorem planAfter_reference_le (count : Nat) :
    let plan := window.planAfter referenceLength count
    plan.referenceStart ≤ plan.referenceEnd ∧ plan.referenceEnd ≤ referenceLength := by
  dsimp only [planAfter]
  omega

theorem planAfter_mono {count more : Nat} (hmore : count ≤ more) :
    let plan := window.planAfter referenceLength count
    let later := window.planAfter referenceLength more
    plan.generatedStart ≤ later.generatedStart ∧ plan.referenceStart ≤ later.referenceStart ∧
      plan.referenceEnd ≤ later.referenceEnd := by
  have hstart := Nat.mul_le_mul_right (window.length referenceLength)
    (Nat.sub_le_sub_right hmore 1)
  dsimp only [planAfter]
  omega

end PlanAfter

section Plan

variable {window : Window} {referenceLength generatedLength : Nat}

theorem plan_keeps (window : Window) (referenceLength : Nat) (hsome : 0 < generatedLength) :
    let plan := window.plan referenceLength generatedLength
    plan.generatedStart < generatedLength ∧ (plan.generatedStart ≠ 0 →
      plan.generatedStart + window.length referenceLength ≤ generatedLength) := by
  by_cases happlies : window.Applies referenceLength generatedLength
  · obtain ⟨-, hkept, -⟩ := happlies.tail
    have hpos := happlies.length_pos
    exact ⟨by omega, fun _ => hkept⟩
  · rw [plan_of_not_applies happlies]
    exact ⟨hsome, fun hcut => absurd rfl hcut⟩

/-- The part of the output that is kept is not empty, and the same positions of the
reference are kept: one window is kept in front of them, and they are less than two. -/
theorem plan_reaches (hfactor : 3 ≤ window.referenceFactor) (hsome : 1 ≤ generatedLength)
    (hseen : generatedLength ≤ referenceLength) :
    let plan := window.plan referenceLength generatedLength
    plan.referenceStart ≤ plan.generatedStart ∧ plan.generatedStart < generatedLength ∧
      generatedLength ≤ plan.referenceEnd := by
  by_cases happlies : window.Applies referenceLength generatedLength
  · obtain ⟨hcut, hkept, hrest⟩ := happlies.tail
    have hpos := happlies.length_pos
    have hthree := Nat.mul_le_mul_left (window.length referenceLength)
      (Nat.le_trans hfactor (Nat.le_max_left window.referenceFactor 1))
    rw [happlies.plan_eq, planAfter] at hcut hkept hrest ⊢
    dsimp only at hcut hkept hrest ⊢
    omega
  · rw [plan_of_not_applies happlies]
    exact ⟨Nat.le_refl _, hsome, hseen⟩

end Plan

theorem Applies.plan?_eq_none_iff {window : Window} {referenceLength generatedLength : Nat}
    (happlies : window.Applies referenceLength generatedLength) :
    window.plan? referenceLength generatedLength = none ↔
      UInt64.size ≤ window.stop referenceLength generatedLength := by
  rw [plan?_eq]
  split
  · rename_i hlarge
    exact ⟨fun _ => hlarge.2, fun _ => rfl⟩
  · rename_i hfits
    exact ⟨nofun, fun hlarge => absurd ⟨happlies, hlarge⟩ hfits⟩

theorem Applies.plan?_stable {window : Window} {referenceLength generatedLength other : Nat}
    (happlies : window.Applies referenceLength generatedLength)
    (hsame : other / window.length referenceLength =
      generatedLength / window.length referenceLength) :
    window.plan? referenceLength other = window.plan? referenceLength generatedLength := by
  have hother := happlies.of_div_eq hsame
  have hplan : window.plan referenceLength other =
      window.plan referenceLength generatedLength := by
    rw [hother.plan_eq, hsame, ← happlies.plan_eq]
  simp only [plan?_eq, stop, hplan, happlies, hother]

/-- Where a window applies, there is a plan as long as the end of the reference window is a
size. The cut of the output is a multiple of the window, and what is kept is one window or more
but less than two. What is kept of the reference lies inside it. The plan stays the same while
the output fills the same number of windows, and as the output grows none of its ends moves
back. If the window of the reference is three times as long or longer, and the output is no
longer than the reference, the positions that are kept of the output are kept of the reference,
too. -/
theorem plan_moves_with_output {window : Window} {referenceLength generatedLength : Nat}
    (happlies : window.Applies referenceLength generatedLength) :
    let w := window.length referenceLength
    (window.plan? referenceLength generatedLength = none ↔
      UInt64.size ≤ window.stop referenceLength generatedLength) ∧
    (∀ other, other / w = generatedLength / w →
      window.plan? referenceLength other = window.plan? referenceLength generatedLength) ∧
    ∀ plan, window.plan? referenceLength generatedLength = some plan →
      w ∣ plan.generatedStart ∧
      (plan.generatedStart ≤ generatedLength ∧ w ≤ generatedLength - plan.generatedStart ∧
        generatedLength - plan.generatedStart < 2 * w) ∧
      (plan.referenceStart ≤ plan.referenceEnd ∧ plan.referenceEnd ≤ referenceLength) ∧
      (∀ longer later, generatedLength ≤ longer →
        window.plan? referenceLength longer = some later →
        plan.generatedStart ≤ later.generatedStart ∧
          plan.referenceStart ≤ later.referenceStart ∧
            plan.referenceEnd ≤ later.referenceEnd) ∧
      (3 ≤ window.referenceFactor → generatedLength ≤ referenceLength →
        ∀ position, plan.generatedStart ≤ position → position < generatedLength →
          plan.referenceStart ≤ position ∧ position < plan.referenceEnd) := by
  intro w
  refine ⟨happlies.plan?_eq_none_iff, fun _ => happlies.plan?_stable, ?_⟩
  intro plan hplan
  obtain rfl := plan_eq_of_plan? hplan
  obtain ⟨hcut, hkept, hrest⟩ := happlies.tail
  have hmultiple : w ∣ (window.plan referenceLength generatedLength).generatedStart := by
    rw [hcut]
    exact Nat.dvd_mul_left w _
  refine ⟨hmultiple, ⟨by omega, by omega, by omega⟩, ?_, ?_, ?_⟩
  · have hreference := window.planAfter_reference_le referenceLength (generatedLength / w)
    rwa [← happlies.plan_eq] at hreference
  · intro longer later hlonger hlater
    obtain rfl := plan_eq_of_plan? hlater
    have hmono := window.planAfter_mono referenceLength (Nat.div_le_div_right (c := w) hlonger)
    rwa [← happlies.plan_eq, ← (happlies.of_le hlonger).plan_eq] at hmono
  · intro hfactor hseen position hfrom hto
    have hsome : 1 ≤ generatedLength := Nat.le_trans happlies.length_pos happlies.2.2
    obtain ⟨hstart, -, hend⟩ := plan_reaches hfactor hsome hseen
    exact ⟨Nat.le_trans hstart hfrom, Nat.lt_of_lt_of_le hto hend⟩

/-- The window is 200 long. At 2900 tokens the reference ends before four windows of it do, and
the plan is the same up to the last token before 3000. -/
theorem plan_moves_with_output_at_end :
    let window : Window := {}
    let plan : Plan := ⟨2600, 2400, 3000⟩
    window.Applies 3000 2900 ∧ window.plan? 3000 2900 = some plan ∧
      window.plan? 3000 2999 = some plan ∧ window.plan? 3000 3000 = some ⟨2800, 2600, 3000⟩ ∧
        window.length 3000 ∣ plan.generatedStart ∧
          ∀ position, 2600 ≤ position → position < 2900 → 2400 ≤ position ∧ position < 3000 := by
  intro window plan
  have happlies : window.Applies 3000 2900 := by decide
  have hplan : window.plan? 3000 2900 = some plan := by decide
  obtain ⟨-, hstable, hplanned⟩ := plan_moves_with_output happlies
  obtain ⟨hdvd, -, -, -, hcovers⟩ := hplanned plan hplan
  exact ⟨happlies, hplan, (hstable 2999 (by decide)).trans hplan, by decide, hdvd,
    hcovers (by decide) (by decide)⟩

/-- The window is 2050 long, and so many of them end behind all sizes. In exact numbers there
is a plan, which keeps all but the first window of the reference. -/
theorem plan_stops_at_large_factor :
    let window : Window := { divisor := 3, minLength := 1, referenceFactor := 8998411743272952 }
    window.Applies 6152 6150 ∧ window.length 6152 = 2050 ∧
      window.plan 6152 6150 = ⟨4100, 2050, 6152⟩ ∧ window.plan? 6152 6150 = none := by
  decide

end Redraft.Window
