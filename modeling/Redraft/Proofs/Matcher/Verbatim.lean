import Mathlib.Order.Bounds.Basic
import Redraft.Proofs.Matcher.Edits

/-!
A reference that is followed token by token. What the window keeps of the reference always
reaches over what it keeps of the output, so the kept part of the output is found again, and
found where the reference spells it first.
-/

namespace Redraft

open Align

theorem Tokens.add_length_extract {xs : Tokens} {start stop : Nat} (hstart : start ≤ stop)
    (hstop : stop ≤ xs.length) : start + (xs.extract start stop).length = stop := by
  rw [List.extract_eq_take_drop, List.length_take, List.length_drop]
  omega

namespace Window

/-- What a plan keeps of the reference spells the run at `place`. -/
structure Plan.SpellsAt (plan : Plan) (reference run : Tokens) (place : Nat) : Prop where
  start_le : plan.referenceStart ≤ place
  end_le : place + run.length ≤ plan.referenceEnd
  spelled : reference.extract place (place + run.length) = run

section Plan

variable {plan : Plan} {reference run : Tokens} {place : Nat}

theorem Plan.spells_referenceSlice_iff (hrange : plan.referenceEnd ≤ reference.length)
    (hrun : run ≠ []) :
    Block.Spells ⟨place, 0, run.length⟩ (plan.referenceSlice reference) run ↔
      plan.SpellsAt reference run (plan.referenceStart + place) := by
  have hpos := List.length_pos_iff.2 hrun
  have hslice : (plan.referenceSlice reference).length =
      plan.referenceEnd - plan.referenceStart := length_referenceSlice hrange
  have hself : run.extract 0 (0 + run.length) = run := by
    rw [List.extract_eq_take_drop, List.drop_zero, Nat.zero_add, Nat.sub_zero,
      List.take_length]
  simp only [Block.Spells, Block.referenceEnd, Block.generatedEnd, hslice, hself]
  constructor
  · intro hspells
    obtain ⟨hinside, -, hsame⟩ := hspells
    refine ⟨Nat.le_add_right _ _, by omega, ?_⟩
    have hend : plan.referenceStart + (place + run.length) ≤ plan.referenceEnd := by omega
    rw [Nat.add_assoc, ← Tokens.extract_extract hend]
    exact hsame
  · intro hspells
    obtain ⟨-, hinside, hsame⟩ := hspells
    rw [Nat.add_assoc] at hinside hsame
    refine ⟨by omega, by omega, ?_⟩
    rw [referenceSlice, Tokens.extract_extract hinside]
    exact hsame

theorem Plan.SpellsAt.exists_isLeast (h : plan.SpellsAt reference run place) :
    ∃ first, IsLeast {place | plan.SpellsAt reference run place} first := by
  classical
  have hexists : ∃ place, plan.SpellsAt reference run place := ⟨place, h⟩
  exact ⟨Nat.find hexists, Nat.find_spec hexists, fun _ hother => Nat.find_min' hexists hother⟩

end Plan

variable {window : Window} {seen : Nat}

/-- What is kept of a beginning of the reference is found where it was taken from. -/
theorem spellsAt_generatedStart {reference : Tokens} (hfactor : 3 ≤ window.referenceFactor)
    (hsome : 1 ≤ seen) (hseen : seen ≤ reference.length) :
    let plan := window.plan reference.length seen
    plan.SpellsAt reference (reference.extract plan.generatedStart seen)
      plan.generatedStart := by
  obtain ⟨hstart, hbefore, hend⟩ := plan_reaches hfactor hsome hseen
  have hlength := Tokens.add_length_extract (Nat.le_of_lt hbefore) hseen
  refine ⟨hstart, ?_, ?_⟩
  · rwa [hlength]
  · rw [hlength]

end Window

namespace Backend

variable {reference generated kept : Tokens} {settings : MatchSettings}
  {plan : Window.Plan} {place : Nat}

theorem rule_of_spellsAt (backend : Backend) (hjunk : settings.autojunk = false)
    (hplan : settings.window.plan reference.length generated.length = plan)
    (hkept : plan.generatedSlice generated = kept) (hnonempty : kept ≠ [])
    (hfirst : IsLeast {place | plan.SpellsAt reference kept place} place) :
    backend.rule reference settings generated =
      some ⟨place, plan.generatedStart, kept.length⟩ := by
  have hrange : plan.referenceEnd ≤ reference.length := by
    rw [← hplan]
    exact Window.plan_referenceEnd_le _ _ _
  obtain ⟨hspells, hearliest⟩ := hfirst
  obtain ⟨offset, rfl⟩ := Nat.exists_eq_add_of_le hspells.start_le
  have hfinds := backend.findsFirst_of_all hjunk (plan.referenceSlice reference) kept
  have hlast := hfinds.lastBlock_of_occurs hnonempty
    ((Window.Plan.spells_referenceSlice_iff hrange hnonempty).2 hspells) fun other hother =>
      Nat.le_of_add_le_add_left
        (hearliest ((Window.Plan.spells_referenceSlice_iff hrange hnonempty).1 hother))
  rw [rule, windowedLastBlock, hplan, hkept, hlast, Option.map_some, Block.toAbsolute,
    Nat.add_comm offset, Nat.zero_add]

theorem tail_of_spellsAt (backend : Backend) (hjunk : settings.autojunk = false)
    (hplan : settings.window.plan reference.length generated.length = plan)
    (hkept : plan.generatedSlice generated = kept) (hnonempty : kept ≠ [])
    (hfirst : IsLeast {place | plan.SpellsAt reference kept place} place) :
    let tail : Block := ⟨place, plan.generatedStart, kept.length⟩
    backend.rule reference settings generated = some tail ∧
      tail.IsCopy reference generated ∧ tail.generatedEnd = generated.length ∧
        (tail.length = generated.length ↔ plan.generatedStart = 0) := by
  have hrule := backend.rule_of_spellsAt hjunk hplan hkept hnonempty hfirst
  have hlength : kept.length = generated.length - plan.generatedStart := by
    rw [← hkept, Window.Plan.generatedSlice, List.length_drop]
  have hpos := List.length_pos_iff.2 hnonempty
  refine ⟨hrule, (backend.findsCopies settings.autojunk).windowedLastBlock hrule, ?_, ?_⟩
  · change plan.generatedStart + kept.length = generated.length
    omega
  · dsimp only
    omega

theorem chunk_of_spellsAt (backend : Backend) (hjunk : settings.autojunk = false)
    (hplan : settings.window.plan reference.length generated.length = plan)
    (hkept : plan.generatedSlice generated = kept) (hnonempty : kept ≠ [])
    (hfirst : IsLeast {place | plan.SpellsAt reference kept place} place) {maxLength : Nat}
    (hmax : 1 ≤ maxLength) :
    backend.chunk reference settings generated maxLength =
      if plan.generatedStart = 0 ∨ settings.minTailMatch ≤ kept.length then
        reference.extract (place + kept.length)
          (min (place + kept.length + maxLength) reference.length)
      else [] := by
  obtain ⟨hrule, hcopy, hend, hwhole⟩ :=
    backend.tail_of_spellsAt hjunk hplan hkept hnonempty hfirst
  rw [chunk, chunkBy_of_tail settings hrule hcopy hend hmax]
  exact if_congr (by rw [hwhole, or_comm]) rfl rfl

theorem chunk?_of_spellsAt (backend : Backend) (hjunk : settings.autojunk = false)
    (hplan : settings.window.plan? reference.length generated.length = some plan)
    (hkept : plan.generatedSlice generated = kept) (hnonempty : kept ≠ [])
    (hfirst : IsLeast {place | plan.SpellsAt reference kept place} place) {maxLength : Nat}
    (hmax : 1 ≤ maxLength) :
    backend.chunk? reference settings generated maxLength =
      if plan.generatedStart = 0 ∨ settings.minTailMatch ≤ kept.length then
        if place + kept.length + maxLength < UInt64.size then
          some (reference.extract (place + kept.length)
            (min (place + kept.length + maxLength) reference.length))
        else none
      else some [] := by
  obtain ⟨hrule, hcopy, hend, hwhole⟩ := backend.tail_of_spellsAt hjunk
    (Window.plan_eq_of_plan? hplan) hkept hnonempty hfirst
  rw [chunk?, chunkBy?_of_tail hplan hrule hcopy hend hmax]
  exact if_congr (by rw [hwhole, or_comm]) rfl rfl

theorem chunk_take (backend : Backend) (hjunk : settings.autojunk = false) {seen : Nat}
    (hseen : seen ≤ reference.length)
    (hfull : settings.window.plan reference.length seen = .full reference.length)
    {maxLength : Nat} (hmax : 1 ≤ maxLength) :
    backend.chunk reference settings (reference.take seen) maxLength =
      (reference.drop seen).take maxLength := by
  cases seen with
  | zero =>
      rw [chunk, chunkBy, List.take_zero, List.drop_zero]
      cases reference with
      | nil => exact List.take_nil.symm
      | cons token reference =>
          rw [if_neg]
          · rfl
          · rw [Bool.or_eq_true, beq_iff_eq]
            exact not_or.2 ⟨Bool.false_ne_true, Nat.one_le_iff_ne_zero.1 hmax⟩
  | succ seen =>
      have hlength : (reference.take (seen + 1)).length = seen + 1 :=
        List.length_take_of_le hseen
      have hnonempty : reference.take (seen + 1) ≠ [] := List.length_pos_iff.1 (by omega)
      have hfirst : IsLeast {place | (Window.Plan.full reference.length).SpellsAt reference
          (reference.take (seen + 1)) place} 0 := by
        refine ⟨⟨Nat.le_refl 0, ?_, ?_⟩, fun _ _ => Nat.zero_le _⟩
        · rwa [hlength, Nat.zero_add]
        · rw [hlength, Nat.zero_add, List.extract_eq_take_drop]
          rfl
      rw [backend.chunk_of_spellsAt hjunk (by rw [hlength, hfull])
        (Window.Plan.generatedSlice_full _ _) hnonempty hfirst hmax, if_pos (.inl rfl), hlength,
        Nat.zero_add, Tokens.take_drop_eq_extract]

end Backend

namespace Matcher

/-- A matcher follows the reference, whatever it was asked before. What is kept of a
beginning of the reference is found again, and the draft is what stands behind its first
place, as long as that part counts. If it is all of the output, or nothing in front of it is
spelled alike, the draft is how the reference goes on. There is none where there is no plan,
or where its end is no size. -/
theorem follows_reference (backend : Backend) {reference : Tokens} {settings : MatchSettings}
    (hjunk : settings.autojunk = false) (hfactor : 3 ≤ settings.window.referenceFactor)
    (calls : List Call) {seen : Nat} (hsome : 1 ≤ seen) (hseen : seen ≤ reference.length)
    {maxLength : Nat} (hmax : 1 ≤ maxLength) :
    let matcher := (build backend reference settings).after calls
    let draft := (matcher.nextChunk? (reference.take seen) maxLength).map Prod.fst
    let behind (place : Nat) : Option Tokens :=
      if place + maxLength < UInt64.size then
        some (reference.extract place (min (place + maxLength) reference.length))
      else none
    (settings.window.plan? reference.length seen = none → draft = none) ∧
      ∀ plan, settings.window.plan? reference.length seen = some plan →
        let tail := reference.extract plan.generatedStart seen
        let enough := plan.generatedStart = 0 ∨ settings.minTailMatch ≤ tail.length
        (∃ place, IsLeast {place | plan.SpellsAt reference tail place} place ∧
            draft = if enough then behind (place + tail.length) else some []) ∧
          (plan.generatedStart = 0 → draft = behind seen) ∧
            (plan = .full reference.length → draft = behind seen) ∧
              (enough →
                (∀ place < plan.generatedStart, ¬plan.SpellsAt reference tail place) →
                  draft = behind seen) := by
  intro matcher draft behind
  have good := (good_build backend reference settings).after calls
  have hlength : (reference.take seen).length = seen := List.length_take_of_le hseen
  have hchunk : draft = backend.chunk? reference settings (reference.take seen) maxLength :=
    good.nextChunk? _ maxLength
  constructor
  · intro hnone
    rw [hchunk]
    exact chunkBy?_of_no_plan (by rwa [hlength]) hmax
  · intro plan hplan tail enough
    have hexact := Window.plan_eq_of_plan? hplan
    have hbefore : plan.generatedStart < seen :=
      hexact ▸ (Window.plan_reaches hfactor hsome hseen).2.1
    have hthere : plan.SpellsAt reference tail plan.generatedStart := by
      subst hexact
      exact Window.spellsAt_generatedStart hfactor hsome hseen
    obtain ⟨place, hfirst⟩ := hthere.exists_isLeast
    have hend : plan.generatedStart + tail.length = seen :=
      Tokens.add_length_extract (Nat.le_of_lt hbefore) hseen
    have hdraft : draft = if enough then behind (place + tail.length) else some [] := by
      have hkept : plan.generatedSlice (reference.take seen) = tail := by
        rw [Window.Plan.generatedSlice, List.drop_take, ← List.extract_eq_take_drop]
      have hnonempty : tail ≠ [] := List.length_pos_iff.1 (by omega)
      exact hchunk.trans (backend.chunk?_of_spellsAt hjunk (by rwa [hlength]) hkept hnonempty
        hfirst hmax)
    have honward (henough : enough) (hplace : place = plan.generatedStart) :
        draft = behind seen := by
      rw [hdraft, if_pos henough, hplace, hend]
    have hwhole (hzero : plan.generatedStart = 0) : draft = behind seen :=
      honward (.inl hzero) (Nat.le_antisymm (hfirst.2 hthere) (hzero ▸ Nat.zero_le place))
    refine ⟨⟨place, hfirst, hdraft⟩, hwhole, ?_, ?_⟩
    · intro hfull
      exact hwhole (congrArg Window.Plan.generatedStart hfull)
    · intro henough halone
      refine honward henough (Nat.le_antisymm (hfirst.2 hthere) ?_)
      exact Nat.le_of_not_lt fun hearlier => halone place hearlier hfirst.1

/-- The reference repeats itself. What is kept of the output is also spelled two tokens
earlier, so the draft is two tokens longer than what the reference has left. -/
theorem follows_reference_repeating :
    let settings : MatchSettings :=
      { window := { divisor := 4, minLength := 1, referenceFactor := 3 } }
    let reference : Tokens := [1, 2, 1, 2, 1, 2, 1, 2]
    let matcher := (build .indexed reference settings).after
      [.next [1, 2, 3] 1, .reset, .next [2, 1] 2]
    settings.autojunk = false ∧ 3 ≤ settings.window.referenceFactor ∧ 1 ≤ 6 ∧
      6 ≤ reference.length ∧ 1 ≤ 4 ∧ settings.window.plan? 8 6 = some ⟨4, 2, 8⟩ ∧
        (matcher.nextChunk? (reference.take 6) 4).map Prod.fst = some [1, 2, 1, 2] := by
  intro settings reference matcher
  have hplan : settings.window.plan? 8 6 = some ⟨4, 2, 8⟩ := by decide
  have hseen : 6 ≤ reference.length := by decide
  have hfactor : 3 ≤ settings.window.referenceFactor := by decide
  obtain ⟨⟨place, hfirst, hdraft⟩, -⟩ := (follows_reference .indexed rfl hfactor
    [.next [1, 2, 3] 1, .reset, .next [2, 1] 2] (show 1 ≤ 6 by decide) hseen
    (show 1 ≤ 4 by decide)).2 _ hplan
  have hsecond : IsLeast {place | (Window.Plan.mk 4 2 8).SpellsAt reference [1, 2] place} 2 :=
    ⟨⟨by decide, by decide, by decide⟩, fun _ hother => hother.start_le⟩
  obtain rfl : place = 2 := hfirst.unique hsecond
  exact ⟨rfl, hfactor, by decide, hseen, by decide, hplan, hdraft.trans (by decide)⟩

/-- The output is the reference but for two tokens, of which none is drafted: the end of the
reference window, before it is cut to the reference, is no size. -/
theorem following_stops_at_large_factor :
    let settings : MatchSettings :=
      { window := { divisor := 3, minLength := 1, referenceFactor := 8998411743272952 } }
    let reference : Tokens := List.range 6152
    settings.autojunk = false ∧ 3 ≤ settings.window.referenceFactor ∧ 1 ≤ 6150 ∧
      6150 ≤ reference.length ∧ 1 ≤ 2 ∧
        settings.window.plan? reference.length 6150 = none ∧
        (build .sequential reference settings).nextChunk? (reference.take 6150) 2 = none := by
  intro settings reference
  have hlength : reference.length = 6152 := List.length_range
  have hseen : (reference.take 6150).length = 6150 :=
    List.length_take_of_le (by rw [hlength]; decide)
  have hnone : settings.window.plan? reference.length 6150 = none := by
    rw [hlength]
    decide
  refine ⟨rfl, by decide, by decide, by rw [hlength]; decide, by decide, hnone, ?_⟩
  rw [← Option.map_eq_none_iff (f := Prod.fst), (good_build ..).nextChunk?]
  exact chunkBy?_of_no_plan (by rwa [hseen]) (by decide)

end Matcher

end Redraft
