import Redraft.Proofs.Matcher.Edits

namespace Redraft

open Align

namespace Tokens

variable {xs : Tokens} {start stop : Nat}

theorem take_extract (xs : Tokens) (start stop count : Nat) :
    (xs.extract start stop).take count = xs.extract start (min stop (start + count)) := by
  rw [List.extract_eq_take_drop, List.extract_eq_take_drop, List.take_take]
  congr 1
  omega

theorem drop_extract (xs : Tokens) (start stop count : Nat) :
    (xs.extract start stop).drop count = xs.extract (start + count) stop := by
  rw [List.extract_eq_take_drop, List.extract_eq_take_drop, List.drop_take, List.drop_drop,
    Nat.sub_sub]

theorem extract_min_eq_take (hstart : start ≤ stop) (hstop : stop ≤ xs.length) (count : Nat) :
    xs.extract start (min (start + count) stop) =
      (xs.extract start (min (start + count) xs.length)).take (stop - start) := by
  rw [take_extract]
  congr 1
  omega

theorem extract_eq_append (hstart : start ≤ stop) (hstop : stop ≤ xs.length) (count : Nat) :
    xs.extract start (min (start + count) xs.length) =
      xs.extract start (min (start + count) stop) ++
        xs.extract stop (min (start + count) xs.length) := by
  have hbehind := drop_extract xs start (min (start + count) xs.length) (stop - start)
  rw [Nat.add_sub_cancel' hstart] at hbehind
  rw [extract_min_eq_take hstart hstop, ← hbehind, List.take_append_drop]

end Tokens

namespace Backend

variable {reference generated : Tokens} {settings : MatchSettings} {plan : Window.Plan}
  {window : Window}

/-- The window only moves the block that is found between the kept parts. -/
theorem rule_eq_rule_slices (backend : Backend) (hdivisor : window.divisor = 0)
    (hplan : settings.window.plan reference.length generated.length = plan) :
    backend.rule reference settings generated =
      (backend.rule (plan.referenceSlice reference) { settings with window }
        (plan.generatedSlice generated)).map (·.toAbsolute plan) := by
  have hfull : window.plan (plan.referenceSlice reference).length
      (plan.generatedSlice generated).length = .full (plan.referenceSlice reference).length :=
    Window.plan_of_divisor_eq_zero hdivisor _ _
  have hwhole : windowedLastBlock (backend.longest settings.autojunk)
      (plan.referenceSlice reference) { settings with window } (plan.generatedSlice generated) =
        _ := windowedLastBlock_of_full hfull _
  rw [rule, rule, windowedLastBlock, hplan]
  exact congrArg (Option.map (·.toAbsolute plan)) hwhole.symm

theorem enough_iff_of_kept {block : Block}
    (hplan : settings.window.plan reference.length generated.length = plan)
    (hcounts : settings.minTailMatch ≤ settings.window.length reference.length ∨
      plan.generatedStart = 0)
    (hgenerated : generated ≠ [])
    (hend : block.generatedEnd = (plan.generatedSlice generated).length) :
    (settings.minTailMatch ≤ block.length ∨ block.length = generated.length) ↔
      settings.minTailMatch ≤ block.length ∨
        block.length = (plan.generatedSlice generated).length := by
  obtain ⟨hinside, hkeeps⟩ := settings.window.plan_keeps reference.length
    (List.length_pos_iff.2 hgenerated)
  rw [hplan] at hinside hkeeps
  rw [Window.Plan.generatedSlice, List.length_drop] at hend ⊢
  rw [Block.generatedEnd] at hend
  -- A block as long as what is kept is long enough, too, unless nothing is cut off.
  omega

section Tail

variable {block : Block} {maxLength : Nat}

theorem chunk?_of_kept (backend : Backend) (hdivisor : window.divisor = 0)
    (hplan : settings.window.plan? reference.length generated.length = some plan)
    (hblock : backend.rule (plan.referenceSlice reference) { settings with window }
      (plan.generatedSlice generated) = some block)
    (hend : block.generatedEnd = (plan.generatedSlice generated).length)
    (hmax : 1 ≤ maxLength) :
    let start := (block.toAbsolute plan).referenceEnd
    backend.chunk? reference settings generated maxLength =
      if settings.minTailMatch ≤ block.length ∨ block.length = generated.length then
        if start + maxLength < UInt64.size then
          some (reference.extract start (min (start + maxLength) reference.length))
        else none
      else some [] := by
  have hrule := backend.rule_eq_rule_slices hdivisor (Window.plan_eq_of_plan? hplan)
  rw [hblock, Option.map_some] at hrule
  have hcopy := (backend.findsCopies settings.autojunk).windowedLastBlock hrule
  have hgenerated := hcopy.spells.2.1
  have hnonempty := hcopy.nonempty
  refine chunkBy?_of_tail hplan hrule hcopy ?_ hmax
  rw [Window.Plan.generatedSlice, List.length_drop] at hend
  simp only [Block.generatedEnd, Block.toAbsolute] at hend hgenerated hnonempty ⊢
  omega

theorem chunk?_slices_of_kept (backend : Backend) (hdivisor : window.divisor = 0)
    (hrange : plan.referenceEnd ≤ reference.length)
    (hblock : backend.rule (plan.referenceSlice reference) { settings with window }
      (plan.generatedSlice generated) = some block)
    (hend : block.generatedEnd = (plan.generatedSlice generated).length)
    (hmax : 1 ≤ maxLength) :
    let start := (block.toAbsolute plan).referenceEnd
    block.referenceEnd ≤ start ∧ start ≤ plan.referenceEnd ∧
      backend.chunk? (plan.referenceSlice reference) { settings with window }
          (plan.generatedSlice generated) maxLength =
        if settings.minTailMatch ≤ block.length ∨
            block.length = (plan.generatedSlice generated).length then
          if block.referenceEnd + maxLength < UInt64.size then
            some (reference.extract start (min (start + maxLength) plan.referenceEnd))
          else none
        else some [] := by
  have hcopy := (backend.findsCopies settings.autojunk).windowedLastBlock hblock
  have hinside := hcopy.spells.1
  have hpos := hcopy.nonempty
  have hslice := Window.Plan.length_referenceSlice hrange
  have hstart : (block.toAbsolute plan).referenceEnd =
      plan.referenceStart + block.referenceEnd := by
    simp only [Block.toAbsolute, Block.referenceEnd]
    omega
  have hbefore : 0 < block.referenceEnd := by
    rw [Block.referenceEnd]
    omega
  rw [hslice, Window.Plan.referenceLength] at hinside
  dsimp only
  refine ⟨by omega, by omega, ?_⟩
  rw [chunk?, chunkBy?_of_tail (Window.plan?_of_divisor_eq_zero hdivisor _ _) hblock hcopy hend
      hmax, hslice, Window.Plan.referenceSlice,
    Tokens.extract_extract (by rw [Window.Plan.referenceLength]; omega), hstart,
    Window.Plan.referenceLength]
  congr 4
  omega

theorem chunks?_of_kept (backend : Backend) (hdivisor : window.divisor = 0)
    (hplan : settings.window.plan? reference.length generated.length = some plan)
    (hcounts : settings.minTailMatch ≤ settings.window.length reference.length ∨
      plan.generatedStart = 0)
    (hgenerated : generated ≠ [])
    (hblock : backend.rule (plan.referenceSlice reference) { settings with window }
      (plan.generatedSlice generated) = some block)
    (hend : block.generatedEnd = (plan.generatedSlice generated).length)
    (hmax : 1 ≤ maxLength) :
    let start := (block.toAbsolute plan).referenceEnd
    let draft := backend.chunk? reference settings generated maxLength
    let inside := backend.chunk? (plan.referenceSlice reference) { settings with window }
      (plan.generatedSlice generated) maxLength
    draft = none ∨ (draft = some [] ∧ inside = some []) ∨
      start ≤ plan.referenceEnd ∧
        draft = some (reference.extract start (min (start + maxLength) reference.length)) ∧
        inside = some (reference.extract start (min (start + maxLength) plan.referenceEnd)) := by
  have hexact := Window.plan_eq_of_plan? hplan
  have hrange : plan.referenceEnd ≤ reference.length := by
    rw [← hexact]
    exact Window.plan_referenceEnd_le _ _ _
  have henough := enough_iff_of_kept hexact hcounts hgenerated hend
  obtain ⟨hmoved, hbefore, hinside⟩ :=
    backend.chunk?_slices_of_kept hdivisor hrange hblock hend hmax
  dsimp only
  rw [hinside, backend.chunk?_of_kept hdivisor hplan hblock hend hmax]
  by_cases hcount : settings.minTailMatch ≤ block.length ∨ block.length = generated.length
  · rw [if_pos hcount, if_pos (henough.1 hcount)]
    by_cases hfits : (block.toAbsolute plan).referenceEnd + maxLength < UInt64.size
    · rw [if_pos hfits, if_pos (by omega)]
      exact .inr (.inr ⟨hbefore, rfl, rfl⟩)
    · exact .inl (if_neg hfits)
  · rw [if_neg hcount, if_neg (mt henough.2 hcount)]
    exact .inr (.inl ⟨rfl, rfl⟩)

theorem chunks?_of_no_kept (backend : Backend) (hdivisor : window.divisor = 0)
    (hplan : settings.window.plan? reference.length generated.length = some plan)
    (hgenerated : generated ≠ [])
    (hnone : ∀ block, backend.rule (plan.referenceSlice reference) { settings with window }
      (plan.generatedSlice generated) = some block →
        block.generatedEnd ≠ (plan.generatedSlice generated).length) :
    backend.chunk? reference settings generated maxLength = some [] ∧
      backend.chunk? (plan.referenceSlice reference) { settings with window }
        (plan.generatedSlice generated) maxLength = some [] := by
  have hexact := Window.plan_eq_of_plan? hplan
  have hbefore := (settings.window.plan_keeps reference.length
    (List.length_pos_iff.2 hgenerated)).1
  rw [hexact] at hbefore
  have hkept : plan.generatedSlice generated ≠ [] := by
    rw [← List.length_pos_iff, Window.Plan.generatedSlice, List.length_drop]
    exact Nat.sub_pos_of_lt hbefore
  refine ⟨chunkBy?_of_no_tail hplan hgenerated ?_,
    chunkBy?_of_no_tail (Window.plan?_of_divisor_eq_zero hdivisor _ _) hkept hnone⟩
  intro moved hmoved
  rw [backend.rule_eq_rule_slices hdivisor hexact] at hmoved
  obtain ⟨block, hblock, rfl⟩ := Option.map_eq_some_iff.1 hmoved
  have hend := hnone block hblock
  rw [Window.Plan.generatedSlice, List.length_drop] at hend
  simp only [Block.generatedEnd, Block.toAbsolute] at hend ⊢
  omega

theorem chunks?_cases (backend : Backend) (hdivisor : window.divisor = 0)
    (hplan : settings.window.plan? reference.length generated.length = some plan)
    (hcounts : settings.minTailMatch ≤ settings.window.length reference.length ∨
      plan.generatedStart = 0)
    (hgenerated : generated ≠ []) (maxLength : Nat) :
    let draft := backend.chunk? reference settings generated maxLength
    let inside := backend.chunk? (plan.referenceSlice reference) { settings with window }
      (plan.generatedSlice generated) maxLength
    draft = none ∨ (draft = some [] ∧ inside = some []) ∨
      ∃ block, backend.rule (plan.referenceSlice reference) { settings with window }
          (plan.generatedSlice generated) = some block ∧
        let start := (block.toAbsolute plan).referenceEnd
        start ≤ plan.referenceEnd ∧
          draft = some (reference.extract start (min (start + maxLength) reference.length)) ∧
          inside =
            some (reference.extract start (min (start + maxLength) plan.referenceEnd)) := by
  rcases Nat.eq_zero_or_pos maxLength with rfl | hmax
  · exact .inr (.inl ⟨chunkBy?_zero _ _ _ _, chunkBy?_zero _ _ _ _⟩)
  by_cases htail : ∃ block, backend.rule (plan.referenceSlice reference) { settings with window }
      (plan.generatedSlice generated) = some block ∧
        block.generatedEnd = (plan.generatedSlice generated).length
  · obtain ⟨block, hblock, hend⟩ := htail
    exact (backend.chunks?_of_kept hdivisor hplan hcounts hgenerated hblock hend hmax).imp id
      (Or.imp id fun hdrafts => ⟨block, hblock, hdrafts⟩)
  · exact .inr (.inl (backend.chunks?_of_no_kept hdivisor hplan hgenerated
      fun block hblock hend => htail ⟨block, hblock, hend⟩))

end Tail

end Backend

namespace Matcher

/-- A window only restricts what is searched, whatever both matchers were asked before: the
block is the one that a matcher without a window finds between the kept parts, and the draft
of that one is the draft cut off where the kept part of the reference ends. Behind it the
draft goes on with the reference. There is no draft only where it goes on from a block and its
end, counted from the start of the reference, is no size. -/
theorem window_only_restricts (backend : Backend) (reference : Tokens)
    (settings : MatchSettings) {window : Window} (hdivisor : window.divisor = 0)
    (calls others : List Call) {generated : Tokens} (hgenerated : generated ≠ [])
    {plan : Window.Plan}
    (hplan : settings.window.plan? reference.length generated.length = some plan)
    (hcounts : settings.minTailMatch ≤ settings.window.length reference.length ∨
      plan.generatedStart = 0)
    (maxLength : Nat) :
    let whole := (build backend reference settings).after calls
    let kept := (build backend (plan.referenceSlice reference)
      { settings with window }).after others
    let answer := (whole.nextChunk? generated maxLength).map Prod.fst
    let inside := (kept.nextChunk? (plan.generatedSlice generated) maxLength).map Prod.fst
    whole.lastBlock generated =
        (kept.lastBlock (plan.generatedSlice generated)).map (·.map (·.toAbsolute plan)) ∧
      (answer = none ↔ 1 ≤ maxLength ∧ ∃ block,
        whole.lastBlock generated = .ok (some block) ∧
        block.generatedEnd = generated.length ∧
        (settings.minTailMatch ≤ block.length ∨ block.length = generated.length) ∧
        UInt64.size ≤ block.referenceEnd + maxLength) ∧
      (answer = some [] → inside = some []) ∧
      (∀ draft, answer = some draft → draft ≠ [] → ∃ block,
        whole.lastBlock generated = .ok (some block) ∧
        plan.referenceStart ≤ block.referenceStart ∧
        block.referenceEnd ≤ plan.referenceEnd ∧
        draft = reference.extract block.referenceEnd
          (min (block.referenceEnd + maxLength) reference.length) ∧
        inside = some (draft.take (plan.referenceEnd - block.referenceEnd)) ∧
        draft = draft.take (plan.referenceEnd - block.referenceEnd) ++
          reference.extract plan.referenceEnd
            (min (block.referenceEnd + maxLength) reference.length)) := by
  intro whole kept answer inside
  have goodWhole := (good_build backend reference settings).after calls
  have goodKept := (good_build backend (plan.referenceSlice reference)
    { settings with window }).after others
  have hexact := Window.plan_eq_of_plan? hplan
  have hrule := backend.rule_eq_rule_slices hdivisor hexact
  have hrange : plan.referenceEnd ≤ reference.length := by
    rw [← hexact]
    exact Window.plan_referenceEnd_le _ _ _
  have hanswer : answer = _ := goodWhole.nextChunk? generated maxLength
  have hinside : inside = _ := goodKept.nextChunk? (plan.generatedSlice generated) maxLength
  have hwhole : whole.lastBlock generated = _ := goodWhole.lastBlock generated
  have hkept : kept.lastBlock (plan.generatedSlice generated) = _ := goodKept.lastBlock _
  refine ⟨?_, ?_, ?_⟩
  · rw [hwhole, hkept, hrule]
    rfl
  · rw [hanswer, backend.chunk?_eq_none_iff hplan hgenerated, hwhole]
    simp only [Except.ok.injEq]
  · rw [hanswer, hinside, hwhole, hrule]
    rcases backend.chunks?_cases hdivisor hplan hcounts hgenerated maxLength with
      hnone | ⟨hnothing, hnone⟩ | ⟨block, hblock, hbefore, hdraft, hslices⟩
    · rw [hnone]
      exact ⟨nofun, nofun⟩
    · rw [hnothing]
      exact ⟨fun _ => hnone, fun draft hdraft hdrafts =>
        absurd (Option.some.inj hdraft).symm hdrafts⟩
    · have hcut := Tokens.extract_min_eq_take hbefore hrange maxLength
      have hjoined := Tokens.extract_eq_append hbefore hrange maxLength
      rw [hdraft, hslices, hblock]
      constructor
      · intro hnothing
        rw [hcut, Option.some.inj hnothing, List.take_nil]
      · intro draft hanswer _
        obtain rfl := Option.some.inj hanswer
        refine ⟨block.toAbsolute plan, rfl, Nat.le_add_left _ _, hbefore, rfl,
          by rw [hcut], ?_⟩
        rw [← hcut]
        exact hjoined

/-- One of the four drafted tokens lies in the kept part of the reference, and the others
are how the reference goes on. -/
theorem window_only_restricts_past_end :
    let settings : MatchSettings :=
      { window := { divisor := 4, minLength := 1, referenceFactor := 2 } }
    let reference : Tokens := [1, 2, 3, 4, 5, 6, 7, 8, 9, 10, 11, 12]
    let generated : Tokens := [0, 0, 0, 2, 3, 4, 5]
    let whole := (build .indexed reference settings).after [.next [4, 5] 1, .reset]
    let kept := (build .indexed [1, 2, 3, 4, 5, 6]
      { settings with window := { divisor := 0 } }).after [.next [7] 3]
    ({ divisor := 0 } : Window).divisor = 0 ∧ generated ≠ [] ∧
      settings.window.plan? reference.length generated.length = some ⟨3, 0, 6⟩ ∧
      settings.minTailMatch ≤ settings.window.length reference.length ∧
      (whole.nextChunk? generated 4).map Prod.fst = some [6, 7, 8, 9] ∧
      (kept.nextChunk? [2, 3, 4, 5] 4).map Prod.fst = some [6] := by
  intro settings reference generated whole kept
  have hgenerated : generated ≠ [] := List.cons_ne_nil _ _
  have hcounts : settings.minTailMatch ≤ settings.window.length reference.length := by decide
  have hplan : settings.window.plan? reference.length generated.length = some ⟨3, 0, 6⟩ := by
    decide
  have hdivisor : ({ divisor := 0 } : Window).divisor = 0 := rfl
  have good := (good_build .indexed reference settings).after [.next [4, 5] 1, .reset]
  have hdraft : (whole.nextChunk? generated 4).map Prod.fst = some [6, 7, 8, 9] :=
    (good.nextChunk? _ _).trans (by decide +kernel)
  have hlast : whole.lastBlock generated = .ok (some ⟨1, 3, 4⟩) :=
    (good.lastBlock _).trans (by decide +kernel)
  obtain ⟨-, -, -, hdrafts⟩ := window_only_restricts .indexed reference settings hdivisor
    [.next [4, 5] 1, .reset] [.next [7] 3] hgenerated hplan (.inl hcounts) 4
  obtain ⟨block, hblock, -, -, -, hinside, -⟩ := hdrafts _ hdraft (List.cons_ne_nil _ _)
  obtain rfl := Option.some.inj (Except.ok.inj (hlast.symm.trans hblock))
  exact ⟨hdivisor, hgenerated, hplan, hcounts, hdraft, hinside⟩

/-- What is kept of the reference begins behind its third token. Counted from there the end of
the draft is the largest size, and counted from the start it is none. -/
theorem window_moves_end_out_of_reach :
    let settings : MatchSettings :=
      { window := { divisor := 4, minLength := 1, referenceFactor := 2 } }
    let reference : Tokens := [1, 2, 3, 4, 5, 6, 7, 8, 9, 10, 11, 12]
    let generated : Tokens := [0, 0, 0, 0, 0, 0, 5, 6, 7, 8]
    let plan : Window.Plan := ⟨6, 3, 9⟩
    let whole := build .indexed reference settings
    let kept := build .indexed (plan.referenceSlice reference)
      { settings with window := { divisor := 0 } }
    let limit := UInt64.size - 6
    generated ≠ [] ∧
      settings.window.plan? reference.length generated.length = some plan ∧
      settings.minTailMatch ≤ settings.window.length reference.length ∧
      (kept.nextChunk? (plan.generatedSlice generated) limit).map Prod.fst = some [9] ∧
      whole.nextChunk? generated limit = none := by
  intro settings reference generated plan whole kept limit
  refine ⟨List.cons_ne_nil _ _, by decide, by decide, ?_, ?_⟩
  · exact ((good_build ..).nextChunk? _ _).trans (by decide +kernel)
  · rw [← Option.map_eq_none_iff (f := Prod.fst), (good_build ..).nextChunk?]
    decide +kernel

end Matcher

end Redraft
