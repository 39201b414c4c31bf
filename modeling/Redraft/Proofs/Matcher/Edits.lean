import Mathlib.Order.Bounds.Defs
import Redraft.Proofs.Align.Tails
import Redraft.Proofs.Matcher.Sizes

namespace Redraft

open Align

namespace Align

theorem windowedLastBlock_of_full {reference : Tokens} {settings : MatchSettings}
    {generated : Tokens}
    (hfull : settings.window.plan reference.length generated.length = .full reference.length)
    (longest : Tokens → Tokens → Region → Block) :
    windowedLastBlock longest reference settings generated =
      lastBlock (longest reference generated) reference.length generated.length := by
  rw [windowedLastBlock, hfull, Window.Plan.referenceSlice_full,
    Window.Plan.generatedSlice_full]
  exact congrFun Option.map_id _

section ChunkBy

variable {rule : Tokens → Option Block} {reference generated : Tokens} {block : Block}

theorem chunkBy_of_tail (settings : MatchSettings) (hrule : rule generated = some block)
    (hcopy : block.IsCopy reference generated)
    (hend : block.generatedEnd = generated.length) {maxLength : Nat} (hmax : 1 ≤ maxLength) :
    chunkBy rule reference settings generated maxLength =
      if settings.minTailMatch ≤ block.length ∨ block.length = generated.length then
        reference.extract block.referenceEnd
          (min (block.referenceEnd + maxLength) reference.length)
      else [] := by
  have hlength : block.generatedStart + block.length = generated.length := hend
  obtain ⟨hdrafts, hgenerated⟩ := hcopy.asked hmax
  rw [chunkBy, if_neg hdrafts, if_neg hgenerated, hrule]
  dsimp only
  rw [hcopy.inRange]
  dsimp only [continuation]
  rw [if_neg (not_not_intro hend), Tokens.take_drop_eq_extract]
  by_cases henough : settings.minTailMatch ≤ block.length ∨ block.length = generated.length
  · rw [if_pos henough, if_neg (by omega)]
  · rw [if_neg henough, if_pos (by omega)]

end ChunkBy

end Align

namespace Backend

variable {reference generated : Tokens} {settings : MatchSettings}

theorem findsFirst (backend : Backend) {autojunk : Bool}
    (hrare : autojunk = true → ∀ token ∈ reference,
      (PositionIndex.places token generated).length ≤ 1) :
    FindsFirst (backend.longest autojunk reference generated) reference generated := by
  cases backend with
  | sequential => exact findsFirst_longestByIndex hrare
  | parallel => exact findsFirst_longestOnDiagonals reference generated
  | indexed => exact findsFirst_longestOnDiagonals reference generated

theorem findsFirst_of_all (backend : Backend) {autojunk : Bool} (hjunk : autojunk = false)
    (reference generated : Tokens) :
    FindsFirst (backend.longest autojunk reference generated) reference generated :=
  backend.findsFirst fun hjunked => absurd (hjunk.symm.trans hjunked) Bool.false_ne_true

theorem chunk?_of_longestTail (backend : Backend) (hdistinct : reference.Nodup)
    (hfull : settings.window.plan? reference.length generated.length =
      some (.full reference.length))
    (hedit : generated.IsEditOf reference) (hgenerated : generated ≠ []) {tail : Block}
    (htail : tail.IsLongestTail reference generated) {maxLength : Nat}
    (hmax : 1 ≤ maxLength) :
    backend.chunk? reference settings generated maxLength =
      if 1 ≤ tail.length ∧
          (settings.minTailMatch ≤ tail.length ∨ tail.length = generated.length) then
        if tail.referenceEnd + maxLength < UInt64.size then
          some (reference.extract tail.referenceEnd
            (min (tail.referenceEnd + maxLength) reference.length))
        else none
      else some [] := by
  have hrule : backend.rule reference settings generated =
      lastBlock (backend.longest settings.autojunk reference generated) reference.length
        generated.length := windowedLastBlock_of_full (Window.plan_eq_of_plan? hfull) _
  rw [chunk?]
  rcases Nat.eq_zero_or_pos tail.length with hempty | hpos
  · have hnone : ∀ block, backend.rule reference settings generated = some block →
        block.generatedEnd ≠ generated.length := by
      intro block hblock hend
      have hcopy := (backend.findsCopies settings.autojunk).windowedLastBlock hblock
      have hlonger := htail.longest block hcopy.spells hend
      have hnonempty := hcopy.nonempty
      omega
    rw [chunkBy?_of_no_tail hfull hgenerated hnone, if_neg (by omega)]
  · have hfirst : FindsFirst (backend.longest settings.autojunk reference generated)
        reference generated :=
      backend.findsFirst fun _ _ htoken => hedit.length_places_le hdistinct htoken
    rw [hfirst.lastBlock_of_tail hdistinct hedit htail hpos] at hrule
    rw [chunkBy?_of_tail hfull hrule ⟨hpos, htail.spells⟩ htail.atEnd hmax]
    simp only [Nat.one_le_iff_ne_zero, Nat.pos_iff_ne_zero.1 hpos, ne_eq, not_false_eq_true,
      true_and]

end Backend

namespace Matcher

/-- A matcher resynchronises after edits, whatever it was asked before: if the reference has
no token twice and the output is an edit of it, the draft goes on behind the longest run of
the reference that ends the output, as long as that run counts. Only if the draft may be so
long that its end is no size, there is none. -/
theorem resynchronises_after_edits (backend : Backend) {reference generated : Tokens}
    (settings : MatchSettings) (calls : List Call) (hdistinct : reference.Nodup)
    (hfull : settings.window.plan? reference.length generated.length =
      some (.full reference.length))
    (hedit : generated.IsEditOf reference) (hgenerated : generated ≠ []) {maxLength : Nat}
    (hmax : 1 ≤ maxLength) :
    let matcher := (build backend reference settings).after calls
    (∃ tail : Block, tail.IsLongestTail reference generated) ∧
      ∀ tail : Block, tail.IsLongestTail reference generated →
        (matcher.nextChunk? generated maxLength).map Prod.fst =
          if 1 ≤ tail.length ∧
              (settings.minTailMatch ≤ tail.length ∨ tail.length = generated.length) then
            if tail.referenceEnd + maxLength < UInt64.size then
              some (reference.extract tail.referenceEnd
                (min (tail.referenceEnd + maxLength) reference.length))
            else none
          else some [] := by
  have good := (good_build backend reference settings).after calls
  refine ⟨exists_isLongestTail reference generated, ?_⟩
  intro tail htail
  rw [good.nextChunk?]
  exact backend.chunk?_of_longestTail hdistinct hfull hedit hgenerated htail hmax

/-- Two tokens are replaced by a foreign one. The run in front of it is longer than the one
behind it, from which the draft goes on. -/
theorem resynchronises_after_replacement :
    let reference : Tokens := [1, 2, 3, 4, 5, 6, 7, 8, 10]
    let generated : Tokens := [1, 2, 3, 9, 6, 7]
    let matcher := (build .sequential reference { autojunk := true }).after
      [.next [1, 2, 3] 2, .next [4, 5] 3]
    reference.Nodup ∧
      ({} : Window).plan? reference.length generated.length =
        some (.full reference.length) ∧
        generated.IsEditOf reference ∧ generated ≠ [] ∧ 1 ≤ 2 ∧
          (matcher.nextChunk? generated 2).map Prod.fst = some [8, 10] := by
  intro reference generated matcher
  have hdistinct : reference.Nodup := by decide
  have hfull : ({} : Window).plan? reference.length generated.length =
      some (.full reference.length) := by decide
  have hedit : generated.IsEditOf reference := by decide
  have hgenerated : generated ≠ [] := List.cons_ne_nil _ _
  have htail : Block.IsLongestTail ⟨5, 4, 2⟩ reference generated := by
    refine ⟨by decide, rfl, ?_⟩
    intro other hspells hend
    by_contra hlonger
    have hlength : other.generatedStart + other.length = 6 := hend
    obtain ⟨token, hreference, htoken⟩ :=
      hspells.shared (k := 3 - other.generatedStart) (by dsimp only at hlonger; omega)
    rw [Nat.add_sub_cancel' (by dsimp only at hlonger; omega)] at htoken
    obtain rfl : 9 = token := Option.some.inj htoken
    exact absurd (List.mem_of_getElem? hreference) (by decide)
  have hchunk := (resynchronises_after_edits .sequential { autojunk := true }
    [.next [1, 2, 3] 2, .next [4, 5] 3] hdistinct hfull hedit hgenerated
    (show 1 ≤ 2 by decide)).2 _ htail
  exact ⟨hdistinct, hfull, hedit, hgenerated, by decide, hchunk.trans (by decide)⟩

/-- The output is how the reference begins, but a draft up to the largest size would end behind
all sizes, so the rest of the reference is not drafted. -/
theorem resynchronisation_stops_at_largest_limit :
    let reference : Tokens := [1, 2, 3, 4, 5, 6, 7, 8, 9, 10]
    let generated : Tokens := [1, 2, 3]
    let limit := UInt64.size - 1
    reference.Nodup ∧
      ({} : Window).plan? reference.length generated.length =
        some (.full reference.length) ∧
        generated.IsEditOf reference ∧ generated ≠ [] ∧ 1 ≤ limit ∧
          Block.IsLongestTail ⟨0, 0, 3⟩ reference generated ∧
          reference.extract 3 (min (3 + limit) reference.length) = [4, 5, 6, 7, 8, 9, 10] ∧
          (build .sequential reference {}).nextChunk? generated limit = none := by
  intro reference generated limit
  have hdistinct : reference.Nodup := by decide
  have hfull : ({} : Window).plan? reference.length generated.length =
      some (.full reference.length) := by decide
  have hedit : generated.IsEditOf reference := by decide
  have hgenerated : generated ≠ [] := List.cons_ne_nil _ _
  have hlimit : 1 ≤ limit := by decide
  have htail : Block.IsLongestTail ⟨0, 0, 3⟩ reference generated := by
    refine ⟨by decide, rfl, ?_⟩
    intro other _ hend
    exact Nat.le_trans (Nat.le_add_left _ _) (Nat.le_of_eq hend)
  have hdraft : Backend.chunk? .sequential reference {} generated limit = _ :=
    Backend.chunk?_of_longestTail .sequential hdistinct hfull hedit hgenerated htail hlimit
  refine ⟨hdistinct, hfull, hedit, hgenerated, hlimit, htail, by decide, ?_⟩
  rw [← Option.map_eq_none_iff (f := Prod.fst), (good_build .sequential reference {}).nextChunk?,
    hdraft, if_pos (by decide), if_neg (by decide)]

end Matcher

end Redraft
