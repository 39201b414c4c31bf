import Redraft.Proofs.Matcher

/-!
Drafts as far as sizes go. A matcher that answers gives the exact draft. It has no answer where
there is no plan, or where the draft would end further on than a size can tell.
-/

namespace Redraft

open Align

namespace Align

section Continuation

variable {reference generated draft : Tokens} {settings : MatchSettings} {maxLength : Nat}
  {block : Block}

theorem continuation?_of_tail (hinside : block.referenceEnd ≤ reference.length)
    (hend : block.generatedEnd = generated.length) (maxLength : Nat) :
    continuation? reference settings generated maxLength block =
      if settings.minTailMatch ≤ block.length ∨ block.length = generated.length then
        if block.referenceEnd + maxLength < UInt64.size then
          some (reference.extract block.referenceEnd
            (min (block.referenceEnd + maxLength) reference.length))
        else none
      else some [] := by
  have hwhole : block.generatedStart + block.length = generated.length := hend
  rw [continuation?, if_neg (not_not_intro hend), ← Tokens.following?_of_le hinside]
  by_cases henough : settings.minTailMatch ≤ block.length ∨ block.length = generated.length
  · rw [if_pos henough, if_neg (by omega)]
  · rw [if_neg henough, if_pos (by omega)]

theorem eq_continuation_of_continuation? (hinside : block.referenceEnd ≤ reference.length)
    (hanswer : continuation? reference settings generated maxLength block = some draft) :
    draft = continuation reference settings generated maxLength block := by
  rw [continuation?] at hanswer
  rw [continuation]
  split at hanswer
  · rw [if_pos ‹_›]
    exact (Option.some.inj hanswer).symm
  · rw [if_neg ‹_›]
    split at hanswer
    · rw [if_pos ‹_›]
      exact (Option.some.inj hanswer).symm
    · rw [if_neg ‹_›, Tokens.take_drop_eq_extract]
      rw [Tokens.following?_of_le hinside] at hanswer
      exact ((Option.ite_none_right_eq_some.1 hanswer).2 |> Option.some.inj).symm

end Continuation

theorem eq_nextChunk_of_nextChunk? {σ : Type} [BlockFinder σ] {finder : σ}
    {generated : Tokens} {maxLength : Nat} {answer : Tokens × σ}
    (hanswer : nextChunk? finder generated maxLength = some answer) :
    answer = nextChunk finder generated maxLength := by
  rw [nextChunk?] at hanswer
  rw [nextChunk]
  by_cases hidle : ((BlockFinder.reference finder).isEmpty || maxLength == 0) = true
  · rw [if_pos hidle] at hanswer ⊢
    exact (Option.some.inj hanswer).symm
  rw [if_neg hidle] at hanswer ⊢
  by_cases hfirst : generated.isEmpty = true
  · rw [if_pos hfirst] at hanswer ⊢
    exact (Option.some.inj hanswer).symm
  rw [if_neg hfirst] at hanswer ⊢
  replace hanswer := (Option.ite_none_left_eq_some.1 hanswer).2
  generalize BlockFinder.lastBlock finder generated = found at hanswer ⊢
  rcases found with ⟨_ | _ | block, after⟩
  · exact (Option.some.inj hanswer).symm
  · exact (Option.some.inj hanswer).symm
  · dsimp only at hanswer ⊢
    cases hrange : block.inRange (BlockFinder.reference finder) generated with
    | error _ =>
        rw [hrange] at hanswer
        exact (Option.some.inj hanswer).symm
    | ok kept =>
        rw [hrange] at hanswer
        obtain ⟨draft, hdraft, rfl⟩ := Option.map_eq_some_iff.1 hanswer
        rw [eq_continuation_of_continuation? (Block.of_inRange hrange).2 hdraft]

def chunkBy? (rule : Tokens → Option Block) (reference : Tokens) (settings : MatchSettings)
    (generated : Tokens) (maxLength : Nat) : Option Tokens :=
  if reference.isEmpty || maxLength == 0 then some []
  else if generated.isEmpty then some (reference.take maxLength)
  else if settings.window.plan? reference.length generated.length = none then none
  else
    match rule generated with
    | none => some []
    | some block =>
      match block.inRange reference generated with
      | .error _ => some []
      | .ok block => continuation? reference settings generated maxLength block

theorem Follows.nextChunk? {σ : Type} [BlockFinder σ] {reference : Tokens}
    {settings : MatchSettings} {rule : Tokens → Option Block} {Good : σ → Prop}
    (follows : Follows σ reference settings rule Good) {finder : σ} (hgood : Good finder)
    (generated : Tokens) (maxLength : Nat) :
    (Align.nextChunk? finder generated maxLength).map Prod.fst =
      chunkBy? rule reference settings generated maxLength := by
  have hreference := follows.reference_eq finder hgood
  have hsettings := follows.settings_eq finder hgood
  have hblock := follows.lastBlock_eq finder hgood generated
  have hafter := follows.settings_eq _ (follows.good_lastBlock finder hgood generated)
  rw [Align.nextChunk?, chunkBy?, hreference, hsettings]
  generalize BlockFinder.lastBlock finder generated = found at hblock hafter
  obtain ⟨block, after⟩ := found
  dsimp only at hblock hafter
  subst hblock
  -- Both ask the same three questions before the block counts.
  split
  · rfl
  split
  · rfl
  split
  · rfl
  cases rule generated with
  | none => rfl
  | some block =>
      dsimp only
      cases block.inRange reference generated with
      | error _ => rfl
      | ok block =>
          dsimp only
          rw [hafter, Option.map_map]
          exact Option.map_id'

section ChunkBy

variable {rule : Tokens → Option Block} {reference generated : Tokens} {block : Block}
  {settings : MatchSettings} {maxLength : Nat}

theorem chunkBy?_zero (rule : Tokens → Option Block) (reference : Tokens)
    (settings : MatchSettings) (generated : Tokens) :
    chunkBy? rule reference settings generated 0 = some [] := by
  rw [chunkBy?, if_pos]
  exact Bool.or_true _

theorem chunkBy?_of_no_plan
    (hnone : settings.window.plan? reference.length generated.length = none)
    (hmax : 1 ≤ maxLength) :
    chunkBy? rule reference settings generated maxLength = none := by
  obtain ⟨hreference, hgenerated⟩ := Window.nonempty_of_plan?_eq_none hnone
  have hdrafts : ¬(reference.isEmpty || maxLength == 0) = true := by
    rw [Bool.or_eq_true, List.isEmpty_iff_length_eq_zero, beq_iff_eq]
    omega
  rw [chunkBy?, if_neg hdrafts, if_neg (by rw [List.isEmpty_iff_length_eq_zero]; omega),
    if_pos hnone]

variable {plan : Window.Plan}

theorem chunkBy?_of_tail
    (hplan : settings.window.plan? reference.length generated.length = some plan)
    (hrule : rule generated = some block) (hcopy : block.IsCopy reference generated)
    (hend : block.generatedEnd = generated.length) (hmax : 1 ≤ maxLength) :
    chunkBy? rule reference settings generated maxLength =
      if settings.minTailMatch ≤ block.length ∨ block.length = generated.length then
        if block.referenceEnd + maxLength < UInt64.size then
          some (reference.extract block.referenceEnd
            (min (block.referenceEnd + maxLength) reference.length))
        else none
      else some [] := by
  obtain ⟨hdrafts, hgenerated⟩ := hcopy.asked hmax
  have hplanned := Option.ne_none_iff_exists'.2 ⟨plan, hplan⟩
  rw [chunkBy?, if_neg hdrafts, if_neg hgenerated, if_neg hplanned, hrule]
  dsimp only
  rw [hcopy.inRange]
  exact continuation?_of_tail hcopy.spells.1 hend maxLength

theorem chunkBy?_of_no_tail
    (hplan : settings.window.plan? reference.length generated.length = some plan)
    (hgenerated : generated ≠ [])
    (hrule : ∀ block, rule generated = some block → block.generatedEnd ≠ generated.length) :
    chunkBy? rule reference settings generated maxLength = some [] := by
  have hplanned := Option.ne_none_iff_exists'.2 ⟨plan, hplan⟩
  rw [chunkBy?, if_neg (mt List.isEmpty_iff.1 hgenerated), if_neg hplanned]
  split
  · rfl
  · cases hfound : rule generated with
    | none => rfl
    | some block =>
        dsimp only
        cases hrange : block.inRange reference generated with
        | error _ => rfl
        | ok kept =>
            rw [(Block.of_inRange hrange).1]
            exact if_pos (hrule block hfound)

end ChunkBy

end Align

namespace Backend

def chunk? (backend : Backend) (reference : Tokens) (settings : MatchSettings)
    (generated : Tokens) (maxLength : Nat) : Option Tokens :=
  chunkBy? (backend.rule reference settings) reference settings generated maxLength

variable {reference generated : Tokens} {settings : MatchSettings} {plan : Window.Plan}

/-- With a plan there is a draft, unless it goes on from a block from which its end cannot be
told. -/
theorem chunk?_eq_none_iff (backend : Backend)
    (hplan : settings.window.plan? reference.length generated.length = some plan)
    (hgenerated : generated ≠ []) (maxLength : Nat) :
    backend.chunk? reference settings generated maxLength = none ↔
      1 ≤ maxLength ∧ ∃ block, backend.rule reference settings generated = some block ∧
        block.generatedEnd = generated.length ∧
        (settings.minTailMatch ≤ block.length ∨ block.length = generated.length) ∧
        UInt64.size ≤ block.referenceEnd + maxLength := by
  rcases Nat.eq_zero_or_pos maxLength with hzero | hmax
  · rw [hzero, chunk?, chunkBy?_zero]
    simp
  by_cases htail : ∃ block, backend.rule reference settings generated = some block ∧
      block.generatedEnd = generated.length
  · obtain ⟨block, hrule, hend⟩ := htail
    have hcopy := (backend.findsCopies settings.autojunk).windowedLastBlock hrule
    rw [chunk?, chunkBy?_of_tail hplan hrule hcopy hend hmax]
    constructor
    · intro hnone
      refine ⟨hmax, block, hrule, hend, ?_⟩
      split at hnone
      · rename_i henough
        split at hnone
        · cases hnone
        · exact ⟨henough, Nat.not_lt.1 ‹_›⟩
      · cases hnone
    · intro hlarge
      obtain ⟨-, other, hother, -, henough, hlarge⟩ := hlarge
      obtain rfl := Option.some.inj (hrule.symm.trans hother)
      rw [if_pos henough, if_neg (Nat.not_lt.2 hlarge)]
  · rw [chunk?, chunkBy?_of_no_tail hplan hgenerated fun block hrule hend =>
      htail ⟨block, hrule, hend⟩]
    constructor
    · intro hnone
      cases hnone
    · rintro ⟨-, block, hrule, hend, -⟩
      exact absurd ⟨block, hrule, hend⟩ htail

end Backend

namespace Matcher

variable {backend : Backend} {reference : Tokens} {settings : MatchSettings}
  {matcher : Matcher}

theorem Good.nextChunk? (good : Good reference settings backend matcher) (generated : Tokens)
    (maxLength : Nat) :
    (matcher.nextChunk? generated maxLength).map Prod.fst =
      backend.chunk? reference settings generated maxLength := by
  cases good with
  | sequential good =>
      rw [Matcher.nextChunk?, Option.map_map]
      exact (PositionFinder.follows reference settings).nextChunk? good generated maxLength
  | parallel good =>
      rw [Matcher.nextChunk?, Option.map_map]
      exact (DiagonalFinder.follows reference settings).nextChunk? good generated maxLength
  | indexed good =>
      rw [Matcher.nextChunk?, Option.map_map]
      exact (TableFinder.follows reference settings).nextChunk? good generated maxLength

/-- A matcher that answers as far as sizes go gives the exact draft, and is left alike. -/
theorem eq_nextChunk_of_nextChunk? {generated : Tokens} {maxLength : Nat}
    {answer : Tokens × Matcher}
    (hanswer : matcher.nextChunk? generated maxLength = some answer) :
    answer = matcher.nextChunk generated maxLength := by
  cases matcher with
  | sequential finder =>
      obtain ⟨found, hfound, rfl⟩ := Option.map_eq_some_iff.1 hanswer
      rw [Align.eq_nextChunk_of_nextChunk? hfound, Matcher.nextChunk]
  | parallel finder =>
      obtain ⟨found, hfound, rfl⟩ := Option.map_eq_some_iff.1 hanswer
      rw [Align.eq_nextChunk_of_nextChunk? hfound, Matcher.nextChunk]
  | indexed finder =>
      obtain ⟨found, hfound, rfl⟩ := Option.map_eq_some_iff.1 hanswer
      rw [Align.eq_nextChunk_of_nextChunk? hfound, Matcher.nextChunk]

end Matcher

end Redraft
