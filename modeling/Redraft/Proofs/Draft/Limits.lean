import Redraft.Draft.Padded
import Redraft.Draft.Slots
import Redraft.Proofs.Draft.Reference

namespace Redraft

open Align

theorem Align.length_nextChunk_le {σ : Type} [BlockFinder σ] (finder : σ)
    (generated : Tokens) (limit : Nat) :
    (Align.nextChunk finder generated limit).1.length ≤ limit := by
  unfold Align.nextChunk
  dsimp only
  split
  · exact Nat.zero_le _
  · split
    · exact List.length_take_le ..
    · split
      · exact Nat.zero_le _
      · exact Nat.zero_le _
      · split
        · exact Nat.zero_le _
        · exact length_continuation_le ..

theorem Matcher.length_nextChunk_le (matcher : Matcher) (generated : Tokens) (limit : Nat) :
    (matcher.nextChunk generated limit).1.length ≤ limit := by
  cases matcher with
  | sequential finder => exact Align.length_nextChunk_le finder generated limit
  | parallel finder => exact Align.length_nextChunk_le finder generated limit
  | indexed finder => exact Align.length_nextChunk_le finder generated limit

theorem Session.length_draft_le (session : Session) (output : Tokens) (limit : Nat) :
    (session.draft output limit).1.length ≤ limit :=
  Matcher.length_nextChunk_le ..

namespace Registry

variable {registry : Registry} {id : RequestId}

theorem useSession_ok {α : Type} {use : Session → α × Session} {answer : α}
    (hanswer : (registry.useSession id use).1 = .ok answer) :
    ∃ session, (use session).1 = answer := by
  unfold useSession at hanswer
  split at hanswer
  · cases hanswer
  · rename_i number _
    unfold useHandle at hanswer
    cases hcell : registry.cells[number]? with
    | none => simp [hcell] at hanswer
    | some cell =>
        cases hpoisoned : cell.poisoned with
        | true => simp [hcell, hpoisoned] at hanswer
        | false => exact ⟨cell.session, by simpa [hcell, hpoisoned] using hanswer⟩

end Registry

namespace Draft

section AnswerAll

variable {σ α β : Type} {answer : σ → α → β × σ} {Related : σ → σ → Prop}

theorem answerAll_related (hrefl : ∀ state, Related state state)
    (htrans : ∀ {first second third}, Related first second → Related second third →
      Related first third)
    (hstep : ∀ state question, Related state (answer state question).2)
    (questions : List α) (state : σ) :
    Related state (answerAll answer state questions).2 := by
  induction questions generalizing state with
  | nil => exact hrefl state
  | cons question questions ih => exact htrans (hstep state question) (ih _)

theorem answerAll_answered (hrefl : ∀ state, Related state state)
    (htrans : ∀ {first second third}, Related first second → Related second third →
      Related first third)
    (hstep : ∀ state question, Related state (answer state question).2)
    {questions : List α} {state : σ} {question : α} {reply : β}
    (hreply : (question, reply) ∈ questions.zip (answerAll answer state questions).1) :
    ∃ before, Related state before ∧ (answer before question).1 = reply := by
  induction questions generalizing state with
  | nil => simp at hreply
  | cons first questions ih =>
      rw [answerAll, List.zip_cons_cons, List.mem_cons] at hreply
      rcases hreply with hfirst | hlater
      · injection hfirst with hquestion hreply
        exact ⟨state, hrefl state, by rw [hquestion, hreply]⟩
      · obtain ⟨before, hrelated, hbefore⟩ := ih hlater
        exact ⟨before, htrans (hstep state first) hrelated, hbefore⟩

end AnswerAll

namespace Proposer

variable {μ : Type}

theorem length_referenceChunk_le {proposer : Proposer μ} {id : RequestId}
    {output chunk : Tokens} {limit : Nat}
    (hchunk : (proposer.referenceChunk id output limit).1 = some chunk) :
    chunk.length ≤ limit := by
  rw [referenceChunk_eq] at hchunk
  cases hused : (proposer.sessions.useSession id (·.draft output limit)).1 with
  | error error =>
      rw [hused] at hchunk
      cases hchunk
  | ok answer =>
      rw [hused] at hchunk
      cases hchunk
      obtain ⟨session, rfl⟩ := Registry.useSession_ok hused
      exact session.length_draft_le output limit

theorem length_askFallback_le (proposer : Proposer μ) (context : Tokens) (limit : Nat) :
    (proposer.askFallback context limit).1.tokens.length ≤ limit := by
  unfold askFallback
  split
  · exact Nat.zero_le _
  · split
    · exact Nat.zero_le _
    · dsimp only
      split
      · exact Nat.zero_le _
      · exact List.length_take_le ..

theorem length_propose_le (proposer : Proposer μ) (id : Option RequestId)
    (context output : Tokens) :
    (proposer.propose id context output).1.tokens.length ≤
      proposer.budget context.length := by
  unfold propose
  cases id with
  | none => exact length_askFallback_le ..
  | some id =>
      dsimp only
      split
      · exact length_askFallback_le ..
      · split
        · exact Nat.zero_le _
        · split
          · rename_i hchunk
            exact length_referenceChunk_le (congrArg Prod.fst hchunk)
          · exact length_askFallback_le ..

structure Keeps (before after : Proposer μ) : Prop where
  toggles : after.toggles = before.toggles
  fallback : after.fallback = before.fallback
  speculativeTokens : after.speculativeTokens = before.speculativeTokens
  maxModelLength : after.maxModelLength = before.maxModelLength

theorem Keeps.refl (proposer : Proposer μ) : proposer.Keeps proposer :=
  ⟨rfl, rfl, rfl, rfl⟩

theorem Keeps.trans {first second third : Proposer μ} (hfirst : first.Keeps second)
    (hsecond : second.Keeps third) : first.Keeps third :=
  ⟨hsecond.toggles.trans hfirst.toggles, hsecond.fallback.trans hfirst.fallback,
    hsecond.speculativeTokens.trans hfirst.speculativeTokens,
    hsecond.maxModelLength.trans hfirst.maxModelLength⟩

theorem Keeps.budget {before after : Proposer μ} (hkeeps : before.Keeps after)
    (contextLength : Nat) : after.budget contextLength = before.budget contextLength := by
  rw [Proposer.budget, Proposer.budget, hkeeps.speculativeTokens, hkeeps.maxModelLength]

theorem askFallback_memory (proposer : Proposer μ) (context : Tokens) (limit : Nat) :
    ∃ memory, (proposer.askFallback context limit).2 = { proposer with memory } := by
  unfold askFallback
  split
  · exact ⟨proposer.memory, rfl⟩
  · split
    · exact ⟨proposer.memory, rfl⟩
    · dsimp only
      split
      · exact ⟨_, rfl⟩
      · exact ⟨_, rfl⟩

def OnlySessions (before after : Proposer μ) : Prop :=
  ∃ sessions, after = { before with sessions }

theorem OnlySessions.refl (proposer : Proposer μ) : proposer.OnlySessions proposer :=
  ⟨proposer.sessions, rfl⟩

theorem OnlySessions.trans {first second third : Proposer μ}
    (hfirst : first.OnlySessions second) (hsecond : second.OnlySessions third) :
    first.OnlySessions third := by
  obtain ⟨_, rfl⟩ := hfirst
  obtain ⟨sessions, rfl⟩ := hsecond
  exact ⟨sessions, rfl⟩

theorem OnlySessions.keeps {before after : Proposer μ}
    (honly : before.OnlySessions after) : before.Keeps after := by
  obtain ⟨_, rfl⟩ := honly
  exact ⟨rfl, rfl, rfl, rfl⟩

theorem keeps_askFallback (proposer : Proposer μ) (context : Tokens) (limit : Nat) :
    proposer.Keeps (proposer.askFallback context limit).2 := by
  obtain ⟨_, hafter⟩ := askFallback_memory proposer context limit
  rw [hafter]
  exact ⟨rfl, rfl, rfl, rfl⟩

theorem onlySessions_referenceChunk (proposer : Proposer μ) (id : RequestId)
    (output : Tokens) (limit : Nat) :
    proposer.OnlySessions (proposer.referenceChunk id output limit).2 := by
  rw [referenceChunk_eq]
  exact ⟨_, rfl⟩

/-- A relation that holds between a proposer and what any single question to the fallback or
to a reference makes of it. Then it holds for every way to ask for drafts. -/
structure Respected (Related : Proposer μ → Proposer μ → Prop) : Prop where
  refl : ∀ proposer, Related proposer proposer
  trans : ∀ {first second third}, Related first second → Related second third →
    Related first third
  askFallback : ∀ proposer context limit,
    Related proposer (Proposer.askFallback proposer context limit).2
  referenceChunk : ∀ proposer id output limit,
    Related proposer (Proposer.referenceChunk proposer id output limit).2

theorem respected_keeps : Respected (μ := μ) Keeps where
  refl := Keeps.refl
  trans := Keeps.trans
  askFallback := keeps_askFallback
  referenceChunk proposer id output limit :=
    (onlySessions_referenceChunk proposer id output limit).keeps

theorem Respected.propose {Related : Proposer μ → Proposer μ → Prop}
    (hrespected : Respected Related) (proposer : Proposer μ) (id : Option RequestId)
    (context output : Tokens) : Related proposer (proposer.propose id context output).2 := by
  unfold Proposer.propose
  cases id with
  | none => exact hrespected.askFallback ..
  | some id =>
      have hasked := hrespected.referenceChunk proposer id output
        (proposer.budget context.length)
      dsimp only
      split
      · exact hrespected.askFallback ..
      · split
        · exact hrespected.refl proposer
        · split
          · rename_i hchunk
            rw [hchunk] at hasked
            exact hasked
          · rename_i hchunk
            rw [hchunk] at hasked
            exact hrespected.trans hasked (hrespected.askFallback ..)

theorem getD_draftFor (proposer : Proposer μ) (context : Tokens) (output : Option Tokens)
    (id : Option RequestId) :
    (proposer.draftFor context output id).1.getD [] =
      (proposer.propose id context (output.getD [])).1.tokens := by
  unfold draftFor
  dsimp only
  by_cases hempty : (proposer.propose id context (output.getD [])).1.isEmpty
  · rw [if_pos hempty]
    exact (List.isEmpty_iff.1 hempty).symm
  · rw [if_neg hempty]
    rfl

theorem length_draftFor_le (proposer : Proposer μ) (context : Tokens)
    (output : Option Tokens) (id : Option RequestId) :
    ((proposer.draftFor context output id).1.getD []).length ≤
      proposer.budget context.length := by
  rw [getD_draftFor]
  exact length_propose_le ..

theorem length_draftSlot_le (proposer : Proposer μ) (slot : BatchSlot) :
    (proposer.draftSlot slot).1.length ≤ proposer.budget slot.context.length := by
  unfold draftSlot
  split
  · exact Nat.zero_le _
  · exact length_draftFor_le proposer slot.context slot.output slot.id

theorem Respected.draftSlot {Related : Proposer μ → Proposer μ → Prop}
    (hrespected : Respected Related) (proposer : Proposer μ) (slot : BatchSlot) :
    Related proposer (proposer.draftSlot slot).2 := by
  unfold Proposer.draftSlot
  split
  · exact hrespected.refl proposer
  · exact hrespected.propose proposer (some slot.id) slot.context slot.output

theorem length_draftBatch_le {proposer : Proposer μ} {batch : List BatchSlot}
    {slot : BatchSlot} {draft : Tokens}
    (hdraft : (slot, draft) ∈ batch.zip (proposer.draftBatch batch).1) :
    draft.length ≤ proposer.budget slot.context.length := by
  obtain ⟨before, hkeeps, rfl⟩ :=
    answerAll_answered Keeps.refl Keeps.trans respected_keeps.draftSlot hdraft
  rw [← hkeeps.budget]
  exact length_draftSlot_le before slot

theorem Respected.draftBatch {Related : Proposer μ → Proposer μ → Prop}
    (hrespected : Respected Related) (proposer : Proposer μ) (batch : List BatchSlot) :
    Related proposer (proposer.draftBatch batch).2 :=
  answerAll_related hrespected.refl hrespected.trans hrespected.draftSlot batch proposer

end Proposer

namespace PaddedDraft

def proposedOf (draft : Option PaddedDraft) : Tokens := (draft.map unpadded).getD []

theorem proposedOf_pad? (draft : Tokens) (length : Nat) :
    proposedOf (pad? draft length) = draft.take length := by
  unfold proposedOf
  cases hpadded : pad? draft length with
  | none =>
      rw [pad?, Option.map_eq_none_iff, List.getLast?_eq_none_iff] at hpadded
      exact hpadded.symm
  | some padded => exact unpadded_of_pad? hpadded

end PaddedDraft

namespace Proposer

variable {μ : Type}

theorem proposedOf_fallbackOutput (sampleLength : Nat) (proposer : Proposer μ)
    (group : SequenceGroup) :
    PaddedDraft.proposedOf (fallbackOutput sampleLength proposer group).1 =
      (proposer.askFallback group.context sampleLength).1.tokens := by
  unfold fallbackOutput
  dsimp only
  rw [PaddedDraft.proposedOf_pad?, List.take_of_length_le (length_askFallback_le ..)]

theorem length_referenceOutput_le (sampleLength : Nat) (proposer : Proposer μ)
    (group : SequenceGroup) :
    (PaddedDraft.proposedOf (referenceOutput sampleLength proposer group).1).length ≤
      proposer.budget group.context.length := by
  unfold referenceOutput
  dsimp only
  split
  · exact Nat.zero_le _
  · dsimp only
    cases hchunk : (proposer.referenceChunk group.id group.output
        (min sampleLength (proposer.budget group.context.length))).1 with
    | none => exact Nat.zero_le _
    | some chunk =>
        have hlimit := length_referenceChunk_le hchunk
        rw [Option.bind_some, PaddedDraft.proposedOf_pad?, List.length_take]
        omega

theorem onlySessions_referenceOutput (sampleLength : Nat) (proposer : Proposer μ)
    (group : SequenceGroup) :
    proposer.OnlySessions (referenceOutput sampleLength proposer group).2 := by
  unfold referenceOutput
  dsimp only
  split
  · exact OnlySessions.refl proposer
  · exact onlySessions_referenceChunk ..

def referenceOutputs (proposer : Proposer μ) (groups : List SequenceGroup)
    (sampleLength : Nat) : List (Option PaddedDraft) × Proposer μ :=
  answerAll (referenceOutput sampleLength) proposer groups

theorem length_referenceOutputs_le {proposer : Proposer μ} {groups : List SequenceGroup}
    {sampleLength : Nat} {group : SequenceGroup} {draft : Option PaddedDraft}
    (hdraft : (group, draft) ∈
      groups.zip (proposer.referenceOutputs groups sampleLength).1) :
    (PaddedDraft.proposedOf draft).length ≤ proposer.budget group.context.length := by
  obtain ⟨before, honly, rfl⟩ := answerAll_answered OnlySessions.refl OnlySessions.trans
    (onlySessions_referenceOutput sampleLength) hdraft
  rw [← honly.keeps.budget]
  exact length_referenceOutput_le sampleLength before group

theorem onlySessions_referenceOutputs (proposer : Proposer μ) (groups : List SequenceGroup)
    (sampleLength : Nat) :
    proposer.OnlySessions (proposer.referenceOutputs groups sampleLength).2 :=
  answerAll_related OnlySessions.refl OnlySessions.trans
    (onlySessions_referenceOutput sampleLength) groups proposer

theorem Respected.referenceOutputs {Related : Proposer μ → Proposer μ → Prop}
    (hrespected : Respected Related) (proposer : Proposer μ) (groups : List SequenceGroup)
    (sampleLength : Nat) :
    Related proposer (proposer.referenceOutputs groups sampleLength).2 := by
  have hstep (before : Proposer μ) (group : SequenceGroup) :
      Related before (referenceOutput sampleLength before group).2 := by
    unfold referenceOutput
    dsimp only
    split
    · exact hrespected.refl before
    · exact hrespected.referenceChunk ..
  exact answerAll_related hrespected.refl hrespected.trans hstep groups proposer

theorem Respected.fallbackOutputs {Related : Proposer μ → Proposer μ → Prop}
    (hrespected : Respected Related) (proposer : Proposer μ) (groups : List SequenceGroup)
    (sampleLength : Nat) :
    Related proposer (proposer.fallbackOutputs groups sampleLength).2 := by
  unfold Proposer.fallbackOutputs
  split
  · exact hrespected.refl proposer
  · have hstep (before : Proposer μ) (group : SequenceGroup) :
        Related before (fallbackOutput sampleLength before group).2 :=
      hrespected.askFallback before group.context sampleLength
    exact answerAll_related hrespected.refl hrespected.trans hstep groups proposer

theorem length_outputsIfAny {outputs kept : List (Option PaddedDraft)}
    (hkept : outputsIfAny outputs = some kept) : kept.length = outputs.length := by
  unfold outputsIfAny at hkept
  split at hkept
  · cases hkept
  · injection hkept with hkept
    rw [hkept]

theorem length_fallbackOutputs {proposer : Proposer μ} {groups : List SequenceGroup}
    {sampleLength : Nat} {outputs : List (Option PaddedDraft)}
    (houtputs : (proposer.fallbackOutputs groups sampleLength).1 = some outputs) :
    outputs.length = groups.length := by
  unfold fallbackOutputs at houtputs
  split at houtputs
  · cases houtputs
  · exact (length_outputsIfAny houtputs).trans (length_answerAll ..)

theorem length_paddedOutputs {proposer : Proposer μ} {groups : List SequenceGroup}
    {sampleLength : Nat} {outputs : List (Option PaddedDraft)}
    (houtputs : (proposer.paddedOutputs groups sampleLength).1 = some outputs) :
    outputs.length = groups.length := by
  unfold paddedOutputs at houtputs
  split at houtputs
  · cases houtputs
  · split at houtputs
    · exact length_fallbackOutputs houtputs
    · dsimp only at houtputs
      split at houtputs
      · rename_i kept hkept
        injection houtputs with hkeeps
        rw [← hkeeps]
        exact (length_outputsIfAny hkept).trans (length_answerAll ..)
      · exact length_fallbackOutputs houtputs

theorem Respected.paddedOutputs {Related : Proposer μ → Proposer μ → Prop}
    (hrespected : Respected Related) (proposer : Proposer μ) (groups : List SequenceGroup)
    (sampleLength : Nat) :
    Related proposer (proposer.paddedOutputs groups sampleLength).2 := by
  have hasked := hrespected.referenceOutputs proposer groups sampleLength
  unfold Proposer.paddedOutputs
  split
  · exact hrespected.refl proposer
  · split
    · exact hrespected.fallbackOutputs ..
    · dsimp only
      split
      · exact hasked
      · exact hrespected.trans hasked (hrespected.fallbackOutputs ..)

end Proposer

end Draft

end Redraft
