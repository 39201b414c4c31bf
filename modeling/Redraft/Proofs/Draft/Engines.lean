import Redraft.Proofs.Draft.Coupling

namespace Redraft.Draft

variable {μ : Type} {proposer : Proposer μ}

def PaddedDraft.alone (outputs : Option (List (Option PaddedDraft))) : Tokens :=
  ((outputs.bind (·.getLast?)).join.map (·.unpadded)).getD []

theorem PaddedDraft.alone_ifAny (output : Option PaddedDraft) :
    alone (Proposer.outputsIfAny [output]) = proposedOf output := by
  cases output with
  | none => rfl
  | some draft => rfl

namespace Proposer

theorem fallbackOutputs_alone (proposer : Proposer μ) (group : SequenceGroup) (limit : Nat) :
    PaddedDraft.alone (proposer.fallbackOutputs [group] limit).1 =
        (proposer.askFallback group.context limit).1.tokens ∧
      (proposer.fallbackOutputs [group] limit).2 =
        (proposer.askFallback group.context limit).2 := by
  cases hallowed : proposer.toggles.ngramFallback with
  | false => simp [fallbackOutputs, askFallback, hallowed, PaddedDraft.alone]
  | true =>
      cases hfallback : proposer.fallback with
      | none => simp [fallbackOutputs, askFallback, hallowed, hfallback, PaddedDraft.alone]
      | some fallback =>
          have hasked : proposer.fallbackOutputs [group] limit =
              (outputsIfAny [(fallbackOutput limit proposer group).1],
                (proposer.askFallback group.context limit).2) := by
            simp [fallbackOutputs, hallowed, hfallback, answerAll, fallbackOutput]
          rw [hasked]
          refine ⟨?_, rfl⟩
          rw [PaddedDraft.alone_ifAny, proposedOf_fallbackOutput]

/-- A batch of one goes to the fallback exactly if its only group has no reference draft. -/
theorem paddedOutputs_alone (group : SequenceGroup) {limit : Nat} (hlimit : limit ≠ 0)
    (hon : proposer.toggles.speculativeEdit = true) :
    proposer.paddedOutputs [group] limit =
      match referenceOutput limit proposer group with
      | (some draft, proposer) => (some [some draft], proposer)
      | (none, proposer) => proposer.fallbackOutputs [group] limit := by
  rcases houtput : referenceOutput limit proposer group with ⟨_ | draft, after⟩
  · simp [paddedOutputs, answerAll, outputsIfAny, hlimit, hon, houtput]
  · simp [paddedOutputs, answerAll, outputsIfAny, hlimit, hon, houtput]

theorem paddedOutputs_eq_propose (proposer : Proposer μ) (group : SequenceGroup)
    {limit : Nat} (hbudget : proposer.budget group.context.length = limit)
    (hlimit : limit ≠ 0) :
    let outputs := proposer.paddedOutputs [group] limit
    let proposal := proposer.propose (some group.id) group.context group.output
    PaddedDraft.alone outputs.1 = proposal.1.tokens ∧ outputs.2 = proposal.2 := by
  dsimp only
  cases hon : proposer.toggles.speculativeEdit with
  | false =>
      have hbatch : proposer.paddedOutputs [group] limit =
          proposer.fallbackOutputs [group] limit := by
        simp [paddedOutputs, hlimit, hon]
      have halone : proposer.propose (some group.id) group.context group.output =
          proposer.askFallback group.context limit := by
        simp [propose, hbudget, hon]
      rw [hbatch, halone]
      exact proposer.fallbackOutputs_alone group limit
  | true =>
      rw [paddedOutputs_alone group hlimit hon]
      cases hcontains : proposer.sessions.contains group.id with
      | false =>
          have hnone : referenceOutput limit proposer group = (none, proposer) := by
            simp [referenceOutput, hcontains]
          have halone : proposer.propose (some group.id) group.context group.output =
              proposer.askFallback group.context limit := by
            simp [propose, hbudget, hcontains]
          rw [hnone, halone]
          exact proposer.fallbackOutputs_alone group limit
      | true =>
          rcases hchunk : proposer.referenceChunk group.id group.output limit with
            ⟨chunk, after⟩
          have hreference : referenceOutput limit proposer group =
              (chunk.bind (PaddedDraft.pad? · limit), after) := by
            simp [referenceOutput, hcontains, hbudget, hlimit, hchunk]
          rw [hreference]
          -- An empty chunk and a session that cannot be read both leave it to the fallback.
          rcases chunk with _ | _ | ⟨token, chunk⟩
          · have halone : proposer.propose (some group.id) group.context group.output =
                after.askFallback group.context limit := by
              simp [propose, hbudget, hon, hcontains, hlimit, hchunk]
            rw [halone]
            exact after.fallbackOutputs_alone group limit
          · have halone : proposer.propose (some group.id) group.context group.output =
                after.askFallback group.context limit := by
              simp [propose, hbudget, hon, hcontains, hlimit, hchunk]
            rw [halone, Option.bind_some, PaddedDraft.pad?_nil]
            exact after.fallbackOutputs_alone group limit
          · have halone : proposer.propose (some group.id) group.context group.output =
                (⟨token :: chunk, .reference⟩, after) := by
              simp [propose, hbudget, hon, hcontains, hlimit, hchunk]
            have hfits : (token :: chunk).length ≤ limit :=
              length_referenceChunk_le (congrArg Prod.fst hchunk)
            have hdraft := PaddedDraft.proposedOf_pad? (token :: chunk) limit
            rw [List.take_of_length_le hfits] at hdraft
            rw [halone, Option.bind_some]
            cases hpadded : PaddedDraft.pad? (token :: chunk) limit with
            | none =>
                rw [hpadded] at hdraft
                cases hdraft
            | some padded =>
                rw [hpadded] at hdraft
                exact ⟨hdraft, rfl⟩

end Proposer

theorem padded_eq_slot (proposer : Proposer μ) (id : Option RequestId)
    (context output : Tokens)
    (hroom : context.length + proposer.speculativeTokens ≤ proposer.maxModelLength) :
    paddedDrafter.propose proposer id context output =
      slotDrafter.propose proposer id context output := by
  have hbudget : proposer.budget context.length = proposer.speculativeTokens :=
    Nat.min_eq_left (by omega)
  cases id with
  | none =>
      have halone : proposer.propose none context output =
          proposer.askFallback context proposer.speculativeTokens := by
        rw [Proposer.propose, hbudget]
      unfold paddedDrafter slotDrafter
      dsimp only
      rw [halone]
  | some id =>
      by_cases hnothing : proposer.speculativeTokens = 0
      · have hidle : proposer.propose (some id) context output = (.none, proposer) := by
          simp [Proposer.propose, Proposer.askFallback, hbudget, hnothing]
        simp [paddedDrafter, slotDrafter, Proposer.paddedOutputs, hidle, hnothing]
      · obtain ⟨hdraft, hafter⟩ :=
          proposer.paddedOutputs_eq_propose ⟨id, context, output⟩ hbudget hnothing
        exact Prod.ext hdraft hafter

/-- Where a whole draft fits behind the context, it is all the same which kind of engine asks:
the draft, what becomes of the proposer, and what its fallback is asked. -/
theorem engines_agree (proposer : Proposer μ) (id : Option RequestId)
    (context output : Tokens)
    (hroom : context.length + proposer.speculativeTokens ≤ proposer.maxModelLength) :
    slotDrafter.propose proposer id context output =
        paddedDrafter.propose proposer id context output ∧
      (Request.slotDrafter id context output).calls proposer =
        (Request.paddedDrafter id context output).calls proposer := by
  refine ⟨(padded_eq_slot proposer id context output hroom).symm, ?_⟩
  have hwatched := padded_eq_slot (proposer.noting []) id context output hroom
  exact congrArg (fun asked => asked.2.memory.2) hwatched.symm

/-- The context leaves room for four tokens, and either engine has the fallback asked for
four. -/
theorem engines_agree_off :
    [1, 2].length + 4 ≤ 6 ∧
      (Request.paddedDrafter (some "a") [1, 2] [2]).calls
          (Event.run (.flipped (some false) none)
            (stubborn { speculativeTokens := 4, maxModelLength := 6 })) =
        [⟨[1, 2], 4, [7, 8, 9]⟩] := by
  refine ⟨by decide, ?_⟩
  rw [← (engines_agree (Event.run (.flipped (some false) none)
    (stubborn { speculativeTokens := 4, maxModelLength := 6 })) (some "a") [1, 2] [2]
    (by decide)).2]
  decide

end Redraft.Draft
