import Redraft.Draft.Drafter
import Redraft.Draft.Proposer

namespace Redraft.Draft

structure SequenceGroup where
  id : RequestId
  context : Tokens
  output : Tokens
deriving DecidableEq, Repr

/-- A draft of fixed length, of which the first `proposed` tokens were proposed. -/
structure PaddedDraft where
  tokens : Tokens
  proposed : Nat
deriving DecidableEq, Repr

namespace PaddedDraft

/-- Cuts or fills a draft to `length` tokens. An empty draft cannot be filled. -/
def pad? (draft : Tokens) (length : Nat) : Option PaddedDraft :=
  let kept := draft.take length
  kept.getLast?.map fun last =>
    ⟨kept ++ List.replicate (length - kept.length) last, kept.length⟩

def unpadded (draft : PaddedDraft) : Tokens := draft.tokens.take draft.proposed

@[simp] theorem pad?_nil (length : Nat) : pad? [] length = none := by
  simp [pad?]

theorem unpadded_of_pad? {draft : Tokens} {length : Nat} {padded : PaddedDraft}
    (h : pad? draft length = some padded) : padded.unpadded = draft.take length := by
  obtain ⟨last, _, rfl⟩ := Option.map_eq_some_iff.1 h
  simp [unpadded]

end PaddedDraft

namespace Proposer

variable {μ : Type}

def referenceOutput (sampleLength : Nat) (proposer : Proposer μ) (group : SequenceGroup) :
    Option PaddedDraft × Proposer μ :=
  let limit := min sampleLength (proposer.budget group.context.length)
  if proposer.sessions.contains group.id = false ∨ limit = 0 then (none, proposer)
  else
    let (chunk, proposer) := proposer.referenceChunk group.id group.output limit
    (chunk.bind (PaddedDraft.pad? · sampleLength), proposer)

def fallbackOutput (sampleLength : Nat) (proposer : Proposer μ) (group : SequenceGroup) :
    Option PaddedDraft × Proposer μ :=
  let (proposal, proposer) := proposer.askFallback group.context sampleLength
  (PaddedDraft.pad? proposal.tokens sampleLength, proposer)

def outputsIfAny (outputs : List (Option PaddedDraft)) : Option (List (Option PaddedDraft)) :=
  if outputs.all Option.isNone then none else some outputs

def fallbackOutputs (proposer : Proposer μ) (groups : List SequenceGroup)
    (sampleLength : Nat) : Option (List (Option PaddedDraft)) × Proposer μ :=
  if proposer.toggles.ngramFallback = false ∨ proposer.fallback.isNone then (none, proposer)
  else
    let (outputs, proposer) := answerAll (fallbackOutput sampleLength) proposer groups
    (outputsIfAny outputs, proposer)

/-- The drafts of a batch. If no group gets one from its reference, or speculative edit is
off, the fallback is asked for all of them. -/
def paddedOutputs (proposer : Proposer μ) (groups : List SequenceGroup)
    (sampleLength : Nat) : Option (List (Option PaddedDraft)) × Proposer μ :=
  if sampleLength = 0 ∨ groups.isEmpty then (none, proposer)
  else if proposer.toggles.speculativeEdit = false then
    proposer.fallbackOutputs groups sampleLength
  else
    let (outputs, proposer) := answerAll (referenceOutput sampleLength) proposer groups
    match outputsIfAny outputs with
    | some outputs => (some outputs, proposer)
    | none => proposer.fallbackOutputs groups sampleLength

end Proposer

def paddedDrafter {μ : Type} : Drafter (Proposer μ) where
  name := "specedit-sampler-output"
  start := Proposer.startRequest
  propose proposer id context output :=
    match id with
    | none =>
      let (proposal, proposer) := proposer.askFallback context proposer.speculativeTokens
      (proposal.tokens, proposer)
    | some id =>
      let (outputs, proposer) :=
        proposer.paddedOutputs [⟨id, context, output⟩] proposer.speculativeTokens
      (((outputs.bind (·.getLast?)).join.map (·.unpadded)).getD [], proposer)
  finish := Proposer.finishRequest

end Redraft.Draft
