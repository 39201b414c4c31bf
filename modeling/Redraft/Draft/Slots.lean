import Redraft.Draft.Drafter
import Redraft.Draft.Proposer

namespace Redraft.Draft

structure BatchSlot where
  id : RequestId
  /-- Tokens sampled in the last step; a slot that sampled none is passed over. -/
  sampled : Nat
  /-- Whether the request's sampling parameters allow speculation. -/
  supported : Bool
  context : Tokens
  output : Tokens
deriving DecidableEq, Repr

namespace Proposer

variable {μ : Type}

def draftFor (proposer : Proposer μ) (context : Tokens) (output : Option Tokens)
    (id : Option RequestId) : Option Tokens × Proposer μ :=
  let (proposal, proposer) := proposer.propose id context (output.getD [])
  (if proposal.isEmpty then none else some proposal.tokens, proposer)

/-- The draft of a slot, empty where none is wanted or the context is full. -/
def draftSlot (proposer : Proposer μ) (slot : BatchSlot) : Tokens × Proposer μ :=
  if slot.sampled = 0 ∨ slot.supported = false ∨
      proposer.maxModelLength ≤ slot.context.length then ([], proposer)
  else
    let (draft, proposer) := proposer.draftFor slot.context (some slot.output) (some slot.id)
    (draft.getD [], proposer)

def draftBatch (proposer : Proposer μ) (batch : List BatchSlot) :
    List Tokens × Proposer μ :=
  answerAll draftSlot proposer batch

end Proposer

def slotDrafter {μ : Type} : Drafter (Proposer μ) where
  name := "specedit-per-request"
  start := Proposer.startRequest
  propose proposer id context output :=
    let (proposal, proposer) := proposer.propose id context output
    (proposal.tokens, proposer)
  finish := Proposer.finishRequest

end Redraft.Draft
