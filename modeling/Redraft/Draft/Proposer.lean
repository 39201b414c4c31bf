import Redraft.Draft.Fallback
import Redraft.Registry
import Redraft.Toggles

/-!
The decision taken at every step. A request with a session gets the reference draft while
speculative edit is on; everything else goes to the fallback, if the n-gram switch allows
it. No draft is longer than the budget, which keeps it inside the model's context.
-/

namespace Redraft.Draft

inductive Source where
  | reference
  | fallback
  | empty
deriving DecidableEq, Repr

def Source.name : Source → String
  | reference => "reference"
  | fallback => "fallback"
  | empty => "empty"

structure Proposal where
  tokens : Tokens
  source : Source
deriving DecidableEq, Repr

namespace Proposal

def none : Proposal := ⟨[], .empty⟩

def isEmpty (proposal : Proposal) : Bool := proposal.tokens.isEmpty

@[simp] theorem tokens_none : none.tokens = [] := rfl

end Proposal

structure Proposer (μ : Type) where
  sessions : Registry
  toggles : Toggles
  fallback : Option (Fallback μ)
  /-- What the fallback remembers. -/
  memory : μ
  speculativeTokens : Nat
  maxModelLength : Nat

namespace Proposer

variable {μ : Type}

def new (settings : Settings) (fallback : Option (Fallback μ)) (memory : μ) :
    Except SettingsError (Proposer μ) := do
  let settings ← settings.resolved
  pure
    { sessions := .ofSettings settings
      toggles := .ofSettings settings
      fallback, memory
      speculativeTokens := settings.speculativeTokens
      maxModelLength := settings.maxModelLength }

def budget (proposer : Proposer μ) (contextLength : Nat) : Nat :=
  min proposer.speculativeTokens (proposer.maxModelLength - contextLength)

def startRequest (proposer : Proposer μ) (id : RequestId) (reference : Tokens) :
    Except SessionError Unit × Proposer μ :=
  let (answer, sessions) := proposer.sessions.create id reference
  (answer, { proposer with sessions })

def finishRequest (proposer : Proposer μ) (id : RequestId) : Proposer μ :=
  { proposer with sessions := (proposer.sessions.remove id).2 }

def askFallback (proposer : Proposer μ) (context : Tokens) (limit : Nat) :
    Proposal × Proposer μ :=
  if limit = 0 ∨ proposer.toggles.ngramFallback = false then (.none, proposer)
  else
    match proposer.fallback with
    | none => (.none, proposer)
    | some fallback =>
      let (tokens, memory) := fallback.propose proposer.memory context limit
      let proposer := { proposer with memory }
      match tokens.take limit with
      | [] => (.none, proposer)
      | tokens => (⟨tokens, .fallback⟩, proposer)

/-- What follows the output in the session's reference. An output that was rewound starts
the session over, once. -/
def referenceChunk (proposer : Proposer μ) (id : RequestId) (output : Tokens) (limit : Nat) :
    Option Tokens × Proposer μ :=
  match proposer.sessions.nextChunk id output limit with
  | (.ok chunk, sessions) => (some chunk, { proposer with sessions })
  | (.error (.sequenceRewound ..), sessions) =>
    match sessions.recreate id with
    | (.error _, sessions) => (none, { proposer with sessions })
    | (.ok _, sessions) =>
      let (answer, sessions) := sessions.nextChunk id output limit
      (answer.toOption, { proposer with sessions })
  | (.error _, sessions) => (none, { proposer with sessions })

/-- The draft of one step of one request. `context` is all that the model has seen,
`output` what it generated itself. -/
def propose (proposer : Proposer μ) (id : Option RequestId) (context output : Tokens) :
    Proposal × Proposer μ :=
  let limit := proposer.budget context.length
  match id with
  | none => proposer.askFallback context limit
  | some id =>
    if proposer.toggles.speculativeEdit = false ∨ proposer.sessions.contains id = false then
      proposer.askFallback context limit
    else if limit = 0 then (.none, proposer)
    else
      match proposer.referenceChunk id output limit with
      | (some (token :: chunk), proposer) => (⟨token :: chunk, .reference⟩, proposer)
      | (_, proposer) => proposer.askFallback context limit

def describe (proposer : Proposer μ) : String :=
  let fallback :=
    match proposer.fallback with
    | none => "None"
    | some fallback => "Some(\"" ++ fallback.name ++ "\")"
  "SpecEditProposer \x7b backend: " ++ proposer.sessions.backend.label ++
    s!", sessions: {proposer.sessions.size}, fallback: " ++ fallback ++
    s!", num_speculative_tokens: {proposer.speculativeTokens}" ++
    s!", max_model_len: {proposer.maxModelLength} \x7d"

end Proposer

end Redraft.Draft
