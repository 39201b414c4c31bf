import Redraft.Draft.Drafter

/-!
Replaying a recorded request. The replay plays the engine: it asks for a draft, accepts the
beginning that agrees with the recorded output, and otherwise takes one recorded token.
-/

namespace Redraft.Replay

open Draft

inductive Mode where
  | specEdit
  | ngram
deriving DecidableEq, Repr

namespace Mode

def all : List Mode := [ngram, specEdit]

def name : Mode → String
  | specEdit => "specedit"
  | ngram => "ngram"

def ofName? (text : String) : Option Mode := all.find? (·.name == text)

@[simp] theorem ofName?_name (mode : Mode) : ofName? mode.name = some mode := by
  cases mode <;> decide

end Mode

structure Case where
  id : String
  /-- What the request was started with. -/
  reference : Tokens
  /-- What the model produced. -/
  output : Tokens
  /-- What stood before the output. -/
  prompt : Option Tokens := none
deriving DecidableEq, Repr

structure Tally where
  proposals : Nat := 0
  accepted : Nat := 0
  output : Nat := 0
deriving DecidableEq, Repr

/-- Upper bound on the rounds of a case, each of which asks for one draft. -/
def maxProposals : Nat := 20000

def requestId (mode : Mode) (case : Case) : RequestId :=
  "eval-" ++ mode.name ++ "-" ++ case.id

/-- Where a replay stands. The context grows with the position in the output. -/
structure Progress where
  context : Tokens
  position : Nat := 0
  proposals : Nat := 0
  accepted : Nat := 0
  rounds : Nat := 0
deriving DecidableEq, Repr

namespace Progress

def advance (progress : Progress) (draft rest : Tokens) : Progress :=
  let agreed := Tokens.agreement draft rest
  let asked := { progress with
    proposals := progress.proposals + 1, rounds := progress.rounds + 1 }
  if agreed = 0 then
    { asked with
      context := progress.context ++ rest.take 1
      position := progress.position + 1 }
  else
    { asked with
      context := progress.context ++ rest.take agreed
      position := progress.position + agreed
      accepted := progress.accepted + agreed }

variable (progress : Progress) (draft rest : Tokens)

theorem context_advance : (progress.advance draft rest).context =
    progress.context ++ rest.take (max (Tokens.agreement draft rest) 1) := by
  rw [advance]
  split
  · rw [Nat.max_eq_right (by omega)]
  · rw [Nat.max_eq_left (by omega)]

theorem position_advance : (progress.advance draft rest).position =
    progress.position + max (Tokens.agreement draft rest) 1 := by
  rw [advance]
  split
  · rw [Nat.max_eq_right (by omega)]
  · rw [Nat.max_eq_left (by omega)]

theorem accepted_advance : (progress.advance draft rest).accepted =
    progress.accepted + Tokens.agreement draft rest := by
  rw [advance]
  split
  · rename_i hnothing
    rw [hnothing]
    rfl
  · rfl

@[simp] theorem proposals_advance :
    (progress.advance draft rest).proposals = progress.proposals + 1 := by
  rw [advance]
  split <;> rfl

@[simp] theorem rounds_advance :
    (progress.advance draft rest).rounds = progress.rounds + 1 := by
  rw [advance]
  split <;> rfl

theorem position_lt_advance :
    progress.position < (progress.advance draft rest).position := by
  rw [position_advance]
  omega

end Progress

/-- Asks for drafts until the output is used up or no round is left. -/
def follow {σ : Type} (drafter : Drafter σ) (id : Option RequestId) (output : Tokens)
    (progress : Progress) (state : σ) : Progress × σ :=
  if progress.rounds < maxProposals ∧ progress.position < output.length then
    let (draft, state) :=
      drafter.propose state id progress.context (output.take progress.position)
    follow drafter id output (progress.advance draft (output.drop progress.position)) state
  else (progress, state)
termination_by output.length - progress.position
decreasing_by
  rename_i inside
  exact Nat.sub_lt_sub_left inside.2 (progress.position_lt_advance ..)

/-- Replays a case. In reference mode the request is registered first and finished last,
unless it could not be registered. -/
def simulate {σ : Type} (drafter : Drafter σ) (case : Case) (mode : Mode) (state : σ) :
    Tally × σ :=
  let request := requestId mode case
  let prompt := case.prompt.getD []
  let tally (progress : Progress) : Tally :=
    ⟨progress.proposals, progress.accepted, case.output.length⟩
  match mode with
  | .ngram =>
    let (progress, state) := follow drafter none case.output { context := prompt } state
    (tally progress, state)
  | .specEdit =>
    let (registered, state) := drafter.start state request case.reference
    let (progress, state) :=
      follow drafter (some request) case.output { context := prompt } state
    (tally progress, match registered with
      | .ok () => drafter.finish state request
      | .error _ => state)

end Redraft.Replay
