import Mathlib.Algebra.GroupWithZero.Nat
import Redraft.Proofs.Align.Common
import Redraft.Replay.Case

/-!
What a replay counts, whatever the drafter answers. The drafter is any state machine; a copy
of it that notes its calls shows what it was asked. Its drafts are asked for at positions that
rise through the output, and every position passed is either an accepted token or a step that
accepted nothing.
-/

namespace Redraft

namespace Draft

inductive Drafter.Call where
  | start (id : RequestId) (reference : Tokens) (answer : Except SessionError Unit)
  | propose (id : Option RequestId) (context output draft : Tokens)
  | finish (id : RequestId)

def Drafter.noting {σ : Type} (drafter : Drafter σ) : Drafter (σ × List Drafter.Call) where
  name := drafter.name
  start state id reference :=
    let (answer, after) := drafter.start state.1 id reference
    (answer, after, state.2 ++ [.start id reference answer])
  propose state id context output :=
    let (draft, after) := drafter.propose state.1 id context output
    (draft, after, state.2 ++ [.propose id context output draft])
  finish state id := (drafter.finish state.1 id, state.2 ++ [.finish id])

theorem Drafter.propose_noting {σ : Type} (drafter : Drafter σ)
    (state : σ × List Drafter.Call) (id : Option RequestId) (context output : Tokens) :
    drafter.noting.propose state id context output =
      ((drafter.propose state.1 id context output).1,
        (drafter.propose state.1 id context output).2,
        state.2 ++ [.propose id context output (drafter.propose state.1 id context output).1]) :=
  rfl

theorem Drafter.start_noting {σ : Type} (drafter : Drafter σ)
    (state : σ × List Drafter.Call) (id : RequestId) (reference : Tokens) :
    drafter.noting.start state id reference =
      ((drafter.start state.1 id reference).1, (drafter.start state.1 id reference).2,
        state.2 ++ [.start id reference (drafter.start state.1 id reference).1]) :=
  rfl

end Draft

namespace Replay

open Draft

/-- A draft, and the position in the output at which it was asked for. -/
structure Step where
  position : Nat
  draft : Tokens
deriving DecidableEq, Repr

namespace Step

def accepted (output : Tokens) (step : Step) : Nat :=
  Tokens.agreement step.draft (output.drop step.position)

def isIdle (output : Tokens) (step : Step) : Bool := step.accepted output == 0

theorem passed_eq (output : Tokens) (step : Step) :
    max (step.accepted output) 1 =
      step.accepted output + if step.isIdle output then 1 else 0 := by
  rw [isIdle]
  by_cases hnothing : step.accepted output = 0
  · simp [hnothing]
  · simp only [beq_iff_eq, hnothing, if_false]
    omega

def call (id : Option RequestId) (prompt output : Tokens) (step : Step) : Drafter.Call :=
  .propose id (prompt ++ output.take step.position) (output.take step.position) step.draft

end Step

/-- Steps through the output, one where the last one led. -/
inductive Walk (output : Tokens) : Progress → List Step → Progress → Prop where
  | stop (progress : Progress) : Walk output progress [] progress
  | step {progress last : Progress} {draft : Tokens} {steps : List Step}
      (hinside : progress.position < output.length)
      (hrest : Walk output (progress.advance draft (output.drop progress.position)) steps last) :
      Walk output progress (⟨progress.position, draft⟩ :: steps) last

section Walk

variable {output : Tokens} {first last : Progress} {steps : List Step}

theorem Walk.proposals (walk : Walk output first steps last) :
    last.proposals = first.proposals + steps.length := by
  induction walk with
  | stop => rfl
  | step _ _ ih =>
      rw [ih, Progress.proposals_advance, List.length_cons]
      omega

theorem Walk.rounds (walk : Walk output first steps last) :
    last.rounds = first.rounds + steps.length := by
  induction walk with
  | stop => rfl
  | step _ _ ih =>
      rw [ih, Progress.rounds_advance, List.length_cons]
      omega

theorem Walk.accepted (walk : Walk output first steps last) :
    last.accepted = first.accepted + (steps.map (Step.accepted output)).sum := by
  induction walk with
  | stop => rfl
  | step _ _ ih =>
      rw [ih, Progress.accepted_advance, List.map_cons, List.sum_cons, Step.accepted,
        Nat.add_assoc]

theorem Walk.position (walk : Walk output first steps last) :
    last.position = first.position + (steps.map (Step.accepted output)).sum +
      steps.countP (Step.isIdle output) := by
  induction walk with
  | stop => rfl
  | @step progress _ draft _ _ _ ih =>
      have hpassed := Step.passed_eq output ⟨progress.position, draft⟩
      rw [Step.accepted] at hpassed
      rw [ih, Progress.position_advance, hpassed, List.map_cons, List.sum_cons,
        List.countP_cons, Step.accepted]
      omega

theorem Walk.position_le (walk : Walk output first steps last)
    (hfirst : first.position ≤ output.length) : last.position ≤ output.length := by
  induction walk with
  | stop => exact hfirst
  | @step progress _ draft _ hinside _ ih =>
      apply ih
      have hle := Tokens.agreement_le_right draft (output.drop progress.position)
      rw [List.length_drop] at hle
      rw [Progress.position_advance]
      omega

theorem Walk.length_le (walk : Walk output first steps last) :
    first.position + steps.length ≤ last.position := by
  induction walk with
  | stop => exact Nat.le_refl _
  | step _ _ ih =>
      rw [Progress.position_advance] at ih
      rw [List.length_cons]
      omega

def stops (steps : List Step) (last : Nat) : List Nat := steps.map Step.position ++ [last]

theorem Walk.head?_stops (walk : Walk output first steps last) :
    (stops steps last.position).head? = some first.position := by
  cases walk <;> rfl

theorem Walk.le_of_mem_stops (walk : Walk output first steps last) :
    ∀ p ∈ stops steps last.position, first.position ≤ p := by
  induction walk with
  | stop => simp [stops]
  | @step progress last draft steps _ _ ih =>
      intro p hp
      rcases List.mem_cons.1 hp with rfl | hrest
      · exact Nat.le_refl _
      · exact Nat.le_trans (Nat.le_of_lt (Progress.position_lt_advance ..)) (ih p hrest)

theorem Walk.rising (walk : Walk output first steps last) :
    (stops steps last.position).Pairwise (· < ·) := by
  induction walk with
  | stop => exact List.pairwise_singleton _ _
  | step _ hrest ih =>
      refine List.pairwise_cons.2 ⟨?_, ih⟩
      intro p hp
      exact Nat.lt_of_lt_of_le (Progress.position_lt_advance ..) (hrest.le_of_mem_stops p hp)

end Walk

/-- The context is the prompt and the output up to the position. -/
def Progress.InStep (prompt output : Tokens) (progress : Progress) : Prop :=
  progress.context = prompt ++ output.take progress.position

theorem Progress.InStep.advance {prompt output : Tokens} {progress : Progress}
    (hcontext : progress.InStep prompt output) (draft : Tokens) :
    (progress.advance draft (output.drop progress.position)).InStep prompt output := by
  rw [InStep, context_advance, position_advance, hcontext, List.append_assoc, List.take_add]

section Follow

variable {σ : Type} (drafter : Drafter σ) (id : Option RequestId) {prompt output : Tokens}
  {progress : Progress}

theorem follow_of_inside (hround : progress.rounds < maxProposals)
    (hinside : progress.position < output.length) (state : σ) :
    let proposed :=
      drafter.propose state id progress.context (output.take progress.position)
    follow drafter id output progress state =
      follow drafter id output
        (progress.advance proposed.1 (output.drop progress.position)) proposed.2 := by
  rw [follow, if_pos ⟨hround, hinside⟩]

theorem follow_of_end
    (hend : ¬(progress.rounds < maxProposals ∧ progress.position < output.length))
    (state : σ) : follow drafter id output progress state = (progress, state) := by
  rw [follow, if_neg hend]

/-- Noting changes nothing, and the notes are those of a walk that goes on until the output or
the rounds are used up. -/
theorem exists_walk_follow (hcontext : progress.InStep prompt output)
    (hrounds : progress.rounds ≤ maxProposals) (state : σ) (notes : List Drafter.Call) :
    let followed := follow drafter id output progress state
    ∃ steps, Walk output progress steps followed.1 ∧
      follow drafter.noting id output progress (state, notes) =
        (followed.1, followed.2, notes ++ steps.map (Step.call id prompt output)) ∧
      followed.1.rounds ≤ maxProposals ∧
      (output.length ≤ followed.1.position ∨ followed.1.rounds = maxProposals) := by
  -- the notes so far are general, so that each step can add its own
  induction progress, state using follow.induct drafter id output generalizing notes with
  | case1 progress state hmore draft after hproposed ih =>
      have hadvanced : (progress.advance draft (output.drop progress.position)).InStep prompt
          output := hcontext.advance draft
      obtain ⟨steps, hwalk, hnoted, hend⟩ := ih hadvanced
        (by rw [Progress.rounds_advance]; exact hmore.1)
        (notes ++ [Step.call id prompt output ⟨progress.position, draft⟩])
      rw [follow_of_inside drafter id hmore.1 hmore.2,
        follow_of_inside drafter.noting id hmore.1 hmore.2, Drafter.propose_noting]
      dsimp only
      rw [hproposed, hcontext]
      refine ⟨⟨progress.position, draft⟩ :: steps, .step hmore.2 hwalk, ?_, hend⟩
      rw [List.append_assoc, List.singleton_append] at hnoted
      exact hnoted
  | case2 progress state hend =>
      rw [follow_of_end drafter id hend, follow_of_end drafter.noting id hend]
      dsimp only
      exact ⟨[], .stop progress, by simp, hrounds, by omega⟩

end Follow

/-- All that is asked of a drafter in a replay, in order. The answer to the start decides
whether the request is finished. -/
def calls (case : Case) (mode : Mode) (registered : Except SessionError Unit)
    (steps : List Step) : List Drafter.Call :=
  let request := requestId mode case
  let prompt := case.prompt.getD []
  match mode with
  | .ngram => steps.map (Step.call none prompt case.output)
  | .specEdit =>
    .start request case.reference registered ::
      (steps.map (Step.call (some request) prompt case.output) ++
        match registered with
        | .ok () => [.finish request]
        | .error _ => [])

section Simulate

variable {σ : Type} (drafter : Drafter σ) (case : Case)

theorem simulate_specEdit {state started : σ} {registered : Except SessionError Unit}
    (hstart : drafter.start state (requestId .specEdit case) case.reference =
      (registered, started)) :
    let request := requestId .specEdit case
    let followed := follow drafter (some request) case.output
      { context := case.prompt.getD [] } started
    simulate drafter case .specEdit state =
      (⟨followed.1.proposals, followed.1.accepted, case.output.length⟩,
        match registered with
        | .ok () => drafter.finish followed.2 request
        | .error _ => followed.2) := by
  simp only [simulate, hstart]
  cases registered <;> rfl

theorem exists_walk_simulate (mode : Mode) (state : σ) :
    let registered := (drafter.start state (requestId mode case) case.reference).1
    let replayed := simulate drafter case mode state
    ∃ steps last, Walk case.output { context := case.prompt.getD [] } steps last ∧
      simulate drafter.noting case mode (state, []) =
        (replayed.1, replayed.2, calls case mode registered steps) ∧
      replayed.1 = ⟨last.proposals, last.accepted, case.output.length⟩ ∧
      last.rounds ≤ maxProposals ∧
      (case.output.length ≤ last.position ∨ last.rounds = maxProposals) := by
  have hcontext : Progress.InStep (case.prompt.getD []) case.output
      { context := case.prompt.getD [] } := (List.append_nil _).symm
  cases mode with
  | ngram =>
      obtain ⟨steps, hwalk, hnoted, hrest⟩ :=
        exists_walk_follow drafter none hcontext (Nat.zero_le _) state []
      refine ⟨steps, _, hwalk, ?_, rfl, hrest⟩
      simp only [simulate, hnoted]
      rfl
  | specEdit =>
      cases hstart : drafter.start state (requestId .specEdit case) case.reference with
      | mk registered started =>
          have hnotes : drafter.noting.start (state, []) (requestId .specEdit case)
              case.reference =
                (registered, started,
                  [.start (requestId .specEdit case) case.reference registered]) := by
            rw [Drafter.start_noting, hstart]
            rfl
          obtain ⟨steps, hwalk, hnoted, hrest⟩ := exists_walk_follow drafter
            (some (requestId .specEdit case)) hcontext (Nat.zero_le _) started
            [.start (requestId .specEdit case) case.reference registered]
          rw [simulate_specEdit drafter case hstart,
            simulate_specEdit drafter.noting case hnotes]
          refine ⟨steps, _, hwalk, ?_, rfl, hrest⟩
          dsimp only
          rw [hnoted]
          cases registered with
          | ok _ => rfl
          | error _ =>
              dsimp only [calls]
              rw [List.append_nil]
              rfl

/-- For any drafter, which may be in any state and may draft anything, a replay asks for no
more drafts than the limit allows or the output has tokens. It asks at positions that rise from
the start, and shows the output up to there. What is accepted and the steps that accept nothing
add up to where the replay ends, which is the end of the output unless the limit was reached.
Only a request with a reference is started, and it is finished once if that worked. -/
theorem replay_adds_up (mode : Mode) (state : σ) :
    let registered := (drafter.start state (requestId mode case) case.reference).1
    let replayed := simulate drafter case mode state
    let tally := replayed.1
    ∃ (steps : List Step) (last : Nat),
      simulate drafter.noting case mode (state, []) =
        (tally, replayed.2, calls case mode registered steps) ∧
      tally.proposals = steps.length ∧
      tally.proposals ≤ min maxProposals case.output.length ∧
      (stops steps last).head? = some 0 ∧
      (stops steps last).Pairwise (· < ·) ∧
      last ≤ case.output.length ∧
      (last = case.output.length ∨ tally.proposals = maxProposals) ∧
      tally.accepted = (steps.map (Step.accepted case.output)).sum ∧
      tally.accepted + steps.countP (Step.isIdle case.output) = last ∧
      tally.accepted ≤ tally.output ∧
      tally.output = case.output.length := by
  intro registered replayed tally
  obtain ⟨steps, last, walk, hnoted, htally, hlimit, hend⟩ :=
    exists_walk_simulate drafter case mode state
  have hproposals : last.proposals = steps.length := walk.proposals.trans (Nat.zero_add _)
  have hrounds : last.rounds = steps.length := walk.rounds.trans (Nat.zero_add _)
  have haccepted : last.accepted = _ := walk.accepted.trans (Nat.zero_add _)
  have hposition := walk.position
  rw [Nat.zero_add, ← haccepted] at hposition
  have hinside := walk.position_le (Nat.zero_le _)
  have hcount := walk.length_le
  rw [Nat.zero_add] at hcount
  replace htally : tally = ⟨last.proposals, last.accepted, case.output.length⟩ := htally
  refine ⟨steps, last.position, hnoted, ?_, ?_, walk.head?_stops, walk.rising, hinside, ?_, ?_,
    ?_, ?_, ?_⟩ <;> rw [htally]
  · exact hproposals
  · dsimp only
    omega
  · dsimp only
    omega
  · exact haccepted
  · exact hposition.symm
  · dsimp only
    omega

end Simulate

end Replay

end Redraft
