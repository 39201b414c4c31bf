import Redraft.Proofs.Draft.Context

/-!
Two proposers side by side. If they tell the same wherever a draft is decided, and go on doing
so, nobody who asks for drafts can tell them apart. In this way a proposer is watched: next to
it stands one whose fallback writes down every question that reaches it.
-/

namespace Redraft.Draft

variable {σ τ α β μ ν : Type}

/-- Two answers leave a pair of states. They are the same, if that is looked at. -/
def Alike (same : Prop) (Pair : σ → τ → Prop) (first : α × σ) (second : α × τ) : Prop :=
  (same → first.1 = second.1) ∧ Pair first.2 second.2

section Alike

variable {same : Prop} {Pair : σ → τ → Prop}

theorem Alike.of_eq {state : σ} {state' : τ} (answer : α) (hpair : Pair state state') :
    Alike same Pair (answer, state) (answer, state') :=
  ⟨fun _ => rfl, hpair⟩

theorem Alike.map {first : α × σ} {second : α × τ} (halike : Alike same Pair first second)
    (f : α → β) : Alike same Pair (f first.1, first.2) (f second.1, second.2) :=
  ⟨fun hsame => congrArg f (halike.1 hsame), halike.2⟩

theorem alike_answerAll {answer : σ → α → β × σ} {answer' : τ → α → β × τ} {state : σ}
    {state' : τ}
    (hstep : ∀ {state state'}, Pair state state' → ∀ question,
      Alike same Pair (answer state question) (answer' state' question))
    (questions : List α) (hpair : Pair state state') :
    Alike same Pair (answerAll answer state questions)
      (answerAll answer' state' questions) := by
  induction questions generalizing state state' with
  | nil => exact Alike.of_eq [] hpair
  | cons question questions ih =>
      obtain ⟨hanswer, hnext⟩ := hstep hpair question
      obtain ⟨hanswers, hlast⟩ := ih hnext
      exact ⟨fun hsame => List.cons_eq_cons.2 ⟨hanswer hsame, hanswers hsame⟩, hlast⟩

end Alike

namespace Proposer

/-- Pairs of proposers that cannot be told apart where a draft is decided, apart from what the
fallback answers if that is not looked at. Sessions count only as long as speculative edit is
on. -/
structure Coupled (same : Prop) (Pair : Proposer μ → Proposer ν → Prop) : Prop where
  toggles : ∀ {left right}, Pair left right → right.toggles = left.toggles
  speculativeTokens : ∀ {left right}, Pair left right →
    right.speculativeTokens = left.speculativeTokens
  maxModelLength : ∀ {left right}, Pair left right →
    right.maxModelLength = left.maxModelLength
  installed : ∀ {left right}, Pair left right → left.toggles.ngramFallback = true →
    right.fallback.isNone = left.fallback.isNone
  contains : ∀ {left right}, Pair left right → left.toggles.speculativeEdit = true →
    ∀ id, right.sessions.contains id = left.sessions.contains id
  askFallback : ∀ {left right}, Pair left right → ∀ context limit,
    Alike same Pair (Proposer.askFallback left context limit)
      (Proposer.askFallback right context limit)
  referenceChunk : ∀ {left right}, Pair left right → left.toggles.speculativeEdit = true →
    ∀ id, left.sessions.contains id = true → ∀ output limit,
      Alike True Pair (Proposer.referenceChunk left id output limit)
        (Proposer.referenceChunk right id output limit)

section Coupled

variable {same : Prop} {Pair : Proposer μ → Proposer ν → Prop} {left : Proposer μ}
  {right : Proposer ν}

theorem Coupled.budget (hcoupled : Coupled same Pair) (hpair : Pair left right)
    (contextLength : Nat) : right.budget contextLength = left.budget contextLength := by
  rw [Proposer.budget, Proposer.budget, hcoupled.speculativeTokens hpair,
    hcoupled.maxModelLength hpair]

theorem Coupled.propose (hcoupled : Coupled same Pair) (hpair : Pair left right)
    (id : Option RequestId) (context output : Tokens) :
    Alike same Pair (left.propose id context output) (right.propose id context output) := by
  unfold Proposer.propose
  rw [hcoupled.budget hpair, hcoupled.toggles hpair]
  generalize left.budget context.length = limit
  cases id with
  | none => exact hcoupled.askFallback hpair context limit
  | some id =>
      dsimp only
      cases hon : left.toggles.speculativeEdit with
      | false => exact hcoupled.askFallback hpair context limit
      | true =>
          rw [hcoupled.contains hpair hon]
          cases hcontains : left.sessions.contains id with
          | false => exact hcoupled.askFallback hpair context limit
          | true =>
              have hserved : ¬(true = false ∨ true = false) := by decide
              have hchunk := hcoupled.referenceChunk hpair hon id hcontains output limit
              rw [if_neg hserved, if_neg hserved]
              generalize left.referenceChunk id output limit = first at hchunk ⊢
              generalize right.referenceChunk id output limit = second at hchunk ⊢
              obtain ⟨chunk, left'⟩ := first
              obtain ⟨chunk', right'⟩ := second
              obtain ⟨hsame, hpair'⟩ := hchunk
              dsimp only at hsame hpair'
              obtain rfl := hsame trivial
              -- Both read the same chunk, so both or neither go on to the fallback.
              by_cases hfull : limit = 0
              · rw [if_pos hfull, if_pos hfull]
                exact Alike.of_eq _ hpair
              · rw [if_neg hfull, if_neg hfull]
                rcases chunk with _ | _ | ⟨token, chunk⟩
                · exact hcoupled.askFallback hpair' context limit
                · exact hcoupled.askFallback hpair' context limit
                · exact Alike.of_eq _ hpair'

theorem Coupled.draftFor (hcoupled : Coupled same Pair) (hpair : Pair left right)
    (context : Tokens) (output : Option Tokens) (id : Option RequestId) :
    Alike same Pair (left.draftFor context output id) (right.draftFor context output id) :=
  (hcoupled.propose hpair id context (output.getD [])).map fun proposal =>
    if proposal.isEmpty then none else some proposal.tokens

theorem Coupled.draftSlot (hcoupled : Coupled same Pair) (hpair : Pair left right)
    (slot : BatchSlot) : Alike same Pair (left.draftSlot slot) (right.draftSlot slot) := by
  unfold Proposer.draftSlot
  rw [hcoupled.maxModelLength hpair]
  split
  · exact Alike.of_eq [] hpair
  · exact (hcoupled.draftFor hpair slot.context (some slot.output) (some slot.id)).map
      fun draft => draft.getD []

theorem Coupled.fallbackOutputs (hcoupled : Coupled same Pair) (hpair : Pair left right)
    (groups : List SequenceGroup) (sampleLength : Nat) :
    Alike same Pair (left.fallbackOutputs groups sampleLength)
      (right.fallbackOutputs groups sampleLength) := by
  unfold Proposer.fallbackOutputs
  rw [hcoupled.toggles hpair]
  cases hallowed : left.toggles.ngramFallback with
  | false => exact Alike.of_eq none hpair
  | true =>
      rw [hcoupled.installed hpair hallowed]
      split
      · exact Alike.of_eq none hpair
      · have hstep {left right} (hpair : Pair left right) (group : SequenceGroup) :
            Alike same Pair (fallbackOutput sampleLength left group)
              (fallbackOutput sampleLength right group) :=
          (hcoupled.askFallback hpair group.context sampleLength).map
            fun proposal => PaddedDraft.pad? proposal.tokens sampleLength
        exact (alike_answerAll hstep groups hpair).map outputsIfAny

def OnPair (Pair : Proposer μ → Proposer ν → Prop) (left : Proposer μ) (right : Proposer ν) :
    Prop :=
  Pair left right ∧ left.toggles.speculativeEdit = true

theorem Coupled.referenceOutput (hcoupled : Coupled same Pair) (sampleLength : Nat)
    (hpair : OnPair Pair left right) (group : SequenceGroup) :
    Alike True (OnPair Pair) (Proposer.referenceOutput sampleLength left group)
      (Proposer.referenceOutput sampleLength right group) := by
  obtain ⟨hpair, hon⟩ := hpair
  unfold Proposer.referenceOutput
  rw [hcoupled.budget hpair, hcoupled.contains hpair hon]
  generalize min sampleLength (left.budget group.context.length) = limit
  dsimp only
  split
  · exact Alike.of_eq none ⟨hpair, hon⟩
  · rename_i hserved
    have hcontains := (Bool.not_eq_false _).mp (not_or.1 hserved).1
    obtain ⟨hchunk, hafter⟩ :=
      hcoupled.referenceChunk hpair hon group.id hcontains group.output limit
    have hkeeps := (onlySessions_referenceChunk left group.id group.output limit).keeps
    exact Alike.map ⟨hchunk, hafter, hkeeps.toggles ▸ hon⟩
      fun chunk => chunk.bind (PaddedDraft.pad? · sampleLength)

theorem Coupled.paddedOutputs (hcoupled : Coupled same Pair) (hpair : Pair left right)
    (groups : List SequenceGroup) (sampleLength : Nat) :
    Alike same Pair (left.paddedOutputs groups sampleLength)
      (right.paddedOutputs groups sampleLength) := by
  unfold Proposer.paddedOutputs
  rw [hcoupled.toggles hpair]
  split
  · exact Alike.of_eq none hpair
  · split
    · exact hcoupled.fallbackOutputs hpair groups sampleLength
    · rename_i hon
      have houtputs := alike_answerAll (hcoupled.referenceOutput sampleLength) groups
        ⟨hpair, (Bool.not_eq_false _).mp hon⟩
      generalize answerAll (Proposer.referenceOutput sampleLength) left groups = first
        at houtputs ⊢
      generalize answerAll (Proposer.referenceOutput sampleLength) right groups = second
        at houtputs ⊢
      obtain ⟨outputs, left'⟩ := first
      obtain ⟨outputs', right'⟩ := second
      obtain ⟨hsame, hpair', -⟩ := houtputs
      dsimp only at hsame hpair' ⊢
      obtain rfl := hsame trivial
      split
      · exact Alike.of_eq _ hpair'
      · exact hcoupled.fallbackOutputs hpair' groups sampleLength

theorem Coupled.answer (hcoupled : Coupled same Pair) (hpair : Pair left right)
    (request : Request) : Alike same Pair (request.answer left) (request.answer right) := by
  cases request with
  | step id context output =>
      exact (hcoupled.propose hpair id context output).map
        fun proposal => [Offer.mk context proposal.tokens]
  | single context output id =>
      exact (hcoupled.draftFor hpair context output id).map
        fun draft => [Offer.mk context (draft.getD [])]
  | slots running =>
      exact (alike_answerAll hcoupled.draftSlot running hpair).map
        fun drafts => List.zipWith (fun slot draft => Offer.mk slot.context draft) running
          drafts
  | slotDrafter id context output =>
      exact (hcoupled.propose hpair id context output).map
        fun proposal => [Offer.mk context proposal.tokens]
  | batch groups sampleLength =>
      exact (hcoupled.paddedOutputs hpair groups sampleLength).map
        fun outputs => Request.groupOffers groups outputs
  | paddedDrafter id context output =>
      cases id with
      | none =>
          have hasked := hcoupled.askFallback hpair context left.speculativeTokens
          have hright : (Request.paddedDrafter none context output).answer right =
              ([⟨context, (right.askFallback context left.speculativeTokens).1.tokens⟩],
                (right.askFallback context left.speculativeTokens).2) := by
            rw [← hcoupled.speculativeTokens hpair]
            rfl
          rw [hright]
          exact hasked.map fun proposal => [Offer.mk context proposal.tokens]
      | some id =>
          rw [answer_paddedDrafter, answer_paddedDrafter, hcoupled.speculativeTokens hpair]
          exact (hcoupled.paddedOutputs hpair _ _).map
            fun outputs => Request.groupOffers [⟨id, context, output⟩] outputs

end Coupled

theorem askFallback_sessions (proposer : Proposer μ) (sessions : Registry) (context : Tokens)
    (limit : Nat) :
    Proposer.askFallback { proposer with sessions } context limit =
      ((proposer.askFallback context limit).1,
        { (proposer.askFallback context limit).2 with sessions }) := by
  unfold Proposer.askFallback
  dsimp only
  split
  · rfl
  · split
    · rfl
    · split
      · rfl
      · rfl

theorem referenceChunk_of_sessions (left : Proposer μ) (right : Proposer ν)
    (hsessions : right.sessions = left.sessions) (id : RequestId) (output : Tokens)
    (limit : Nat) :
    right.referenceChunk id output limit =
      ((left.referenceChunk id output limit).1,
        { right with sessions := (left.referenceChunk id output limit).2.sessions }) := by
  rw [referenceChunk_eq, referenceChunk_eq, hsessions]

end Proposer

section Calls

def Fallback.noting (fallback : Fallback μ) : Fallback (μ × List Question) where
  name := fallback.name
  propose notes context limit :=
    let (answer, memory) := fallback.propose notes.1 context limit
    (answer, memory, notes.2 ++ [⟨context, limit, answer⟩])

def Proposer.noting (proposer : Proposer μ) (notes : List Question) :
    Proposer (μ × List Question) where
  sessions := proposer.sessions
  toggles := proposer.toggles
  fallback := proposer.fallback.map Fallback.noting
  memory := (proposer.memory, notes)
  speculativeTokens := proposer.speculativeTokens
  maxModelLength := proposer.maxModelLength

def Request.calls (request : Request) (proposer : Proposer μ) : List Question :=
  (request.answer (proposer.noting [])).2.memory.2

def Watched (proposer : Proposer μ) (watched : Proposer (μ × List Question)) : Prop :=
  ∃ notes, watched = proposer.noting notes

theorem askFallback_noting (proposer : Proposer μ) (notes : List Question) (context : Tokens)
    (limit : Nat) :
    (proposer.noting notes).askFallback context limit =
      ((proposer.askFallback context limit).1,
        (proposer.askFallback context limit).2.noting
          (notes ++ proposer.questions [context] limit)) := by
  unfold Proposer.askFallback Proposer.questions
  by_cases hasked : limit = 0 ∨ proposer.toggles.ngramFallback = false
  · rw [if_pos hasked, if_pos hasked, List.append_nil]
    exact if_pos hasked
  · rw [if_neg hasked, if_neg hasked]
    refine (if_neg hasked).trans ?_
    obtain ⟨sessions, toggles, fallback, memory, speculativeTokens, maxModelLength⟩ := proposer
    cases fallback with
    | none => simp [Proposer.noting]
    | some fallback =>
        dsimp only [Proposer.noting, Option.map_some, Fallback.noting]
        split
        · rfl
        · rfl

theorem coupled_watched : Proposer.Coupled True (Watched (μ := μ)) where
  toggles := by
    rintro proposer _ ⟨notes, rfl⟩
    rfl
  speculativeTokens := by
    rintro proposer _ ⟨notes, rfl⟩
    rfl
  maxModelLength := by
    rintro proposer _ ⟨notes, rfl⟩
    rfl
  installed := by
    rintro proposer _ ⟨notes, rfl⟩ -
    exact Option.isNone_map
  contains := by
    rintro proposer _ ⟨notes, rfl⟩ - id
    rfl
  askFallback := by
    rintro proposer _ ⟨notes, rfl⟩ context limit
    rw [askFallback_noting]
    exact ⟨fun _ => rfl, _, rfl⟩
  referenceChunk := by
    rintro proposer _ ⟨notes, rfl⟩ - id - output limit
    rw [Proposer.referenceChunk_of_sessions proposer (proposer.noting notes) rfl]
    obtain ⟨sessions, honly⟩ :=
      Proposer.onlySessions_referenceChunk proposer id output limit
    exact ⟨fun _ => rfl, notes, by rw [honly]; rfl⟩

/-- Keeping a list changes no answer and nothing else. -/
theorem Request.answer_noting (request : Request) (proposer : Proposer μ) :
    request.answer (proposer.noting []) =
      ((request.answer proposer).1,
        (request.answer proposer).2.noting (request.calls proposer)) := by
  obtain ⟨hanswer, notes, hafter⟩ := coupled_watched.answer ⟨[], rfl⟩ request
  have hcalls : request.calls proposer = notes := by
    rw [calls, hafter]
    rfl
  rw [hcalls]
  exact Prod.ext (hanswer trivial).symm hafter

end Calls

end Redraft.Draft
