import Redraft.Proofs.Draft.Rewinds
import Redraft.Proofs.Draft.Switches
import Redraft.Proofs.Registry.Shares

/-!
Questions that have nothing to do with each other. Each has a key and touches only what belongs
to that key, so if no two have the same, every one of them is answered as if it were the only
one. The keys here are the names of requests: a draft is a single use of the session of its
request, and the fallback looks at no session.
-/

namespace Redraft

namespace Draft

section Apart

variable {σ α β κ : Type} {answer : σ → α → β × σ} {key : α → κ} {Holds : σ → Prop}
  {Same : κ → σ → σ → Prop}

/-- A question touches nothing but what belongs to its key, and is answered by that alone. -/
structure Apart (answer : σ → α → β × σ) (key : α → κ) (Holds : σ → Prop)
    (Same : κ → σ → σ → Prop) : Prop where
  same : ∀ k, Equivalence (Same k)
  keeps : ∀ {state}, Holds state → ∀ question, Holds (answer state question).2
  foreign : ∀ {state}, Holds state → ∀ {question k}, key question ≠ k →
    Same k state (answer state question).2
  own : ∀ {state state'}, Holds state → Holds state' → ∀ {question},
    Same (key question) state state' →
      Alike True (Same (key question)) (answer state question) (answer state' question)

theorem Apart.holds_answerAll (hapart : Apart answer key Holds Same) (questions : List α)
    {state : σ} (hholds : Holds state) : Holds (answerAll answer state questions).2 := by
  induction questions generalizing state with
  | nil => exact hholds
  | cons question questions ih => exact ih (hapart.keeps hholds question)

theorem Apart.same_of_not_mem (hapart : Apart answer key Holds Same) {questions : List α} {k : κ}
    (habsent : k ∉ questions.map key) {state : σ} (hholds : Holds state) :
    Same k state (answerAll answer state questions).2 := by
  induction questions generalizing state with
  | nil => exact (hapart.same k).refl state
  | cons question questions ih =>
      rw [List.map_cons, List.mem_cons, not_or] at habsent
      have hfirst := hapart.foreign hholds (Ne.symm habsent.1)
      exact (hapart.same k).trans hfirst (ih habsent.2 (hapart.keeps hholds question))

theorem Apart.same_of_mem (hapart : Apart answer key Holds Same) {questions : List α}
    (hdistinct : (questions.map key).Nodup) {question : α} (hmem : question ∈ questions)
    {state : σ} (hholds : Holds state) :
    Same (key question) (answer state question).2 (answerAll answer state questions).2 := by
  induction questions generalizing state with
  | nil => cases hmem
  | cons first questions ih =>
      rw [List.map_cons, List.nodup_cons] at hdistinct
      have hnext := hapart.keeps hholds first
      rcases List.mem_cons.1 hmem with rfl | hlater
      · exact hapart.same_of_not_mem hdistinct.1 hnext
      · have hother : key first ≠ key question := fun heq =>
          hdistinct.1 (heq ▸ List.mem_map_of_mem hlater)
        have halone := (hapart.own hholds hnext (hapart.foreign hholds hother)).2
        exact (hapart.same _).trans halone (ih hdistinct.2 hlater hnext)

theorem Apart.answers_eq_map (hapart : Apart answer key Holds Same) {questions : List α}
    (hdistinct : (questions.map key).Nodup) {state : σ} (hholds : Holds state) :
    (answerAll answer state questions).1 =
      questions.map fun question => (answer state question).1 := by
  induction questions generalizing state with
  | nil => rfl
  | cons first questions ih =>
      rw [List.map_cons, List.nodup_cons] at hdistinct
      have hnext := hapart.keeps hholds first
      rw [answerAll_cons, ih hdistinct.2 hnext, List.map_cons]
      -- The first question leaves what belongs to the keys of the others as it was.
      refine congrArg _ (List.map_congr_left fun question hmem => ?_)
      have hother : key first ≠ key question := fun heq =>
        hdistinct.1 (heq ▸ List.mem_map_of_mem hmem)
      exact ((hapart.own hholds hnext (hapart.foreign hholds hother)).1 trivial).symm

/-- The order of the questions is of no consequence to what is left. -/
theorem Apart.same_of_perm (hapart : Apart answer key Holds Same) {questions later : List α}
    (hperm : later.Perm questions) (hdistinct : (questions.map key).Nodup) {state : σ}
    (hholds : Holds state) (k : κ) :
    Same k (answerAll answer state questions).2 (answerAll answer state later).2 := by
  have hkeys := hperm.map key
  by_cases hmem : k ∈ questions.map key
  · obtain ⟨question, hquestion, rfl⟩ := List.mem_map.1 hmem
    exact (hapart.same _).trans
      ((hapart.same _).symm (hapart.same_of_mem hdistinct hquestion hholds))
      (hapart.same_of_mem (hkeys.nodup_iff.2 hdistinct) (hperm.mem_iff.2 hquestion) hholds)
  · exact (hapart.same k).trans
      ((hapart.same k).symm (hapart.same_of_not_mem hmem hholds))
      (hapart.same_of_not_mem (mt hkeys.mem_iff.1 hmem) hholds)

end Apart

namespace Proposer

variable {μ : Type}

theorem Keeps.symm {before after : Proposer μ} (hkeeps : before.Keeps after) :
    after.Keeps before :=
  ⟨hkeeps.toggles.symm, hkeeps.fallback.symm, hkeeps.speculativeTokens.symm,
    hkeeps.maxModelLength.symm⟩

theorem Keeps.eq_with {before after : Proposer μ} (hkeeps : before.Keeps after) :
    after = { before with sessions := after.sessions, memory := after.memory } := by
  rw [← hkeeps.toggles, ← hkeeps.fallback, ← hkeeps.speculativeTokens, ← hkeeps.maxModelLength]

/-- What the questions about other requests leave as it is: all but their sessions and what
the fallback remembers. -/
structure SameFor (id : RequestId) (left right : Proposer μ) : Prop where
  keeps : left.Keeps right
  sessions : left.sessions.Agree id right.sessions

/-- Whatever session is live under a name was created under it, and the fallback answers
without regard to what it remembers. -/
structure Orderly (proposer : Proposer μ) : Prop where
  owned : proposer.sessions.Owned
  forgetful : ∀ source, proposer.fallback = some source → source.Forgetful

section SameFor

variable {id other : RequestId} {proposer left right : Proposer μ}

theorem SameFor.equivalence (id : RequestId) : Equivalence (SameFor (μ := μ) id) where
  refl proposer := ⟨Keeps.refl proposer, Registry.Agree.refl id _⟩
  symm hsame := ⟨hsame.keeps.symm, hsame.sessions.symm⟩
  trans hfirst hsecond :=
    ⟨hfirst.keeps.trans hsecond.keeps, hfirst.sessions.trans hsecond.sessions⟩

theorem SameFor.contains_eq (hsame : SameFor id left right) :
    right.sessions.contains id = left.sessions.contains id := by
  rw [Registry.contains_eq_isSome, Registry.contains_eq_isSome, hsame.sessions.handle_eq]

theorem Orderly.of_keeps (horderly : left.Orderly) (hkeeps : left.Keeps right)
    (howned : right.sessions.Owned) : right.Orderly :=
  ⟨howned, fun source hsource => horderly.forgetful source (hkeeps.fallback ▸ hsource)⟩

theorem Orderly.referenceChunk (horderly : proposer.Orderly) (id : RequestId) (output : Tokens)
    (limit : Nat) : (proposer.referenceChunk id output limit).2.Orderly := by
  refine horderly.of_keeps (onlySessions_referenceChunk proposer id output limit).keeps ?_
  rw [referenceChunk_eq]
  exact horderly.owned.useSession id (Session.id_draft · output limit)

theorem Orderly.sameFor_referenceChunk (horderly : proposer.Orderly) (hother : id ≠ other)
    (output : Tokens) (limit : Nat) :
    SameFor other proposer (proposer.referenceChunk id output limit).2 := by
  refine ⟨(onlySessions_referenceChunk proposer id output limit).keeps, ?_⟩
  rw [referenceChunk_eq]
  exact horderly.owned.agree_useSession hother (Session.id_draft · output limit)

theorem SameFor.referenceChunk (hsame : SameFor id left right) (hleft : left.Orderly)
    (hright : right.Orderly) (output : Tokens) (limit : Nat) :
    Alike True (SameFor id) (left.referenceChunk id output limit)
      (right.referenceChunk id output limit) := by
  obtain ⟨hanswer, hsessions⟩ :=
    hsame.sessions.useSession hleft.owned hright.owned (·.draft output limit)
  rw [referenceChunk_eq left, referenceChunk_eq right]
  obtain ⟨htoggles, hfallback, htokens, hlength⟩ := hsame.keeps
  exact ⟨fun _ => congrArg Except.toOption hanswer.symm,
    ⟨htoggles, hfallback, htokens, hlength⟩, hsessions⟩

theorem Orderly.askFallback (horderly : proposer.Orderly) (context : Tokens) (limit : Nat) :
    (proposer.askFallback context limit).2.Orderly := by
  refine horderly.of_keeps (keeps_askFallback proposer context limit) ?_
  obtain ⟨memory, hafter⟩ := askFallback_memory proposer context limit
  rw [hafter]
  exact horderly.owned

theorem sameFor_askFallback (proposer : Proposer μ) (id : RequestId) (context : Tokens)
    (limit : Nat) : SameFor id proposer (proposer.askFallback context limit).2 := by
  refine ⟨keeps_askFallback proposer context limit, ?_⟩
  obtain ⟨memory, hafter⟩ := askFallback_memory proposer context limit
  rw [hafter]
  exact Registry.Agree.refl id _

theorem Orderly.askFallback_eq (hleft : left.Orderly) (hkeeps : left.Keeps right)
    (context : Tokens) (limit : Nat) :
    (right.askFallback context limit).1 = (left.askFallback context limit).1 := by
  have hsessions := askFallback_sessions { left with memory := right.memory } right.sessions
    context limit
  rw [hkeeps.eq_with, hsessions]
  exact askFallback_forgetful hleft.forgetful right.memory context limit

theorem SameFor.askFallback (hsame : SameFor id left right) (hleft : left.Orderly)
    (context : Tokens) (limit : Nat) :
    Alike True (SameFor id) (left.askFallback context limit) (right.askFallback context limit) := by
  refine ⟨fun _ => (hleft.askFallback_eq hsame.keeps context limit).symm, ?_⟩
  have hequivalence := SameFor.equivalence (μ := μ) id
  exact hequivalence.trans (hequivalence.symm (sameFor_askFallback left id context limit))
    (hequivalence.trans hsame (sameFor_askFallback right id context limit))

theorem respected_orderly :
    Respected (μ := μ) fun before after => before.Orderly → after.Orderly where
  refl _ := id
  trans hfirst hsecond := hsecond ∘ hfirst
  askFallback _ context limit horderly := horderly.askFallback context limit
  referenceChunk _ id output limit horderly := horderly.referenceChunk id output limit

theorem Orderly.sameFor_propose (horderly : proposer.Orderly) (hother : id ≠ other)
    (context output : Tokens) :
    SameFor other proposer (proposer.propose (some id) context output).2 := by
  have hasked := horderly.sameFor_referenceChunk hother output (proposer.budget context.length)
  unfold Proposer.propose
  dsimp only
  split
  · exact sameFor_askFallback proposer other context _
  · split
    · exact (SameFor.equivalence other).refl proposer
    · split
      · rename_i hchunk
        rw [hchunk] at hasked
        exact hasked
      · rename_i hchunk
        rw [hchunk] at hasked
        exact (SameFor.equivalence other).trans hasked (sameFor_askFallback _ other context _)

theorem SameFor.propose (hsame : SameFor id left right) (hleft : left.Orderly)
    (hright : right.Orderly) (context output : Tokens) :
    Alike True (SameFor id) (left.propose (some id) context output)
      (right.propose (some id) context output) := by
  have hchunk := hsame.referenceChunk hleft hright output (left.budget context.length)
  have horderly := hleft.referenceChunk id output (left.budget context.length)
  unfold Proposer.propose
  rw [hsame.keeps.budget, hsame.keeps.toggles]
  generalize left.budget context.length = limit at hchunk horderly ⊢
  dsimp only
  rw [hsame.contains_eq]
  split
  · exact hsame.askFallback hleft context limit
  · split
    · exact Alike.of_eq _ hsame
    · generalize left.referenceChunk id output limit = first at hchunk horderly ⊢
      generalize right.referenceChunk id output limit = second at hchunk ⊢
      obtain ⟨chunk, left'⟩ := first
      obtain ⟨chunk', right'⟩ := second
      obtain ⟨heq, hsame'⟩ := hchunk
      dsimp only at heq hsame' horderly
      obtain rfl := heq trivial
      rcases chunk with _ | _ | ⟨token, chunk⟩
      · exact hsame'.askFallback horderly context limit
      · exact hsame'.askFallback horderly context limit
      · exact Alike.of_eq _ hsame'

end SameFor

theorem apart_draftSlot :
    Apart (draftSlot (μ := μ)) BatchSlot.id Orderly SameFor where
  same := SameFor.equivalence
  keeps horderly slot := respected_orderly.draftSlot _ slot horderly
  foreign := by
    intro proposer horderly slot id hother
    unfold draftSlot
    split
    · exact (SameFor.equivalence id).refl proposer
    · exact horderly.sameFor_propose hother slot.context slot.output
  own := by
    intro left right hleft hright slot hsame
    unfold draftSlot
    rw [hsame.keeps.maxModelLength]
    split
    · exact Alike.of_eq [] hsame
    · exact (hsame.propose hleft hright slot.context slot.output).map fun proposal =>
        (if proposal.isEmpty then none else some proposal.tokens).getD []

theorem apart_referenceOutput (sampleLength : Nat) :
    Apart (referenceOutput (μ := μ) sampleLength) SequenceGroup.id Orderly SameFor where
  same := SameFor.equivalence
  keeps := by
    intro proposer horderly group
    unfold referenceOutput
    dsimp only
    split
    · exact horderly
    · exact horderly.referenceChunk group.id group.output _
  foreign := by
    intro proposer horderly group id hother
    unfold referenceOutput
    dsimp only
    split
    · exact (SameFor.equivalence id).refl proposer
    · exact horderly.sameFor_referenceChunk hother group.output _
  own := by
    intro left right hleft hright group hsame
    unfold referenceOutput
    rw [hsame.keeps.budget, hsame.contains_eq]
    dsimp only
    split
    · exact Alike.of_eq none hsame
    · exact (hsame.referenceChunk hleft hright group.output _).map
        fun chunk => chunk.bind (PaddedDraft.pad? · sampleLength)

theorem apart_fallbackOutput (sampleLength : Nat) :
    Apart (fallbackOutput (μ := μ) sampleLength) SequenceGroup.id Orderly SameFor where
  same := SameFor.equivalence
  keeps horderly group := horderly.askFallback group.context sampleLength
  foreign := by
    intro proposer horderly group id _
    exact sameFor_askFallback proposer id group.context sampleLength
  own := by
    intro left right hleft _ group hsame
    exact (hsame.askFallback hleft group.context sampleLength).map
      fun proposal => PaddedDraft.pad? proposal.tokens sampleLength

end Proposer

end Draft

end Redraft
