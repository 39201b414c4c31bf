import Redraft.Proofs.Draft.Independence

namespace Redraft

namespace Draft

/-- The draft is made of what was proposed, one token at least, and copies of the last of it. -/
structure PaddedDraft.Fills (padded : PaddedDraft) (draft : Tokens) (length : Nat) : Prop where
  nonempty : 1 ≤ draft.length
  fits : draft.length ≤ length
  proposed_eq : padded.proposed = draft.length
  tokens_eq : ∃ last, draft.getLast? = some last ∧
    padded.tokens = draft ++ List.replicate (length - draft.length) last
  length_eq : padded.tokens.length = length

theorem PaddedDraft.fills_of_pad? {draft : Tokens} {length : Nat} {padded : PaddedDraft}
    (hpadded : pad? draft length = some padded) : padded.Fills (draft.take length) length := by
  obtain ⟨last, hlast, rfl⟩ := Option.map_eq_some_iff.1 hpadded
  have hfits : (draft.take length).length ≤ length := List.length_take_le ..
  have hnonempty : draft.take length ≠ [] := by
    intro hnil
    rw [hnil] at hlast
    cases hlast
  refine ⟨List.length_pos_iff.2 hnonempty, hfits, rfl, ⟨last, hlast, rfl⟩, ?_⟩
  rw [List.length_append, List.length_replicate]
  exact Nat.add_sub_cancel' hfits

variable {μ : Type} {settings : Settings} {fallback : Option (Fallback μ)}

/-- The proposers that the settings lead to while others use their sessions, too: through the
registry, by a number that was kept of one, and so that they fail. The fallback is shared. -/
inductive Shared (settings : Settings) (fallback : Option (Fallback μ)) : Proposer μ → Prop where
  | new {memory : μ} {proposer : Proposer μ}
      (hnew : Proposer.new settings fallback memory = .ok proposer) :
      Shared settings fallback proposer
  | event {proposer : Proposer μ} (event : Event) (hshared : Shared settings fallback proposer) :
      Shared settings fallback (event.run proposer)
  | used {proposer : Proposer μ} (number : Nat) (call : Session.Call)
      (hshared : Shared settings fallback proposer) :
      Shared settings fallback { proposer with sessions :=
        (proposer.sessions.useHandle number fun session => ((), call.run session)).2 }
  | poisoned {proposer : Proposer μ} (number : Nat)
      (hshared : Shared settings fallback proposer) :
      Shared settings fallback { proposer with sessions := proposer.sessions.poison number }
  | cleared {proposer : Proposer μ} (hshared : Shared settings fallback proposer) :
      Shared settings fallback { proposer with sessions := proposer.sessions.clear }
  | remembered {proposer : Proposer μ} (memory : μ)
      (hshared : Shared settings fallback proposer) :
      Shared settings fallback { proposer with memory }

section Shared

variable {proposer : Proposer μ}

theorem Shared.serves (hshared : Shared settings fallback proposer) :
    Serves settings fallback proposer := by
  induction hshared with
  | new hnew => exact serves_new hnew
  | event event _ ih => exact ih.run event
  | used number call _ ih => exact ⟨ih.fallback, ih.speculativeTokens, ih.maxModelLength⟩
  | poisoned number _ ih => exact ⟨ih.fallback, ih.speculativeTokens, ih.maxModelLength⟩
  | cleared _ ih => exact ⟨ih.fallback, ih.speculativeTokens, ih.maxModelLength⟩
  | remembered memory _ ih => exact ⟨ih.fallback, ih.speculativeTokens, ih.maxModelLength⟩

theorem Shared.sound (hshared : Shared settings fallback proposer) :
    proposer.sessions.Sound settings.backend settings.matching := by
  induction hshared with
  | new hnew => exact sound_new hnew
  | event event _ ih => exact sound_run event ih
  | used number call _ ih => exact ih.useHandle number fun _ good => good.run call
  | poisoned number _ ih => exact ih.poison number
  | cleared _ ih => exact ih.clear
  | remembered memory _ ih => exact ih

theorem Proposer.Orderly.run (horderly : proposer.Orderly) (event : Event) :
    (event.run proposer).Orderly := by
  cases event with
  | asked request => exact request.related_answer Proposer.respected_orderly proposer horderly
  | started id reference => exact ⟨horderly.owned.create id reference, horderly.forgetful⟩
  | finished id => exact ⟨horderly.owned.remove id, horderly.forgetful⟩
  | flipped speculativeEdit ngramFallback => exact ⟨horderly.owned, horderly.forgetful⟩
  | fallbackAsked context limit => exact horderly.askFallback context limit
  | referenceAsked id output limit => exact horderly.referenceChunk id output limit

theorem Shared.orderly (hshared : Shared settings fallback proposer)
    (hforgetful : ∀ source, fallback = some source → source.Forgetful) :
    proposer.Orderly := by
  induction hshared with
  | new hnew =>
      rw [eq_initial_of_new hnew]
      exact ⟨Registry.owned_new _ _ _, hforgetful⟩
  | event event _ ih => exact ih.run event
  | used number call _ ih =>
      exact ⟨ih.owned.useHandle number fun session => (session.run_keeps call).1, ih.forgetful⟩
  | poisoned number _ ih => exact ⟨ih.owned.poison number, ih.forgetful⟩
  | cleared _ ih => exact ⟨ih.owned.clear, ih.forgetful⟩
  | remembered memory _ ih => exact ⟨ih.owned, ih.forgetful⟩

end Shared

namespace Proposer

def offered? (groups : List SequenceGroup) (answer : SequenceGroup → Option PaddedDraft) :
    Option (SequenceGroup → Option PaddedDraft) :=
  if groups.all fun group => (answer group).isNone then none else some answer

section Batch

variable {proposer : Proposer μ} {groups later : List SequenceGroup} {sampleLength : Nat}

def referenceAnswer (proposer : Proposer μ) (groups : List SequenceGroup) (sampleLength : Nat) :
    Option (SequenceGroup → Option PaddedDraft) :=
  if proposer.toggles.speculativeEdit = false then none
  else offered? groups fun group => (referenceOutput sampleLength proposer group).1

def fallbackAnswer (proposer : Proposer μ) (groups : List SequenceGroup) (sampleLength : Nat) :
    Option (SequenceGroup → Option PaddedDraft) :=
  if proposer.toggles.ngramFallback = false ∨ proposer.fallback.isNone then none
  else offered? groups fun group => (fallbackOutput sampleLength proposer group).1

/-- What each group of a batch is answered, as if it were alone. -/
def batchAnswer (proposer : Proposer μ) (groups : List SequenceGroup) (sampleLength : Nat) :
    Option (SequenceGroup → Option PaddedDraft) :=
  if sampleLength = 0 ∨ groups.isEmpty then none
  else (proposer.referenceAnswer groups sampleLength).or
    (proposer.fallbackAnswer groups sampleLength)

theorem eq_of_offered? {given answer : SequenceGroup → Option PaddedDraft}
    (hgiven : offered? groups given = some answer) : answer = given := by
  rw [offered?] at hgiven
  split at hgiven
  · cases hgiven
  · exact (Option.some.inj hgiven).symm

theorem offered?_of_perm (hperm : later.Perm groups)
    (answer : SequenceGroup → Option PaddedDraft) :
    offered? later answer = offered? groups answer := by
  rw [offered?, offered?, hperm.all_eq]

theorem outputsIfAny_map (groups : List SequenceGroup)
    (answer : SequenceGroup → Option PaddedDraft) :
    outputsIfAny (groups.map answer) = (offered? groups answer).map groups.map := by
  rw [outputsIfAny, offered?, List.all_map, Function.comp_def]
  by_cases hnone : groups.all fun group => (answer group).isNone
  · rw [if_pos hnone, if_pos hnone, Option.map_none]
  · rw [if_neg hnone, if_neg hnone, Option.map_some]

theorem batchAnswer_of_perm (hperm : later.Perm groups) (proposer : Proposer μ)
    (sampleLength : Nat) :
    proposer.batchAnswer later sampleLength = proposer.batchAnswer groups sampleLength := by
  rw [batchAnswer, batchAnswer, referenceAnswer, referenceAnswer, fallbackAnswer,
    fallbackAnswer, offered?_of_perm hperm, offered?_of_perm hperm, hperm.isEmpty_eq]

theorem Orderly.fallbackOutputs_eq {after : Proposer μ} (horderly : proposer.Orderly)
    (hafter : after.Orderly) (hkeeps : proposer.Keeps after)
    (hdistinct : (groups.map (·.id)).Nodup) (sampleLength : Nat) :
    (after.fallbackOutputs groups sampleLength).1 =
      (proposer.fallbackAnswer groups sampleLength).map groups.map := by
  unfold fallbackOutputs fallbackAnswer
  rw [hkeeps.toggles, hkeeps.fallback]
  split
  · rfl
  · have hsame : ∀ group ∈ groups, (fallbackOutput sampleLength after group).1 =
        (fallbackOutput sampleLength proposer group).1 := by
      intro group _
      exact congrArg (fun proposal => PaddedDraft.pad? proposal.tokens sampleLength)
        (horderly.askFallback_eq hkeeps group.context sampleLength)
    dsimp only
    rw [(apart_fallbackOutput sampleLength).answers_eq_map hdistinct hafter,
      List.map_congr_left hsame, outputsIfAny_map]

theorem Orderly.paddedOutputs_eq (horderly : proposer.Orderly)
    (hdistinct : (groups.map (·.id)).Nodup) (sampleLength : Nat) :
    (proposer.paddedOutputs groups sampleLength).1 =
      (proposer.batchAnswer groups sampleLength).map groups.map := by
  have hapart := apart_referenceOutput (μ := μ) sampleLength
  have hfirst := hapart.answers_eq_map hdistinct horderly
  have hafter := hapart.holds_answerAll groups horderly
  have hkeeps := (onlySessions_referenceOutputs proposer groups sampleLength).keeps
  unfold paddedOutputs batchAnswer referenceAnswer
  split
  · rfl
  · split
    · rw [Option.none_or]
      exact horderly.fallbackOutputs_eq horderly (Keeps.refl proposer) hdistinct sampleLength
    · dsimp only
      rw [hfirst, outputsIfAny_map]
      cases offered? groups fun group => (referenceOutput sampleLength proposer group).1 with
      | none => exact horderly.fallbackOutputs_eq hafter hkeeps hdistinct sampleLength
      | some answer => rfl

theorem sameFor_fallbackOutputs (proposer : Proposer μ) (id : RequestId)
    (groups : List SequenceGroup) (sampleLength : Nat) :
    SameFor id proposer (proposer.fallbackOutputs groups sampleLength).2 := by
  have hequivalence := SameFor.equivalence (μ := μ) id
  have hstep (before : Proposer μ) (group : SequenceGroup) :
      SameFor id before (fallbackOutput sampleLength before group).2 :=
    sameFor_askFallback before id group.context sampleLength
  unfold fallbackOutputs
  split
  · exact hequivalence.refl proposer
  · exact answerAll_related hequivalence.refl hequivalence.trans hstep groups proposer

theorem Orderly.sameFor_paddedOutputs (horderly : proposer.Orderly) (hperm : later.Perm groups)
    (hdistinct : (groups.map (·.id)).Nodup) (sampleLength : Nat) (id : RequestId) :
    SameFor id (proposer.paddedOutputs groups sampleLength).2
      (proposer.paddedOutputs later sampleLength).2 := by
  have hequivalence := SameFor.equivalence (μ := μ) id
  -- The fallback leaves the sessions alone, whatever batch it is asked about.
  have hjoin {first second : Proposer μ} (hsame : SameFor id first second) :
      SameFor id (first.fallbackOutputs groups sampleLength).2
        (second.fallbackOutputs later sampleLength).2 :=
    hequivalence.trans (hequivalence.symm (sameFor_fallbackOutputs first id groups sampleLength))
      (hequivalence.trans hsame (sameFor_fallbackOutputs second id later sampleLength))
  have hapart := apart_referenceOutput (μ := μ) sampleLength
  have hdistinct' := (hperm.map (·.id)).nodup_iff.2 hdistinct
  have hasked := hapart.same_of_perm hperm hdistinct horderly id
  unfold paddedOutputs
  rw [hperm.isEmpty_eq]
  split
  · exact hequivalence.refl proposer
  · split
    · exact hjoin (hequivalence.refl proposer)
    · dsimp only
      rw [hapart.answers_eq_map hdistinct horderly, hapart.answers_eq_map hdistinct' horderly,
        outputsIfAny_map, outputsIfAny_map, offered?_of_perm hperm]
      cases offered? groups fun group => (referenceOutput sampleLength proposer group).1 with
      | none => exact hjoin hasked
      | some answer => exact hasked

theorem batchAnswer_eq_some {answer : SequenceGroup → Option PaddedDraft}
    (hanswer : proposer.batchAnswer groups sampleLength = some answer) :
    (∀ group, answer group = (referenceOutput sampleLength proposer group).1) ∨
      ∀ group, answer group = (fallbackOutput sampleLength proposer group).1 := by
  rw [batchAnswer] at hanswer
  split at hanswer
  · cases hanswer
  · rcases Option.or_eq_some_iff.1 hanswer with hreference | ⟨-, hfallback⟩
    · rw [referenceAnswer] at hreference
      split at hreference
      · cases hreference
      · exact .inl (congrFun (eq_of_offered? hreference))
    · rw [fallbackAnswer] at hfallback
      split at hfallback
      · cases hfallback
      · exact .inr (congrFun (eq_of_offered? hfallback))

end Batch

end Proposer

section Entries

variable {proposer : Proposer μ} {sampleLength : Nat} {group : SequenceGroup}
  {draft : PaddedDraft}

theorem Shared.fills_of_referenceOutput (hshared : Shared settings fallback proposer)
    (hdraft : (Proposer.referenceOutput sampleLength proposer group).1 = some draft) :
    ∃ session, proposer.sessions.session? group.id = some session ∧
      draft.Fills ((Matcher.build settings.backend session.reference settings.matching).nextChunk
        (session.recorded group.output)
        (min sampleLength (proposer.budget group.context.length))).1 sampleLength := by
  rw [Proposer.referenceOutput] at hdraft
  dsimp only at hdraft
  split at hdraft
  · cases hdraft
  · obtain ⟨chunk, hchunk, hpadded⟩ := Option.bind_eq_some_iff.1 hdraft
    have hfits := Proposer.length_referenceChunk_le hchunk
    have hfills := PaddedDraft.fills_of_pad? hpadded
    rw [List.take_of_length_le (Nat.le_trans hfits (Nat.min_le_left _ _))] at hfills
    cases hsession : proposer.sessions.session? group.id with
    | none =>
        obtain ⟨error, after, -, huse⟩ := Registry.useSession_of_no_session hsession
        rw [Proposer.referenceChunk_eq, huse] at hchunk
        cases hchunk
    | some session =>
        have good := hshared.sound.session?_good hsession
        have hown := (Proposer.referenceChunk_of_session? hsession good group.output
          (min sampleLength (proposer.budget group.context.length))).1
        rw [hchunk, Option.some.injEq] at hown
        rw [hown] at hfills
        refine ⟨session, rfl, ?_⟩
        rw [Matcher.chunk_build]
        exact hfills

theorem Shared.fills_of_fallbackOutput (hshared : Shared settings fallback proposer)
    (hforgetful : ∀ source, fallback = some source → source.Forgetful)
    (hdraft : (Proposer.fallbackOutput sampleLength proposer group).1 = some draft) :
    ∃ source, fallback = some source ∧ ∀ memory,
      draft.Fills ((source.propose memory group.context sampleLength).1.take sampleLength)
        sampleLength := by
  rw [Proposer.fallbackOutput] at hdraft
  dsimp only at hdraft
  by_cases hasked : sampleLength = 0 ∨ proposer.toggles.ngramFallback = false
  · rw [Proposer.askFallback, if_pos hasked, Proposal.tokens_none, PaddedDraft.pad?_nil] at hdraft
    cases hdraft
  · cases hsource : proposer.fallback with
    | none =>
        rw [Proposer.askFallback, if_neg hasked, hsource] at hdraft
        dsimp only at hdraft
        rw [Proposal.tokens_none, PaddedDraft.pad?_nil] at hdraft
        cases hdraft
    | some source =>
        have hserved : fallback = some source := hshared.serves.fallback.symm.trans hsource
        refine ⟨source, hserved, fun memory => ?_⟩
        rw [Proposer.askFallback_tokens hsource hasked group.context] at hdraft
        have hfills := PaddedDraft.fills_of_pad? hdraft
        rw [List.take_take, Nat.min_self] at hfills
        rw [hforgetful source hserved memory proposer.memory]
        exact hfills

end Entries

end Draft

end Redraft
