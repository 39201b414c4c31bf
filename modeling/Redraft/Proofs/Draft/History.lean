import Redraft.Proofs.Draft.Context
import Redraft.Proofs.Matcher.Sizes

namespace Redraft.Draft

variable {μ : Type} {backend : Backend} {matching : MatchSettings}

namespace Proposer

theorem respected_sound : Respected (μ := μ) fun before after =>
    before.sessions.Sound backend matching → after.sessions.Sound backend matching where
  refl _ := id
  trans hfirst hsecond := hsecond ∘ hfirst
  askFallback proposer context limit := by
    obtain ⟨_, hafter⟩ := askFallback_memory proposer context limit
    rw [hafter]
    exact id
  referenceChunk proposer id output limit := by
    rw [referenceChunk_eq]
    exact fun hsound => hsound.useSession id fun _ good => (good.draft output limit).2

end Proposer

/-- The proposers that the settings lead to while nobody else drafts with their sessions.
The failure of a user may poison a session. -/
inductive Undisturbed (settings : Settings) (fallback : Option (Fallback μ)) :
    Proposer μ → Prop where
  | new {memory : μ} {proposer : Proposer μ}
      (hnew : Proposer.new settings fallback memory = .ok proposer) :
      Undisturbed settings fallback proposer
  | event {proposer : Proposer μ} (event : Event)
      (hundisturbed : Undisturbed settings fallback proposer) :
      Undisturbed settings fallback (event.run proposer)
  | poisoned {proposer : Proposer μ} (number : Nat)
      (hundisturbed : Undisturbed settings fallback proposer) :
      Undisturbed settings fallback
        { proposer with sessions := proposer.sessions.poison number }

section History

variable {settings : Settings} {fallback : Option (Fallback μ)} {proposer : Proposer μ}

theorem sound_new {memory : μ}
    (hnew : Proposer.new settings fallback memory = .ok proposer) :
    proposer.sessions.Sound settings.backend settings.matching := by
  rw [eq_initial_of_new hnew]
  exact Registry.sound_new ..

theorem sound_run (event : Event)
    (hsound : proposer.sessions.Sound backend matching) :
    (event.run proposer).sessions.Sound backend matching := by
  cases event with
  | asked request => exact request.related_answer Proposer.respected_sound proposer hsound
  | started id reference => exact hsound.create id reference
  | finished id => exact hsound.remove id
  | flipped speculativeEdit ngramFallback => exact hsound
  | fallbackAsked context limit =>
      exact Proposer.respected_sound.askFallback proposer context limit hsound
  | referenceAsked id output limit =>
      exact Proposer.respected_sound.referenceChunk proposer id output limit hsound

theorem Undisturbed.sound (hundisturbed : Undisturbed settings fallback proposer) :
    proposer.sessions.Sound settings.backend settings.matching := by
  induction hundisturbed with
  | new hnew => exact sound_new hnew
  | event event _ ih => exact sound_run event ih
  | poisoned number _ ih => exact ih.poison number

/-- Whatever was asked before, a session drafts as a new matcher would for the output that
it has recorded, wherever that matcher has an answer. This is the output it was asked about,
unless the check let pass one that does not begin with what was recorded before. -/
theorem Undisturbed.draft_for_recorded (hundisturbed : Undisturbed settings fallback proposer)
    {id : RequestId} {session : Session}
    (hsession : proposer.sessions.session? id = some session) (output : Tokens)
    (limit : Nat) :
    let fresh := Matcher.build settings.backend session.reference settings.matching
    let asked := proposer.referenceChunk id output limit
    (∀ chunk after, fresh.nextChunk? (session.recorded output) limit = some (chunk, after) →
      asked.1 = some chunk ∧
        ∃ later, asked.2.sessions.session? id = some later ∧
          later.reference = session.reference ∧
          later.generated = session.recorded output) ∧
      (session.recorded output = output ↔
        (session.isExtendedBy output = true → session.generated <+: output)) := by
  have good := hundisturbed.sound.session?_good hsession
  obtain ⟨hchunk, hlater⟩ := Proposer.referenceChunk_of_session? hsession good output limit
  refine ⟨fun chunk after hanswer => ⟨?_, hlater⟩, session.recorded_eq_self_iff output⟩
  have hexact := congrArg Prod.fst (Matcher.eq_nextChunk_of_nextChunk? hanswer)
  rw [Matcher.chunk_build] at hexact
  rw [hchunk]
  exact congrArg some hexact.symm

end History

def draftedOnce (reference output : Tokens) : Proposer Unit :=
  Event.run (.referenceAsked "r" output 2)
    (Event.run (.started "r" reference) (.initial {} none ()))

theorem undisturbed_draftedOnce (reference output : Tokens) :
    Undisturbed {} none (draftedOnce reference output) :=
  .event _ (.event _ (.new (Proposer.new_of_validate rfl none ())))

theorem session?_draftedOnce (reference output : Tokens) :
    ∃ session, (draftedOnce reference output).sessions.session? "r" = some session ∧
      session.reference = reference ∧ session.generated = output := by
  have habsent : (Registry.ofSettings {}).contains "r" = false :=
    Registry.contains_clear (.ofSettings {}) "r"
  have hstarted : (Event.run (.started "r" reference)
      (Proposer.initial {} none ())).sessions.session? "r" =
      some (.start "r" reference .sequential {} 0) :=
    (Registry.create_of_absent habsent reference).2
  exact (Proposer.referenceChunk_of_session? hstarted (Session.good_start ..) output 2).2

/-- An output that is shorter than the recorded one starts the session over. -/
theorem draft_for_recorded_rewound :
    Undisturbed {} none (draftedOnce [1, 2, 3, 4] [1, 2, 3]) ∧
      ∃ session,
        (draftedOnce [1, 2, 3, 4] [1, 2, 3]).sessions.session? "r" = some session ∧
          session.recorded [1, 2] = [1, 2] ∧
          ((draftedOnce [1, 2, 3, 4] [1, 2, 3]).referenceChunk "r" [1, 2] 2).1 =
            some [3, 4] := by
  have hundisturbed := undisturbed_draftedOnce [1, 2, 3, 4] [1, 2, 3]
  obtain ⟨session, hsession, hreference, hgenerated⟩ :=
    session?_draftedOnce [1, 2, 3, 4] [1, 2, 3]
  obtain ⟨hanswers, hrecorded⟩ := hundisturbed.draft_for_recorded hsession [1, 2] 2
  have hsame : session.recorded [1, 2] = [1, 2] := by
    refine hrecorded.2 ?_
    rw [Session.isExtendedBy, hgenerated]
    decide
  refine ⟨hundisturbed, session, hsession, hsame, ?_⟩
  rw [hsame, hreference] at hanswers
  have hfresh : ((Matcher.build .sequential [1, 2, 3, 4] {}).nextChunk? [1, 2] 2).map
      Prod.fst = some [3, 4] := by
    rw [(Matcher.good_build ..).nextChunk?, Backend.chunk?, Backend.rule,
      Backend.windowedLastBlock_longest .sequential fun hjunk => Bool.noConfusion hjunk]
    decide +kernel
  obtain ⟨answer, hanswer, hchunk⟩ := Option.map_eq_some_iff.1 hfresh
  exact (hanswers answer.1 answer.2 hanswer).1.trans (congrArg some hchunk)

/-- The output is written anew up to its last token, and the draft is for what it was
before: a new matcher has none. -/
theorem draft_for_output_written_anew :
    let reference := [1, 2, 3, 4, 5, 6, 7, 8, 9, 10]
    let asked := (draftedOnce reference [1, 2, 3]).referenceChunk "r" [7, 8, 3] 2
    Undisturbed {} none (draftedOnce reference [1, 2, 3]) ∧
      ∃ session, (draftedOnce reference [1, 2, 3]).sessions.session? "r" = some session ∧
        session.reference = reference ∧ asked.1 = some [4, 5] ∧
        ((Matcher.build .sequential reference {}).nextChunk [7, 8, 3] 2).1 = [] ∧
        ∃ later, asked.2.sessions.session? "r" = some later ∧
          later.generated = [1, 2, 3] := by
  intro reference asked
  have hundisturbed := undisturbed_draftedOnce reference [1, 2, 3]
  obtain ⟨session, hsession, hreference, hgenerated⟩ := session?_draftedOnce reference [1, 2, 3]
  have good := hundisturbed.sound.session?_good hsession
  have hrecorded : session.recorded [7, 8, 3] = [1, 2, 3] := by
    rw [Session.recorded, Session.isExtendedBy, hgenerated]
    rfl
  obtain ⟨hchunk, later, hlater, -, hstored⟩ :=
    Proposer.referenceChunk_of_session? hsession good [7, 8, 3] 2
  have hdiagonals := Backend.chunk_eq_diagonals .sequential
    (fun hjunk : ({} : MatchSettings).autojunk = true => Bool.noConfusion hjunk) reference
  rw [hreference, hrecorded] at hchunk
  refine ⟨hundisturbed, session, hsession, hreference, hchunk.trans ?_, ?_, later, hlater,
    hstored.trans hrecorded⟩
  · change some (Backend.chunk .sequential reference {} [1, 2, 3] 2) = _
    rw [hdiagonals]
    decide +kernel
  · rw [Matcher.chunk_build, hdiagonals]
    decide +kernel

end Redraft.Draft
