import Mathlib
import Redraft.Proofs.Draft.Coupling
import Redraft.Proofs.Draft.History
import Redraft.Proofs.Replay.Accounts
import Redraft.Replay.Report

/-!
The cases of a simulation share a proposer, and still each counts what it would count alone.
The reference of a case is live only while the case is replayed. So every case finds its
proposer without a session, and what happens then has nothing to do with the cells that
earlier cases filled. The clock may be read in any monad, so what a report counts is told with
`SatisfiesM`, which only the whole library brings along.
-/

namespace Redraft.Replay

open Draft

section Alone

variable {σ τ : Type} {drafter : Drafter σ} {drafter' : Drafter τ} {Pair : σ → τ → Prop}

theorem follow_alike {id : Option RequestId}
    (hpropose : ∀ {state state'}, Pair state state' → ∀ context output,
      Alike True Pair (drafter.propose state id context output)
        (drafter'.propose state' id context output))
    (output : Tokens) (progress : Progress) {state : σ} {state' : τ}
    (hpair : Pair state state') :
    Alike True Pair (follow drafter id output progress state)
      (follow drafter' id output progress state') := by
  induction progress, state using follow.induct drafter id output generalizing state' with
  | case1 progress state hmore draft after hproposed ih =>
      obtain ⟨hdraft, hnext⟩ :=
        hpropose hpair progress.context (output.take progress.position)
      rw [hproposed] at hdraft hnext
      rw [follow_of_inside drafter id hmore.1 hmore.2,
        follow_of_inside drafter' id hmore.1 hmore.2, hproposed, ← hdraft trivial]
      exact ih hnext
  | case2 progress state hend =>
      rw [follow_of_end drafter id hend, follow_of_end drafter' id hend]
      exact Alike.of_eq progress hpair

end Alone

/-- The proposer differs from the original one in its sessions only. -/
structure Steady (origin proposer : Proposer Unit) : Prop where
  same : origin.OnlySessions proposer
  sound : proposer.sessions.Sound origin.sessions.backend origin.sessions.matching

structure Idle (origin proposer : Proposer Unit) : Prop extends Steady origin proposer where
  absent : ∀ id, proposer.sessions.contains id = false

structure Serving (origin : Proposer Unit) (id : RequestId) (reference generated : Tokens)
    (proposer : Proposer Unit) : Prop extends Steady origin proposer where
  absent : ∀ other, id ≠ other → proposer.sessions.contains other = false
  session : ∃ session, proposer.sessions.session? id = some session ∧
    session.reference = reference ∧ session.generated = generated

section Cases

variable {origin proposer : Proposer Unit} {id : RequestId} {reference generated : Tokens}

theorem Idle.start (hidle : Idle origin proposer) (id : RequestId) (reference : Tokens) :
    ∃ started, slotDrafter.start proposer id reference = (.ok (), started) ∧
      Serving origin id reference [] started := by
  obtain ⟨hstarted, hsession⟩ := Registry.create_of_absent (hidle.absent id) reference
  refine ⟨(proposer.startRequest id reference).2, Prod.ext hstarted rfl, ?_⟩
  exact {
    same := hidle.same.trans ⟨_, rfl⟩
    sound := hidle.sound.create id reference
    absent := fun other hother => Registry.absent_create (hidle.absent other) hother reference
    session := ⟨_, hsession, rfl, rfl⟩ }

theorem Serving.finishRequest (hserving : Serving origin id reference generated proposer) :
    Idle origin (proposer.finishRequest id) := by
  refine ⟨⟨hserving.same.trans ⟨_, rfl⟩, hserving.sound.remove id⟩, fun other => ?_⟩
  by_cases hsame : id = other
  · rw [← hsame]
    exact Registry.contains_remove ..
  · exact Registry.absent_remove (hserving.absent other hsame) id

def Twins (origin : Proposer Unit) (id : RequestId) (reference : Tokens)
    (left right : Proposer Unit) : Prop :=
  ∃ generated, Serving origin id reference generated left ∧
    Serving origin id reference generated right

theorem Serving.of_referenceChunk (hserving : Serving origin id reference generated proposer)
    {output later : Tokens} {limit : Nat}
    (hsession : ∃ session,
      (proposer.referenceChunk id output limit).2.sessions.session? id = some session ∧
        session.reference = reference ∧ session.generated = later) :
    Serving origin id reference later (proposer.referenceChunk id output limit).2 where
  same := hserving.same.trans (proposer.onlySessions_referenceChunk id output limit)
  sound := Proposer.respected_sound.referenceChunk proposer id output limit hserving.sound
  absent other hother := by
    rw [Proposer.referenceChunk_eq]
    exact Registry.absent_useSession (hserving.absent other hother) id _
  session := hsession

/-- What the live session drafts, and what it then has recorded, depends on what it had
recorded and on nothing else. -/
theorem Twins.referenceChunk {left right : Proposer Unit}
    (htwins : Twins origin id reference left right) (output : Tokens) (limit : Nat) :
    Alike True (Twins origin id reference) (left.referenceChunk id output limit)
      (right.referenceChunk id output limit) := by
  obtain ⟨generated, hleft, hright⟩ := htwins
  obtain ⟨first, hfirst, hreference, hgenerated⟩ := hleft.session
  obtain ⟨second, hsecond, hreference', hgenerated'⟩ := hright.session
  obtain ⟨hchunk, later, hlater, hsame, hstored⟩ :=
    Proposer.referenceChunk_of_session? hfirst (hleft.sound.session?_good hfirst) output limit
  obtain ⟨hchunk', later', hlater', hsame', hstored'⟩ :=
    Proposer.referenceChunk_of_session? hsecond (hright.sound.session?_good hsecond) output
      limit
  have hrecorded : second.recorded output = first.recorded output :=
    Session.recorded_congr (hgenerated'.trans hgenerated.symm) output
  refine ⟨fun _ => ?_, first.recorded output, ?_, ?_⟩
  · rw [hchunk, hchunk', hrecorded, hreference, hreference']
  · exact hleft.of_referenceChunk ⟨later, hlater, hsame.trans hreference, hstored⟩
  · exact hright.of_referenceChunk
      ⟨later', hlater', hsame'.trans hreference', hstored'.trans hrecorded⟩

theorem Serving.contains_iff (hserving : Serving origin id reference generated proposer)
    {other : RequestId} : proposer.sessions.contains other = true ↔ id = other := by
  constructor
  · intro hcontains
    by_contra hother
    rw [hserving.absent other hother] at hcontains
    cases hcontains
  · rintro rfl
    obtain ⟨session, hsession, -⟩ := hserving.session
    exact Registry.contains_of_session? hsession

theorem askFallback_unit (proposer : Proposer Unit) (context : Tokens) (limit : Nat) :
    (proposer.askFallback context limit).2 = proposer := by
  obtain ⟨memory, hafter⟩ := proposer.askFallback_memory context limit
  exact hafter

theorem askFallback_same (hsame : origin.OnlySessions proposer) (context : Tokens)
    (limit : Nat) :
    proposer.askFallback context limit =
      ((origin.askFallback context limit).1, proposer) := by
  refine Prod.ext ?_ (askFallback_unit proposer context limit)
  obtain ⟨sessions, rfl⟩ := hsame
  rw [Proposer.askFallback_sessions]

theorem coupled_twins (origin : Proposer Unit) (id : RequestId) (reference : Tokens) :
    Proposer.Coupled True (Twins origin id reference) where
  toggles := by
    rintro left right ⟨_, hleft, hright⟩
    exact hright.same.keeps.toggles.trans hleft.same.keeps.toggles.symm
  speculativeTokens := by
    rintro left right ⟨_, hleft, hright⟩
    exact hright.same.keeps.speculativeTokens.trans hleft.same.keeps.speculativeTokens.symm
  maxModelLength := by
    rintro left right ⟨_, hleft, hright⟩
    exact hright.same.keeps.maxModelLength.trans hleft.same.keeps.maxModelLength.symm
  installed := by
    rintro left right ⟨_, hleft, hright⟩ -
    rw [hright.same.keeps.fallback, hleft.same.keeps.fallback]
  contains := by
    rintro left right ⟨_, hleft, hright⟩ - other
    rw [Bool.eq_iff_iff, hleft.contains_iff, hright.contains_iff]
  askFallback := by
    rintro left right ⟨generated, hleft, hright⟩ context limit
    rw [askFallback_same hleft.same, askFallback_same hright.same]
    exact Alike.of_eq _ ⟨generated, hleft, hright⟩
  referenceChunk := by
    rintro left right ⟨generated, hleft, hright⟩ - other hcontains output limit
    obtain rfl := hleft.contains_iff.1 hcontains
    exact Twins.referenceChunk ⟨generated, hleft, hright⟩ output limit

theorem Twins.propose {left right : Proposer Unit}
    (htwins : Twins origin id reference left right) (context output : Tokens) :
    Alike True (Twins origin id reference)
      (slotDrafter.propose left (some id) context output)
      (slotDrafter.propose right (some id) context output) :=
  ((coupled_twins origin id reference).propose htwins (some id) context output).map
    Proposal.tokens

theorem propose_none_same (hsame : origin.OnlySessions proposer) (context output : Tokens) :
    slotDrafter.propose proposer none context output =
      ((slotDrafter.propose origin none context output).1, proposer) := by
  have hasked := askFallback_same hsame context (origin.budget context.length)
  unfold slotDrafter Proposer.propose
  dsimp only
  rw [hsame.keeps.budget, hasked]

theorem simulate_of_idle {left right : Proposer Unit} (hleft : Idle origin left)
    (hright : Idle origin right) (case : Case) (mode : Mode) :
    (simulate slotDrafter case mode left).1 = (simulate slotDrafter case mode right).1 ∧
      Idle origin (simulate slotDrafter case mode left).2 := by
  cases mode with
  | ngram =>
      have hpropose {left right : Proposer Unit} (hpair : Idle origin left ∧ Idle origin right)
          (context output : Tokens) :
          Alike True (fun left right => Idle origin left ∧ Idle origin right)
            (slotDrafter.propose left none context output)
            (slotDrafter.propose right none context output) := by
        rw [propose_none_same hpair.1.same, propose_none_same hpair.2.same]
        exact Alike.of_eq _ hpair
      obtain ⟨hprogress, hafter, -⟩ := follow_alike hpropose case.output
        { context := case.prompt.getD [] } ⟨hleft, hright⟩
      simp only [simulate, hprogress trivial]
      exact ⟨trivial, hafter⟩
  | specEdit =>
      obtain ⟨first, hfirst, hserving⟩ := hleft.start (requestId .specEdit case) case.reference
      obtain ⟨second, hsecond, hserving'⟩ :=
        hright.start (requestId .specEdit case) case.reference
      obtain ⟨hprogress, _, hafter, -⟩ := follow_alike Twins.propose case.output
        { context := case.prompt.getD [] } ⟨[], hserving, hserving'⟩
      simp only [simulate, hfirst, hsecond, hprogress trivial]
      exact ⟨trivial, hafter.finishRequest⟩

end Cases

section Reports

variable {m : Type → Type} [Monad m] [LawfulMonad m] {origin proposer : Proposer Unit}

def count (origin : Proposer Unit) (mode : Mode) (case : Case) : Tally :=
  (simulate slotDrafter case mode origin).1

theorem measure_counts (now : m Float) (horigin : Idle origin origin) (mode : Mode)
    (case : Case) (hidle : Idle origin proposer) :
    SatisfiesM (fun measured => measured.1.tally = count origin mode case ∧
        Idle origin measured.2)
      (measure now slotDrafter mode proposer case) := by
  unfold measure
  refine SatisfiesM.bind SatisfiesM.trivial fun started _ => ?_
  refine SatisfiesM.bind SatisfiesM.trivial fun ended _ => ?_
  exact SatisfiesM.pure (simulate_of_idle hidle horigin case mode)

theorem measureAll_counts (now : m Float) (horigin : Idle origin origin) (mode : Mode)
    (cases : List Case) (hidle : Idle origin proposer) :
    SatisfiesM (fun metrics => metrics.map Metrics.tally = cases.map (count origin mode))
      (measureAll now slotDrafter mode proposer cases) := by
  induction cases generalizing proposer with
  | nil => exact SatisfiesM.pure rfl
  | cons case cases ih =>
      refine SatisfiesM.bind (measure_counts now horigin mode case hidle) ?_
      rintro ⟨metrics, state⟩ ⟨htally, hafter⟩
      refine SatisfiesM.bind (ih hafter) fun rest hrest => ?_
      refine SatisfiesM.pure ?_
      rw [List.map_cons, List.map_cons, hrest]
      exact congrArg (· :: _) htally

def Report.counts (report : Report) : List (String × Mode × Tally) :=
  report.cases.map fun row => (row.id, row.mode, row.metrics.tally)

theorem counts_addMode (report : Report) (mode : Mode) {cases : List Case}
    {metrics : List Metrics}
    (hmetrics : metrics.map Metrics.tally = cases.map (count origin mode)) :
    (report.addMode mode cases metrics).counts =
      report.counts ++ cases.map fun case => (case.id, mode, count origin mode case) := by
  unfold Report.counts Report.addMode
  rw [List.map_append]
  congr 1
  induction cases generalizing metrics with
  | nil => rfl
  | cons case cases ih =>
      cases metrics with
      | nil => cases hmetrics
      | cons first metrics =>
          obtain ⟨hfirst, hrest⟩ := List.cons_eq_cons.1 hmetrics
          rw [List.zipWith_cons_cons, List.map_cons, List.map_cons, ih hrest, ← hfirst]

theorem runModes_counts {settings : Settings} (now : m Float)
    (hnew : Proposer.new settings (some fallback) () = .ok origin)
    (horigin : Idle origin origin) (cases : List Case) (report : Report) (modes : List Mode) :
    SatisfiesM (fun result => ∃ last, result = .ok last ∧
        last.counts = report.counts ++ modes.flatMap fun mode =>
          cases.map fun case => (case.id, mode, count origin mode case))
      (runModes now settings cases report modes) := by
  induction modes generalizing report with
  | nil => exact SatisfiesM.pure ⟨report, rfl, (List.append_nil _).symm⟩
  | cons mode modes ih =>
      rw [runModes, hnew]
      refine SatisfiesM.bind (measureAll_counts now horigin mode cases horigin) ?_
      intro metrics hmetrics
      refine (ih _).imp ?_
      rintro _ ⟨last, rfl, hlast⟩
      refine ⟨last, rfl, ?_⟩
      rw [hlast, counts_addMode _ mode hmetrics, List.flatMap_cons, List.append_assoc]
      rfl

theorem idle_initial (settings : Settings) :
    Idle (.initial settings (some fallback) ()) (.initial settings (some fallback) ()) where
  same := .refl _
  sound := Registry.sound_new ..
  absent := Registry.contains_clear (.ofSettings settings)

end Reports

end Redraft.Replay
