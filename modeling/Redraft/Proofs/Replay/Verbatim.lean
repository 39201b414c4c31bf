import Redraft.Draft.Slots
import Redraft.Proofs.Draft.Tracking
import Redraft.Proofs.Replay.Accounts

namespace Redraft

theorem Tokens.agreement_take_self (tokens : Tokens) (count : Nat) :
    agreement (tokens.take count) tokens = min count tokens.length := by
  induction tokens generalizing count with
  | nil => simp
  | cons token tokens ih =>
      cases count with
      | zero => simp
      | succ count =>
          rw [List.take_succ_cons, agreement_cons_self, ih, List.length_cons]
          omega

namespace Replay

open Draft

theorem advance_take (progress : Progress) {rest : Tokens} (hrest : rest ≠ []) {step : Nat}
    (hstep : 0 < step) :
    (progress.advance (rest.take step) rest).position =
        progress.position + min step rest.length ∧
      (progress.advance (rest.take step) rest).accepted =
        progress.accepted + min step rest.length := by
  have hpos := List.length_pos_iff.2 hrest
  rw [Progress.position_advance, Progress.accepted_advance, Tokens.agreement_take_self,
    Nat.max_eq_left (by omega)]
  exact ⟨rfl, rfl⟩

theorem ceil_div_of_pos {left step : Nat} (hleft : 0 < left) (hstep : 0 < step) :
    (left + step - 1) / step = (left - min step left + step - 1) / step + 1 := by
  rw [← Nat.add_div_right _ hstep]
  rcases Nat.le_total step left with hlong | hshort
  · congr 1
    omega
  · rw [Nat.div_eq_of_lt_le (k := 1) (by omega) (by omega),
      Nat.div_eq_of_lt_le (k := 1) (by omega) (by omega)]

section Follow

variable {σ : Type} {drafter : Drafter σ} {id : Option RequestId} {prompt output : Tokens}
  {step : Nat}

/-- A drafter that always knows the next `step` tokens is asked no more often than the output
takes, and all it drafts is accepted. -/
theorem follow_of_verbatim (hstep : 0 < step) {Ready : Nat → σ → Prop}
    (hpropose : ∀ position state, Ready position state → position < output.length →
      (drafter.propose state id (prompt ++ output.take position) (output.take position)).1 =
          (output.drop position).take step ∧
        Ready (min (position + step) output.length)
          (drafter.propose state id (prompt ++ output.take position)
            (output.take position)).2)
    {progress : Progress} {state : σ} (hready : Ready progress.position state)
    (hcontext : progress.InStep prompt output) (hinside : progress.position ≤ output.length)
    (henough : progress.rounds + (output.length - progress.position + step - 1) / step ≤
      maxProposals) :
    let followed := follow drafter id output progress state
    followed.1.proposals =
        progress.proposals + (output.length - progress.position + step - 1) / step ∧
      followed.1.accepted = progress.accepted + (output.length - progress.position) ∧
      Ready output.length followed.2 := by
  induction progress, state using follow.induct drafter id output with
  | case1 progress state hmore draft after hproposed ih =>
      have hrest : output.drop progress.position ≠ [] := by
        rw [← List.length_pos_iff, List.length_drop]
        omega
      obtain ⟨hdraft, hnext⟩ := hpropose _ _ hready hmore.2
      rw [← hcontext, hproposed] at hdraft hnext
      obtain rfl : draft = (output.drop progress.position).take step := hdraft
      obtain ⟨hposition, haccepted⟩ := advance_take progress hrest hstep
      rw [List.length_drop] at hposition haccepted
      have hceil := ceil_div_of_pos (Nat.sub_pos_of_lt hmore.2) hstep
      have hleft : output.length - (progress.position +
          min step (output.length - progress.position)) = output.length - progress.position -
            min step (output.length - progress.position) := by omega
      have hreached : min (progress.position + step) output.length =
          progress.position + min step (output.length - progress.position) := by omega
      rw [hreached, ← hposition] at hnext
      obtain ⟨hproposals, hcount, hlast⟩ := ih hnext (hcontext.advance _)
        (by rw [hposition]; omega)
        (by rw [hposition, hleft, Progress.rounds_advance]; omega)
      rw [follow_of_inside drafter id hmore.1 hmore.2, hproposed]
      dsimp only
      rw [hposition, hleft, Progress.proposals_advance] at hproposals
      rw [hposition, haccepted] at hcount
      exact ⟨by omega, by omega, hlast⟩
  | case2 progress state hend =>
      -- a token that is left would need another round
      have hdone : progress.position = output.length := by
        by_contra hmore
        have hleft : 0 < output.length - progress.position := by omega
        have hceil := ceil_div_of_pos hleft hstep
        rw [hceil] at henough
        have hround : progress.rounds < maxProposals :=
          Nat.lt_of_lt_of_le (Nat.lt_succ_of_le (Nat.le_add_right ..)) henough
        omega
      rw [follow_of_end drafter id hend, hdone, Nat.sub_self, Nat.zero_add,
        Nat.div_eq_of_lt (by omega)]
      exact ⟨rfl, rfl, hdone ▸ hready⟩

end Follow

section Replay

variable {μ : Type} {settings : Settings} {fallback : Option (Fallback μ)}
  {proposer : Proposer μ}

theorem tracks_startRequest (hreachable : Reachable settings fallback proposer)
    (hbackend : proposer.sessions.backend = settings.backend)
    (hmatching : proposer.sessions.matching = settings.matching)
    (hon : proposer.toggles.speculativeEdit = true) {id : RequestId}
    (habsent : proposer.sessions.contains id = false) (reference : Tokens) :
    (proposer.startRequest id reference).1 = .ok () ∧
      Tracks settings id reference 0 (proposer.startRequest id reference).2 := by
  have hserves := hreachable.serves
  obtain ⟨hstarted, hsession⟩ := Registry.create_of_absent habsent reference
  refine ⟨hstarted, hon, hserves.speculativeTokens, hserves.maxModelLength, _, hsession, ?_,
    rfl, List.nil_prefix⟩
  rw [hbackend, hmatching]
  exact Session.good_start ..

theorem propose_of_tracks {id : RequestId} {reference prompt : Tokens} {position : Nat}
    (htracks : Tracks settings id reference position proposer)
    (hstep : 1 ≤ settings.speculativeTokens) (hjunk : settings.matching.autojunk = false)
    (hfull : settings.matching.window.plan reference.length position =
      .full reference.length)
    (hroom : prompt.length + reference.length ≤ settings.maxModelLength)
    (hmore : position < reference.length) :
    (slotDrafter.propose proposer (some id) (prompt ++ reference.take position)
        (reference.take position)).1 =
        (reference.drop position).take settings.speculativeTokens ∧
      Tracks settings id reference
        (min (position + settings.speculativeTokens) reference.length)
        (slotDrafter.propose proposer (some id) (prompt ++ reference.take position)
          (reference.take position)).2 := by
  obtain ⟨hdraft, hafter⟩ := htracks.propose hstep hjunk hmore hfull
    (prompt ++ reference.take position)
    (by rw [List.length_append, List.length_take]; omega)
  exact ⟨hdraft, hafter.mono (by omega)⟩

/-- If the output is the reference and no window applies, the replay asks for as few drafts as
can be and all of the output comes from them, even if the context ends with it and however
the reference repeats itself. -/
theorem reference_replayed_in_full_drafts (hreachable : Reachable settings fallback proposer)
    (hbackend : proposer.sessions.backend = settings.backend)
    (hmatching : proposer.sessions.matching = settings.matching)
    (hon : proposer.toggles.speculativeEdit = true)
    (hjunk : settings.matching.autojunk = false) {case : Case}
    (habsent : proposer.sessions.contains (requestId .specEdit case) = false)
    (houtput : case.output = case.reference)
    (hwindow : settings.matching.window.length case.reference.length <
      settings.matching.window.minLength)
    (hroom : (case.prompt.getD []).length + case.reference.length ≤ settings.maxModelLength)
    (hcount : (case.reference.length + settings.speculativeTokens - 1) /
      settings.speculativeTokens ≤ maxProposals) :
    let replayed := simulate slotDrafter case .specEdit proposer
    replayed.1 = {
        proposals := (case.reference.length + settings.speculativeTokens - 1) /
          settings.speculativeTokens
        accepted := case.reference.length
        output := case.reference.length } ∧
      replayed.2.sessions.contains (requestId .specEdit case) = false := by
  have hstep : 1 ≤ settings.speculativeTokens := hreachable.one_le_speculativeTokens
  have hfull (seen : Nat) : settings.matching.window.plan case.reference.length seen =
      .full case.reference.length :=
    Window.plan_of_not_applies fun happlies => absurd happlies.2.1 (Nat.not_le.2 hwindow)
  obtain ⟨hstarted, htracks⟩ :=
    tracks_startRequest hreachable hbackend hmatching hon habsent case.reference
  have hstart : slotDrafter.start proposer (requestId .specEdit case) case.reference =
      (.ok (), (proposer.startRequest (requestId .specEdit case) case.reference).2) :=
    Prod.ext hstarted rfl
  have hcontext : Progress.InStep (case.prompt.getD []) case.reference
      { context := case.prompt.getD [] } := (List.append_nil _).symm
  obtain ⟨hproposals, haccepted, -⟩ := follow_of_verbatim hstep
    (fun position _ htracks hmore =>
      propose_of_tracks htracks hstep hjunk (hfull position) hroom hmore)
    htracks hcontext (Nat.zero_le _) ((Nat.zero_add _).trans_le hcount)
  rw [Nat.zero_add, Nat.sub_zero] at hproposals haccepted
  rw [simulate_specEdit slotDrafter case hstart, houtput]
  dsimp only
  rw [hproposals, haccepted]
  exact ⟨rfl, Registry.contains_remove _ _⟩

end Replay

/-- Two tokens stand before the output, which then fills the context, and the reference
repeats itself. The fallback has something else to offer and is not asked. -/
theorem reference_replayed_repeating :
    let settings : Settings := { speculativeTokens := 3, maxModelLength := 9 }
    let proposer := Event.run (.flipped none (some false)) (stubborn settings)
    let case : Case := ⟨"a", [1, 1, 2, 1, 1, 2, 3], [1, 1, 2, 1, 1, 2, 3], some [8, 9]⟩
    let replayed := simulate slotDrafter case .specEdit proposer
    Reachable settings (some (.fixed [7, 8, 9])) proposer ∧
      proposer.sessions.backend = settings.backend ∧
      proposer.sessions.matching = settings.matching ∧
      proposer.toggles.speculativeEdit = true ∧ settings.matching.autojunk = false ∧
      proposer.sessions.contains (requestId .specEdit case) = false ∧
      settings.matching.window.length 7 < settings.matching.window.minLength ∧
      (7 + 3 - 1) / 3 ≤ maxProposals ∧
      replayed.1 = ⟨3, 7, 7⟩ ∧
      replayed.2.sessions.contains (requestId .specEdit case) = false := by
  intro settings proposer case replayed
  have hreachable : Reachable settings (some (.fixed [7, 8, 9])) proposer :=
    .event _ (reachable_stubborn settings rfl)
  have habsent : proposer.sessions.contains (requestId .specEdit case) = false :=
    Registry.contains_clear (.ofSettings settings) _
  have hreplayed := reference_replayed_in_full_drafts hreachable rfl rfl rfl rfl habsent rfl
    (by decide) (by decide) (by decide)
  exact ⟨hreachable, rfl, rfl, rfl, rfl, habsent, by decide, by decide,
    hreplayed.1.trans (by decide), hreplayed.2⟩

end Replay

end Redraft
