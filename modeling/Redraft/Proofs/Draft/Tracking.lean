import Redraft.Proofs.Draft.History
import Redraft.Proofs.Matcher.Verbatim

namespace Redraft.Draft

variable {μ : Type} {backend : Backend} {matching : MatchSettings}

namespace Proposer

variable {proposer : Proposer μ} {id : RequestId}

theorem referenceChunk_of_prefix {session : Session} {output : Tokens}
    (hsession : proposer.sessions.session? id = some session)
    (good : session.Good backend matching) (hstarts : session.generated <+: output)
    (limit : Nat) :
    (proposer.referenceChunk id output limit).1 =
        some (backend.chunk session.reference matching output limit) ∧
      ∃ later, (proposer.referenceChunk id output limit).2.sessions.session? id = some later ∧
        later.Good backend matching ∧ later.reference = session.reference ∧
          later.generated = output := by
  have hrecorded := (session.recorded_eq_self_iff output).2 fun _ => hstarts
  obtain ⟨hchunk, hgood⟩ := good.draft output limit
  rw [hrecorded] at hchunk
  rw [referenceChunk_eq, Registry.useSession_eq_leave hsession]
  exact ⟨congrArg some hchunk, _, Registry.session?_leave hsession _, hgood, rfl, hrecorded⟩

theorem propose_of_referenceChunk (hon : proposer.toggles.speculativeEdit = true)
    (hcontains : proposer.sessions.contains id = true) {context output draft : Tokens}
    (hroom : proposer.budget context.length ≠ 0)
    (hchunk : (proposer.referenceChunk id output (proposer.budget context.length)).1 =
      some draft) (hdraft : draft ≠ []) :
    proposer.propose (some id) context output =
      (⟨draft, .reference⟩,
        (proposer.referenceChunk id output (proposer.budget context.length)).2) := by
  have hserved : ¬(proposer.toggles.speculativeEdit = false ∨
      proposer.sessions.contains id = false) := by
    rw [hon, hcontains]
    exact not_or.2 ⟨Bool.noConfusion, Bool.noConfusion⟩
  have hasked : proposer.referenceChunk id output (proposer.budget context.length) =
      (some draft,
        (proposer.referenceChunk id output (proposer.budget context.length)).2) :=
    Prod.ext hchunk rfl
  cases draft with
  | nil => exact absurd rfl hdraft
  | cons token draft =>
      rw [propose, if_neg hserved, if_neg hroom, hasked]

end Proposer

theorem Reachable.one_le_speculativeTokens {settings : Settings}
    {fallback : Option (Fallback μ)} {proposer : Proposer μ}
    (hreachable : Reachable settings fallback proposer) : 1 ≤ settings.speculativeTokens := by
  induction hreachable with
  | new hnew =>
      by_contra hnone
      have hzero : settings.speculativeTokens = 0 := by omega
      rw [Proposer.new, Settings.resolved, Settings.validate, if_pos hzero] at hnew
      cases hnew
  | event event _ ih => exact ih
  | outside sessions memory _ ih => exact ih

/-- A proposer serves a request by its reference, of which the request has seen no more than
the first `seen` tokens. -/
structure Tracks (settings : Settings) (id : RequestId) (reference : Tokens) (seen : Nat)
    (proposer : Proposer μ) : Prop where
  on : proposer.toggles.speculativeEdit = true
  speculativeTokens : proposer.speculativeTokens = settings.speculativeTokens
  maxModelLength : proposer.maxModelLength = settings.maxModelLength
  session : ∃ session, proposer.sessions.session? id = some session ∧
    session.Good settings.backend settings.matching ∧ session.reference = reference ∧
      session.generated <+: reference.take seen

section Tracks

variable {settings : Settings} {id : RequestId} {reference : Tokens} {seen : Nat}
  {proposer : Proposer μ}

theorem Tracks.mono (htracks : Tracks settings id reference seen proposer) {later : Nat}
    (hle : seen ≤ later) : Tracks settings id reference later proposer := by
  obtain ⟨hon, htokens, hlength, session, hsession, good, hreference, hstarts⟩ := htracks
  exact ⟨hon, htokens, hlength, session, hsession, good, hreference,
    hstarts.trans (List.take_prefix_take_left hle)⟩

/-- As long as the rest of the reference fits behind the context, only the number of
speculative tokens limits the draft. -/
theorem Tracks.propose (htracks : Tracks settings id reference seen proposer)
    (hcount : 1 ≤ settings.speculativeTokens) (hjunk : settings.matching.autojunk = false)
    (hseen : seen < reference.length)
    (hfull : settings.matching.window.plan reference.length seen = .full reference.length)
    (context : Tokens)
    (hroom : context.length + (reference.length - seen) ≤ settings.maxModelLength) :
    (proposer.propose (some id) context (reference.take seen)).1.tokens =
        (reference.drop seen).take settings.speculativeTokens ∧
      Tracks settings id reference seen
        (proposer.propose (some id) context (reference.take seen)).2 := by
  obtain ⟨hon, htokens, hlength, session, hsession, good, hreference, hstarts⟩ := htracks
  have hbudget : proposer.budget context.length =
      min settings.speculativeTokens (settings.maxModelLength - context.length) := by
    rw [Proposer.budget, htokens, hlength]
  have hpos : 1 ≤ proposer.budget context.length := by rw [hbudget]; omega
  have hchunk : settings.backend.chunk session.reference settings.matching
      (reference.take seen) (proposer.budget context.length) =
        (reference.drop seen).take settings.speculativeTokens := by
    rw [hreference, settings.backend.chunk_take hjunk (Nat.le_of_lt hseen) hfull hpos, hbudget,
      List.take_eq_take_iff, List.length_drop]
    omega
  have hdraft : (reference.drop seen).take settings.speculativeTokens ≠ [] := by
    rw [← List.length_pos_iff, List.length_take, List.length_drop]
    omega
  obtain ⟨hanswer, later, hlater, hgood, hsame, hgenerated⟩ :=
    Proposer.referenceChunk_of_prefix hsession good hstarts (proposer.budget context.length)
  rw [hchunk] at hanswer
  obtain ⟨sessions, honly⟩ := Proposer.onlySessions_referenceChunk proposer id
    (reference.take seen) (proposer.budget context.length)
  rw [Proposer.propose_of_referenceChunk hon (Registry.contains_of_session? hsession)
    (Nat.one_le_iff_ne_zero.1 hpos) hanswer hdraft]
  rw [honly] at hlater ⊢
  exact ⟨rfl, hon, htokens, hlength, later, hlater, hgood, hsame.trans hreference,
    hgenerated ▸ List.prefix_rfl⟩

end Tracks

end Redraft.Draft
