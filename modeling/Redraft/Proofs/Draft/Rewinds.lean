import Redraft.Proofs.Draft.History

namespace Redraft

/-- The output ends before the stored one does, or has another token where that one ends. -/
def Tokens.IsRewindOf (output stored : Tokens) : Prop :=
  stored ≠ [] ∧ (output.length < stored.length ∨
    output[stored.length - 1]? ≠ stored[stored.length - 1]?)

instance (output stored : Tokens) : Decidable (output.IsRewindOf stored) :=
  inferInstanceAs (Decidable (_ ∧ _))

namespace Session

inductive Call where
  | next (output : Tokens) (limit : Nat)
  | restart
deriving DecidableEq, Repr

def Call.run (session : Session) : Call → Session
  | next output limit => (session.nextChunk output limit).2
  | restart => session.restart

def after (session : Session) (calls : List Call) : Session := calls.foldl Call.run session

def answers : Session → List Call → List (Except SessionError Tokens)
  | _, [] => []
  | session, .next output limit :: calls =>
    (session.nextChunk output limit).1 :: answers (session.nextChunk output limit).2 calls
  | session, .restart :: calls => answers session.restart calls

/-- The answers of a session without its matcher: a new one is built for every draft. -/
def freshAnswers (backend : Backend) (matching : MatchSettings) (id : RequestId)
    (reference : Tokens) : (stored : Tokens) → List Call → List (Except SessionError Tokens)
  | _, [] => []
  | stored, .next output limit :: calls =>
    if output.IsRewindOf stored then
      .error (.sequenceRewound id stored.length output.length) ::
        freshAnswers backend matching id reference stored calls
    else
      .ok ((Matcher.build backend reference matching).nextChunk
          (stored ++ output.drop stored.length) limit).1 ::
        freshAnswers backend matching id reference (stored ++ output.drop stored.length) calls
  | _, .restart :: calls => freshAnswers backend matching id reference [] calls

variable {backend : Backend} {matching : MatchSettings} {session : Session} {output : Tokens}

theorem isExtendedBy_eq_false_iff :
    session.isExtendedBy output = false ↔ output.IsRewindOf session.generated := by
  rw [isExtendedBy, Tokens.IsRewindOf]
  cases hstored : session.generated with
  | nil => simp
  | cons token stored =>
      simp only [List.length_cons, Bool.and_eq_false_iff, decide_eq_false_iff_not, Nat.not_lt,
        Nat.add_sub_cancel, beq_eq_false_iff_ne, ne_eq, reduceCtorEq, not_false_eq_true,
        true_and, Nat.lt_succ_iff]

theorem isExtendedBy_eq_true_iff :
    session.isExtendedBy output = true ↔ ¬output.IsRewindOf session.generated := by
  rw [← isExtendedBy_eq_false_iff, Bool.not_eq_false]

theorem nextChunk_of_rewind (hrewind : output.IsRewindOf session.generated) (limit : Nat) :
    session.nextChunk output limit =
      (.error (.sequenceRewound session.id session.generated.length output.length),
        session) :=
  nextChunk_of_rewound (isExtendedBy_eq_false_iff.2 hrewind) limit

theorem Good.nextChunk_of_onward (good : session.Good backend matching)
    (honward : ¬output.IsRewindOf session.generated) (limit : Nat) :
    let onward := session.generated ++ output.drop session.generated.length
    (session.nextChunk output limit).1 =
        .ok ((Matcher.build backend session.reference matching).nextChunk onward limit).1 ∧
      (session.nextChunk output limit).2.generated = onward := by
  have hextends := isExtendedBy_eq_true_iff.2 honward
  have hrecorded : session.recorded output = _ := if_pos hextends
  dsimp only
  rw [nextChunk_eq_draft hextends, (good.draft output limit).1, hrecorded, Matcher.chunk_build]
  exact ⟨rfl, hrecorded⟩

theorem Good.answers_eq (good : session.Good backend matching) (calls : List Call) :
    session.answers calls =
      freshAnswers backend matching session.id session.reference session.generated calls := by
  induction calls generalizing session with
  | nil => rfl
  | cons call calls ih =>
      cases call with
      | restart => exact ih good.restart
      | next output limit =>
          have hrest := ih (good.nextChunk output limit)
          rw [id_nextChunk, reference_nextChunk] at hrest
          rw [answers, freshAnswers, hrest]
          by_cases hrewind : output.IsRewindOf session.generated
          · rw [if_pos hrewind, nextChunk_of_rewind hrewind]
          · obtain ⟨hchunk, hstored⟩ := good.nextChunk_of_onward hrewind limit
            rw [if_neg hrewind, hchunk, hstored]

theorem Good.run (good : session.Good backend matching) (call : Call) :
    (call.run session).Good backend matching := by
  cases call with
  | next output limit => exact good.nextChunk output limit
  | restart => exact good.restart

theorem Good.after (good : session.Good backend matching) (calls : List Call) :
    (session.after calls).Good backend matching := by
  induction calls generalizing session with
  | nil => exact good
  | cons call calls ih => exact ih (good.run call)

theorem run_keeps (session : Session) (call : Call) :
    (call.run session).id = session.id ∧ (call.run session).reference = session.reference := by
  cases call with
  | next output limit =>
      exact ⟨session.id_nextChunk output limit, session.reference_nextChunk output limit⟩
  | restart => exact ⟨rfl, rfl⟩

theorem after_keeps (session : Session) (calls : List Call) :
    (session.after calls).id = session.id ∧
      (session.after calls).reference = session.reference := by
  induction calls generalizing session with
  | nil => exact ⟨rfl, rfl⟩
  | cons call calls ih =>
      obtain ⟨hid, hreference⟩ := ih (call.run session)
      obtain ⟨hid', hreference'⟩ := session.run_keeps call
      exact ⟨hid.trans hid', hreference.trans hreference'⟩

end Session

namespace Draft

namespace Proposer

variable {μ : Type} {proposer : Proposer μ} {id : RequestId} {output : Tokens}

theorem retry_of_session? {session : Session}
    (hsession : proposer.sessions.session? id = some session)
    (hrewind : output.IsRewindOf session.generated) (limit : Nat) :
    let refused := proposer.sessions.nextChunk id output limit
    let again := refused.2.recreate id
    let retried := again.2.nextChunk id output limit
    refused.1 = .error
        (.sequenceRewound session.id session.generated.length output.length) ∧
      again.1 = .ok () ∧
      ∃ chunk, retried.1 = .ok chunk ∧
        proposer.referenceChunk id output limit =
          (some chunk, { proposer with sessions := retried.2 }) := by
  obtain ⟨hrefused, hagain, hretried⟩ :=
    Registry.retry_of_rewound hsession (Session.isExtendedBy_eq_false_iff.2 hrewind) limit
  dsimp only
  rw [hagain, hretried]
  refine ⟨hrefused, rfl, _, rfl, ?_⟩
  rw [referenceChunk_of_rewound hrefused hagain, hretried]
  rfl

end Proposer

variable {μ : Type}

/-- A session refuses exactly the outputs that were rewound and is not changed by that. For
any other output it stores what is new and drafts as a new matcher would for all that is
stored. Once it has started over, it cannot be told from a new session. So a proposer that
starts a session over because its output was rewound does get a draft from it. -/
theorem rewinds_leave_no_trace (id : RequestId) (reference : Tokens) (backend : Backend)
    (matching : MatchSettings) (number : Nat) (calls : List Session.Call) :
    let session := (Session.start id reference backend matching number).after calls
    let stored := session.generated
    (∀ output limit,
      let asked := session.nextChunk output limit
      let onward := stored ++ output.drop stored.length
      (asked.1 = .error (.sequenceRewound id stored.length output.length) ↔
          output.IsRewindOf stored) ∧
        (∀ complaint, asked.1 = .error complaint →
          complaint = .sequenceRewound id stored.length output.length ∧
            ∀ later, asked.2.answers later = session.answers later) ∧
        ∀ chunk, asked.1 = .ok chunk →
          asked.2.generated = onward ∧
            chunk = ((Matcher.build backend reference matching).nextChunk onward limit).1) ∧
      (∀ later number', session.restart.answers later =
        (Session.start id reference backend matching number').answers later) ∧
      ∀ (proposer : Proposer μ) (request : RequestId) (live : Session),
        proposer.sessions.session? request = some live →
          ∀ output limit, output.IsRewindOf live.generated →
            let refused := proposer.sessions.nextChunk request output limit
            let again := refused.2.recreate request
            let retried := again.2.nextChunk request output limit
            refused.1 = .error
                (.sequenceRewound live.id live.generated.length output.length) ∧
              again.1 = .ok () ∧
              ∃ chunk, retried.1 = .ok chunk ∧
                proposer.referenceChunk request output limit =
                  (some chunk, { proposer with sessions := retried.2 }) := by
  intro session stored
  have good : session.Good backend matching :=
    (Session.good_start id reference backend matching number).after calls
  obtain ⟨hid, hreference⟩ :=
    (Session.start id reference backend matching number).after_keeps calls
  change session.id = id at hid
  change session.reference = reference at hreference
  refine ⟨?_, ?_, ?_⟩
  · intro output limit
    by_cases hrewind : output.IsRewindOf stored
    · rw [Session.nextChunk_of_rewind hrewind, hid]
      refine ⟨iff_of_true rfl hrewind, ?_, ?_⟩
      · intro complaint hcomplaint
        exact ⟨(Except.error.inj hcomplaint).symm, fun _ => rfl⟩
      · intro chunk hchunk
        cases hchunk
    · obtain ⟨hchunk, hstored⟩ := good.nextChunk_of_onward hrewind limit
      rw [hreference] at hchunk
      dsimp only
      rw [hchunk, hstored]
      refine ⟨iff_of_false ?_ hrewind, ?_, ?_⟩
      · intro hrefused
        cases hrefused
      · intro complaint hcomplaint
        cases hcomplaint
      · intro chunk hanswer
        exact ⟨rfl, (Except.ok.inj hanswer).symm⟩
  · intro later number'
    rw [good.restart.answers_eq,
      (Session.good_start id reference backend matching number').answers_eq]
    exact congrArg₂ (Session.freshAnswers backend matching · · [] later) hid hreference
  · intro proposer request live hlive output limit hrewind
    exact Proposer.retry_of_session? hlive hrewind limit

/-- One token is missing from the output, so the session of a proposer that has drafted for
it refuses and is started over. -/
theorem rewinds_leave_no_trace_shortened :
    let session := (Session.start "r" [1, 2, 3, 4] .indexed {} 0).after
      [.next [1, 2, 3] 1, .restart, .next [1, 2] 2]
    let proposer := draftedOnce [1, 2, 3, 4] [1, 2, 3]
    (session.nextChunk [1] 2).1 = .error (.sequenceRewound "r" 2 1) ∧
      session.restart.answers [.next [2] 1, .next [1] 1] =
        (Session.start "r" [1, 2, 3, 4] .indexed {} 5).answers [.next [2] 1, .next [1] 1] ∧
      ∃ chunk, (proposer.referenceChunk "r" [1, 2] 2).1 = some chunk := by
  intro session proposer
  obtain ⟨hasked, hrestart, hretry⟩ := rewinds_leave_no_trace (μ := Unit) "r" [1, 2, 3, 4]
    .indexed {} 0 [.next [1, 2, 3] 1, .restart, .next [1, 2] 2]
  refine ⟨(hasked [1] 2).1.2 (by decide), hrestart _ 5, ?_⟩
  obtain ⟨live, hlive, -, hgenerated⟩ := session?_draftedOnce [1, 2, 3, 4] [1, 2, 3]
  have hrewind : Tokens.IsRewindOf [1, 2] live.generated := by
    rw [hgenerated]
    decide
  obtain ⟨-, -, chunk, -, hchunk⟩ := hretry proposer "r" live hlive [1, 2] 2 hrewind
  exact ⟨chunk, congrArg Prod.fst hchunk⟩

end Draft

end Redraft
